/-!
Values of configuration documents, and tables under construction. A table remembers how it came to
be, because that decides which later lines may still add to it.
-/
namespace Silhouette.Toml

/-- A real number: a double, or no number with a sign. -/
inductive Real where
  | number (x : Float)
  | notANumber (negative : Bool)

namespace Real

/-- The double that a real number is. The sign of what is no number is lost. -/
def toFloat : Real → Float
  | number x => x
  | notANumber _ => 0.0 / 0.0

/-- The bits of a real number. -/
def bits : Real → UInt64
  | number x => x.toBits
  | notANumber negative => if negative then 0xfff8000000000000 else 0x7ff8000000000000

end Real

/-- How a table came to be: by a header of its own, by the header of a table below it, by a dotted key,
or in braces. -/
inductive TableKind where
  | header
  | implied
  | dotted
  | inline
  deriving DecidableEq, Repr

/-- A value. Of a date or a time nothing is kept but that it is one. -/
inductive Value where
  | string (s : String)
  | integer (n : Int)
  | real (x : Real)
  | boolean (b : Bool)
  | moment
  | array (items : List Value)
  | table (kind : TableKind) (members : List (String × Value))
  | tables (all : List (List (String × Value)))

/-- The members of a table, by key. -/
abbrev Members := List (String × Value)

namespace Members

/-- The value under a key. -/
def get? (ms : Members) (key : String) : Option Value :=
  (ms.find? fun m => m.1 = key).map Prod.snd

/-- The members with another value under a key that is there. -/
def replace (ms : Members) (key : String) (v : Value) : Members :=
  ms.map fun m => if m.1 = key then (key, v) else m

/-- Changes the table that a path leads to, creating tables on the way. A path goes through a list of
tables by its last one, and never into braces. Dotted keys do not go into tables that have a header
of their own. -/
def within (dotted : Bool) (change : TableKind → Members → Option Members) :
    TableKind → List String → Members → Option Members
  | kind, [], ms => change kind ms
  | _, key :: path, ms =>
    match ms.get? key with
    | none =>
      let kind : TableKind := if dotted then .dotted else .implied
      (within dotted change kind path []).map fun inner => ms ++ [(key, .table kind inner)]
    | some (.table kind inner) =>
      if kind = .inline ∨ (dotted ∧ kind = .header) then none
      else
        (within dotted change kind path inner).map fun inner => ms.replace key (.table kind inner)
    | some (.tables all) =>
      match all.getLast? with
      | none => none
      | some last =>
        (within dotted change .header path last).map fun last =>
          ms.replace key (.tables (all.dropLast ++ [last]))
    | some _ => none

/-- Defines a key, which may be dotted. No key is defined twice, and a dotted key adds only to a table
that dotted keys made. -/
def define (ms : Members) (path : List String) (key : String) (v : Value) : Option Members :=
  within true (fun kind ms =>
    if path ≠ [] ∧ kind ≠ .dotted then none
    else if (ms.get? key).isSome then none
    else some (ms ++ [(key, v)])) .header path ms

/-- Opens a table by its header. A table that was only implied so far is opened as it is. -/
def openTable (ms : Members) (path : List String) (key : String) : Option Members :=
  within false (fun _ ms =>
    match ms.get? key with
    | none => some (ms ++ [(key, .table .header [])])
    | some (.table .implied inner) => some (ms.replace key (.table .header inner))
    | some _ => none) .header path ms

/-- Opens one more table of a list of tables. -/
def openNext (ms : Members) (path : List String) (key : String) : Option Members :=
  within false (fun _ ms =>
    match ms.get? key with
    | none => some (ms ++ [(key, .tables [[]])])
    | some (.tables all) => some (ms.replace key (.tables (all ++ [[]])))
    | some _ => none) .header path ms

end Members

end Silhouette.Toml
