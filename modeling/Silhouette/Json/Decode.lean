import Silhouette.Json.Tree
import Silhouette.Json.Number

/-!
Reading values out of JSON trees. What is read must be sound: strings of characters only and numbers
with a value. What is passed over need not be.
-/
namespace Silhouette.Json

/-- The text of a string without lone surrogates. -/
def chars? : List Piece → Option (List Char)
  | [] => some []
  | .char c :: rest => (chars? rest).map (c :: ·)
  | .surrogate _ :: _ => none

/-- The text of a string without lone surrogates. -/
def text? (s : List Piece) : Option String := (chars? s).map String.ofList

namespace Tree

/-- The text of a string. -/
def text? : Tree → Option String
  | string s => Json.text? s
  | _ => none

/-- A whole number that fits a word. -/
def nat? : Tree → Option Nat
  | number l => l.toNat?
  | _ => none

/-- A number. -/
def float? : Tree → Option Float
  | number l => l.toFloat?
  | _ => none

/-- The members of an object whose keys are all texts. -/
def members? : List (List Piece × Tree) → Option (List (String × Tree))
  | [] => some []
  | (k, v) :: rest =>
    match Json.text? k, members? rest with
    | some k, some rest => some ((k, v) :: rest)
    | _, _ => none

/-- The values of the members with a key. -/
def valuesOf (key : String) (members : List (String × Tree)) : List Tree :=
  (members.filter fun m => m.1 = key).map Prod.snd

/-- The value of the member with a key, nothing if there is no such member. Fails if there are two. -/
def unique? (key : String) (members : List (String × Tree)) : Option (Option Tree) :=
  match valuesOf key members with
  | [] => some none
  | [v] => some (some v)
  | _ => none

/-- The values for some keys, each of which occurs once at most. Other members are passed over. -/
def fields? (keys : List String) (members : List (List Piece × Tree)) :
    Option (List (Option Tree)) :=
  match members? members with
  | none => none
  | some members => keys.mapM fun key => unique? key members

mutual

/-- Every string has a text, every number a value, and no more than `room` containers are nested. -/
def sound (room : Nat) : Tree → Bool
  | null => true
  | bool _ => true
  | number l => l.toNat?.isSome || l.toFloat?.isSome
  | string s => (Json.text? s).isSome
  | array items => match room with
    | 0 => false
    | room + 1 => soundItems room items
  | object members => match room with
    | 0 => false
    | room + 1 => soundMembers room members

/-- All items are sound. -/
def soundItems (room : Nat) : List Tree → Bool
  | [] => true
  | t :: rest => sound room t && soundItems room rest

/-- All members are sound, with texts for keys. -/
def soundMembers (room : Nat) : List (List Piece × Tree) → Bool
  | [] => true
  | (k, t) :: rest => (Json.text? k).isSome && sound room t && soundMembers room rest

end

end Tree

/-- The value of an optional field: absent and null are the same. -/
def optional? (read : Tree → Option α) : Option Tree → Option (Option α)
  | none => some none
  | some .null => some none
  | some t => (read t).map some

/-- The value of a field that must be there. -/
def required? (read : Tree → Option α) (field : Option Tree) : Option α := field.bind read

end Silhouette.Json
