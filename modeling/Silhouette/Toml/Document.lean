import Silhouette.Toml.Scalar

/-!
Configuration documents: lines that define keys, and headers that open tables. A document is read
into statements first, and these build the table of everything.
-/
namespace Silhouette.Toml

/-- A character of a key without quotes. -/
def isKeyChar (c : Char) : Bool := c.isAlphanum || c = '-' || c = '_'

/-- Reads one part of a key. -/
def keyPart? (cs : List Char) : Option (String × List Char) :=
  match cs with
  | [] => none
  | c :: rest =>
    if c = '"' then (quoted? rest).map fun (s, rest) => (String.ofList s, rest)
    else if c = Char.ofNat 39 then (literal? rest).map fun (s, rest) => (String.ofList s, rest)
    else
      match cs.takeWhile isKeyChar with
      | [] => none
      | name => some (String.ofList name, cs.dropWhile isKeyChar)

/-- Reads the parts of a key, with points and blanks between them, and the blanks that follow. -/
def keyParts? (cs : List Char) : Option (List String × List Char) :=
  match keyPart? (skipBlanks cs) with
  | none => none
  | some (part, rest) =>
    match skipBlanks rest with
    | '.' :: rest =>
      if rest.length < cs.length then
        (keyParts? rest).map fun (parts, rest) => (part :: parts, rest)
      else none
    | rest => some ([part], rest)
  termination_by cs.length

/-- The most levels that values and keys may have. -/
def maxDepth : Nat := 79

/-- A key: the path to a table, and the last part. -/
structure Key where
  path : List String
  last : String
  deriving DecidableEq, Repr

/-- Reads a key. -/
def key? (cs : List Char) : Option (Key × List Char) :=
  match keyParts? cs with
  | none => none
  | some (parts, rest) =>
    match parts.getLast? with
    | none => none
    | some last =>
      if maxDepth < parts.length then none else some (⟨parts.dropLast, last⟩, rest)

/-- Reads the items of an array after its bracket or after a comma. -/
def items? (item : Reader Value) (cs : List Char) : Option (List Value × List Char) :=
  match skipSpace false cs with
  | ']' :: rest => some ([], rest)
  | start =>
    match item start with
    | none => none
    | some (v, rest) =>
      match skipSpace false rest with
      | ',' :: rest =>
        if rest.length < cs.length then
          (items? item rest).map fun (vs, rest) => (v :: vs, rest)
        else none
      | ']' :: rest => some ([v], rest)
      | _ => none
  termination_by cs.length

/-- Reads a key, an equals sign and a value, and the blanks that follow. -/
def assignment? (item : Reader Value) (cs : List Char) :
    Option ((Key × Value) × List Char) :=
  match key? cs with
  | some (key, '=' :: rest) =>
    match item (skipBlanks rest) with
    | none => none
    | some (v, rest) => some ((key, v), skipBlanks rest)
  | _ => none

/-- Reads the definitions of a table in braces, of which there is at least one. -/
def definitions? (item : Reader Value) (cs : List Char) :
    Option (List (Key × Value) × List Char) :=
  match assignment? item cs with
  | none => none
  | some (definition, rest) =>
    match rest with
    | ',' :: rest =>
      if rest.length < cs.length then
        (definitions? item rest).map fun (more, rest) => (definition :: more, rest)
      else none
    | '\x7d' :: rest => some ([definition], rest)
    | _ => none
  termination_by cs.length

/-- The table that definitions give in braces. -/
def inlineTable? (definitions : List (Key × Value)) : Option Value :=
  let members : Option Members :=
    definitions.foldlM (fun (ms : Members) d => ms.define d.1.path d.1.last d.2) []
  members.map (.table .inline)

/-- Reads a value in which containers are nested up to a depth. -/
def value? : Nat → List Char → Option (Value × List Char)
  | 0, cs => scalar? cs
  | depth + 1, cs =>
    match cs with
    | '[' :: rest => (items? (value? depth) rest).map fun (vs, rest) => (.array vs, rest)
    | '\x7b' :: rest =>
      match skipBlanks rest with
      | '\x7d' :: rest => some (.table .inline [], rest)
      | rest =>
        match definitions? (value? depth) rest with
        | none => none
        | some (definitions, rest) => (inlineTable? definitions).map fun v => (v, rest)
    | cs => scalar? cs

/-- A line of a document. -/
inductive Statement where
  | define (key : Key) (v : Value)
  | table (key : Key)
  | nextTable (key : Key)

/-- Reads a header after its bracket. -/
def header? (cs : List Char) : Option (Statement × List Char) :=
  match cs with
  | '[' :: rest =>
    match key? rest with
    | some (key, ']' :: ']' :: rest) => some (.nextTable key, rest)
    | _ => none
  | _ =>
    match key? cs with
    | some (key, ']' :: rest) => some (.table key, rest)
    | _ => none

/-- Reads a line that is not empty. -/
def statement? (cs : List Char) : Option (Statement × List Char) :=
  match cs with
  | '[' :: rest => header? rest
  | _ =>
    (assignment? (value? maxDepth) cs).map fun ((key, v), rest) => (.define key v, rest)

/-- Reads the lines of a document. -/
def statements? (cs : List Char) : Option (List Statement) :=
  match skipSpace false cs with
  | [] => some []
  | start =>
    match statement? start with
    | none => none
    | some (statement, rest) =>
      match endOfLine? rest with
      | none => none
      | some rest =>
        if rest.length < cs.length then (statements? rest).map (statement :: ·) else none
  termination_by cs.length

/-- A document under construction: its table, and the path of the header that is open. -/
structure Draft where
  root : Members
  current : List String

namespace Draft

/-- Adds one line. -/
def add (d : Draft) : Statement → Option Draft
  | .define key v =>
    (Members.within false (fun _ ms => ms.define key.path key.last v) .header d.current
      d.root).map fun root => { d with root }
  | .table key =>
    (d.root.openTable key.path key.last).map fun root => ⟨root, key.path ++ [key.last]⟩
  | .nextTable key =>
    (d.root.openNext key.path key.last).map fun root => ⟨root, key.path ++ [key.last]⟩

end Draft

/-- Reads a document. A byte order mark in front is passed over. -/
def read? (text : String) : Option Members := do
  let cs ← unixLines? text.toList
  let cs := match cs with
    | c :: rest => if c = Char.ofNat 0xfeff then rest else c :: rest
    | [] => []
  let statements ← statements? cs
  let draft ← statements.foldlM Draft.add ⟨[], []⟩
  return draft.root

end Silhouette.Toml
