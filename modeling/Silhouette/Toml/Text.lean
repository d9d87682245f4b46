/-!
The text of a configuration document and the strings in it. A document has no control characters but
tabs and line ends, and a carriage return only in front of a line feed; all readers work on a text in
which a line ends in a line feed alone.
-/
namespace Silhouette.Toml

/-- A reader gives what it read and what follows that. -/
abbrev Reader (α : Type) := List Char → Option (α × List Char)

/-- The text with each line ending in a line feed; nothing if a character is not allowed. -/
def unixLines? : List Char → Option (List Char)
  | [] => some []
  | '\r' :: '\n' :: rest => (unixLines? rest).map ('\n' :: ·)
  | c :: rest =>
    if c = '\t' ∨ c = '\n' ∨ (32 ≤ c.toNat ∧ c.toNat ≠ 127) then (unixLines? rest).map (c :: ·)
    else none

/-- A blank within a line. -/
def isBlank (c : Char) : Bool := c = ' ' || c = '\t'

/-- What follows the blanks at the front. -/
def skipBlanks (cs : List Char) : List Char := cs.dropWhile isBlank

/-- What follows the rest of a line that holds nothing but blanks and a comment. -/
def endOfLine? (cs : List Char) : Option (List Char) :=
  let cs :=
    match skipBlanks cs with
    | '#' :: rest => rest.dropWhile (· ≠ '\n')
    | cs => cs
  match cs with
  | [] => some []
  | '\n' :: rest => some rest
  | _ => none

/-- What follows blanks, line ends and comments. The flag tells whether a comment is going on. -/
def skipSpace : Bool → List Char → List Char
  | _, [] => []
  | true, c :: rest => skipSpace (c ≠ '\n') rest
  | false, c :: rest =>
    if isBlank c || c = '\n' then skipSpace false rest
    else if c = '#' then skipSpace true rest
    else c :: rest

/-- The value of a hexadecimal digit. -/
def hexValue? (c : Char) : Option Nat :=
  if c.isDigit then some (c.toNat - 48)
  else if 'a' ≤ c ∧ c ≤ 'f' then some (c.toNat - 87)
  else if 'A' ≤ c ∧ c ≤ 'F' then some (c.toNat - 55)
  else none

/-- The character with a number in `count` hexadecimal digits, with the number of characters read. -/
def numbered? (count : Nat) (cs : List Char) : Option (Char × Nat) := do
  let digits := cs.take count
  if digits.length ≠ count then none
  let n ← digits.foldlM (fun n c => (hexValue? c).map (16 * n + ·)) 0
  if n.isValidChar then return (Char.ofNat n, count + 1) else none

/-- Reads an escape after its backslash; besides the character the number of characters read. -/
def escape? : List Char → Option (Char × Nat)
  | 'b' :: _ => some (Char.ofNat 8, 1)
  | 't' :: _ => some ('\t', 1)
  | 'n' :: _ => some ('\n', 1)
  | 'f' :: _ => some (Char.ofNat 12, 1)
  | 'r' :: _ => some ('\r', 1)
  | '"' :: _ => some ('"', 1)
  | '\\' :: _ => some ('\\', 1)
  | 'u' :: rest => numbered? 4 rest
  | 'U' :: rest => numbered? 8 rest
  | _ => none

/-- Reads a string with escapes after its opening quote. It stays on its line. -/
def quoted? (cs : List Char) : Option (List Char × List Char) :=
  match cs with
  | [] => none
  | c :: rest =>
    if c = '"' then some ([], rest)
    else if c = '\n' then none
    else if c = '\\' then
      match escape? rest with
      | none => none
      | some (d, n) => (quoted? (rest.drop n)).map fun (s, rest) => (d :: s, rest)
    else (quoted? rest).map fun (s, rest) => (c :: s, rest)
  termination_by cs.length
  decreasing_by all_goals (simp only [List.length_drop, List.length_cons]; omega)

/-- Reads a string without escapes after its opening quote. It stays on its line. -/
def literal? : List Char → Option (List Char × List Char)
  | [] => none
  | c :: rest =>
    if c = Char.ofNat 39 then some ([], rest)
    else if c = '\n' then none
    else (literal? rest).map fun (s, rest) => (c :: s, rest)

/-- How many quotes in a row belong to the content, if the row ends the string: three of them end it,
and up to two in front of those belong to it. -/
def closing? (count : Nat) : Option Nat := if count < 3 then none else some (min count 5 - 3)

/-- Whether a backslash is followed by nothing but blanks on its line. -/
def isJoint (cs : List Char) : Bool := (skipBlanks cs).head? = some '\n'

/-- Reads a string of several lines after its opening quotes. With escapes, a backslash at the end of
a line takes it away together with the blanks and line ends that follow. -/
def multiline? (quote : Char) (escapes : Bool) (cs : List Char) :
    Option (List Char × List Char) :=
  match cs with
  | [] => none
  | c :: rest =>
    if c = quote then
      match closing? ((c :: rest).takeWhile (· = quote)).length with
      | some kept => some (List.replicate kept quote, (c :: rest).drop (kept + 3))
      | none => (multiline? quote escapes rest).map fun (s, rest) => (quote :: s, rest)
    else if c = '\\' && escapes then
      if isJoint rest then
        multiline? quote escapes (rest.drop (rest.takeWhile fun d => isBlank d || d = '\n').length)
      else
        match escape? rest with
        | none => none
        | some (d, n) =>
          (multiline? quote escapes (rest.drop n)).map fun (s, rest) => (d :: s, rest)
    else (multiline? quote escapes rest).map fun (s, rest) => (c :: s, rest)
  termination_by cs.length
  decreasing_by all_goals (simp only [List.length_drop, List.length_cons]; omega)

/-- The text without a line end at its front. -/
def dropLineEnd : List Char → List Char
  | '\n' :: rest => rest
  | cs => cs

/-- Reads a string of any kind. -/
def string? (cs : List Char) : Option (List Char × List Char) :=
  let apostrophe := Char.ofNat 39
  match cs with
  | '"' :: '"' :: '"' :: rest => multiline? '"' true (dropLineEnd rest)
  | '"' :: rest => quoted? rest
  | a :: rest =>
    if a ≠ apostrophe then none
    else
      match rest with
      | b :: c :: rest' =>
        if b = apostrophe ∧ c = apostrophe then multiline? apostrophe false (dropLineEnd rest')
        else literal? rest
      | _ => literal? rest
  | [] => none

end Silhouette.Toml
