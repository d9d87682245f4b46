/-!
The tokens of JSON text. A string is kept as it was spelled: escapes for halves of a surrogate pair
that stand alone are no characters, and whether that matters is decided where the string is used.
Likewise a number is kept as its digits.
-/
namespace Silhouette.Json

/-- A character of a string, or half of a surrogate pair without its other half. -/
inductive Piece where
  | char (c : Char)
  | surrogate (code : Nat)
  deriving DecidableEq, Repr

/-- A number as it was spelled. The fraction is empty if there is none; the exponent is its sign,
true for minus, and its digits. -/
structure Literal where
  negative : Bool
  whole : List Char
  fraction : List Char
  exponent : Option (Bool × List Char)
  deriving DecidableEq, Repr

/-- A token. -/
inductive Token where
  | openObject
  | closeObject
  | openArray
  | closeArray
  | colon
  | comma
  | null
  | bool (b : Bool)
  | number (l : Literal)
  | string (s : List Piece)
  deriving DecidableEq, Repr

namespace Token

/-- The characters that may stand between tokens. -/
def isSpace (c : Char) : Bool := c = ' ' || c = '\t' || c = '\n' || c = '\r'

/-- The value of a hexadecimal digit. -/
def hexValue? (c : Char) : Option Nat :=
  if '0' ≤ c ∧ c ≤ '9' then some (c.toNat - 48)
  else if 'a' ≤ c ∧ c ≤ 'f' then some (c.toNat - 87)
  else if 'A' ≤ c ∧ c ≤ 'F' then some (c.toNat - 55)
  else none

/-- The number that four hexadecimal digits make. -/
def hexUnit? (a b c d : Char) : Option Nat := do
  let a ← hexValue? a
  let b ← hexValue? b
  let c ← hexValue? c
  let d ← hexValue? d
  return ((a * 16 + b) * 16 + c) * 16 + d

/-- The character of a short escape. -/
def shortEscape? (c : Char) : Option Char :=
  if c = '"' ∨ c = '\\' ∨ c = '/' then some c
  else if c = 'b' then some (Char.ofNat 8)
  else if c = 'f' then some (Char.ofNat 12)
  else if c = 'n' then some '\n'
  else if c = 'r' then some '\r'
  else if c = 't' then some '\t'
  else none

/-- Puts an escaped code unit in front of the pieces read so far, which come last first. The second
half of a surrogate pair joins the first half. -/
def addUnit (n : Nat) (pieces : List Piece) : List Piece :=
  if 0xd800 ≤ n ∧ n < 0xdc00 then .surrogate n :: pieces
  else if 0xdc00 ≤ n ∧ n < 0xe000 then
    match pieces with
    | .surrogate high :: rest =>
      if high < 0xdc00 then
        .char (Char.ofNat (0x10000 + (high - 0xd800) * 0x400 + (n - 0xdc00))) :: rest
      else .surrogate n :: pieces
    | _ => .surrogate n :: pieces
  else .char (Char.ofNat n) :: pieces

/-- Reads a string after its opening quote, up to and with the closing one. -/
def scanString (pieces : List Piece) : List Char → Option (List Piece × List Char)
  | [] => none
  | '"' :: rest => some (pieces.reverse, rest)
  | '\\' :: 'u' :: a :: b :: c :: d :: rest =>
    match hexUnit? a b c d with
    | some n => scanString (addUnit n pieces) rest
    | none => none
  | '\\' :: e :: rest =>
    match shortEscape? e with
    | some c => scanString (.char c :: pieces) rest
    | none => none
  | c :: rest => if c.toNat < 0x20 ∨ c = '\\' then none else scanString (.char c :: pieces) rest

/-- The digits at the front, and what follows them. -/
def digits (cs : List Char) : List Char × List Char :=
  (cs.takeWhile Char.isDigit, cs.dropWhile Char.isDigit)

/-- Reads the exponent of a number, if there is one. -/
def scanExponent : List Char → Option (Option (Bool × List Char) × List Char)
  | 'e' :: rest | 'E' :: rest =>
    let (negative, rest) :=
      match rest with
      | '+' :: rest => (false, rest)
      | '-' :: rest => (true, rest)
      | rest => (false, rest)
    match digits rest with
    | ([], _) => none
    | (ds, rest) => some (some (negative, ds), rest)
  | rest => some (none, rest)

/-- Reads the fraction of a number, if there is one. -/
def scanFraction : List Char → Option (List Char × List Char)
  | '.' :: rest =>
    match digits rest with
    | ([], _) => none
    | (ds, rest) => some (ds, rest)
  | rest => some ([], rest)

/-- Reads a number. Its whole part has no leading zero. -/
def scanNumber (cs : List Char) : Option (Literal × List Char) :=
  let (negative, cs) :=
    match cs with
    | '-' :: rest => (true, rest)
    | cs => (false, cs)
  match digits cs with
  | ([], _) => none
  | (d :: ds, rest) =>
    if d = '0' ∧ ds ≠ [] then none
    else
      match scanFraction rest with
      | none => none
      | some (fraction, rest) =>
        match scanExponent rest with
        | none => none
        | some (exponent, rest) => some (⟨negative, d :: ds, fraction, exponent⟩, rest)

/-- Reads one token at the front. -/
def next? : List Char → Option (Token × List Char)
  | '\x7b' :: rest => some (openObject, rest)
  | '\x7d' :: rest => some (closeObject, rest)
  | '[' :: rest => some (openArray, rest)
  | ']' :: rest => some (closeArray, rest)
  | ':' :: rest => some (colon, rest)
  | ',' :: rest => some (comma, rest)
  | '"' :: rest => (scanString [] rest).map fun (s, rest) => (string s, rest)
  | 'n' :: 'u' :: 'l' :: 'l' :: rest => some (null, rest)
  | 't' :: 'r' :: 'u' :: 'e' :: rest => some (bool true, rest)
  | 'f' :: 'a' :: 'l' :: 's' :: 'e' :: rest => some (bool false, rest)
  | cs => (scanNumber cs).map fun (l, rest) => (number l, rest)

/-- Reads tokens to the end of the text; `tokens` are those read so far, last first. `fuel` bounds
their number. -/
def scanFrom : Nat → List Token → List Char → Option (List Token)
  | 0, tokens, cs => if cs = [] then some tokens.reverse else none
  | fuel + 1, tokens, cs =>
    match cs.dropWhile isSpace with
    | [] => some tokens.reverse
    | cs =>
      match next? cs with
      | none => none
      | some (token, rest) => scanFrom fuel (token :: tokens) rest

/-- The tokens of a text. Every token takes at least one character. -/
def scan (cs : List Char) : Option (List Token) := scanFrom cs.length [] cs

end Token

end Silhouette.Json
