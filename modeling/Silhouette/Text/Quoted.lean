import Silhouette.Text.Printable

/-!
Quoted text: what stands between quotes in messages. Tab, line ends, NUL, the backslash and the
quote itself have short escapes; every other character without a visible form of its own is written
as its code point in braces.
-/
namespace Silhouette.Text.Quoted

/-- The digits of a number in base sixteen, without leading zeros. -/
def hexDigits (n : Nat) : List Char := Nat.toDigits 16 n

/-- One character inside quotes that are written with `mark`. -/
def escapeChar (mark c : Char) : List Char :=
  if c = '\t' then ['\\', 't']
  else if c = '\r' then ['\\', 'r']
  else if c = '\n' then ['\\', 'n']
  else if c = Char.ofNat 0 then ['\\', '0']
  else if c = '\\' then ['\\', '\\']
  else if c = mark then ['\\', mark]
  else if isVisible c then [c]
  else ['\\', 'u', '\x7b'] ++ hexDigits c.toNat ++ ['\x7d']

/-- A text between double quotes. -/
def text (s : String) : String :=
  String.ofList ('"' :: (s.toList.flatMap (escapeChar '"') ++ ['"']))

/-- The single quote. -/
def singleQuote : Char := Char.ofNat 39

/-- A character between single quotes. -/
def char (c : Char) : String :=
  String.ofList (singleQuote :: (escapeChar singleQuote c ++ [singleQuote]))

/-- An optional text: the word `None`, or `Some` with the quoted text in brackets. -/
def option : Option String → String
  | none => "None"
  | some s => "Some(" ++ text s ++ ")"

end Silhouette.Text.Quoted
