import Silhouette.Text.Quoted

/-!
Hexadecimal text of bytes: two lower-case digits a byte on writing, digits of either case on
reading. Reading looks at the bytes of the text, so a position counts bytes and the offending
character is the one that the single byte stands for.
-/
namespace Silhouette.Text.Hex

/-- Why a text is not hexadecimal. -/
inductive Error where
  | oddLength
  | notDigit (char : Char) (position : Nat)
  deriving DecidableEq, Repr

/-- The text of a fault. -/
def Error.message : Error → String
  | oddLength => "Odd number of digits"
  | notDigit c position =>
    "Invalid character " ++ Quoted.char c ++ " at position " ++ toString position

/-- The digit for a value below sixteen. -/
def digit (n : Nat) : Char := if n < 10 then Char.ofNat (48 + n) else Char.ofNat (87 + n)

/-- Two digits for every byte, the high half first. -/
def encodeChars : List UInt8 → List Char
  | [] => []
  | b :: rest => digit (b.toNat / 16) :: digit (b.toNat % 16) :: encodeChars rest

/-- The hexadecimal text of some bytes. -/
def encode (bytes : List UInt8) : String := String.ofList (encodeChars bytes)

/-- The value of the byte of a digit, either case. -/
def value? (b : UInt8) : Option UInt8 :=
  if 48 ≤ b ∧ b ≤ 57 then some (b - 48)
  else if 97 ≤ b ∧ b ≤ 102 then some (b - 87)
  else if 65 ≤ b ∧ b ≤ 70 then some (b - 55)
  else none

/-- Reads pairs of digits; `position` is that of the first byte. -/
def decodePairs (position : Nat) : List UInt8 → Except Error (List UInt8)
  | [] => .ok []
  | [_] => .error .oddLength
  | a :: b :: rest =>
    match value? a with
    | none => .error (.notDigit (Char.ofNat a.toNat) position)
    | some high =>
      match value? b with
      | none => .error (.notDigit (Char.ofNat b.toNat) (position + 1))
      | some low => (decodePairs (position + 2) rest).map ((high * 16 + low) :: ·)

/-- Reads hexadecimal text. An odd number of bytes is reported before any bad digit. -/
def decode (s : String) : Except Error (List UInt8) :=
  let bytes := s.toUTF8.toList
  if bytes.length % 2 = 1 then .error .oddLength else decodePairs 0 bytes

end Silhouette.Text.Hex
