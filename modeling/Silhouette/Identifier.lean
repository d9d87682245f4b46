/-!
The names that targets, costumes, skins and drawables go by. Targets and costumes have identifiers
of 128 bits, written as 26 digits of five bits each; skins and drawables have numbers that a
renderer hands out.
-/
namespace Silhouette

/-- An identifier of 128 bits. -/
structure Ulid where
  bits : BitVec 128
  deriving DecidableEq, Repr, Inhabited

namespace Ulid

/-- The 32 digits, the digit for `n` at place `n`: the letters I, L, O and U are left out. -/
def alphabet : List Char := "0123456789ABCDEFGHJKMNPQRSTVWXYZ".toList

/-- The digit for a value below 32. -/
def digit (n : Nat) : Char := alphabet.getD n '0'

/-- The value of a digit, letters in either case. -/
def value? (c : Char) : Option Nat :=
  let c := if 'a' ≤ c ∧ c ≤ 'z' then Char.ofNat (c.toNat - 32) else c
  alphabet.findIdx? (· == c)

/-- The lowest `count` digits of a number, the highest of them first. -/
def digitsOf (n : Nat) : Nat → List Char
  | 0 => []
  | count + 1 => digit (n / Nat.pow 32 count % 32) :: digitsOf n count

/-- The text of an identifier, 26 digits long. -/
def text (u : Ulid) : String := String.ofList (digitsOf u.bits.toNat 26)

/-- Reads the text of an identifier. Of the 130 bits that 26 digits carry the first two are dropped. -/
def ofText? (s : String) : Option Ulid :=
  let cs := s.toList
  if cs.length = 26 then
    (cs.mapM value?).map fun ds => ⟨BitVec.ofNat 128 (ds.foldl (fun n d => n * 32 + d) 0)⟩
  else none

/-- The identifier with a number, taken modulo 2^128. -/
def ofNat (n : Nat) : Ulid := ⟨BitVec.ofNat 128 n⟩

end Ulid

/-- The name of a target. -/
structure TargetId where
  ulid : Ulid
  deriving DecidableEq, Repr, Inhabited

/-- The name of a costume. -/
structure CostumeId where
  ulid : Ulid
  deriving DecidableEq, Repr, Inhabited

/-- The number of a skin. -/
structure SkinId where
  number : Nat
  deriving DecidableEq, Repr, Inhabited

/-- The number of a drawable. -/
structure DrawableId where
  number : Nat
  deriving DecidableEq, Repr, Inhabited

/-- The text of a target's name. -/
def TargetId.text (t : TargetId) : String := t.ulid.text

/-- The text of a costume's name. -/
def CostumeId.text (c : CostumeId) : String := c.ulid.text

/-- The text of a skin's number. -/
def SkinId.text (s : SkinId) : String := "skin#" ++ toString s.number

/-- The text of a drawable's number. -/
def DrawableId.text (d : DrawableId) : String := "drawable#" ++ toString d.number

end Silhouette
