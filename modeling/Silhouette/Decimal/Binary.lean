/-!
Binary fractions: a sign, a whole number of at most 53 bits, and a power of two. Every finite
double is one, and the number is read off its bits.
-/
namespace Silhouette.Decimal

/-- The number `± mantissa * 2 ^ exponent`. The mantissa is at its lower edge if the next number
below is only half as far away as the next one above. -/
structure Binary where
  negative : Bool
  mantissa : Nat
  exponent : Int
  atEdge : Bool
  deriving DecidableEq, Repr

/-- How many fractions the bits of a double can tell apart: those below its leading bit. -/
def fractionCount : Nat := 0x10000000000000

namespace Binary

/-- The number with some bits, if they stand for a finite one. -/
def ofBits? (bits : UInt64) : Option Binary :=
  let n : Nat := bits.toNat
  let negative := n / 0x8000000000000000 = 1
  let field : Nat := n / fractionCount % 2048
  let fraction : Nat := n % fractionCount
  if field = 2047 then none
  else if field = 0 then some ⟨negative, fraction, -1074, false⟩
  else some ⟨negative, fractionCount + fraction, (field : Int) - 1075, fraction = 0 && 1 < field⟩

/-- The magnitude as a fraction of whole numbers. -/
def ratio (b : Binary) : Nat × Nat :=
  if 0 ≤ b.exponent then (b.mantissa * Nat.pow 2 b.exponent.toNat, 1)
  else (b.mantissa, Nat.pow 2 (-b.exponent).toNat)

end Binary

/-- The quotient of two numbers rounded to the nearest whole number, a half to the even one. -/
def roundDiv (num den : Nat) : Nat :=
  let q := num / den
  let r := num % den
  if 2 * r < den then q
  else if den < 2 * r then q + 1
  else if q % 2 = 0 then q else q + 1

end Silhouette.Decimal
