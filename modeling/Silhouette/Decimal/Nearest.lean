import Silhouette.Decimal.Shortest

/-!
The double that is nearest to a decimal number, a half going to the even mantissa. Beyond the largest
finite double lies infinity.
-/
namespace Silhouette.Decimal

/-- The bits of infinity. -/
def infinityBits : Nat := 2047 * fractionCount

/-- The fraction `num / den` in units of `2 ^ q`. -/
def inUnits (num den : Nat) (q : Int) : Nat × Nat :=
  if 0 ≤ q then (num, den * Nat.pow 2 q.toNat) else (num * Nat.pow 2 (-q).toNat, den)

/-- The unit in which a positive fraction has 53 bits before the point, or the least unit of all. -/
def unitOf (num den : Nat) : Int :=
  let q : Int := (num.log2 : Int) - den.log2 - 52
  let (n, d) := inUnits num den q
  max (if n / d < fractionCount then q - 1 else q) (-1074)

/-- The bits of the double that is nearest to `num / den`. A mantissa that rounds up to 54 bits carries
into the exponent. -/
def nearestBits (num den : Nat) : Nat :=
  if num = 0 then 0
  else
    let q := unitOf num den
    let (n, d) := inUnits num den q
    min ((q + 1074).toNat * fractionCount + roundDiv n d) infinityBits

/-- The double that is nearest to `digits * 10 ^ exponent`. Exponents out of reach are not expanded. -/
def nearest (digits : Nat) (exponent : Int) : Float :=
  let place := exponent + width digits
  let bits :=
    if digits = 0 ∨ place < -400 then 0
    else if 400 < place then infinityBits
    else
      let (num, den) := shift digits 1 exponent
      nearestBits num den
  Float.ofBits bits.toUInt64

end Silhouette.Decimal
