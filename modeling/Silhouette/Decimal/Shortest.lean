import Silhouette.Decimal.Binary

/-!
The fewest decimal digits that read back as a given binary fraction. For one digit, two digits and so
on the neighbours of the number on that decimal grid are tried; the first grid that has a point in
the interval of numbers that round to the fraction is taken, and on it the nearer point.
-/
namespace Silhouette.Decimal

/-- The number `digits * 10 ^ exponent`. -/
structure Scaled where
  digits : Nat
  exponent : Int
  deriving DecidableEq, Repr

/-- The number of decimal digits of a positive number. -/
def width (n : Nat) : Nat := (Nat.toDigits 10 n).length

/-- The place of the point: the `p` with `10 ^ (p - 1) ≤ num / den < 10 ^ p`. -/
def magnitude (num den : Nat) : Int :=
  if den ≤ num then width (num / den)
  else
    let c := (den + num - 1) / num
    1 - width (c - 1)

/-- A fraction times a power of ten. -/
def shift (num den : Nat) (e : Int) : Nat × Nat :=
  if 0 ≤ e then (num * Nat.pow 10 e.toNat, den) else (num, den * Nat.pow 10 (-e).toNat)

/-- Drops zeros at the end of the digits, at most `fuel` of them. -/
def trimZeros : Nat → Scaled → Scaled
  | 0, s => s
  | fuel + 1, s =>
    if s.digits ≠ 0 ∧ s.digits % 10 = 0 then trimZeros fuel ⟨s.digits / 10, s.exponent + 1⟩ else s

/-- The point of the grid of `count` digits that reads back as a positive number, if there is one. -/
def onGrid? (b : Binary) (count : Nat) : Option Scaled :=
  let (num, den) := b.ratio
  let p := magnitude num den
  let e : Int := count - p
  let (n, d) := shift num den e
  let low := n / d
  let below := if b.atEdge then 4 * b.mantissa - 1 else 4 * b.mantissa - 2
  let above := 4 * b.mantissa + 2
  let even := b.mantissa % 2 = 0
  -- a candidate `c` stands for `c * d / n` times the number itself
  let inside := fun c : Nat =>
    let left := c * d * 4 * b.mantissa
    if even then below * n ≤ left ∧ left ≤ above * n else below * n < left ∧ left < above * n
  let lowInside := decide (inside low)
  let highInside := decide (inside (low + 1))
  let nearer := 2 * (n % d) ≤ d
  if lowInside && (nearer || !highInside) then some ⟨low, -e⟩
  else if highInside then some ⟨low + 1, -e⟩
  else none

/-- Tries grids of `count` digits and more. -/
def firstGrid (b : Binary) : Nat → Nat → Scaled
  | 0, _ => ⟨b.mantissa, b.exponent⟩
  | fuel + 1, count =>
    match onGrid? b count with
    | some s => s
    | none => firstGrid b fuel (count + 1)

/-- The shortest digits of a number's magnitude. Seventeen digits always suffice. -/
def shortest (b : Binary) : Scaled :=
  if b.mantissa = 0 then ⟨0, 0⟩ else trimZeros 20 (firstGrid b 17 1)

end Silhouette.Decimal
