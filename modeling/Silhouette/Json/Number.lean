import Silhouette.Json.Token

/-!
What a JSON number stands for. A number without fraction and exponent that fits a word is a whole
number, minus zero apart. Every other number is a binary fraction: up to a word's worth of digits are
taken as they stand, further ones only count as powers of ten, and one multiplication or division
gives the value; a value beyond all finite ones is refused.
-/
namespace Silhouette.Json.Literal

/-- The value of a digit. -/
def digitValue (c : Char) : Nat := c.toNat - 48

/-- Takes digits into a number as long as it fits a word. Gives the number and the digits left. -/
def absorb (n : Nat) : List Char → Nat × List Char
  | [] => (n, [])
  | c :: rest =>
    let m := n * 10 + digitValue c
    if m ≤ 0xffffffffffffffff then absorb m rest else (n, c :: rest)

/-- The whole number that a literal spells, if it spells one that fits a word. -/
def toNat? (l : Literal) : Option Nat :=
  if l.negative ∨ l.fraction ≠ [] ∨ l.exponent.isSome then none
  else
    match absorb 0 l.whole with
    | (n, []) => some n
    | _ => none

/-- The digits of a literal as a number, and the power of ten by which it is to be multiplied before
the exponent counts. Digits of the fraction are taken up as long as they fit, also after digits of
the whole part that did not. -/
def significand (l : Literal) : Nat × Int :=
  let (n, left) := absorb 0 l.whole
  let (m, rest) := absorb n l.fraction
  (m, (left.length : Int) - ((l.fraction.length : Int) - (rest.length : Int)))

/-- The greatest number of an exponent; beyond it the value is zero or refused. -/
def maxExponent : Nat := 2147483647

/-- Divides by a power of ten, in steps that a binary fraction can hold. -/
def scaleDown (x : Float) (e : Nat) : Float :=
  if e ≤ 308 then x / Float.ofScientific 1 false e
  else if x == 0.0 then x
  else scaleDown (x / 1e308) (e - 308)
  termination_by e

/-- The value of a number times a power of ten, if it is finite. -/
def scale? (n : Nat) (e : Int) : Option Float :=
  let x := n.toUInt64.toFloat
  if 0 ≤ e then
    if 308 < e then (if x == 0.0 then some x else none)
    else
      let y := x * Float.ofScientific 1 false e.toNat
      if y.isInf then none else some y
  else some (scaleDown x (-e).toNat)

/-- The magnitude of a literal, if it is finite. -/
def magnitude? (l : Literal) : Option Float :=
  let (n, e) := l.significand
  match l.exponent with
  | none => scale? n e
  | some (negative, ds) =>
    let (k, left) := absorb 0 ds
    if left ≠ [] ∨ maxExponent < k then
      if n = 0 ∨ negative then some 0.0 else none
    else scale? n (if negative then e - k else e + k)

/-- The value of a literal, if it is finite. -/
def toFloat? (l : Literal) : Option Float :=
  l.magnitude?.map fun x => if l.negative then -x else x

end Silhouette.Json.Literal
