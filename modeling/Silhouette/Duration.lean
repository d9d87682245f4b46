import Silhouette.Decimal.Binary

/-!
Lengths of time, counted in nanoseconds. Besides the conversions this module holds the text of a
duration: the largest of the units `s`, `ms`, `µs` and `ns` that gives a whole part, with the
fraction in as many digits as it needs.
-/
namespace Silhouette

/-- A length of time. -/
structure Duration where
  nanos : Nat
  deriving DecidableEq, Repr, Inhabited

namespace Duration

/-- A whole number of seconds. -/
def ofSecs (n : Nat) : Duration := ⟨n * 1000000000⟩

/-- A whole number of milliseconds. -/
def ofMillis (n : Nat) : Duration := ⟨n * 1000000⟩

/-- Seconds and the nanoseconds beyond them. -/
def ofParts (secs nanos : Nat) : Duration := ⟨secs * 1000000000 + nanos⟩

/-- The whole seconds. -/
def secs (d : Duration) : Nat := d.nanos / 1000000000

/-- The nanoseconds beyond the whole seconds. -/
def subsecNanos (d : Duration) : Nat := d.nanos % 1000000000

/-- The whole milliseconds, rounded down. -/
def millis (d : Duration) : Nat := d.nanos / 1000000

/-- A number of seconds, rounded to the nearest nanosecond, a half to the even one. There is none for
a negative number and for one that is too large. -/
def ofSeconds? (x : Float) : Option Duration :=
  match Decimal.Binary.ofBits? x.toBits with
  | none => none
  | some b =>
    if b.negative ∧ b.mantissa ≠ 0 then none
    else
      let (num, den) := b.ratio
      let nanos := Decimal.roundDiv (num * 1000000000) den
      if nanos < 0x10000000000000000 * 1000000000 then some ⟨nanos⟩ else none

/-- The seconds of a duration as a double: whole seconds and fraction are converted apart. -/
def toSeconds (d : Duration) : Float :=
  d.secs.toUInt64.toFloat + d.subsecNanos.toUInt64.toFloat / 1e9

/-- The clock ticks once a millisecond: a wait ends at the first tick that is not before its end. -/
def ticks (d : Duration) : Nat := (d.nanos + 999999) / 1000000

/-- The decimal digits of a number. -/
def digits (n : Nat) : List Char := Nat.toDigits 10 n

/-- The fraction `part / 10 ^ width` after a point, without trailing zeros; nothing for zero. -/
def fraction (width part : Nat) : List Char :=
  if part = 0 then []
  else
    let ds := digits part
    let padded := List.replicate (width - ds.length) '0' ++ ds
    '.' :: (padded.reverse.dropWhile (· == '0')).reverse

private def inUnit (d : Duration) (unit width : Nat) (name : String) : String :=
  String.ofList (digits (d.nanos / unit) ++ fraction width (d.nanos % unit)) ++ name

/-- The text of a duration. -/
def text (d : Duration) : String :=
  if 1000000000 ≤ d.nanos then inUnit d 1000000000 9 "s"
  else if 1000000 ≤ d.nanos then inUnit d 1000000 6 "ms"
  else if 1000 ≤ d.nanos then inUnit d 1000 3 "µs"
  else inUnit d 1 0 "ns"

end Duration

end Silhouette
