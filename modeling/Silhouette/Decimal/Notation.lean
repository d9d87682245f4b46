import Silhouette.Decimal.Shortest

/-!
The texts of numbers that are no whole numbers. In JSON a number with its first digit between the
fifth place after the point and the sixteenth before it is written out, with a point in any case;
other numbers have an exponent with its sign. In messages every number is written out.
-/
namespace Silhouette.Decimal

/-- The digits with the point `place` digits from their start. -/
def positional (digits : List Char) (place : Int) : List Char :=
  if place ≤ 0 then
    '0' :: '.' :: (List.replicate (-place).toNat '0' ++ digits)
  else
    let n := place.toNat
    if digits.length ≤ n then digits ++ List.replicate (n - digits.length) '0'
    else digits.take n ++ '.' :: digits.drop n

/-- A number written out. A whole number gets the ending `whole`. -/
def writtenOut (whole : List Char) (s : Scaled) : List Char :=
  let digits := Nat.toDigits 10 s.digits
  let place := s.exponent + digits.length
  let text := positional digits place
  if 0 ≤ s.exponent then text ++ whole else text

/-- A number with an exponent. -/
def scientific (s : Scaled) : List Char :=
  let digits := Nat.toDigits 10 s.digits
  let e := s.exponent + digits.length - 1
  let mantissa :=
    match digits with
    | [] => []
    | [d] => [d]
    | d :: rest => d :: '.' :: rest
  mantissa ++ 'e' :: (if e < 0 then '-' else '+') :: Nat.toDigits 10 e.natAbs

/-- The JSON text of a number. -/
def json (b : Binary) : String :=
  let s := shortest b
  let e := s.exponent + (Nat.toDigits 10 s.digits).length - 1
  let text := if s.digits = 0 ∨ (-5 ≤ e ∧ e ≤ 15) then writtenOut ['.', '0'] s else scientific s
  String.ofList (if b.negative then '-' :: text else text)

/-- The JSON text of a double; there is none for those that are not finite. -/
def jsonOfFloat (x : Float) : String :=
  match Binary.ofBits? x.toBits with
  | some b => json b
  | none => "null"

/-- The text of a double in messages. -/
def plainOfFloat (x : Float) : String :=
  match Binary.ofBits? x.toBits with
  | some b =>
    let text := writtenOut [] (shortest b)
    String.ofList (if b.negative then '-' :: text else text)
  | none => if x.isNaN then "NaN" else if x < 0 then "-inf" else "inf"

end Silhouette.Decimal
