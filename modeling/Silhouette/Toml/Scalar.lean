import Silhouette.Decimal.Nearest
import Silhouette.Toml.Text
import Silhouette.Toml.Value

/-!
Numbers, truth values, dates and times. Digits may be grouped by single underscores between them.
Whole numbers fit 64 bits with a sign; a real number is the nearest double, and none above all finite
ones.
-/
namespace Silhouette.Toml

/-- Digits without the underscores between them. -/
def ungroup? (isDigit : Char → Bool) : List Char → Option (List Char)
  | [] => none
  | [c] => if isDigit c then some [c] else none
  | c :: '_' :: rest => if isDigit c then (ungroup? isDigit rest).map (c :: ·) else none
  | c :: rest => if isDigit c then (ungroup? isDigit rest).map (c :: ·) else none

/-- The number that digits spell. -/
def spelled (base : Nat) (digits : List Char) : Nat :=
  digits.foldl (fun n c => base * n + (hexValue? c).getD 0) 0

/-- The digits of a decimal number, which has no zero in front of others. -/
def wholeDigits? (cs : List Char) : Option (List Char) :=
  match cs with
  | '0' :: _ :: _ => none
  | _ => ungroup? Char.isDigit cs

/-- The sign in front, and what follows it. -/
def sign : List Char → Bool × List Char
  | '-' :: rest => (true, rest)
  | '+' :: rest => (false, rest)
  | cs => (false, cs)

/-- The largest whole number. The smallest one lies one further from zero. -/
def maxInteger : Nat := 9223372036854775807

/-- A digit of a whole number to a base of its own. -/
def isDigitOf (base : Nat) (c : Char) : Bool :=
  match hexValue? c with
  | some n => n < base
  | none => false

/-- A whole number to a base of its own. -/
def based? (base : Nat) (cs : List Char) : Option Int :=
  match ungroup? (isDigitOf base) cs with
  | none => none
  | some digits =>
    let n := spelled base digits
    if n ≤ maxInteger then some n else none

/-- The whole number that a word spells. -/
def integer? (word : List Char) : Option Int :=
  match word with
  | '0' :: 'x' :: rest => based? 16 rest
  | '0' :: 'o' :: rest => based? 8 rest
  | '0' :: 'b' :: rest => based? 2 rest
  | _ =>
    let (negative, rest) := sign word
    match wholeDigits? rest with
    | none => none
    | some digits =>
      let n := spelled 10 digits
      if negative then (if n ≤ maxInteger + 1 then some (-n) else none)
      else if n ≤ maxInteger then some n else none

/-- A digit, or the underscore between digits. -/
def isGroupChar (c : Char) : Bool := c.isDigit || c = '_'

/-- The digits after a point; none if there is no point. -/
def fraction? : List Char → Option (List Char × List Char)
  | '.' :: rest =>
    (ungroup? Char.isDigit (rest.takeWhile isGroupChar)).map
      fun digits => (digits, rest.dropWhile isGroupChar)
  | cs => some ([], cs)

/-- The exponent that ends a word; zero for an empty rest. -/
def exponent? : List Char → Option Int
  | [] => some 0
  | c :: rest =>
    if c = 'e' ∨ c = 'E' then
      let (negative, rest) := sign rest
      (ungroup? Char.isDigit rest).map fun digits =>
        let n : Int := spelled 10 digits
        if negative then -n else n
    else none

/-- A real number with digits. Its magnitude is rounded before the sign counts; one that has become
infinite is refused unless it is negative. -/
def decimal? (negative : Bool) (cs : List Char) : Option Real := do
  let whole ← wholeDigits? (cs.takeWhile isGroupChar)
  let rest := cs.dropWhile isGroupChar
  if rest = [] then none
  let (fraction, rest) ← fraction? rest
  let exponent ← exponent? rest
  let x := Decimal.nearest (spelled 10 (whole ++ fraction)) (exponent - fraction.length)
  if negative then return .number (-x)
  else if x.isInf then none
  else return .number x

/-- The real number that a word spells. -/
def real? (word : List Char) : Option Real :=
  let (negative, rest) := sign word
  if rest = "inf".toList then some (.number (if negative then -(1.0 / 0.0) else 1.0 / 0.0))
  else if rest = "nan".toList then some (.notANumber negative)
  else decimal? negative rest

/-- A character of the words that spell numbers and truth values. -/
def isWordChar (c : Char) : Bool := c.isAlphanum || "+-._".toList.contains c

/-- What a word stands for. -/
def word? (word : List Char) : Option Value :=
  if word = "true".toList then some (.boolean true)
  else if word = "false".toList then some (.boolean false)
  else
    match integer? word with
    | some n => some (.integer n)
    | none => (real? word).map .real

/-- Reads a number of `count` digits between bounds. -/
def bounded? (count low high : Nat) (cs : List Char) : Option (Nat × List Char) :=
  let digits := cs.take count
  if digits.length = count ∧ digits.all Char.isDigit then
    let n := spelled 10 digits
    if low ≤ n ∧ n ≤ high then some (n, cs.drop count) else none
  else none

/-- Reads `c`. -/
def char? (c : Char) : List Char → Option (List Char)
  | [] => none
  | d :: rest => if d = c then some rest else none

/-- The number of days of a month. -/
def daysIn (year month : Nat) : Nat :=
  if month = 2 then
    if year % 4 = 0 ∧ (year % 100 ≠ 0 ∨ year % 400 = 0) then 29 else 28
  else if month = 4 ∨ month = 6 ∨ month = 9 ∨ month = 11 then 30
  else 31

/-- What follows a date. -/
def afterDate? (cs : List Char) : Option (List Char) := do
  let (year, cs) ← bounded? 4 0 9999 cs
  let (month, cs) ← bounded? 2 1 12 (← char? '-' cs)
  let (_, cs) ← bounded? 2 1 (daysIn year month) (← char? '-' cs)
  return cs

/-- What follows a time of day; a second may be a leap second. -/
def afterTime? (cs : List Char) : Option (List Char) := do
  let (_, cs) ← bounded? 2 0 23 cs
  let (_, cs) ← bounded? 2 0 59 (← char? ':' cs)
  let (_, cs) ← bounded? 2 0 60 (← char? ':' cs)
  match cs with
  | '.' :: rest =>
    if rest.takeWhile Char.isDigit = [] then return cs else return rest.dropWhile Char.isDigit
  | _ => return cs

/-- What follows the offset of a time, if it has one. -/
def afterOffset (cs : List Char) : List Char :=
  let found : Option (List Char) :=
    match cs with
    | 'Z' :: rest => some rest
    | 'z' :: rest => some rest
    | c :: rest =>
      if c = '+' ∨ c = '-' then do
        let (_, rest) ← bounded? 2 0 23 rest
        let (_, rest) ← bounded? 2 0 59 (← char? ':' rest)
        return rest
      else none
    | [] => none
  found.getD cs

/-- What follows a date, a time, or both. -/
def afterMoment? (cs : List Char) : Option (List Char) :=
  match afterDate? cs with
  | none => afterTime? cs
  | some rest =>
    match rest with
    | c :: later =>
      if c = 'T' ∨ c = 't' ∨ c = ' ' then
        match afterTime? later with
        | some rest => some (afterOffset rest)
        | none => some rest
      else some rest
    | [] => some rest

/-- Reads a value that holds no others. -/
def scalar? (cs : List Char) : Option (Value × List Char) :=
  match string? cs with
  | some (s, rest) => some (.string (String.ofList s), rest)
  | none =>
    match afterMoment? cs with
    | some rest => some (.moment, rest)
    | none => (word? (cs.takeWhile isWordChar)).map fun v => (v, cs.dropWhile isWordChar)

end Silhouette.Toml
