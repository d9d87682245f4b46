import Silhouette.Text.Blank

/-!
Addresses to listen on: a host address of four octets or of eight groups, and a port. In the text of
eight groups the first longest run of two or more zero groups is left out, and the last two groups
are written as octets if the address maps four octets.
-/
namespace Silhouette.Net

/-- An address with a port. The scope of eight groups is zero if none is meant. -/
inductive SocketAddress where
  | octets (host : List Nat) (port : Nat)
  | groups (host : List Nat) (scope port : Nat)
  deriving DecidableEq, Repr

namespace SocketAddress

/-- The value of a hexadecimal digit. -/
def digitValue (c : Char) : Nat :=
  if c.isDigit then c.toNat - 48 else if 'a' ≤ c then c.toNat - 87 else c.toNat - 55

/-- Whether a character is a digit to a base of ten or sixteen. -/
def isDigitOf (base : Nat) (c : Char) : Bool :=
  c.isDigit || (base = 16 && (('a' ≤ c && c ≤ 'f') || ('A' ≤ c && c ≤ 'F')))

/-- The number that some digits spell. -/
def spelled (base : Nat) (digits : List Char) : Nat :=
  digits.foldl (fun n c => base * n + digitValue c) 0

/-- Reads a decimal number below `bound`. -/
def number? (bound : Nat) (cs : List Char) : Option (Nat × List Char) :=
  match cs.takeWhile (isDigitOf 10) with
  | [] => none
  | digits =>
    let n := spelled 10 digits
    if n < bound then some (n, cs.dropWhile (isDigitOf 10)) else none

/-- Reads an octet: up to three digits, with no zero in front of others. -/
def octet? (cs : List Char) : Option (Nat × List Char) :=
  match cs.takeWhile (isDigitOf 10) with
  | '0' :: _ :: _ => none
  | digits => if 3 < digits.length then none else number? 256 cs

/-- Reads a group: up to four hexadecimal digits. -/
def group? (cs : List Char) : Option (Nat × List Char) :=
  match cs.takeWhile (isDigitOf 16) with
  | [] => none
  | digits =>
    if 4 < digits.length then none else some (spelled 16 digits, cs.dropWhile (isDigitOf 16))

/-- Reads `c`. -/
def char? (c : Char) : List Char → Option (List Char)
  | [] => none
  | d :: rest => if d = c then some rest else none

/-- Reads four octets with points between them. -/
def fourOctets? (cs : List Char) : Option (List Nat × List Char) := do
  let (a, cs) ← octet? cs
  let (b, cs) ← octet? (← char? '.' cs)
  let (c, cs) ← octet? (← char? '.' cs)
  let (d, cs) ← octet? (← char? '.' cs)
  return ([a, b, c, d], cs)

/-- The two groups that four octets make. -/
def pairUp : List Nat → List Nat
  | a :: b :: rest => (256 * a + b) :: pairUp rest
  | rest => rest

/-- Reads up to `count` groups with colons between them; the last two may be written as four octets.
Gives the groups, whether octets were read, and what follows. -/
def someGroups : Nat → Bool → List Char → List Nat × Bool × List Char
  | 0, _, cs => ([], false, cs)
  | count + 1, first, cs =>
    let start? := if first then some cs else char? ':' cs
    match start? with
    | none => ([], false, cs)
    | some start =>
      match (if 1 ≤ count then fourOctets? start else none) with
      | some (host, rest) => (pairUp host, true, rest)
      | none =>
        match group? start with
        | none => ([], false, cs)
        | some (g, rest) =>
          let (more, mapped, rest) := someGroups count false rest
          (g :: more, mapped, rest)

/-- Reads eight groups, where a double colon stands for one or more groups of zero. -/
def eightGroups? (cs : List Char) : Option (List Nat × List Char) :=
  let (front, mapped, rest) := someGroups 8 true cs
  if front.length = 8 then some (front, rest)
  else if mapped then none
  else
    match rest with
    | ':' :: ':' :: rest =>
      let (back, _, rest) := someGroups (7 - front.length) true rest
      some (front ++ List.replicate (8 - front.length - back.length) 0 ++ back, rest)
    | _ => none

/-- Reads a port. -/
def port? (cs : List Char) : Option (Nat × List Char) := (char? ':' cs).bind (number? 65536)

/-- Reads a scope, if there is one. -/
def scope (cs : List Char) : Nat × List Char :=
  match (char? '%' cs).bind (number? 4294967296) with
  | some found => found
  | none => (0, cs)

/-- Reads four octets with a port. -/
def readOctets? (cs : List Char) : Option SocketAddress := do
  let (host, cs) ← fourOctets? cs
  let (port, cs) ← port? cs
  if cs = [] then return .octets host port else none

/-- Reads eight groups in brackets with a port. -/
def readGroups? (cs : List Char) : Option SocketAddress := do
  let (host, cs) ← eightGroups? (← char? '[' cs)
  let (scope, cs) := scope cs
  let (port, cs) ← port? (← char? ']' cs)
  if cs = [] then return .groups host scope port else none

/-- Reads an address. -/
def parse? (s : String) : Option SocketAddress :=
  (readOctets? s.toList).or (readGroups? s.toList)

/-- Four octets with points between them. -/
def octetsText (host : List Nat) : String := Text.joinWith "." (host.map toString)

/-- Groups with colons between them. -/
def groupsText (host : List Nat) : String :=
  Text.joinWith ":" (host.map fun g => String.ofList (Nat.toDigits 16 g))

/-- The length of the run of zeros at the front. -/
def zeroRun (host : List Nat) : Nat := (host.takeWhile (· = 0)).length

/-- The first longest run of zeros: where it begins, and how long it is. -/
def longestRun (host : List Nat) : Nat × Nat :=
  (List.range host.length).foldl (fun best i =>
    let n := zeroRun (host.drop i)
    if best.2 < n then (i, n) else best) (0, 0)

/-- The text of eight groups. -/
def hostText (host : List Nat) : String :=
  match host with
  | [0, 0, 0, 0, 0, 0xffff, a, b] => "::ffff:" ++ octetsText [a / 256, a % 256, b / 256, b % 256]
  | _ =>
    let (start, length) := longestRun host
    if 1 < length then
      groupsText (host.take start) ++ "::" ++ groupsText (host.drop (start + length))
    else groupsText host

/-- The text of an address. -/
def text : SocketAddress → String
  | octets host port => octetsText host ++ ":" ++ toString port
  | groups host scope port =>
    let zone := if scope = 0 then "" else "%" ++ toString scope
    "[" ++ hostText host ++ zone ++ "]:" ++ toString port

end SocketAddress

end Silhouette.Net
