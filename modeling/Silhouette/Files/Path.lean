import Silhouette.Text.Utf8

/-!
Paths of files: byte strings in which `/` separates names. Repeated separators, names that are a
single point, and separators at the end do not count as parts of a path, but stay in its text.
-/
namespace Silhouette

/-- The path of a file or directory. -/
structure Path where
  bytes : List UInt8
  deriving DecidableEq, Repr, Inhabited

namespace Path

/-- The separator. -/
def separator : UInt8 := 47
/-- The point. -/
def point : UInt8 := 46

/-- The path with a text. -/
def ofText (s : String) : Path := ⟨Text.Utf8.encode s⟩

/-- The text of a path; bytes that are not text become replacement characters. -/
def text (p : Path) : String := Text.Utf8.decodeLossy p.bytes

/-- Whether a path starts at the root. -/
def isAbsolute (p : Path) : Bool := p.bytes.head? == some separator

/-- Whether a path starts with a single point as its first name, which then counts. -/
def startsHere : List UInt8 → Bool
  | [46] => true
  | 46 :: 47 :: _ => true
  | _ => false

/-- The number of bytes before the names of a path: the root, or a leading point. -/
def lead (p : Path) : Nat := if p.isAbsolute || startsHere p.bytes then 1 else 0

/-- Drops separators and single points at the end of the names; the bytes come in reverse. -/
def trimEnd : List UInt8 → List UInt8
  | [] => []
  | b :: rest =>
    if b = separator then trimEnd rest
    else if b = point then
      match rest with
      | [] => []
      | c :: rest' => if c = separator then trimEnd rest' else b :: c :: rest'
    else b :: rest

/-- The names of a path, in reverse and without what does not count at the end. -/
def namesReversed (p : Path) : List UInt8 := trimEnd (p.bytes.drop p.lead).reverse

/-- The last name of a path; the empty list if there is none. -/
def lastName (p : Path) : List UInt8 :=
  (p.namesReversed.takeWhile (· != separator)).reverse

/-- The name of the file that a path leads to: its last name, unless that steps up. -/
def fileName? (p : Path) : Option (List UInt8) :=
  let name := p.lastName
  if name = [] ∨ name = [point, point] then none else some name

/-- How many bytes of a path lead to the directory that holds its last part. -/
def parentSize? (p : Path) : Option Nat :=
  if p.namesReversed = [] then
    if p.isAbsolute then none else if startsHere p.bytes then some 0 else none
  else
    let rest := (p.namesReversed.dropWhile (· != separator)).drop 1
    some (p.lead + (trimEnd rest).length)

/-- The directory that holds the last part of a path; the empty path for a single name. -/
def parent? (p : Path) : Option Path :=
  match p.parentSize? with
  | none => none
  | some n => if n < p.bytes.length then some ⟨p.bytes.take n⟩ else none

/-- A path below another; an absolute path stands alone. -/
def join (p q : Path) : Path :=
  if q.isAbsolute then q
  else if p.bytes = [] ∨ p.bytes.getLast? = some separator then ⟨p.bytes ++ q.bytes⟩
  else ⟨p.bytes ++ separator :: q.bytes⟩

/-- The path with another file name in the place of its own, or below it if it has none. -/
def withFileName (p : Path) (name : List UInt8) : Path :=
  match p.fileName? with
  | none => p.join ⟨name⟩
  | some _ => (p.parent?.getD ⟨[]⟩).join ⟨name⟩

/-- A file name cut at its last point: what stands before and after it. A name without a point, or
with its only point in front, is not cut. -/
def cutName (name : List UInt8) : List UInt8 × Option (List UInt8) :=
  let tail := (name.reverse.takeWhile (· != point)).reverse
  let front := (name.reverse.dropWhile (· != point)).drop 1
  if tail.length = name.length ∨ front = [] then (name, none) else (front.reverse, some tail)

/-- The file name without its extension. -/
def stem? (p : Path) : Option (List UInt8) := p.fileName?.map fun n => (cutName n).1

/-- The extension of the file name. -/
def extension? (p : Path) : Option (List UInt8) := p.fileName?.bind fun n => (cutName n).2

end Path

end Silhouette
