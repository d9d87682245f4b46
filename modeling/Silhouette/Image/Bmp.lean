import Silhouette.Image.Field

/-!
BMP files: a file header, one of several picture headers, colors for the small depths, and rows that
are filled up to whole words of four bytes. A negative height means that the top row comes first.
-/
namespace Silhouette.Image.Bmp

/-- What the headers say. -/
structure Header where
  width : Nat
  height : Nat
  depth : Nat
  compression : Nat
  deriving DecidableEq, Repr

/-- A number of 32 bits with a sign. -/
def signed (n : Nat) : Int := if n < 0x80000000 then n else (n : Int) - 0x100000000

/-- The depths for pixels that are stored as they are. -/
def plainDepths : List Nat := [1, 4, 8, 16, 24, 32]

/-- Whether a depth goes with a way of storing pixels. -/
def isKnown (compression depth : Nat) : Bool :=
  if compression = 0 then plainDepths.contains depth
  else if compression = 1 then depth = 8
  else if compression = 2 then depth = 4
  else if compression = 3 then depth = 16 || depth = 32
  else false

/-- Reads the oldest header, of 12 bytes. -/
def coreHeader? (data : ByteArray) : Option Header := do
  let width ← little? data 18 2
  let height ← little? data 20 2
  let planes ← little? data 22 2
  let depth ← little? data 24 2
  if planes ≠ 1 ∨ depth ∉ [1, 4, 8, 24] then none
  return ⟨width, height, depth, 0⟩

/-- Reads a header of 40 bytes or more. -/
def infoHeader? (data : ByteArray) (size : Nat) : Option Header := do
  let width ← little? data 18 4
  let height ← little? data 22 4
  let planes ← little? data 26 2
  let depth ← little? data 28 2
  let compression ← little? data 30 4
  if data.size < 14 + size ∨ signed width < 0 ∨ signed height = -0x80000000 then none
  if planes ≠ 1 ∨ !isKnown compression depth then none
  if signed height < 0 ∧ compression ≠ 0 ∧ compression ≠ 3 then none
  return ⟨width, (signed height).natAbs, depth, compression⟩

/-- The bytes of the colors for a small depth. -/
def colorBytes? (data : ByteArray) (headerSize : Nat) (h : Header) : Option Nat :=
  if 8 < h.depth then some 0
  else if headerSize = 12 then some (3 * Nat.pow 2 h.depth)
  else
    match little? data 46 4 with
    | none => none
    | some used =>
      if Nat.pow 2 h.depth < used then none
      else some (4 * (if used = 0 then Nat.pow 2 h.depth else used))

/-- The bytes of a row. -/
def rowBytes (h : Header) : Nat := (h.width * h.depth + 31) / 32 * 4

/-- The size of the picture in a file that can be decoded. Runs of equal pixels are not followed; there
only some data has to be there. -/
def size? (data : ByteArray) : Option (Nat × Nat) := do
  if !hasAt data 0 "BM".toUTF8.toList then none
  let start ← little? data 10 4
  let headerSize ← little? data 14 4
  let h ←
    if headerSize = 12 then coreHeader? data
    else if headerSize ∈ [40, 52, 56, 108, 124] then infoHeader? data headerSize
    else none
  let masks := if h.compression = 3 ∧ headerSize = 40 then 12 else 0
  let colors ← colorBytes? data headerSize h
  if data.size < 14 + headerSize + masks + colors then none
  if maxPixelBytes < h.width * h.height * 4 then none
  let needed := if h.compression = 1 ∨ h.compression = 2 then 2 else rowBytes h * h.height
  if data.size < start + needed then none
  return (h.width, h.height)

end Silhouette.Image.Bmp
