import Silhouette.Image.Field

/-!
WebP files: chunks in a RIFF container, the first of which holds the picture or describes a canvas.
The chunk with the picture must be whole and have a known head.
-/
namespace Silhouette.Image.Webp

/-- The size in the head of a lossless picture. -/
def losslessSize? (data : ByteArray) (pos : Nat) : Option (Nat × Nat) := do
  let mark ← byte? data pos
  let head ← little? data (pos + 1) 4
  if mark ≠ 0x2f ∨ 0x20000000 ≤ head then none
  return (head % 16384 + 1, head / 16384 % 16384 + 1)

/-- The size in the head of a lossy picture, which must be a key frame. -/
def lossySize? (data : ByteArray) (pos : Nat) : Option (Nat × Nat) := do
  let tag ← byte? data pos
  let width ← little? data (pos + 6) 2
  let height ← little? data (pos + 8) 2
  if tag % 2 ≠ 0 ∨ !hasAt data (pos + 3) [0x9d, 0x01, 0x2a] then none
  return (width % 16384, height % 16384)

/-- The size of the picture in the chunk at a place, if the chunk holds one. -/
def pictureSize? (data : ByteArray) (pos : Nat) : Option (Nat × Nat) := do
  let size ← little? data (pos + 4) 4
  if data.size < pos + 8 + size then none
  if hasAt data pos "VP8L".toUTF8.toList then losslessSize? data (pos + 8)
  else if hasAt data pos "VP8 ".toUTF8.toList then lossySize? data (pos + 8)
  else none

/-- Looks for the picture among the chunks from a place on. -/
def findPicture? (data : ByteArray) : Nat → Nat → Option (Nat × Nat)
  | 0, _ => none
  | fuel + 1, pos =>
    match pictureSize? data pos with
    | some size => some size
    | none =>
      match little? data (pos + 4) 4 with
      | none => none
      | some size => findPicture? data fuel (pos + 8 + size + size % 2)

/-- The size of the picture in a file that can be decoded. -/
def size? (data : ByteArray) : Option (Nat × Nat) := do
  if !(hasAt data 0 "RIFF".toUTF8.toList && hasAt data 8 "WEBP".toUTF8.toList) then none
  let size ←
    if hasAt data 12 "VP8X".toUTF8.toList then do
      let width ← little? data 24 3
      let height ← little? data 27 3
      let picture ← findPicture? data data.size 30
      if picture = (width + 1, height + 1) then some picture else none
    else pictureSize? data 12
  if maxPixelBytes < size.1 * size.2 * 4 then none
  return size

end Silhouette.Image.Webp
