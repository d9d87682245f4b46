import Silhouette.Image.Inflate

/-!
PNG files: chunks under a signature, each with a checksum. A damaged chunk spoils the file unless it
is one that a reader may do without. The pixels are in one compressed stream over the data chunks,
row by row, each row behind a byte that names its filter.
-/
namespace Silhouette.Image.Png

/-- The first bytes of a file. -/
def signature : List UInt8 := [0x89, 0x50, 0x4e, 0x47, 0x0d, 0x0a, 0x1a, 0x0a]

/-- One step of the checksum for each bit of a byte. -/
def crcBits : Nat → UInt32 → UInt32
  | 0, c => c
  | n + 1, c =>
    crcBits n (if c &&& 1 = 1 then (0xedb88320 : UInt32) ^^^ (c >>> 1) else c >>> 1)

/-- The checksum of some bytes. -/
def crc (data : ByteArray) : UInt32 :=
  (data.foldl (fun c b => crcBits 8 (c ^^^ b.toUInt32)) 0xffffffff) ^^^ 0xffffffff

/-- What the header chunk says. -/
structure Header where
  width : Nat
  height : Nat
  depth : Nat
  color : Nat
  interlaced : Bool
  deriving DecidableEq, Repr

namespace Header

/-- The samples of a pixel. -/
def channels (h : Header) : Nat :=
  if h.color = 2 then 3 else if h.color = 4 then 2 else if h.color = 6 then 4 else 1

/-- The depths that a kind of color allows. -/
def allowedDepths (color : Nat) : List Nat :=
  if color = 0 then [1, 2, 4, 8, 16]
  else if color = 3 then [1, 2, 4, 8]
  else if color = 2 ∨ color = 4 ∨ color = 6 then [8, 16]
  else []

/-- Reads the header's 13 bytes. -/
def read? (data : ByteArray) (i : Nat) : Option Header := do
  let width ← big? data i 4
  let height ← big? data (i + 4) 4
  let depth ← byte? data (i + 8)
  let color ← byte? data (i + 9)
  let compression ← byte? data (i + 10)
  let filter ← byte? data (i + 11)
  let interlace ← byte? data (i + 12)
  if width = 0 ∨ height = 0 ∨ 0x80000000 ≤ width ∨ 0x80000000 ≤ height then none
  if depth ∉ allowedDepths color then none
  if compression ≠ 0 ∨ filter ≠ 0 ∨ 1 < interlace then none
  return ⟨width, height, depth, color, interlace = 1⟩

/-- The bytes of a row of some pixels. -/
def rowBytes (h : Header) (width : Nat) : Nat := (width * h.channels * h.depth + 7) / 8

/-- The sizes of the pictures that are sent one after the other: a single one, or seven that take up
ever finer places. -/
def passes (h : Header) : List (Nat × Nat) :=
  if h.interlaced then
    let places := fun size start step => (size + step - 1 - start) / step
    ([(0, 8, 0, 8), (4, 8, 0, 8), (0, 4, 4, 8), (2, 4, 0, 4), (0, 2, 2, 4), (1, 2, 0, 2),
      (0, 1, 1, 2)].map fun (x, dx, y, dy) => (places h.width x dx, places h.height y dy)).filter
      fun (w, k) => w ≠ 0 && k ≠ 0
  else [(h.width, h.height)]

/-- The bytes of all decoded pixels, with an opacity for each if some are declared transparent. -/
def pixelBytes (h : Header) (transparent : Bool) : Nat :=
  let samples := if h.color = 3 then 3 else h.channels
  let samples := if transparent then samples + 1 else samples
  h.width * h.height * samples * (if h.depth = 16 then 2 else 1)

end Header

/-- Whether rows of some length are all there, behind filters that are known. Gives the place behind
them. -/
def rows? (raw : ByteArray) (rowBytes : Nat) : Nat → Nat → Option Nat
  | 0, pos => some pos
  | count + 1, pos =>
    match byte? raw pos with
    | none => none
    | some filter =>
      if 4 < filter ∨ raw.size < pos + 1 + rowBytes then none
      else rows? raw rowBytes count (pos + 1 + rowBytes)

/-- Whether all rows of all passes are there. -/
def hasAllRows (h : Header) (raw : ByteArray) : Bool :=
  (h.passes.foldlM (fun pos (w, k) => rows? raw (h.rowBytes w) k pos) 0).isSome

/-- What was read before the pixels. -/
structure Front where
  header : Header
  hasPalette : Bool
  transparent : Bool
  deriving DecidableEq, Repr

/-- A chunk that a reader may do without: its first letter is small. -/
def isAncillary (name : List UInt8) : Bool :=
  match name with
  | b :: _ => b &&& 0x20 ≠ 0
  | [] => false

/-- Takes in a chunk before the pixels. -/
def Front.take? (f : Front) (name : List UInt8) (size : Nat) : Option Front :=
  if name = "IHDR".toUTF8.toList ∨ name = "IEND".toUTF8.toList then none
  else if name = "PLTE".toUTF8.toList then
    if f.hasPalette then none else some { f with hasPalette := true }
  else if name = "tRNS".toUTF8.toList then
    if f.header.color = 4 ∨ f.header.color = 6 then none
    else if f.header.color = 3 ∧ !f.hasPalette then none
    else if f.header.color = 0 ∧ size < 2 ∨ f.header.color = 2 ∧ size < 6 then none
    else some { f with transparent := true }
  else some f

/-- A chunk at a place: its name, where its content begins, and its size. -/
structure Chunk where
  name : List UInt8
  start : Nat
  size : Nat
  deriving DecidableEq, Repr

/-- Reads the head of a chunk. -/
def chunk? (data : ByteArray) (pos : Nat) : Option Chunk :=
  match big? data pos 4 with
  | none => none
  | some size =>
    if data.size < pos + 8 ∨ 0x80000000 ≤ size then none
    else some ⟨(data.extract (pos + 4) (pos + 8)).data.toList, pos + 8, size⟩

/-- Where a chunk ends. -/
def Chunk.stop (c : Chunk) : Nat := c.start + c.size + 4

/-- Whether a chunk is all there. -/
def Chunk.isWhole (c : Chunk) (data : ByteArray) : Bool := c.stop ≤ data.size

/-- Whether a chunk's checksum is right. -/
def Chunk.isSound (c : Chunk) (data : ByteArray) : Bool :=
  big? data (c.start + c.size) 4 =
    some (crc (data.extract (c.start - 4) (c.start + c.size))).toNat

/-- Reads the chunks before the pixels. Gives what they say and the place of the first data chunk. -/
def front? (data : ByteArray) : Nat → Nat → Front → Option (Front × Nat)
  | 0, _, _ => none
  | fuel + 1, pos, f =>
    match chunk? data pos with
    | none => none
    | some c =>
      if c.name = "IDAT".toUTF8.toList then some (f, pos)
      else if !c.isWhole data then none
      else if !c.isSound data then
        if isAncillary c.name then front? data fuel c.stop f else none
      else
        match f.take? c.name c.size with
        | none => none
        | some f => front? data fuel c.stop f

/-- Gathers the data chunks that stand in a row. Behind them another chunk must begin. -/
def gather? (data : ByteArray) : Nat → Nat → ByteArray → Option ByteArray
  | 0, _, _ => none
  | fuel + 1, pos, acc =>
    match chunk? data pos with
    | none => none
    | some c =>
      if c.name ≠ "IDAT".toUTF8.toList then some acc
      else if !c.isWhole data ∨ !c.isSound data then none
      else gather? data fuel c.stop (acc ++ data.extract c.start (c.start + c.size))

/-- The size of the picture in a file that can be decoded. -/
def size? (data : ByteArray) : Option (Nat × Nat) := do
  if !hasAt data 0 signature then none
  let c ← chunk? data 8
  if c.name ≠ "IHDR".toUTF8.toList ∨ c.size < 13 ∨ !c.isWhole data ∨ !c.isSound data then none
  let header ← Header.read? data c.start
  let (f, pos) ← front? data data.size c.stop ⟨header, false, false⟩
  if header.color = 3 ∧ !f.hasPalette then none
  if maxPixelBytes < header.pixelBytes f.transparent then none
  let stream ← gather? data data.size pos .empty
  let raw ← Inflate.unwrap? stream
  if hasAllRows header raw then some (header.width, header.height) else none

end Silhouette.Image.Png
