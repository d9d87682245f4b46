import Silhouette.Image.Field

/-!
Inflating: the bytes that a compressed stream stands for. A stream is a sequence of blocks, stored or
coded with two canonical codes, and a code is given by the lengths of its words alone. Wrapped
streams have a header of two bytes and a checksum of four at their end, which is not compared.
-/
namespace Silhouette.Image.Inflate

/-- The bit at a place, counted from the lowest bit of the first byte. -/
def bit? (data : ByteArray) (pos : Nat) : Option Nat :=
  (byte? data (pos / 8)).map fun b => b / Nat.pow 2 (pos % 8) % 2

/-- The number in `count` bits, the lowest first. -/
def bits? (data : ByteArray) (pos : Nat) : Nat → Option Nat
  | 0 => some 0
  | count + 1 =>
    match bit? data pos, bits? data (pos + 1) count with
    | some b, some rest => some (b + 2 * rest)
    | _, _ => none

/-- A canonical code: how many words there are of each length from one on, and the symbols by the
length of their words. -/
structure Code where
  counts : List Nat
  symbols : Array Nat
  deriving Repr

/-- The greatest length of a word. -/
def maxLength : Nat := 15

namespace Code

/-- The code with given word lengths; a symbol of length zero has no word. -/
def ofLengths (lengths : List Nat) : Code :=
  let places := (List.range maxLength).map fun k =>
    (lengths.zipIdx.filter fun p => p.1 = k + 1).map Prod.snd
  ⟨places.map List.length, places.flatten.toArray⟩

/-- How much of the space of words is taken, in units of the longest word. -/
def weight (c : Code) : Nat :=
  c.counts.zipIdx.foldl (fun sum (count, k) => sum + count * Nat.pow 2 (maxLength - (k + 1))) 0

/-- Every sequence of bits begins with a word, and with one only. -/
def isComplete (c : Code) : Bool := c.weight = Nat.pow 2 maxLength

/-- A code for distances may also have no word at all, or a single one of one bit. -/
def isDistanceCode (c : Code) : Bool :=
  c.isComplete || c.symbols.size = 0 || (c.symbols.size = 1 && c.counts.head? = some 1)

/-- Reads a word bit by bit. `code` is what was read, `first` the first word of its length and
`index` the place of that word's symbol. -/
def walk (symbols : Array Nat) (data : ByteArray) :
    List Nat → Nat → Nat → Nat → Nat → Option (Nat × Nat)
  | [], _, _, _, _ => none
  | count :: counts, pos, code, first, index =>
    match bit? data pos with
    | none => none
    | some b =>
      let code := code + b
      if code < first + count then
        if first ≤ code then
          (symbols[index + (code - first)]?).map fun s => (s, pos + 1)
        else none
      else
        walk symbols data counts (pos + 1) (2 * code) (2 * (first + count)) (index + count)

/-- The symbol whose word stands at a place, and the place behind it. -/
def next? (c : Code) (data : ByteArray) (pos : Nat) : Option (Nat × Nat) :=
  walk c.symbols data c.counts pos 0 0 0

end Code

/-- The shortest copy for each length symbol, and the number of bits that extend it. -/
def lengthTable : List (Nat × Nat) :=
  [(3, 0), (4, 0), (5, 0), (6, 0), (7, 0), (8, 0), (9, 0), (10, 0), (11, 1), (13, 1), (15, 1),
   (17, 1), (19, 2), (23, 2), (27, 2), (31, 2), (35, 3), (43, 3), (51, 3), (59, 3), (67, 4),
   (83, 4), (99, 4), (115, 4), (131, 5), (163, 5), (195, 5), (227, 5), (258, 0)]

/-- The nearest distance for each distance symbol, and the number of bits that extend it. -/
def distanceTable : List (Nat × Nat) :=
  [(1, 0), (2, 0), (3, 0), (4, 0), (5, 1), (7, 1), (9, 2), (13, 2), (17, 3), (25, 3), (33, 4),
   (49, 4), (65, 5), (97, 5), (129, 6), (193, 6), (257, 7), (385, 7), (513, 8), (769, 8),
   (1025, 9), (1537, 9), (2049, 10), (3073, 10), (4097, 11), (6145, 11), (8193, 12), (12289, 12),
   (16385, 13), (24577, 13)]

/-- A number from a table, extended by the bits that follow. -/
def extended? (table : List (Nat × Nat)) (symbol : Nat) (data : ByteArray) (pos : Nat) :
    Option (Nat × Nat) :=
  match table[symbol]? with
  | none => none
  | some (base, extra) => (bits? data pos extra).map fun n => (base + n, pos + extra)

/-- Repeats bytes from a distance back, one by one, so that a copy may run into itself. -/
def copy (distance : Nat) : Nat → ByteArray → ByteArray
  | 0, out => out
  | n + 1, out =>
    match byte? out (out.size - distance) with
    | none => out
    | some b => copy distance n (out.push b.toUInt8)

/-- Reads the symbols of a block up to its end. Every symbol takes a bit at least, so `fuel` above
the number of bits never runs out. -/
def symbols? (literals distances : Code) (data : ByteArray) :
    Nat → Nat → ByteArray → Option (Nat × ByteArray)
  | 0, _, _ => none
  | fuel + 1, pos, out =>
    match literals.next? data pos with
    | none => none
    | some (s, pos) =>
      if s < 256 then symbols? literals distances data fuel pos (out.push s.toUInt8)
      else if s = 256 then some (pos, out)
      else
        match extended? lengthTable (s - 257) data pos with
        | none => none
        | some (length, pos) =>
          match distances.next? data pos with
          | none => none
          | some (d, pos) =>
            match extended? distanceTable d data pos with
            | none => none
            | some (distance, pos) =>
              if out.size < distance then none
              else symbols? literals distances data fuel pos (copy distance length out)

/-- The codes of a block that brings none of its own. -/
def fixedCodes : Code × Code :=
  (.ofLengths (List.replicate 144 8 ++ List.replicate 112 9 ++ List.replicate 24 7 ++
    List.replicate 8 8), .ofLengths (List.replicate 30 5))

/-- The order in which the lengths of the code for lengths are given. -/
def lengthOrder : List Nat := [16, 17, 18, 0, 8, 7, 9, 6, 10, 5, 11, 4, 12, 3, 13, 2, 14, 1, 15]

/-- Reads word lengths until there are `total` of them; the lengths so far come last first. -/
def lengths? (code : Code) (data : ByteArray) (total : Nat) :
    Nat → Nat → List Nat → Option (Nat × List Nat)
  | 0, _, _ => none
  | fuel + 1, pos, done =>
    if done.length = total then some (pos, done.reverse)
    else if total < done.length then none
    else
      match code.next? data pos with
      | none => none
      | some (s, pos) =>
        if s < 16 then lengths? code data total fuel pos (s :: done)
        else
          let (value, base, extra) : Option Nat × Nat × Nat :=
            if s = 16 then (done.head?, 3, 2)
            else if s = 17 then (some 0, 3, 3) else (some 0, 11, 7)
          match value, bits? data pos extra with
          | some v, some n =>
            lengths? code data total fuel (pos + extra) (List.replicate (base + n) v ++ done)
          | _, _ => none

/-- Reads the codes that a block brings along. -/
def codes? (data : ByteArray) (pos : Nat) : Option (Nat × Code × Code) := do
  let literalCount := (← bits? data pos 5) + 257
  let distanceCount := (← bits? data (pos + 5) 5) + 1
  let lengthCount := (← bits? data (pos + 10) 4) + 4
  if 286 < literalCount then none
  let given ← (List.range lengthCount).mapM fun k => bits? data (pos + 14 + 3 * k) 3
  let lengthOf := fun symbol =>
    match lengthOrder.idxOf? symbol with
    | none => 0
    | some k => given.getD k 0
  let code := Code.ofLengths ((List.range 19).map lengthOf)
  if !code.isComplete then none
  let (pos, all) ← lengths? code data (literalCount + distanceCount)
    (literalCount + distanceCount + 1) (pos + 14 + 3 * lengthCount) []
  let literals := Code.ofLengths (all.take literalCount)
  let distances := Code.ofLengths (all.drop literalCount)
  if all.getD 256 0 = 0 || !literals.isComplete || !distances.isDistanceCode then none
  return (pos, literals, distances)

/-- Reads a stored block: its length, the length's complement, and its bytes. -/
def stored? (data : ByteArray) (pos : Nat) (out : ByteArray) : Option (Nat × ByteArray) := do
  let i := (pos + 7) / 8
  let length ← little? data i 2
  let complement ← little? data (i + 2) 2
  if length + complement ≠ 65535 then none
  if data.size < i + 4 + length then none
  return (8 * (i + 4 + length), out ++ data.extract (i + 4) (i + 4 + length))

/-- Reads blocks up to the last one. -/
def blocks? (data : ByteArray) : Nat → Nat → ByteArray → Option (Nat × ByteArray)
  | 0, _, _ => none
  | fuel + 1, pos, out =>
    match bits? data pos 1, bits? data (pos + 1) 2 with
    | some last, some kind =>
      let pos := pos + 3
      let block :=
        if kind = 0 then stored? data pos out
        else if kind = 1 then
          symbols? fixedCodes.1 fixedCodes.2 data (8 * data.size + 1) pos out
        else if kind = 2 then
          match codes? data pos with
          | none => none
          | some (pos, literals, distances) =>
            symbols? literals distances data (8 * data.size + 1) pos out
        else none
      match block with
      | none => none
      | some (pos, out) => if last = 1 then some (pos, out) else blocks? data fuel pos out
    | _, _ => none

/-- The bytes that a wrapped stream stands for. -/
def unwrap? (data : ByteArray) : Option ByteArray := do
  let first ← byte? data 0
  let second ← byte? data 1
  if first % 16 ≠ 8 ∨ 7 < first / 16 ∨ second / 32 % 2 = 1 ∨ (first * 256 + second) % 31 ≠ 0 then
    none
  let (pos, out) ← blocks? data (8 * data.size + 1) 16 .empty
  if data.size < (pos + 7) / 8 + 4 then none
  return out

end Silhouette.Image.Inflate
