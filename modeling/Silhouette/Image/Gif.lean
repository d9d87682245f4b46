import Silhouette.Image.Inflate

/-!
GIF files: a screen, colors, and blocks. The first picture must fill its frame; its pixels are words
of a code that grows while it is read. The size is that of the screen.
-/
namespace Silhouette.Image.Gif

/-- Skips sub-blocks up to the empty one. Gives the place behind it. -/
def skip? (data : ByteArray) : Nat → Nat → Option Nat
  | 0, _ => none
  | fuel + 1, pos =>
    match byte? data pos with
    | none => none
    | some 0 => some (pos + 1)
    | some n => if data.size < pos + 1 + n then none else skip? data fuel (pos + 1 + n)

/-- Gathers sub-blocks, as far as they are there. -/
def gather (data : ByteArray) : Nat → Nat → ByteArray → ByteArray
  | 0, _, acc => acc
  | fuel + 1, pos, acc =>
    match byte? data pos with
    | none => acc
    | some 0 => acc
    | some n => gather data fuel (pos + 1 + n) (acc ++ data.extract (pos + 1) (pos + 1 + n))

/-- Counts the pixels that words stand for, up to `wanted`. `lengths` holds the number of pixels of
each word that was added, newest first; `width` is the length of the words in bits and `last` the
number of pixels of the word before, zero directly after a reset. Nothing if a word is unknown. -/
def pixels? (data : ByteArray) (minimum wanted : Nat) :
    Nat → Nat → Nat → Array Nat → Nat → Nat → Option Nat
  | 0, _, _, _, _, count => some count
  | fuel + 1, pos, width, lengths, last, count =>
    if wanted ≤ count then some count
    else
      match Inflate.bits? data pos width with
      | none => some count
      | some code =>
        let clear := Nat.pow 2 minimum
        let pos := pos + width
        if code = clear then pixels? data minimum wanted fuel pos (minimum + 1) #[] 0 count
        else if code = clear + 1 then some count
        else
          let known := clear + 2 + lengths.size
          let length? : Option Nat :=
            if code < clear then some 1
            else if code < known then lengths[code - (clear + 2)]?
            else if code = known ∧ last ≠ 0 then some (last + 1)
            else none
          match length? with
          | none => none
          | some length =>
            let lengths :=
              if last ≠ 0 ∧ known < 4096 then lengths.push (last + 1) else lengths
            let width :=
              if clear + 2 + lengths.size = Nat.pow 2 width ∧ width < 12 then width + 1 else width
            pixels? data minimum wanted fuel pos width lengths length (count + length)

/-- Whether the picture whose description begins at a place can be decoded. -/
def frameOk (data : ByteArray) (pos : Nat) (globalColors : Bool) : Option Bool := do
  let width ← little? data (pos + 4) 2
  let height ← little? data (pos + 6) 2
  let flags ← byte? data (pos + 8)
  let localColors := flags / 128 = 1
  let colors := if localColors then 3 * Nat.pow 2 (flags % 8 + 1) else 0
  let pos := pos + 9 + colors
  let minimum ← byte? data pos
  if data.size < pos ∨ 11 < minimum ∨ !(localColors || globalColors) then none
  let words := gather data data.size (pos + 1) .empty
  let wanted := width * height
  let count ← pixels? words minimum wanted (8 * words.size + 1) 0 (minimum + 1) #[] 0 0
  return wanted ≤ count

/-- Looks for the first picture. -/
def firstFrame? (data : ByteArray) (globalColors : Bool) : Nat → Nat → Option Bool
  | 0, _ => none
  | fuel + 1, pos =>
    match byte? data pos with
    | some 0x21 =>
      match skip? data data.size (pos + 2) with
      | none => none
      | some pos => firstFrame? data globalColors fuel pos
    | some 0x2c => frameOk data (pos + 1) globalColors
    | _ => none

/-- The size of the screen of a file whose first picture can be decoded. -/
def size? (data : ByteArray) : Option (Nat × Nat) := do
  if !(hasAt data 0 "GIF87a".toUTF8.toList || hasAt data 0 "GIF89a".toUTF8.toList) then none
  let width ← little? data 6 2
  let height ← little? data 8 2
  let flags ← byte? data 10
  let colors := if flags / 128 = 1 then 3 * Nat.pow 2 (flags % 8 + 1) else 0
  if data.size < 13 + colors ∨ maxPixelBytes < width * height * 4 then none
  let ok ← firstFrame? data (flags / 128 = 1) data.size (13 + colors)
  if ok then some (width, height) else none

end Silhouette.Image.Gif
