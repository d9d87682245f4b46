import Silhouette.Image.Field

/-!
JPEG files: segments under markers up to the first scan. Frame, tables and scan header must be whole
and fit together; the coded pixels themselves may break off anywhere.
-/
namespace Silhouette.Image.Jpeg

/-- What the segments so far say. -/
structure Found where
  frame : Option (Nat × Nat × List (Nat × Nat))
  quantizers : List Nat
  codes : List Nat
  deriving Repr

/-- Reads the tables of quantizers in a segment: the places that they define. -/
def quantizers? (data : ByteArray) (stop : Nat) : Nat → Nat → List Nat → Option (List Nat)
  | 0, _, _ => none
  | fuel + 1, pos, found =>
    if pos = stop then some found
    else
      match byte? data pos with
      | none => none
      | some b =>
        let next := pos + 1 + (if b / 16 = 0 then 64 else 128)
        if 1 < b / 16 ∨ 3 < b % 16 ∨ stop < next then none
        else quantizers? data stop fuel next ((b % 16) :: found)

/-- Reads the codes in a segment: the places that they define, 16 more for the second class. -/
def codes? (data : ByteArray) (stop : Nat) : Nat → Nat → List Nat → Option (List Nat)
  | 0, _, _ => none
  | fuel + 1, pos, found =>
    if pos = stop then some found
    else if stop < pos + 17 then none
    else
      match byte? data pos with
      | none => none
      | some b =>
        let count :=
          ((List.range 16).map fun k => (byte? data (pos + 1 + k)).getD 0).sum
        let next := pos + 17 + count
        if 1 < b / 16 ∨ 3 < b % 16 ∨ 256 < count ∨ stop < next then none
        else codes? data stop fuel next (b :: found)

/-- Reads a frame header: width, height, and for each component its name and quantizer. -/
def frame? (data : ByteArray) (pos stop : Nat) : Option (Nat × Nat × List (Nat × Nat)) := do
  let depth ← byte? data pos
  let height ← big? data (pos + 1) 2
  let width ← big? data (pos + 3) 2
  let count ← byte? data (pos + 5)
  if depth ≠ 8 ∨ width = 0 ∨ height = 0 ∨ count ∉ [1, 3, 4] ∨ stop ≠ pos + 6 + 3 * count then none
  let components ← (List.range count).mapM fun k => do
    let name ← byte? data (pos + 6 + 3 * k)
    let sampling ← byte? data (pos + 7 + 3 * k)
    let quantizer ← byte? data (pos + 8 + 3 * k)
    if sampling / 16 ∉ [1, 2, 4] ∨ sampling % 16 ∉ [1, 2, 4] ∨ 3 < quantizer then none
    return (name, quantizer)
  return (width, height, components)

/-- Whether a scan header fits what was found before it. -/
def scanOk (data : ByteArray) (pos stop : Nat) (f : Found) (progressive : Bool) : Option Bool := do
  let (_, _, components) ← f.frame
  let count ← byte? data pos
  if count = 0 ∨ 4 < count ∨ stop ≠ pos + 1 + 2 * count + 3 then none
  let parts ← (List.range count).mapM fun k => do
    let name ← byte? data (pos + 1 + 2 * k)
    let tables ← byte? data (pos + 2 + 2 * k)
    return (name, tables)
  return parts.all fun (name, tables) =>
    (components.any fun c => c.1 = name) &&
      (progressive || (f.codes.contains (tables / 16) && f.codes.contains (16 + tables % 16))) &&
      (components.all fun c => c.1 ≠ name || f.quantizers.contains c.2)

/-- Reads segments up to the first scan. -/
def scan? (data : ByteArray) : Nat → Nat → Bool → Found → Option (Nat × Nat)
  | 0, _, _, _ => none
  | fuel + 1, pos, progressive, f =>
    match byte? data pos, byte? data (pos + 1) with
    | some 0xff, some marker =>
      if marker = 0xff then scan? data fuel (pos + 1) progressive f
      else if marker = 0x00 ∨ marker = 0x01 ∨ (0xd0 ≤ marker ∧ marker ≤ 0xd8) then
        scan? data fuel (pos + 2) progressive f
      else if marker = 0xd9 then none
      else
        match big? data (pos + 2) 2 with
        | none => none
        | some length =>
          let start := pos + 4
          let stop := pos + 2 + length
          if length < 2 ∨ data.size < stop then none
          else if marker = 0xda then
            match scanOk data start stop f progressive, f.frame with
            | some true, some (width, height, _) => some (width, height)
            | _, _ => none
          else if marker = 0xdb then
            match quantizers? data stop 64 start f.quantizers with
            | none => none
            | some quantizers => scan? data fuel stop progressive { f with quantizers }
          else if marker = 0xc4 then
            match codes? data stop 64 start f.codes with
            | none => none
            | some codes => scan? data fuel stop progressive { f with codes }
          else if marker = 0xc0 ∨ marker = 0xc1 ∨ marker = 0xc2 then
            match f.frame, frame? data start stop with
            | none, some frame =>
              scan? data fuel stop (marker = 0xc2) { f with frame := some frame }
            | _, _ => none
          else if 0xc3 ≤ marker ∧ marker ≤ 0xcf then none
          else scan? data fuel stop progressive f
    | _, _ => none

/-- The size of the picture in a file that can be decoded. -/
def size? (data : ByteArray) : Option (Nat × Nat) := do
  if !hasAt data 0 [0xff, 0xd8, 0xff] then none
  let (width, height) ← scan? data data.size 2 false ⟨none, [], []⟩
  if maxPixelBytes < width * height * 3 then none
  return (width, height)

end Silhouette.Image.Jpeg
