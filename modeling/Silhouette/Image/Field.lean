/-!
Numbers and marks at places of a byte string, as the headers of image files hold them.
-/
namespace Silhouette.Image

/-- The byte at a place. -/
def byte? (data : ByteArray) (i : Nat) : Option Nat :=
  if _ : i < data.size then some data[i].toNat else none

/-- The number in `count` bytes, the lowest first. -/
def little? (data : ByteArray) (i : Nat) : Nat → Option Nat
  | 0 => some 0
  | count + 1 =>
    match byte? data i, little? data (i + 1) count with
    | some b, some rest => some (b + 256 * rest)
    | _, _ => none

/-- The number in `count` bytes, the highest first. -/
def big? (data : ByteArray) (i count : Nat) : Option Nat :=
  (List.range count).foldlM (fun n k => (byte? data (i + k)).map (n * 256 + ·)) 0

/-- Whether some bytes stand at a place. -/
def hasAt (data : ByteArray) (i : Nat) (mark : List UInt8) : Bool :=
  (data.extract i (i + mark.length)).data.toList = mark

/-- The largest number of bytes that decoded pixels may take: 512 MiB. -/
def maxPixelBytes : Nat := 512 * 1024 * 1024

end Silhouette.Image
