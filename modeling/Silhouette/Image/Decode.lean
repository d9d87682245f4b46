import Silhouette.Image.Png
import Silhouette.Image.Gif
import Silhouette.Image.Bmp
import Silhouette.Image.Jpeg
import Silhouette.Image.Webp
import Silhouette.Removal.Install

/-!
Decoding image data. The kind of file is told by its first bytes alone, whatever format was declared;
what counts here is whether the pixels can be had, and how many there are.
-/
namespace Silhouette.Image

/-- The reason that is given for image data without a picture. -/
def unreadable : String := "no readable picture"

/-- The size of the picture in a file of a known kind that can be decoded. -/
def size? (data : ByteArray) : Option (Nat × Nat) :=
  if hasAt data 0 Png.signature then Png.size? data
  else if hasAt data 0 [0xff, 0xd8, 0xff] then Jpeg.size? data
  else if hasAt data 0 "GIF8".toUTF8.toList then Gif.size? data
  else if hasAt data 0 "RIFF".toUTF8.toList then Webp.size? data
  else if hasAt data 0 "BM".toUTF8.toList then Bmp.size? data
  else none

/-- Decodes image data. -/
def decode (data : ByteArray) : Decoding :=
  match size? data with
  | some (width, height) => .bitmap ⟨width, height⟩
  | none => .failure unreadable

end Silhouette.Image
