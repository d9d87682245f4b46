import Silhouette.Text.Blank

/-!
Image formats. Six formats have names of their own; every other tag is kept as text, in the form
that reading it leaves: without blanks around it, without leading points, and in lower case.
-/
namespace Silhouette

/-- The format that some image data is declared to have. -/
inductive Format where
  | png
  | jpeg
  | gif
  | bmp
  | webp
  | svg
  | other (tag : String)
  deriving DecidableEq, Repr, Inhabited

namespace Format

/-- What is left of a tag before it is looked up: blanks go first, then leading points, and letters
become lower case. -/
def normalize (tag : String) : String :=
  String.ofList (((Text.trimChars tag.toList).dropWhile (· == '.')).map Text.lowerChar)

/-- The format with a tag in its normal form. -/
def ofTag (tag : String) : Format :=
  if tag = "png" then .png
  else if tag = "jpg" ∨ tag = "jpeg" then .jpeg
  else if tag = "gif" then .gif
  else if tag = "bmp" then .bmp
  else if tag = "webp" then .webp
  else if tag = "svg" then .svg
  else .other tag

/-- The format that a tag names; every text names one. -/
def parse (tag : String) : Format := ofTag (normalize tag)

/-- A MIME type without its parameters and the blanks around it. -/
def essence (mime : String) : List Char :=
  Text.trimChars (mime.toList.takeWhile (· != ';'))

/-- The format of a MIME type, if the type is an image. -/
def ofMime? (mime : String) : Option Format :=
  (Text.after? "image/".toList ((essence mime).map Text.lowerChar)).map fun subtype =>
    if subtype = "svg+xml".toList then .svg else parse (String.ofList subtype)

/-- The MIME type of a format. -/
def mime : Format → String
  | png => "image/png"
  | jpeg => "image/jpeg"
  | gif => "image/gif"
  | bmp => "image/bmp"
  | webp => "image/webp"
  | svg => "image/svg+xml"
  | other _ => "application/octet-stream"

/-- The ending of file names of a format, which is also its text. -/
def extension : Format → String
  | png => "png"
  | jpeg => "jpg"
  | gif => "gif"
  | bmp => "bmp"
  | webp => "webp"
  | svg => "svg"
  | other tag => tag

/-- All formats but the vector format hold pixels. -/
def isRaster : Format → Bool
  | svg => false
  | _ => true

end Format

end Silhouette
