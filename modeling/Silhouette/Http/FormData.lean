import Silhouette.Bytes.Equality
import Silhouette.Text.Utf8

/-!
Forms with files as they are sent: parts with two header lines, an empty line and their content,
between boundary lines. In a file name the backslash, the quote and line ends have a backslash in
front.
-/
namespace Silhouette.Http

/-- One part of a form that is sent. -/
structure FormPart where
  name : String
  filename : String
  contentType : String
  content : ByteArray
  deriving DecidableEq

namespace FormPart

/-- One character of a file name between quotes. -/
def escapeChar (c : Char) : List Char :=
  if c = '\\' ∨ c = '"' ∨ c = '\r' ∨ c = '\n' then ['\\', c] else [c]

/-- A file name between quotes. -/
def escape (filename : String) : String := String.ofList (filename.toList.flatMap escapeChar)

/-- The lines in front of a part's content, with the empty one. -/
def header (p : FormPart) : String :=
  "Content-Disposition: form-data; name=\"" ++ p.name ++ "\"; filename=\"" ++ escape p.filename ++
    "\"\r\nContent-Type: " ++ p.contentType ++ "\r\n\r\n"

/-- The body of a form of one part. -/
def encode (boundary : String) (p : FormPart) : ByteArray :=
  ("--" ++ boundary ++ "\r\n" ++ p.header).toUTF8 ++ p.content ++
    ("\r\n--" ++ boundary ++ "--\r\n").toUTF8

end FormPart

end Silhouette.Http
