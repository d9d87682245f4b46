import Silhouette.Asset.Format
import Silhouette.Bytes.Equality
import Silhouette.Http.FormData
import Silhouette.Http.Mime
import Silhouette.Service.Error

/-!
Requests to the removal service and the single form part that carries them. A part needs content, a
file name without line breaks, and a content type that is a media type.
-/
namespace Silhouette

/-- What the service is asked to do: take the background out of an image. -/
structure ServiceRequest where
  bytes : ByteArray
  filename : String
  format : Option Format
  contentType : Option String
  deriving DecidableEq

/-- An image with its background taken out. -/
structure ServiceOutput where
  bytes : ByteArray
  format : Format
  contentType : String
  deriving DecidableEq

/-- The service as one caller sees it: its answer to a request may depend on the requests before. -/
abbrev Service := List ServiceRequest → ServiceRequest → Except ServiceError ServiceOutput

namespace ServiceRequest

/-- The name of the part that carries the image. -/
def fieldName : String := "image_file"

/-- The content type of the part: the one asked for, or else that of the format. -/
def partContentType (r : ServiceRequest) : String :=
  match r.contentType, r.format with
  | some contentType, _ => contentType
  | none, some format => format.mime
  | none, none => "image/png"

/-- The form part for a request. -/
def formPart (r : ServiceRequest) : Except ServiceError Http.FormPart :=
  if r.bytes.size = 0 then .error (.encodeFailed "payload is empty")
  else if r.filename.toList.any fun c => c = '\r' || c = '\n' then
    .error (.encodeFailed
      ("filename " ++ Text.Quoted.text r.filename ++ " contains a line break"))
  else
    match Http.Mime.parse? r.partContentType with
    | none =>
      .error (.encodeFailed
        ("part content type " ++ Text.Quoted.text r.partContentType ++ ": builder error"))
    | some type => .ok ⟨fieldName, r.filename, String.ofList type.text, r.bytes⟩

end ServiceRequest

end Silhouette
