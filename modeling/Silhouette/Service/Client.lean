import Silhouette.Bytes.Equality
import Silhouette.Service.Config
import Silhouette.Service.Upload

/-!
The client of the removal service. A request that cannot be framed is never sent; every other is sent
once, and the response is judged by its status first and by its content type second.
-/
namespace Silhouette

/-- A request as it goes out. -/
structure HttpRequest where
  url : String
  keyHeader : String
  key : String
  form : Http.FormPart
  deriving DecidableEq

/-- A response; the content type is a header value and need not be text. -/
structure HttpResponse where
  status : Nat
  contentType : Option (List UInt8)
  body : ByteArray
  deriving DecidableEq

/-- What becomes of a request that was sent. -/
inductive Exchange where
  | answered (response : HttpResponse)
  | unreachable (reason : String)
  | late
  deriving DecidableEq

/-- A client whose settings can be sent as headers. -/
structure Client where
  config : ServiceConfig
  deriving DecidableEq

namespace Client

/-- The client for some settings. The header's name is checked before the key. -/
def create (config : ServiceConfig) : Except ServiceError Client :=
  if !Http.isHeaderName config.keyHeader then
    .error (.invalidConfig "api key header: invalid HTTP header name")
  else if !Http.isHeaderValue config.key.secret then
    .error (.invalidConfig "api key is not a valid header value")
  else .ok ⟨config⟩

/-- What a response means: an error unless the status is one of success, an error unless the content
is declared an image, and else the body as it came. -/
def judge (r : HttpResponse) : Except ServiceError ServiceOutput :=
  if r.status < 200 ∨ 300 ≤ r.status then
    .error (.httpError r.status (ErrorBody.parse (Text.Utf8.decodeLossy r.body.data.toList)))
  else
    let contentType := r.contentType.bind Http.visibleText?
    match contentType, contentType.bind Format.ofMime? with
    | some contentType, some format => .ok ⟨r.body, format, contentType⟩
    | contentType, _ => .error (.notImage contentType)

/-- The request as it goes out, if it can be framed. -/
def request (c : Client) (r : ServiceRequest) : Except ServiceError HttpRequest :=
  match r.formPart with
  | .error e => .error e
  | .ok part => .ok ⟨c.config.endpoint, c.config.keyHeader, c.config.key.secret, part⟩

/-- What an exchange means. -/
def outcome (c : Client) : Exchange → Except ServiceError ServiceOutput
  | .answered response => judge response
  | .unreachable reason => .error (.networkError reason)
  | .late => .error (.timeout c.config.timeout)

/-- Asks the service, given what becomes of every request that is sent. Besides the outcome this
gives the requests sent. -/
def transform (c : Client) (network : HttpRequest → Exchange) (r : ServiceRequest) :
    Except ServiceError ServiceOutput × List HttpRequest :=
  match c.request r with
  | .error e => (.error e, [])
  | .ok sent => (c.outcome (network sent), [sent])

/-- The service as it is reached through a client, given what becomes of every request. -/
def service (c : Client) (network : HttpRequest → Exchange) : Service :=
  fun _ r => (c.transform network r).1

end Client

end Silhouette
