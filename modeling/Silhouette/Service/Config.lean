import Silhouette.Duration
import Silhouette.Decimal.Notation
import Silhouette.Text.Blank
import Silhouette.Text.Quoted
import Silhouette.Json.Decode
import Silhouette.Json.Text

/-!
The settings of the removal service: where it is, the key that it wants and the header that carries
it, and how long to wait. In JSON the time is a number of seconds; in descriptions the key is hidden.
-/
namespace Silhouette

/-- The key of an account. -/
structure ApiKey where
  secret : String
  deriving DecidableEq

namespace ApiKey

/-- The key in a text, without blanks around it; there is none in a blank text. -/
def ofText? (s : String) : Option ApiKey :=
  let key := Text.trim s
  if key = "" then none else some ⟨key⟩

/-- The description of a key does not show it. -/
def summary (_ : ApiKey) : String := "ApiKey([REDACTED])"

/-- The description of an optional key. -/
def optionSummary : Option ApiKey → String
  | none => "None"
  | some key => "Some(" ++ key.summary ++ ")"

end ApiKey

/-- The settings of the service. -/
structure ServiceConfig where
  endpoint : String
  key : ApiKey
  keyHeader : String
  timeout : Duration
  deriving DecidableEq

namespace ServiceConfig

/-- The service that is used unless another is named. -/
def defaultEndpoint : String := "https://api.backgrounderase.net/v2"

/-- The header that carries the key unless another is named. -/
def defaultKeyHeader : String := "x-api-key"

/-- How long someone at a screen waits. -/
def interactiveTimeout : Duration := .ofSecs 15

/-- How long work in bulk waits. -/
def batchTimeout : Duration := .ofSecs 120

/-- The settings with a key and everything else as usual. -/
def interactive (key : ApiKey) : ServiceConfig :=
  ⟨defaultEndpoint, key, defaultKeyHeader, interactiveTimeout⟩

/-- The settings for work in bulk. -/
def batch (key : ApiKey) : ServiceConfig := { interactive key with timeout := batchTimeout }

/-- The description of the settings. -/
def summary (c : ServiceConfig) : String :=
  "TransformConfig \x7b endpoint: " ++ Text.Quoted.text c.endpoint ++ ", api_key: " ++
    c.key.summary ++ ", api_key_header: " ++ Text.Quoted.text c.keyHeader ++ ", timeout: " ++
    c.timeout.text ++ " \x7d"

/-- The JSON text of the settings. -/
def json (c : ServiceConfig) : String :=
  Json.object [("endpoint", Json.quote c.endpoint), ("api_key", Json.quote c.key.secret),
    ("api_key_header", Json.quote c.keyHeader),
    ("timeout", Decimal.jsonOfFloat c.timeout.toSeconds)]

/-- A time given as a number of seconds. -/
def seconds? (t : Json.Tree) : Option Duration := t.float?.bind Duration.ofSeconds?

/-- The settings in four values, all of which must be there. -/
def ofFields? : List (Option Json.Tree) → Option ServiceConfig
  | [endpoint, key, keyHeader, timeout] => do
    let endpoint ← Json.required? Json.Tree.text? endpoint
    let key ← Json.required? Json.Tree.text? key
    let keyHeader ← Json.required? Json.Tree.text? keyHeader
    let timeout ← Json.required? seconds? timeout
    return ⟨endpoint, ⟨key⟩, keyHeader, timeout⟩
  | _ => none

/-- Reads the settings from a tree: an object with the four members, or an array of the four values. -/
def ofTree? : Json.Tree → Option ServiceConfig
  | .object members =>
    (Json.Tree.fields? ["endpoint", "api_key", "api_key_header", "timeout"] members).bind ofFields?
  | .array items => ofFields? (items.map some)
  | _ => none

/-- Reads the settings. -/
def ofJson? (s : String) : Option ServiceConfig := (Json.Tree.read? s).bind ofTree?

end ServiceConfig

end Silhouette
