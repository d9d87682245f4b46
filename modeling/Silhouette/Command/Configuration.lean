import Silhouette.Command.Line
import Silhouette.Removal.Settings
import Silhouette.Service.Config
import Silhouette.Toml.Document

/-!
The configuration file: a section for the service, one for removals and one for the relay. Keys that
are not known are refused, except in the section for removals, which passes them over. What the
command line says goes before what the file says.
-/
namespace Silhouette.Command

/-- The section for the service; what it leaves open is decided elsewhere. -/
structure ServiceSection where
  endpoint : Option String
  key : Option ApiKey
  keyHeader : Option String
  timeout : Option Toml.Real

/-- The section for the relay. -/
structure RelaySection where
  bind : Net.SocketAddress
  saveDir : Path
  allowedOrigins : List String
  deriving DecidableEq, Repr

/-- What a configuration file says. -/
structure Configuration where
  service : ServiceSection
  removal : RemovalSettings
  relay : RelaySection

/-- Why there are no settings for the service. -/
inductive SettingsError where
  | keyMissing
  | timeoutRefused (seconds : Float)

/-- The text of a failure. -/
def SettingsError.message : SettingsError → String
  | keyMissing =>
    "no API key: pass --api-key, set CUTOUT_API_KEY or add api_key under [transform]"
  | timeoutRefused seconds =>
    "timeout_secs must be positive, got " ++ Decimal.plainOfFloat seconds

/-- The values of a section's keys. A section may also be an array, with the values in the order of the
keys. Only a strict section refuses other keys, and only a lenient one may be a date. -/
def sectionValues? (strict : Bool) (keys : List String) :
    Toml.Value → Option (List (Option Toml.Value))
  | .table _ members =>
    if strict && !members.all (fun m => keys.contains m.1) then none
    else some (keys.map fun key => Toml.Members.get? members key)
  | .array items => some ((List.range keys.length).map fun i => items[i]?)
  | .moment => if strict then none else some (keys.map fun _ => none)
  | _ => none

/-- A value that may be missing, but if it is there can be read. -/
def optional? (read : Toml.Value → Option α) : Option Toml.Value → Option (Option α)
  | none => some none
  | some v => (read v).map some

/-- Reads a string. -/
def text? : Toml.Value → Option String
  | .string s => some s
  | _ => none

/-- Reads a number, whole or not. -/
def number? : Toml.Value → Option Toml.Real
  | .real x => some x
  | .integer n => some (.number (Float.ofInt n))
  | _ => none

/-- Reads a time in whole milliseconds. -/
def millis? : Toml.Value → Option Duration
  | .integer n => if 0 ≤ n then some (.ofMillis n.toNat) else none
  | _ => none

/-- Reads a list of strings. -/
def texts? : Toml.Value → Option (List String)
  | .array items => items.mapM text?
  | _ => none

namespace ServiceSection

/-- The section that says nothing. -/
def empty : ServiceSection := ⟨none, none, none, none⟩

/-- Reads the section. -/
def ofValue? (v : Toml.Value) : Option ServiceSection :=
  match sectionValues? true ["endpoint", "api_key", "api_key_header", "timeout_secs"] v with
  | some [endpoint, key, keyHeader, timeout] => do
    let endpoint ← optional? text? endpoint
    let key ← optional? text? key
    let keyHeader ← optional? text? keyHeader
    let timeout ← optional? number? timeout
    return ⟨endpoint, key.map ApiKey.mk, keyHeader, timeout⟩
  | _ => none

/-- The time limit that the section asks for; it must be longer than nothing. -/
def timeLimit (s : ServiceSection) : Except SettingsError (Option Duration) :=
  match s.timeout.map Toml.Real.toFloat with
  | none => .ok none
  | some seconds =>
    match (Duration.ofSeconds? seconds).filter (· ≠ ⟨0⟩) with
    | none => .error (.timeoutRefused seconds)
    | some timeout => .ok (some timeout)

/-- The settings for the service. The command line's key counts unless it is blank, and the file's key
is taken as it stands. Work in bulk has a time limit of its own. -/
def settings (s : ServiceSection) (shared : SharedOptions) (bulk : Bool) :
    Except SettingsError ServiceConfig :=
  match (shared.key.bind ApiKey.ofText?).or s.key with
  | none => .error .keyMissing
  | some key =>
    let usual : ServiceConfig := if bulk then .batch key else .interactive key
    match s.timeLimit with
    | .error e => .error e
    | .ok timeout =>
      .ok
        { endpoint := (shared.endpoint.or s.endpoint).getD usual.endpoint
          key
          keyHeader := s.keyHeader.getD usual.keyHeader
          timeout := timeout.getD usual.timeout }

end ServiceSection

/-- Reads the section for removals. -/
def removalSection? (v : Toml.Value) : Option RemovalSettings :=
  match sectionValues? false ["load_timeout_ms", "decode_timeout_ms", "name_suffix"] v with
  | some [load, decode, suffix] => do
    let load ← optional? millis? load
    let decode ← optional? millis? decode
    let suffix ← optional? text? suffix
    return ⟨load.getD RemovalSettings.defaultLoadTimeout,
      decode.getD RemovalSettings.defaultDecodeTimeout,
      suffix.getD RemovalSettings.defaultNameSuffix⟩
  | _ => none

namespace RelaySection

/-- The usual settings: the own machine only, and the pages of a local editor. -/
def usual : RelaySection :=
  ⟨.octets [127, 0, 0, 1] 3001, Path.ofText "saved",
   ["http://localhost:8601", "http://127.0.0.1:8601"]⟩

/-- Reads the section. -/
def ofValue? (v : Toml.Value) : Option RelaySection :=
  match sectionValues? true ["bind", "save_dir", "allowed_origins"] v with
  | some [bind, saveDir, allowedOrigins] => do
    let bind ← optional? (fun v => (text? v).bind Net.SocketAddress.parse?) bind
    let saveDir ← optional? text? saveDir
    let allowedOrigins ← optional? texts? allowedOrigins
    return ⟨bind.getD usual.bind, (saveDir.map Path.ofText).getD usual.saveDir,
      allowedOrigins.getD usual.allowedOrigins⟩
  | _ => none

end RelaySection

namespace Configuration

/-- The configuration without a file. -/
def usual : Configuration := ⟨.empty, .default, .usual⟩

/-- Reads a configuration. -/
def read? (text : String) : Option Configuration := do
  let members ← Toml.read? text
  match sectionValues? true ["transform", "pipeline", "proxy"] (.table .header members) with
  | some [service, removal, relay] =>
    let service ← optional? ServiceSection.ofValue? service
    let removal ← optional? removalSection? removal
    let relay ← optional? RelaySection.ofValue? relay
    return ⟨service.getD usual.service, removal.getD usual.removal, relay.getD usual.relay⟩
  | _ => none

end Configuration

end Silhouette.Command
