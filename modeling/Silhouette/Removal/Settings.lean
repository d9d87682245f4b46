import Silhouette.Duration
import Silhouette.Json.Decode
import Silhouette.Json.Text

/-!
The settings of a removal: two time limits and the ending of new names. In JSON the limits are whole
milliseconds; a member that is missing has its usual value, and other members are passed over.
-/
namespace Silhouette

/-- The settings of a removal. -/
structure RemovalSettings where
  loadTimeout : Duration
  decodeTimeout : Duration
  nameSuffix : String
  deriving DecidableEq, Repr

namespace RemovalSettings

/-- How long loading an asset may take. -/
def defaultLoadTimeout : Duration := .ofSecs 4

/-- How long decoding a result may take. -/
def defaultDecodeTimeout : Duration := .ofSecs 10

/-- What the name of a new costume ends in. -/
def defaultNameSuffix : String := " (bg)"

/-- The usual settings. -/
def default : RemovalSettings := ⟨defaultLoadTimeout, defaultDecodeTimeout, defaultNameSuffix⟩

instance : Inhabited RemovalSettings := ⟨default⟩

/-- The whole milliseconds of a duration, as many as a word holds. -/
def wholeMillis (d : Duration) : Nat := min d.millis (0xffffffffffffffff)

/-- The JSON text of the settings. -/
def json (s : RemovalSettings) : String :=
  Json.object [("load_timeout_ms", toString (wholeMillis s.loadTimeout)),
    ("decode_timeout_ms", toString (wholeMillis s.decodeTimeout)),
    ("name_suffix", Json.quote s.nameSuffix)]

/-- The value of a field that may be missing, but if it is there can be read. -/
def orDefault? (read : Json.Tree → Option α) (usual : α) : Option Json.Tree → Option α
  | none => some usual
  | some t => read t

/-- A time given as whole milliseconds. -/
def millis? (t : Json.Tree) : Option Duration := t.nat?.map Duration.ofMillis

/-- The settings in three values, any of which may be missing. -/
def ofFields? (load decode suffix : Option Json.Tree) : Option RemovalSettings := do
  let load ← orDefault? millis? defaultLoadTimeout load
  let decode ← orDefault? millis? defaultDecodeTimeout decode
  let suffix ← orDefault? Json.Tree.text? defaultNameSuffix suffix
  return ⟨load, decode, suffix⟩

/-- Reads the settings from a tree: an object, or an array of up to three values. -/
def ofTree? : Json.Tree → Option RemovalSettings
  | .object members =>
    match Json.Tree.fields? ["load_timeout_ms", "decode_timeout_ms", "name_suffix"] members with
    | some [load, decode, suffix] => ofFields? load decode suffix
    | _ => none
  | .array items =>
    if items.length ≤ 3 then ofFields? items[0]? items[1]? items[2]? else none
  | _ => none

/-- Reads the settings. -/
def ofJson? (s : String) : Option RemovalSettings := (Json.Tree.read? s).bind ofTree?

end RemovalSettings

end Silhouette
