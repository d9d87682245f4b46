import Silhouette.Asset.Basic
import Silhouette.Json.Decode
import Silhouette.Json.Text

/-!
Formats and asset ids in JSON. Both are written as strings that hold their text; any string is a
format, and a string that is no asset id is refused.
-/
namespace Silhouette

/-- The JSON text of a format. -/
def Format.json (f : Format) : String := Json.quote f.extension

/-- Reads a format. -/
def Format.ofJson? (s : String) : Option Format :=
  ((Json.Tree.read? s).bind Json.Tree.text?).map Format.parse

/-- The JSON text of an asset id. -/
def AssetId.json (id : AssetId) : String := Json.quote id.text

/-- Reads an asset id. -/
def AssetId.ofJson? (s : String) : Option AssetId :=
  ((Json.Tree.read? s).bind Json.Tree.text?).bind fun text => (AssetId.parse text).toOption

end Silhouette
