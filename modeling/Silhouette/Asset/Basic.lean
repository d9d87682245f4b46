import Silhouette.Asset.Format
import Silhouette.Asset.Buffer
import Silhouette.Asset.Id

/-!
Assets: image data under the id of its content. An asset may be a mere reference, whose data some
store keeps under the asset's storage key.
-/
namespace Silhouette

/-- An asset; its data is absent for a reference. -/
structure Asset where
  id : AssetId
  format : Format
  data : Option Buffer
  deriving DecidableEq

/-- The name under which a store keeps the data of an asset. -/
structure StorageKey where
  text : String
  deriving DecidableEq, Repr

/-- The key of an id and a format: the id's text, a point, and the format's extension. -/
def StorageKey.of (id : AssetId) (format : Format) : StorageKey :=
  ⟨id.text ++ "." ++ format.extension⟩

namespace Asset

/-- The asset that some content makes. -/
def ofBytes (format : Format) (bytes : ByteArray) : Asset :=
  ⟨AssetId.compute bytes, format, some (.shared bytes)⟩

/-- An asset without data. -/
def reference (id : AssetId) (format : Format) : Asset := ⟨id, format, none⟩

/-- An asset whose data the host keeps in a buffer of its own. -/
def withBuffer (id : AssetId) (format : Format) (data : Buffer) : Asset := ⟨id, format, some data⟩

/-- The asset comes with data, usable or not. -/
def isResident (a : Asset) : Bool := a.data.isSome

/-- The content of an asset, if it comes with any. -/
def bytes (a : Asset) : Except BufferError (Option ByteArray) :=
  match a.data with
  | none => .ok none
  | some b => b.normalize.map some

/-- The key under which a store keeps the asset's data. -/
def storageKey (a : Asset) : StorageKey := .of a.id a.format

end Asset

end Silhouette
