import Silhouette.Files.Tree
import Silhouette.Host.Error
import Silhouette.Asset.Basic

/-!
A folder of asset files, each named by its asset's storage key. What was saved can be loaded again
under the same key.
-/
namespace Silhouette

/-- A folder that holds asset files. -/
structure AssetFolder where
  root : Path
  deriving DecidableEq, Repr

namespace AssetFolder

/-- The path of the file for a key. -/
def pathFor (folder : AssetFolder) (key : StorageKey) : Path :=
  folder.root.join (Path.ofText key.text)

/-- The data of an asset that is to be saved. -/
def content (asset : Asset) : Except HostError ByteArray :=
  match asset.bytes with
  | .error e => .error (.buffer e)
  | .ok none => .error (.notFound asset.storageKey.text)
  | .ok (some bytes) => .ok bytes

/-- Saves an asset's data, creating the folder if needed. The tree that comes back is the one that is
left, also after a failure. -/
def save (folder : AssetFolder) (tree : FileTree) (asset : Asset) :
    Except HostError Path × FileTree :=
  match content asset with
  | .error e => (.error e, tree)
  | .ok bytes =>
    match tree.createDirectories folder.root with
    | (.error e, tree) => (.error (.io folder.root e), tree)
    | (.ok (), tree) =>
      let path := folder.pathFor asset.storageKey
      match tree.write path bytes with
      | .error e => (.error (.io path e), tree)
      | .ok tree => (.ok path, tree)

/-- Loads the data under a key; a missing file is a missing asset. -/
def load (folder : AssetFolder) (tree : FileTree) (key : StorageKey) : Except HostError Buffer :=
  match tree.read (folder.pathFor key) with
  | .ok bytes => .ok (.packed bytes)
  | .error e =>
    if e = .notFound then .error (.notFound key.text)
    else .error (.io (folder.pathFor key) e)

end AssetFolder

end Silhouette
