import Silhouette.Host.Renderer
import Silhouette.Host.Storage
import Silhouette.Host.Folder

/-!
The host as the removal of backgrounds sees it: a cache, a loader, a registry and a renderer. The
cache is always the storage in memory; loader and registry usually are too, but the loader may also
be a folder of files or give one fixed answer, and the registry may refuse everything.
-/
namespace Silhouette

/-- Where asset data is loaded from. -/
inductive Loader where
  | storage
  | folder (folder : AssetFolder) (tree : FileTree)
  | fixed (answer : Except HostError Buffer) (latency : Option Duration)

/-- Where new assets are taken in. -/
inductive Registry where
  | storage
  | refusing (cause : HostError)
  deriving DecidableEq

/-- A host. -/
structure Host where
  storage : Storage
  loader : Loader
  registry : Registry
  renderer : Renderer

namespace Host

/-- A host with everything in memory. -/
def inMemory (storage : Storage) (renderer : Renderer) : Host :=
  ⟨storage, .storage, .storage, renderer⟩

instance : Inhabited Host := ⟨inMemory default default⟩

/-- Looks an asset up in the cache. -/
def lookup (h : Host) (id : AssetId) : Option Asset × Host :=
  let (found, storage) := h.storage.lookup id
  (found, { h with storage })

/-- How long a load takes. -/
def loadLatency (h : Host) : Duration :=
  match h.loader with
  | .storage => h.storage.latency.getD ⟨0⟩
  | .folder _ _ => ⟨0⟩
  | .fixed _ latency => latency.getD ⟨0⟩

/-- Begins a load: only the storage in memory counts it. -/
def beginLoad (h : Host) : Host :=
  match h.loader with
  | .storage => { h with storage := h.storage.countLoad }
  | _ => h

/-- What a load gives at its end. -/
def loaded (h : Host) (key : StorageKey) : Except HostError Buffer :=
  match h.loader with
  | .storage => h.storage.loaded key
  | .folder folder tree => folder.load tree key
  | .fixed answer _ => answer

/-- Takes a new asset in. -/
def createAsset (h : Host) (format : Format) (bytes : ByteArray) :
    Except HostError (Asset × Host) :=
  match h.registry with
  | .refusing cause => .error cause
  | .storage =>
    match h.storage.createAsset format bytes with
    | .error e => .error e
    | .ok (asset, storage) => .ok (asset, { h with storage })

/-- The host with another renderer. -/
def withRenderer (h : Host) (renderer : Renderer) : Host := { h with renderer }

end Host

end Silhouette
