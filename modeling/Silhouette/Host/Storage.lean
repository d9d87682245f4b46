import Silhouette.Table
import Silhouette.Duration
import Silhouette.Host.Error
import Silhouette.Asset.Basic

/-!
Storage in memory. It plays three roles: a cache of assets by id, a loader of data by storage key,
which may take its time, and a registry that takes new assets in. It counts what it is asked.
-/
namespace Silhouette

/-- Cached assets, stored data, and the counts of lookups, loads and created assets. -/
structure Storage where
  cache : Table AssetId Asset
  stored : Table StorageKey ByteArray
  latency : Option Duration
  lookups : Nat
  loads : Nat
  created : Nat

namespace Storage

/-- Storage that holds nothing. -/
def empty (latency : Option Duration) : Storage := ⟨Table.empty, Table.empty, latency, 0, 0, 0⟩

instance : Inhabited Storage := ⟨empty none⟩

/-- Caches an asset under its id. -/
def insertCached (s : Storage) (asset : Asset) : Storage :=
  { s with cache := s.cache.put asset.id asset }

/-- Keeps data under a key. -/
def storeBytes (s : Storage) (key : StorageKey) (bytes : ByteArray) : Storage :=
  { s with stored := s.stored.put key bytes }

/-- The data under a key. -/
def storedBytes (s : Storage) (key : StorageKey) : Option ByteArray := s.stored.get? key

/-- Whether an asset is cached. -/
def contains (s : Storage) (id : AssetId) : Bool := s.cache.contains id

/-- Counts a lookup in the cache. -/
def countLookup (s : Storage) : Storage := { s with lookups := s.lookups + 1 }

/-- Counts a load. -/
def countLoad (s : Storage) : Storage := { s with loads := s.loads + 1 }

/-- Looks an asset up in the cache. -/
def lookup (s : Storage) (id : AssetId) : Option Asset × Storage := (s.cache.get? id, s.countLookup)

/-- What loading a key gives, once the latency is over. -/
def loaded (s : Storage) (key : StorageKey) : Except HostError Buffer :=
  match s.storedBytes key with
  | some bytes => .ok (.shared bytes)
  | none => .error (.notFound key.text)

/-- Loads the data under a key. -/
def load (s : Storage) (key : StorageKey) : Except HostError Buffer × Storage :=
  (s.loaded key, s.countLoad)

/-- Takes a new asset in: its data is stored and the asset cached. Empty data is refused. -/
def createAsset (s : Storage) (format : Format) (bytes : ByteArray) :
    Except HostError (Asset × Storage) :=
  if bytes.size = 0 then .error (.registryRejected "empty asset")
  else
    let asset := Asset.ofBytes format bytes
    let s := (s.storeBytes asset.storageKey bytes).insertCached asset
    .ok (asset, { s with created := s.created + 1 })

/-- The short description of storage. -/
def summary (s : Storage) : String :=
  "MemoryStorage \x7b cached: " ++ toString s.cache.size ++ ", stored: " ++
    toString s.stored.size ++ ", load_latency: " ++
    (match s.latency with
     | none => "None"
     | some d => "Some(" ++ d.text ++ ")") ++ ", .. \x7d"

end Storage

end Silhouette
