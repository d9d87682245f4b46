import Silhouette.Proofs.Delivery
import Silhouette.Proofs.StorageKey
import Silhouette.Proofs.Table

/-! Content integrity. Resolving a costume hashes nothing: it hands on what the asset brings along, what
the cache holds or what is stored under the asset's key. That this is the content the id names rests on
storage, whose cache and store are filled separately and agree with the ids in both. Whatever is taken
in keeps that agreement, so that all ways to come by the content of an id give the same bytes unless
the digest itself collides. -/
namespace Silhouette

/-- An asset whose content, if it brings along any that can be read, is the one its id names. -/
def Asset.Truthful (a : Asset) : Prop :=
  ∀ bytes, a.bytes = .ok (some bytes) → AssetId.compute bytes = a.id

/-- Two contents that differ and have one id. -/
def AssetId.Collision (a b : ByteArray) : Prop := a ≠ b ∧ compute a = compute b

theorem AssetId.eq_or_collision {a b : ByteArray} (same : compute a = compute b) :
    a = b ∨ Collision a b := by
  by_cases equal : a = b
  · exact .inl equal
  · exact .inr ⟨equal, same⟩

/-- The image data of a buffer is all that it names. -/
theorem Buffer.normalize_eq_ok {b : Buffer} :
    b.normalize = .ok bytes ↔ b.window = .ok bytes ∧ bytes.size ≠ 0 := by
  unfold normalize
  cases named : b.window with
  | error e => simp
  | ok window =>
    by_cases empty : window.size = 0
    · simp only [empty, if_true, reduceCtorEq, Except.ok.injEq, false_iff, not_and, not_not]
      rintro rfl
      exact empty
    · simp only [empty, if_false, Except.ok.injEq, iff_self_and]
      rintro rfl
      exact empty

namespace Asset

theorem content_filled {a : Asset} {content : ByteArray} (known : a.bytes = .ok (some content)) :
    content.size ≠ 0 := by
  unfold Asset.bytes at known
  split at known
  · cases known
  · rename_i buffer kept
    cases normal : buffer.normalize with
    | error e =>
      rw [normal] at known
      cases known
    | ok window =>
      rw [normal] at known
      cases known
      exact (Buffer.normalize_eq_ok.mp normal).2

/-- An asset that some content makes has that content or, if it is empty, none. -/
theorem truthful_ofBytes (format : Format) (content : ByteArray) :
    (ofBytes format content).Truthful := by
  intro bytes known
  by_cases empty : content.size = 0
  · have refused : (ofBytes format content).bytes = .error .empty := by
      simp [ofBytes, Asset.bytes, Buffer.normalize, Buffer.window, empty, Except.map]
    rw [refused] at known
    cases known
  · rw [bytes_ofBytes empty] at known
    cases known
    rfl

theorem truthful_reference (id : AssetId) (format : Format) : (reference id format).Truthful := by
  intro bytes known
  cases known

end Asset

namespace Storage

/-- Storage in which contents and ids agree: what is cached stands under its own id and is truthful, and
what is stored under a key of some id, whatever the format, is content of that id. -/
structure Consistent (s : Storage) : Prop where
  cached : ∀ id asset, s.cache.get? id = some asset → asset.id = id ∧ asset.Truthful
  stored : ∀ id format bytes, s.stored.get? (.of id format) = some bytes →
    AssetId.compute bytes = id

/-- What can be put into storage: new content for the registry, an asset made from content or a mere
reference for the cache, and content for the store under its own id. -/
inductive Deposit where
  | create (format : Format) (bytes : ByteArray)
  | cacheContent (format : Format) (bytes : ByteArray)
  | cacheReference (id : AssetId) (format : Format)
  | store (format : Format) (bytes : ByteArray)

/-- Storage after something was put in. A registry that refuses leaves it as it was. -/
def deposit (s : Storage) : Deposit → Storage
  | .create format bytes =>
    match s.createAsset format bytes with
    | .ok (_, after) => after
    | .error _ => s
  | .cacheContent format bytes => s.insertCached (.ofBytes format bytes)
  | .cacheReference id format => s.insertCached (.reference id format)
  | .store format bytes => s.storeBytes (.of (.compute bytes) format) bytes

/-- Storage after several things were put in, one after the other. -/
def depositAll (s : Storage) (deposits : List Deposit) : Storage := deposits.foldl deposit s

variable {s after : Storage}

theorem consistent_empty (latency : Option Duration) : (empty latency).Consistent where
  cached := nofun
  stored := nofun

theorem Consistent.insertCached {asset : Asset} (consistent : s.Consistent)
    (truthful : asset.Truthful) : (s.insertCached asset).Consistent where
  cached := by
    intro id found held
    simp only [Storage.insertCached, Table.get?_put] at held
    split at held
    · rename_i same
      cases held
      exact ⟨same.symm, truthful⟩
    · exact consistent.cached id found held
  stored := consistent.stored

theorem Consistent.storeBytes (consistent : s.Consistent) (format : Format) (content : ByteArray) :
    (s.storeBytes (.of (.compute content) format) content).Consistent where
  cached := consistent.cached
  stored := by
    intro id other bytes held
    simp only [Storage.storeBytes, Table.get?_put] at held
    split at held
    · -- the key may spell another format, never another id
      rename_i same
      cases held
      exact (StorageKey.id_eq_of_of_eq same).symm
    · exact consistent.stored id other bytes held

theorem Consistent.createAsset {asset : Asset} (consistent : s.Consistent)
    (created : s.createAsset format bytes = .ok (asset, after)) : after.Consistent := by
  unfold Storage.createAsset at created
  split at created
  · cases created
  · cases created
    have kept := (consistent.storeBytes format bytes).insertCached (Asset.truthful_ofBytes format bytes)
    exact ⟨kept.cached, kept.stored⟩

theorem Consistent.deposit (consistent : s.Consistent) (d : Deposit) : (s.deposit d).Consistent := by
  cases d with
  | create format bytes =>
    cases created : s.createAsset format bytes with
    | error e => simpa only [Storage.deposit, created] using consistent
    | ok made =>
      have kept : made.2.Consistent := consistent.createAsset created
      simpa only [Storage.deposit, created] using kept
  | cacheContent format bytes => exact consistent.insertCached (Asset.truthful_ofBytes format bytes)
  | cacheReference id format => exact consistent.insertCached (Asset.truthful_reference id format)
  | store format bytes => exact consistent.storeBytes format bytes

theorem Consistent.depositAll (consistent : s.Consistent) (deposits : List Deposit) :
    (s.depositAll deposits).Consistent := by
  induction deposits generalizing s with
  | nil => exact consistent
  | cons d rest ih => exact ih (consistent.deposit d)

end Storage

/-- A costume that only names its picture. -/
def Sample.stray : Costume :=
  .create ⟨.ofNat 3⟩ "stray" (.reference (.compute ⟨#[7]⟩) .png)

namespace Resolve

/-- Where the data of a costume comes from, for each strategy: its own asset, the asset that is cached
under its id, or what loading its key gives. -/
inductive Origin (h : Host) (costume : Costume) : Strategy → ByteArray → Prop where
  | resident (content : costume.asset.bytes = .ok (some bytes)) : Origin h costume .resident bytes
  | cache (held : h.storage.cache.get? costume.asset.id = some asset)
      (content : asset.bytes = .ok (some bytes)) : Origin h costume .cache bytes
  | loader (loaded : h.loaded costume.asset.storageKey = .ok buffer)
      (content : buffer.normalize = .ok bytes) : Origin h costume .loader bytes

variable {h after : Host} {costume : Costume} {found : ResolvedSource}

theorem fromAsset_eq_ok {a : Asset} : fromAsset a = .ok bytes ↔ a.bytes = .ok (some bytes) := by
  unfold fromAsset
  split <;> simp_all

private theorem atHand_origin (gave : atHand h costume = (.ok found, after)) :
    Origin h costume found.strategy found.bytes := by
  unfold atHand at gave
  split at gave
  · rename_i own
    cases gave
    exact .resident (fromAsset_eq_ok.mp own)
  · dsimp only [Host.lookup, Storage.lookup] at gave
    split at gave
    · rename_i cached
      cases gave
      unfold fromCache at cached
      split at cached
      · cases cached
      · rename_i held
        exact .cache held (fromAsset_eq_ok.mp cached)
    · cases gave

/-- Counting lookups and loads changes nothing of what a load gives. -/
theorem loaded_of_consulted (consulted : h.Consulted after) (key : StorageKey) :
    after.loaded key = h.loaded key := by
  obtain ⟨lookups, loads, rfl⟩ := consulted
  unfold Host.loaded
  cases h.loader <;> rfl

private theorem fromLoader_origin (gave : fromLoader timeout h costume.asset.storageKey = .ok bytes) :
    Origin h costume .loader bytes := by
  unfold fromLoader at gave
  split at gave
  · cases gave
  · split at gave
    · cases gave
    · rename_i loaded
      split at gave
      · cases gave
      · rename_i normal
        cases gave
        exact .loader loaded normal

theorem finish_eq_ok : finish costume attempts outcome = .ok found ↔
    ∃ bytes, outcome = .ok bytes ∧ found = source costume .loader bytes := by
  unfold finish
  cases outcome with
  | ok bytes => simp [eq_comm]
  | error e => simp

/-- What was resolved comes from the strategy that is told with it. -/
theorem resolve_origin (resolved : resolve timeout h costume = (.ok found, after)) :
    Origin h costume found.strategy found.bytes := by
  have consulted := atHand_consults h costume
  unfold resolve at resolved
  split at resolved
  · cases resolved
  · split at resolved
    · rename_i gave
      cases resolved
      exact atHand_origin gave
    · rename_i missed
      rw [missed] at consulted
      split at resolved
      · obtain ⟨bytes, gave, rfl⟩ := finish_eq_ok.mp (Prod.mk.inj resolved).1
        cases fromLoader_origin gave with
        | loader loaded content =>
          rw [loaded_of_consulted (beginLoad_consults consulted)] at loaded
          exact .loader loaded content
      · cases resolved

/-- Data that was resolved is not empty. -/
theorem Origin.filled {strategy : Strategy} {content : ByteArray}
    (origin : Origin h costume strategy content) : content.size ≠ 0 := by
  cases origin with
  | resident known => exact Asset.content_filled known
  | cache held known => exact Asset.content_filled known
  | loader loaded normal => exact (Buffer.normalize_eq_ok.mp normal).2

/-- Where storage is consistent, whatever comes out for a truthful costume is what its id names. -/
theorem Origin.named {strategy : Strategy} {content : ByteArray}
    (origin : Origin h costume strategy content) (memory : h.loader = .storage)
    (consistent : h.storage.Consistent) (truthful : costume.asset.Truthful) :
    AssetId.compute content = costume.asset.id := by
  cases origin with
  | resident known => exact truthful _ known
  | cache held known =>
    obtain ⟨own, cached⟩ := consistent.cached _ _ held
    exact (cached _ known).trans own
  | loader loaded normal =>
    rw [Host.loaded, memory] at loaded
    dsimp only [Storage.loaded, Storage.storedBytes] at loaded
    split at loaded
    · rename_i kept
      cases loaded
      obtain ⟨⟨⟩, _⟩ := Buffer.normalize_eq_ok.mp normal
      exact consistent.stored _ _ _ kept
    · cases loaded

/-- A costume resolves to some data with everything in memory, under some deadline. -/
def Gives (s : Storage) (costume : Costume) (found : ResolvedSource) : Prop :=
  ∃ timeout renderer, (resolve timeout (.inMemory s renderer) costume).1 = .ok found

theorem Gives.named {s : Storage} (gives : Gives s costume found) (consistent : s.Consistent)
    (truthful : costume.asset.Truthful) :
    found.bytes.size ≠ 0 ∧ AssetId.compute found.bytes = costume.asset.id := by
  obtain ⟨timeout, renderer, resolved⟩ := gives
  have origin := resolve_origin (Prod.ext resolved rfl)
  exact ⟨origin.filled, origin.named rfl consistent truthful⟩

/-- **Consistent storage gives what ids name.** It stays consistent whatever is put in. A truthful costume
that resolves in it, by whichever strategy, with whatever latency and deadline, resolves to content that
is not empty and that its id names. Two such costumes with one id, each in consistent storage of its own,
resolve to the same bytes, or their bytes are a collision of the digest. -/
theorem consistent_storage_gives_named_content (s : Storage) (consistent : s.Consistent) :
    (∀ deposits, (s.depositAll deposits).Consistent) ∧
    (∀ costume found, costume.asset.Truthful → Gives s costume found →
      found.bytes.size ≠ 0 ∧ AssetId.compute found.bytes = costume.asset.id) ∧
    ∀ (other : Storage) costume twin found found', other.Consistent →
      costume.asset.Truthful → twin.asset.Truthful → twin.asset.id = costume.asset.id →
      Gives s costume found → Gives other twin found' →
      found.bytes = found'.bytes ∨ AssetId.Collision found.bytes found'.bytes := by
  refine ⟨fun deposits => consistent.depositAll deposits, ?_, ?_⟩
  · intro costume found truthful gives
    exact gives.named consistent truthful
  · intro other costume twin found found' consistent' truthful truthful' same gives gives'
    have named := (gives.named consistent truthful).2
    have named' := (gives'.named consistent' truthful').2
    apply AssetId.eq_or_collision
    rw [named, named', same]

open Sample (stray)

/-- One picture, registered here and only stored there: a costume that merely names it finds it in the
cache here and by loading there. -/
theorem registered_and_stored_picture_agree :
    ∃ here there found found',
      here = (Storage.empty none).depositAll [.create .png ⟨#[7]⟩] ∧
      there = (Storage.empty none).depositAll [.store .png ⟨#[7]⟩] ∧
      here.Consistent ∧ there.Consistent ∧ stray.asset.Truthful ∧
      Gives here stray found ∧ found.strategy = .cache ∧
      Gives there stray found' ∧ found'.strategy = .loader ∧
      AssetId.compute found.bytes = stray.asset.id ∧
      (found.bytes = found'.bytes ∨ AssetId.Collision found.bytes found'.bytes) := by
  obtain ⟨fills, _⟩ := consistent_storage_gives_named_content (.empty none) (Storage.consistent_empty none)
  have truthful : stray.asset.Truthful := Asset.truthful_reference _ _
  have raster : stray.format.isRaster = true := rfl
  have alone : fromAsset stray.asset = .error .missing := rfl
  have registered : Gives ((Storage.empty none).depositAll [.create .png ⟨#[7]⟩]) stray
      (source stray .cache ⟨#[7]⟩) := by
    have held : ((Storage.empty none).depositAll [.create .png ⟨#[7]⟩]).cache.get? stray.asset.id =
        some (.ofBytes .png ⟨#[7]⟩) := by
      simp [Storage.depositAll, Storage.deposit, Storage.createAsset, Storage.insertCached, stray,
        Costume.create, Asset.reference, Asset.ofBytes, ByteArray.size]
    have known : fromCache (some (.ofBytes .png ⟨#[7]⟩)) = .ok ⟨#[7]⟩ := rfl
    exact ⟨.ofSecs 4, default, by
      simp [resolve, atHand, Host.lookup, Storage.lookup, Host.inMemory, raster, alone, held, known]⟩
  have stored : Gives ((Storage.empty none).depositAll [.store .png ⟨#[7]⟩]) stray
      (source stray .loader ⟨#[7]⟩) := by
    have kept : ((Storage.empty none).depositAll [.store .png ⟨#[7]⟩]).stored.get?
        stray.asset.storageKey = some ⟨#[7]⟩ := by
      simp [Storage.depositAll, Storage.deposit, Storage.storeBytes, stray, Costume.create,
        Asset.reference, Asset.storageKey]
    have bare : ((Storage.empty none).depositAll [.store .png ⟨#[7]⟩]).cache.get? stray.asset.id =
        none := rfl
    have named : canLoad stray = true := rfl
    have prompt : meetsDeadline ⟨0⟩ (.ofSecs 4) = true := by decide
    have whole : (Buffer.shared ⟨#[7]⟩).normalize = .ok ⟨#[7]⟩ := rfl
    have idle : ((Storage.empty none).depositAll [.store .png ⟨#[7]⟩]).latency = none := rfl
    exact ⟨.ofSecs 4, default, by
      simp [resolve, atHand, Host.lookup, Storage.lookup, Host.inMemory, raster, alone, bare, fromCache,
        named, fromLoader, Host.beginLoad, Host.loadLatency, Storage.countLookup, Storage.countLoad,
        idle, prompt, Host.loaded, Storage.loaded, Storage.storedBytes, kept, whole, finish]⟩
  obtain ⟨_, named, agree⟩ := consistent_storage_gives_named_content _ (fills [.create .png ⟨#[7]⟩])
  exact ⟨_, _, _, _, rfl, rfl, fills _, fills _, truthful, registered, rfl, stored, rfl,
    (named _ _ truthful registered).2,
    agree _ _ _ _ _ (fills [.store .png ⟨#[7]⟩]) truthful truthful rfl registered stored⟩

end Resolve

end Silhouette
