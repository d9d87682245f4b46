import Silhouette.Proofs.Integrity

/-! Storage as a machine with six operations. The cache keeps one asset for an id and forgets its format when
the content comes again under another one; the store keeps data under id and format. Both are written for
content under its own id only, so what was registered can be lost to nothing but other content with the same
id. -/
namespace Silhouette

/-- What storage can be asked to do. Content is cached and stored under its own id. -/
inductive StorageCall where
  | create (format : Format) (bytes : ByteArray)
  | lookup (id : AssetId)
  | load (key : StorageKey)
  | contains (id : AssetId)
  | cache (format : Format) (bytes : ByteArray)
  | store (format : Format) (bytes : ByteArray)

/-- What storage answers. -/
inductive StorageAnswer where
  | created (asset : Asset)
  | found (asset : Option Asset)
  | loaded (result : Except HostError Buffer)
  | known (yes : Bool)
  | done
  | refused (cause : HostError)
  deriving DecidableEq

namespace StorageCall

/-- The content that a call brings, and the format that it brings it under. -/
def content? : StorageCall → Option (Format × ByteArray)
  | .create format bytes | .cache format bytes | .store format bytes => some (format, bytes)
  | .lookup _ | .load _ | .contains _ => none

/-- A call that has content cached as an asset of a format. -/
def Caches (call : StorageCall) (format : Format) (bytes : ByteArray) : Prop :=
  call = .create format bytes ∨ call = .cache format bytes

/-- A call that brings other content with the same id. -/
def Collides (call : StorageCall) (bytes : ByteArray) : Prop :=
  ∃ format other, call.content? = some (format, other) ∧ AssetId.Collision bytes other

end StorageCall

namespace Storage

/-- One operation. -/
def perform (s : Storage) : StorageCall → StorageAnswer × Storage
  | .create format bytes =>
    match s.createAsset format bytes with
    | .error e => (.refused e, s)
    | .ok (asset, s) => (.created asset, s)
  | .lookup id =>
    let (asset, s) := s.lookup id
    (.found asset, s)
  | .load key =>
    let (result, s) := s.load key
    (.loaded result, s)
  | .contains id => (.known (s.contains id), s)
  | .cache format bytes => (.done, s.insertCached (.ofBytes format bytes))
  | .store format bytes => (.done, s.storeBytes (.of (.compute bytes) format) bytes)

/-- Storage after some operations. -/
def after (s : Storage) (calls : List StorageCall) : Storage :=
  calls.foldl (fun s call => (s.perform call).2) s

/-- An asset that storage answers for, whichever way it is asked: it knows the id, it has an asset of this id
and content, in a format that one of some calls has brought, and under the key of the asset it has the
content. -/
structure Offers (s : Storage) (asset : Asset) (bytes : ByteArray) (calls : List StorageCall) : Prop where
  known : (s.perform (.contains asset.id)).1 = .known true
  found : ∃ twin, (s.perform (.lookup asset.id)).1 = .found (some twin) ∧ twin.id = asset.id ∧
    twin.bytes = .ok (some bytes) ∧ ∃ call ∈ calls, call.Caches twin.format bytes
  loaded : ∃ data, (s.perform (.load asset.storageKey)).1 = .loaded (.ok data) ∧
    data.normalize = .ok bytes

/-- Content that is in both tables: cached under a format that one of some calls has brought, and stored under
a format of its own. -/
structure Retains (s : Storage) (format : Format) (bytes : ByteArray) (calls : List StorageCall) :
    Prop where
  cached : ∃ cachedAs, s.cache.get? (.compute bytes) = some (.ofBytes cachedAs bytes) ∧
    ∃ call ∈ calls, call.Caches cachedAs bytes
  stored : s.stored.get? (.of (.compute bytes) format) = some bytes

variable {s : Storage} {format : Format} {bytes : ByteArray} {calls : List StorageCall}

/-! ## One operation -/

theorem Retains.mono {more : List StorageCall} (retains : s.Retains format bytes calls)
    (included : calls ⊆ more) : s.Retains format bytes more := by
  obtain ⟨⟨cachedAs, cached, call, member, caches⟩, stored⟩ := retains
  exact ⟨⟨cachedAs, cached, call, included member, caches⟩, stored⟩

/-- Content that is cached takes the place of other content only if the ids are the same. -/
theorem Retains.insertCached (retains : s.Retains format bytes calls) (other : Format)
    (content : ByteArray) {call : StorageCall} (member : call ∈ calls)
    (caches : call.Caches other content) :
    (s.insertCached (.ofBytes other content)).Retains format bytes calls ∨
      AssetId.Collision bytes content := by
  by_cases same : AssetId.compute bytes = AssetId.compute content
  · rcases AssetId.eq_or_collision same with rfl | collision
    · exact .inl ⟨⟨other, by simp [Storage.insertCached, Asset.ofBytes], call, member, caches⟩,
        retains.stored⟩
    · exact .inr collision
  · obtain ⟨cachedAs, cached, origin⟩ := retains.cached
    have apart : AssetId.compute bytes ≠ (Asset.ofBytes other content).id := same
    refine .inl ⟨⟨cachedAs, ?_, origin⟩, retains.stored⟩
    rw [Storage.insertCached, Table.get?_put, if_neg apart]
    exact cached

/-- So does content that is stored. -/
theorem Retains.storeBytes (retains : s.Retains format bytes calls) (other : Format)
    (content : ByteArray) :
    (s.storeBytes (.of (.compute content) other) content).Retains format bytes calls ∨
      AssetId.Collision bytes content := by
  by_cases same : StorageKey.of (.compute bytes) format = .of (.compute content) other
  · rcases AssetId.eq_or_collision (StorageKey.id_eq_of_of_eq same) with rfl | collision
    · exact .inl ⟨retains.cached, by simp [Storage.storeBytes, same]⟩
    · exact .inr collision
  · refine .inl ⟨retains.cached, ?_⟩
    rw [Storage.storeBytes, Table.get?_put, if_neg same]
    exact retains.stored

/-- Content that storage takes in is in both tables. -/
theorem createAsset_retains (filled : bytes.size ≠ 0) (s : Storage) (format : Format) :
    ∃ after, s.createAsset format bytes = .ok (.ofBytes format bytes, after) ∧
      after.Retains format bytes [.create format bytes] := by
  refine ⟨_, if_neg filled, ⟨format, ?_, _, List.mem_singleton.mpr rfl, .inl rfl⟩, ?_⟩
  · simp [Storage.insertCached, Asset.ofBytes]
  · simp [Storage.insertCached, Storage.storeBytes, Asset.storageKey, Asset.ofBytes]

/-- Taking content in stores it first and caches it then. -/
theorem Retains.createAsset {other : Format} {content : ByteArray} {asset : Asset} {after : Storage}
    (retains : s.Retains format bytes calls)
    (created : s.createAsset other content = .ok (asset, after))
    (member : .create other content ∈ calls) :
    after.Retains format bytes calls ∨ AssetId.Collision bytes content := by
  unfold Storage.createAsset at created
  split at created
  · cases created
  · cases created
    rcases retains.storeBytes other content with stored | collision
    · rcases stored.insertCached other content member (.inl rfl) with kept | collision
      · exact .inl ⟨kept.cached, kept.stored⟩
      · exact .inr collision
    · exact .inr collision

theorem Retains.perform (retains : s.Retains format bytes calls) (call : StorageCall) :
    (s.perform call).2.Retains format bytes (calls ++ [call]) ∨ call.Collides bytes := by
  have wider : s.Retains format bytes (calls ++ [call]) :=
    retains.mono (List.subset_append_left calls [call])
  have member : call ∈ calls ++ [call] := by simp
  cases call with
  | create other content =>
    cases created : s.createAsset other content with
    | error e => simpa [Storage.perform, created] using .inl wider
    | ok made =>
      rcases wider.createAsset created member with kept | collision
      · simpa [Storage.perform, created] using .inl kept
      · exact .inr ⟨other, content, rfl, collision⟩
  | lookup id => exact .inl ⟨wider.cached, wider.stored⟩
  | load key => exact .inl ⟨wider.cached, wider.stored⟩
  | contains id => exact .inl wider
  | cache other content =>
    exact (wider.insertCached other content member (.inr rfl)).imp_right
      fun collision => ⟨other, content, rfl, collision⟩
  | store other content =>
    exact (wider.storeBytes other content).imp_right
      fun collision => ⟨other, content, rfl, collision⟩

/-! ## A run of operations -/

theorem Retains.after (retains : s.Retains format bytes calls) (later : List StorageCall) :
    (s.after later).Retains format bytes (calls ++ later) ∨
      ∃ call ∈ later, call.Collides bytes := by
  induction later generalizing s calls with
  | nil => exact .inl (retains.mono (List.subset_append_left calls []))
  | cons call rest ih =>
    rcases retains.perform call with kept | collides
    · rcases ih kept with held | ⟨other, member, collides⟩
      · exact .inl (by simpa [Storage.after] using held)
      · exact .inr ⟨other, List.mem_cons_of_mem _ member, collides⟩
    · exact .inr ⟨call, List.mem_cons_self, collides⟩

/-- Storage answers for content that is in both tables. -/
theorem Retains.offers (retains : s.Retains format bytes calls) (filled : bytes.size ≠ 0) :
    s.Offers (.ofBytes format bytes) bytes calls := by
  obtain ⟨⟨cachedAs, cached, origin⟩, stored⟩ := retains
  refine ⟨?_, ⟨.ofBytes cachedAs bytes, ?_, rfl, Asset.bytes_ofBytes filled cachedAs, origin⟩,
    ⟨.shared bytes, ?_, Buffer.normalize_eq_ok.mpr ⟨rfl, filled⟩⟩⟩
  · simp [Storage.perform, Storage.contains, Table.contains, Asset.ofBytes, cached]
  · simp [Storage.perform, Storage.lookup, Asset.ofBytes, cached]
  · simp [Storage.perform, Storage.load, Storage.loaded, Storage.storedBytes, Asset.storageKey,
      Asset.ofBytes, stored]

/-- **Registered assets are never lost.** Content is refused just if it is empty, and then storage stays as it
is. Any other content becomes an asset that storage answers for from then on, whatever it is asked to do
later; only the format in which the asset is found may be that of a later call with the same content. The
one exception is a later call that brings other content with the same id. -/
theorem registered_asset_is_never_lost (s : Storage) (before : List StorageCall) (format : Format)
    (bytes : ByteArray) :
    (bytes.size = 0 ∧ (s.after before).perform (.create format bytes) =
      (.refused (.registryRejected "empty asset"), s.after before)) ∨
    (bytes.size ≠ 0 ∧ ∃ asset,
      ((s.after before).perform (.create format bytes)).1 = .created asset ∧
      asset.id = .compute bytes ∧ asset.format = format ∧ asset.bytes = .ok (some bytes) ∧
      ∀ later,
        (s.after (before ++ .create format bytes :: later)).Offers asset bytes
          (.create format bytes :: later) ∨
        ∃ call ∈ later, call.Collides bytes) := by
  by_cases empty : bytes.size = 0
  · refine .inl ⟨empty, ?_⟩
    simp [Storage.perform, Storage.createAsset, empty]
  · obtain ⟨registered, created, retains⟩ := createAsset_retains empty (s.after before) format
    have performed : (s.after before).perform (.create format bytes) =
        (.created (.ofBytes format bytes), registered) := by
      simp only [Storage.perform, created]
    refine .inr ⟨empty, .ofBytes format bytes, congrArg Prod.fst performed, rfl, rfl,
      Asset.bytes_ofBytes empty format, fun later => ?_⟩
    have run : s.after (before ++ .create format bytes :: later) = registered.after later := by
      simp only [Storage.after, List.foldl_append, List.foldl_cons]
      exact congrArg (fun done => done.2.after later) performed
    rw [run]
    exact (retains.after later).imp_left fun held => held.offers empty

/-- A picture that comes again under another format is found in the newer one, and still loaded under the key of
the older. -/
example :
    let s := (empty none).after [.create .png ⟨#[7]⟩, .cache .jpeg ⟨#[7]⟩]
    (s.perform (.lookup (.compute ⟨#[7]⟩))).1 = .found (some (.ofBytes .jpeg ⟨#[7]⟩)) ∧
      (s.perform (.load (.of (.compute ⟨#[7]⟩) .png))).1 = .loaded (.ok (.shared ⟨#[7]⟩)) := by
  decide +kernel

end Storage

end Silhouette
