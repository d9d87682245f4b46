import Silhouette.Host.Storage
import Silhouette.Proofs.Folder
import Silhouette.Proofs.Integrity

/-! A folder of assets and storage in memory answer alike. Both are given the same items, the folder as assets to
save and storage as contents to create assets of. Between the two a relation holds from the beginning, in a tree
that need not have the folder yet, and every item keeps it: under every key the folder has a file with just the
bytes that storage has. So a load finds nothing in both, or in both the content of the last item with its key. -/
namespace Silhouette

namespace StorageKey

/-- Different keys give files different names. -/
theorem fileName_injective {a b : StorageKey} (same : a.fileName = b.fileName) : a = b := by
  cases a
  cases b
  exact congrArg _ (Text.Utf8.encode_injective same)

end StorageKey

namespace AssetFolder

variable {folder : AssetFolder} {tree ready : FileTree} {s s' : Storage} {place : Place}
  {format : Format}

/-! ## What is stored -/

/-- A format whose keys name files of a folder: its tag has no separator and no byte zero, and with it the name
of a file and its path are not too long. -/
structure Takes (folder : AssetFolder) (format : Format) : Prop where
  whole : '/' ∉ format.extension.toList
  plain : '\x00' ∉ format.extension.toList
  short : 65 + (Text.Utf8.encode format.extension).length ≤ 255
  bounded : ∀ id, (folder.pathFor (.of id format)).bytes.length < 4096

/-- An asset that is content under its own id, in a format that the folder takes. -/
structure Item (folder : AssetFolder) where
  asset : Asset
  content : ByteArray
  resident : asset.bytes = .ok (some content)
  hashed : asset.id = .compute content
  takes : folder.Takes asset.format

/-- Saves assets one after the other, as long as that ends well. -/
def saveAll (folder : AssetFolder) (tree : FileTree) : List Asset → Except HostError FileTree
  | [] => .ok tree
  | asset :: rest =>
    match folder.save tree asset with
    | (.error e, _) => .error e
    | (.ok _, tree) => folder.saveAll tree rest

end AssetFolder

/-- Creates assets one after the other, as long as that ends well. -/
def Storage.createAll (s : Storage) : List (Format × ByteArray) → Except HostError Storage
  | [] => .ok s
  | (format, bytes) :: rest =>
    match s.createAsset format bytes with
    | .error e => .error e
    | .ok (_, s) => s.createAll rest

namespace AssetFolder

variable {folder : AssetFolder} {tree ready : FileTree} {s s' : Storage} {place : Place}
  {format : Format}

/-- The folder can be created, and then has no file of a key in it. It need not be there yet. -/
def IsNew (folder : AssetFolder) (tree : FileTree) : Prop :=
  ∃ ready place, tree.createDirectories folder.root = (.ok (), ready) ∧
    ready.follow [] (FileTree.names folder.root) = .ok place ∧
    ∀ id format, ready.entry? (place ++ [(StorageKey.of id format).fileName]) = none

theorem Item.storageKey_eq (item : Item folder) :
    item.asset.storageKey = .of (.compute item.content) item.asset.format := by
  rw [Asset.storageKey, item.hashed]

theorem Item.content_eq (item : Item folder) :
    AssetFolder.content item.asset = .ok item.content := by
  rw [AssetFolder.content, item.resident]

/-! ## Files of keys -/

/-- A folder whose path leaves room for a name takes every format whose tag fits one. -/
theorem takes_of_room (room : folder.root.bytes.length ≤ 3839)
    (whole : '/' ∉ format.extension.toList) (plain : '\x00' ∉ format.extension.toList)
    (short : 65 + (Text.Utf8.encode format.extension).length ≤ 255) : folder.Takes format := by
  refine ⟨whole, plain, short, fun id => ?_⟩
  have joined := folder.root.length_join_le ⟨(StorageKey.of id format).fileName⟩
  have length := StorageKey.length_fileName id format
  rw [pathFor_eq]
  simp only at joined
  omega

/-- The path of a key can be handed to the system if that of the folder can. -/
theorem Takes.usable (takes : folder.Takes format)
    (given : folder.root.bytes = [] ∨ FileTree.IsUsable folder.root) (id : AssetId) :
    FileTree.IsUsable (folder.pathFor (.of id format)) := by
  have named : FileTree.IsName (StorageKey.of id format).fileName :=
    StorageKey.fileName_isName takes.whole
  refine ⟨?_, ?_, takes.bounded id⟩
  · rw [List.contains_iff_mem]
    intro zero
    rcases Path.mem_join zero with inRoot | separator | inName
    · rcases given with none | usable
      · simp [none] at inRoot
      · exact usable.plain (List.contains_iff_mem.mpr inRoot)
    · cases separator
    · have inTag := (StorageKey.mem_fileName (by decide) (by decide)).mp inName
      exact takes.plain (Text.Utf8.char_mem_of_byte_mem (by decide) inTag)
  · obtain ⟨front, ends⟩ := folder.root.suffix_join ⟨(StorageKey.of id format).fileName⟩
    rw [pathFor_eq, ← ends]
    exact List.append_ne_nil_of_right_ne_nil front named.given

/-- The path of a key leads to its name in the folder, or fails where the path of the folder does. -/
theorem Takes.resolve (takes : folder.Takes format)
    (given : folder.root.bytes = [] ∨ FileTree.IsUsable folder.root) (t : FileTree) (id : AssetId) :
    t.resolve (folder.pathFor (.of id format)) =
      (t.follow [] (FileTree.names folder.root)).map fun place =>
        .name (place ++ [(StorageKey.of id format).fileName]) false := by
  have short : (StorageKey.of id format).fileName.length ≤ 255 := by
    rw [StorageKey.length_fileName]
    exact takes.short
  exact FileTree.resolve_join (StorageKey.fileName_isName takes.whole) short (takes.usable given id)

/-! ## The folder mirrors storage -/

/-- Once the folder is created, its files are what storage has. Before that, storage has nothing. -/
structure Mirrors (folder : AssetFolder) (tree : FileTree) (s : Storage) (ready : FileTree)
    (place : Place) : Prop where
  made : tree.createDirectories folder.root = (.ok (), ready)
  leads : ready.follow [] (FileTree.names folder.root) = .ok place
  files : ∀ id format, ready.entry? (place ++ [(StorageKey.of id format).fileName]) =
    (s.storedBytes (.of id format)).map .file
  there : tree = ready ∨ ∀ key, s.storedBytes key = none

theorem Mirrors.given (mirrors : folder.Mirrors tree s ready place) :
    folder.root.bytes = [] ∨ FileTree.IsUsable folder.root :=
  (FileTree.createDirectories_eq_ok (congrArg Prod.fst mirrors.made)).1

/-- A folder that was created mirrors storage as soon as its files are what storage has. -/
theorem mirrors_of_files (given : folder.root.bytes = [] ∨ FileTree.IsUsable folder.root)
    (leads : tree.follow [] (FileTree.names folder.root) = .ok place)
    (files : ∀ id format, tree.entry? (place ++ [(StorageKey.of id format).fileName]) =
      (s.storedBytes (.of id format)).map .file) : folder.Mirrors tree s tree place :=
  ⟨FileTree.createDirectories_of_follow given leads, leads, files, .inl rfl⟩

/-- Loading from the folder gives the bytes that storage has, or says that there are none. -/
theorem Mirrors.load (mirrors : folder.Mirrors tree s ready place) (takes : folder.Takes format)
    (id : AssetId) : folder.load tree (.of id format) =
      match s.storedBytes (.of id format) with
      | some bytes => .ok (.packed bytes)
      | none => .error (.notFound (StorageKey.of id format).text) := by
  have path := takes.resolve mirrors.given tree id
  rcases FileTree.follow_before_createDirectories (congrArg Prod.fst mirrors.made) with
    ⟨here, follows⟩ | missing
  · -- the folder is there, so creating it changed nothing
    have same : tree = ready := by
      have kept := FileTree.createDirectories_of_follow mirrors.given follows
      rw [mirrors.made] at kept
      exact (congrArg Prod.snd kept).symm
    rw [same, mirrors.leads] at path
    rw [AssetFolder.load, FileTree.read, same, path]
    cases stored : s.storedBytes (.of id format) <;>
      simp [Except.map, mirrors.files id format, stored]
  · have nothing : s.storedBytes (.of id format) = none := by
      rcases mirrors.there with same | nothing
      · rw [same, mirrors.leads] at missing
        cases missing
      · exact nothing _
    rw [missing] at path
    rw [AssetFolder.load, FileTree.read, path, nothing]
    simp [Except.map]

/-- No directory is in the way of a file of the folder. -/
theorem Mirrors.free (mirrors : folder.Mirrors tree s ready place) (asset : Asset) :
    ready.entry? (place ++ [asset.storageKey.fileName]) ≠ some .directory := by
  rw [Asset.storageKey, mirrors.files]
  cases s.storedBytes (.of asset.id asset.format) <;> simp

/-- Bytes that storage is given, and a file of the folder, under one key keep the two alike. -/
theorem Mirrors.put (mirrors : folder.Mirrors tree s ready place) {asset : Asset} {bytes : ByteArray}
    (stored : s'.stored = s.stored.put asset.storageKey bytes) :
    folder.Mirrors (ready.put (place ++ [asset.storageKey.fileName]) (.file bytes)) s'
      (ready.put (place ++ [asset.storageKey.fileName]) (.file bytes)) place := by
  have below : place ++ [asset.storageKey.fileName] ≠ [] := by simp
  refine mirrors_of_files mirrors.given
    ((FileTree.keepsDirectories_put below (mirrors.free asset) _).follow mirrors.leads)
    fun id format => ?_
  rw [FileTree.entryOf_put below, Storage.storedBytes, stored, Table.get?_put]
  by_cases same : StorageKey.of id format = asset.storageKey
  · simp [same]
  · have other : (StorageKey.of id format).fileName ≠ asset.storageKey.fileName :=
      fun names => same (StorageKey.fileName_injective names)
    rw [if_neg (by simpa using other), if_neg same]
    exact mirrors.files id format

/-! ## Giving both an item -/

/-- Storage takes the content of an item and keeps it under the key of its asset. -/
theorem createAsset_item (s : Storage) (item : Item folder) :
    ∃ asset s', s.createAsset item.asset.format item.content = .ok (asset, s') ∧
      s'.stored = s.stored.put item.asset.storageKey item.content := by
  refine ⟨_, _, by rw [Storage.createAsset, if_neg (Asset.content_filled item.resident)], ?_⟩
  rw [item.storageKey_eq]
  rfl

/-- The folder takes the asset of an item as well, and then again has what storage has. -/
theorem Mirrors.step (mirrors : folder.Mirrors tree s ready place) (item : Item folder) :
    ∃ path after, folder.save tree item.asset = (.ok path, after) ∧
      ∃ asset s', s.createAsset item.asset.format item.content = .ok (asset, s') ∧
        s'.stored = s.stored.put item.asset.storageKey item.content ∧
        folder.Mirrors after s' after place := by
  obtain ⟨asset, s', created, stored⟩ := createAsset_item s item
  have path := item.takes.resolve mirrors.given ready item.asset.id
  rw [mirrors.leads] at path
  have written : ready.write (folder.pathFor item.asset.storageKey) item.content =
      .ok (ready.put (place ++ [item.asset.storageKey.fileName]) (.file item.content)) :=
    FileTree.write_eq_ok.mpr ⟨_, path, mirrors.free item.asset, rfl⟩
  refine ⟨folder.pathFor item.asset.storageKey, _, ?_, asset, s', created, stored,
    mirrors.put stored⟩
  rw [AssetFolder.save, item.content_eq]
  simp only [mirrors.made, written]

/-! ## Giving both many items -/

/-- What is under a key after some items: what was there before, or the content of the last item with it. -/
inductive Holds (key : StorageKey) (before : Option ByteArray) :
    List (Item folder) → Option ByteArray → Prop where
  | kept {items : List (Item folder)} (never : ∀ item ∈ items, item.asset.storageKey ≠ key) :
      Holds key before items before
  | given (earlier : List (Item folder)) (item : Item folder) (later : List (Item folder))
      (own : item.asset.storageKey = key) (last : ∀ other ∈ later, other.asset.storageKey ≠ key) :
      Holds key before (earlier ++ item :: later) (some item.content)

theorem Holds.cons {key : StorageKey} {before after : Option ByteArray} {item : Item folder}
    {rest : List (Item folder)}
    (holds : Holds key (if key = item.asset.storageKey then some item.content else before) rest after) :
    Holds key before (item :: rest) after := by
  cases holds with
  | kept never =>
    by_cases own : key = item.asset.storageKey
    · rw [if_pos own]
      exact .given [] item rest own.symm never
    · rw [if_neg own]
      exact .kept (List.forall_mem_cons.mpr ⟨Ne.symm own, never⟩)
  | given earlier one later own last => exact .given (item :: earlier) one later own last

/-- Neither the folder nor storage refuses any of the items, and in the end they are alike. -/
theorem Mirrors.run (mirrors : folder.Mirrors tree s ready place) (items : List (Item folder)) :
    ∃ after ready' s', folder.saveAll tree (items.map Item.asset) = .ok after ∧
      s.createAll (items.map fun item => (item.asset.format, item.content)) = .ok s' ∧
      folder.Mirrors after s' ready' place ∧
      ∀ key, Holds key (s.storedBytes key) items (s'.storedBytes key) := by
  induction items generalizing tree s ready with
  | nil => exact ⟨tree, ready, s, rfl, rfl, mirrors, fun key => .kept (by simp)⟩
  | cons item rest ih =>
    obtain ⟨path, next, saved, asset, t, created, stored, alike⟩ := mirrors.step item
    obtain ⟨after, ready', s', savedAll, createdAll, mirrored, holds⟩ := ih alike
    refine ⟨after, ready', s', ?_, ?_, mirrored, fun key => .cons ?_⟩
    · simpa [saveAll, saved] using savedAll
    · simpa [Storage.createAll, created] using createdAll
    · have first : t.storedBytes key =
          if key = item.asset.storageKey then some item.content else s.storedBytes key := by
        rw [Storage.storedBytes, stored, Table.get?_put]
        rfl
      rw [← first]
      exact holds key

/-! ## Loading from both -/

/-- What the folder and storage answer when they load a key after some items: both that it is missing, if no
item has it, and else both the content of the last one that has it. -/
inductive Alike (items : List (Item folder)) (key : StorageKey) :
    Except HostError Buffer → Except HostError Buffer → Prop where
  | missing (never : ∀ item ∈ items, item.asset.storageKey ≠ key) :
      Alike items key (.error (.notFound key.text)) (.error (.notFound key.text))
  | held {earlier later : List (Item folder)} {item : Item folder} {data data' : Buffer}
      (given : items = earlier ++ item :: later) (own : item.asset.storageKey = key)
      (last : ∀ other ∈ later, other.asset.storageKey ≠ key)
      (first : data.normalize = .ok item.content) (second : data'.normalize = .ok item.content) :
      Alike items key (.ok data) (.ok data')

theorem Mirrors.alike {items : List (Item folder)} (mirrors : folder.Mirrors tree s ready place)
    (takes : folder.Takes format) (id : AssetId)
    (holds : Holds (.of id format) none items (s.storedBytes (.of id format))) :
    Alike items (.of id format) (folder.load tree (.of id format)) (s.load (.of id format)).1 := by
  rw [mirrors.load takes, Storage.load, Storage.loaded]
  generalize s.storedBytes (.of id format) = stored at holds ⊢
  cases holds with
  | kept never => exact .missing never
  | given earlier item later own last =>
    have filled := Asset.content_filled item.resident
    exact .held rfl own last (Buffer.normalize_eq_ok.mpr ⟨rfl, filled⟩)
      (Buffer.normalize_eq_ok.mpr ⟨rfl, filled⟩)

/-- A folder that has no file of a key yet, be it there or not, and empty storage take the same items without a
refusal. After each of them they answer every load alike. -/
theorem folder_answers_like_storage (new : folder.IsNew tree) (latency : Option Duration)
    (items : List (Item folder)) (n : Nat) :
    ∃ after s, folder.saveAll tree ((items.take n).map Item.asset) = .ok after ∧
      (Storage.empty latency).createAll
        ((items.take n).map fun item => (item.asset.format, item.content)) = .ok s ∧
      ∀ id format, folder.Takes format →
        Alike (items.take n) (.of id format) (folder.load after (.of id format))
          (s.load (.of id format)).1 := by
  obtain ⟨ready, place, made, leads, bare⟩ := new
  have mirrors : folder.Mirrors tree (.empty latency) ready place :=
    ⟨made, leads, bare, .inr fun _ => rfl⟩
  obtain ⟨after, ready', s, saved, created, mirrored, holds⟩ := mirrors.run (items.take n)
  refine ⟨after, s, saved, created, fun id format takes => ?_⟩
  exact mirrored.alike takes id (holds _)

/-! ## One picture in two formats -/

/-- An asset in the folder of the root directory whose buffer means a content. -/
def Item.ofBuffer (format : Format) (data : Buffer) (content : ByteArray)
    (means : data.normalize = .ok content) (takes : assets.Takes format) : Item assets where
  asset := .withBuffer (.compute content) format data
  content
  resident := by simp [Asset.withBuffer, Asset.bytes, means, Except.map]
  hashed := rfl
  takes

def picture : ByteArray := ⟨#[1, 2]⟩

theorem assets_takes_png : assets.Takes .png :=
  takes_of_room (by decide +kernel) (by decide) (by decide) (by decide +kernel)

theorem assets_takes_tiff : assets.Takes (.parse "TIFF") :=
  takes_of_room (by decide +kernel) (by decide) (by decide) (by decide +kernel)

/-- A picture in the middle of a buffer, then under another tag, and then as it was at first. -/
def twoFormats : List (Item assets) := [
  .ofBuffer .png (.view ⟨#[0, 1, 2, 3]⟩ 1 2) picture (by decide) assets_takes_png,
  .ofBuffer (.parse "TIFF") (.packed picture) picture (by decide) assets_takes_tiff,
  .ofBuffer .png (.shared picture) picture (by decide) assets_takes_png]

theorem assets_isNew_empty : assets.IsNew .empty := by
  refine ⟨FileTree.empty.put [Text.Utf8.encode "assets"] .directory, [Text.Utf8.encode "assets"],
    ?_, by decide +kernel, fun id format => ?_⟩
  · have names : FileTree.names assets.root = [Text.Utf8.encode "assets"] := by decide +kernel
    have usable : FileTree.IsUsable assets.root :=
      ⟨by decide +kernel, by decide +kernel, by decide +kernel⟩
    have leads := FileTree.resolve_eq_ok.mpr ⟨usable, FileTree.Leads.name (t := .empty)
      (by rw [names]; rfl) (by decide +kernel) (by rw [names]; rfl) (by decide +kernel)⟩
    have created : FileTree.empty.createDirectory assets.root =
        .ok (FileTree.empty.put [Text.Utf8.encode "assets"] .directory) := by
      rw [FileTree.createDirectory, leads]
      rfl
    rw [FileTree.createDirectories, if_neg (by decide +kernel), created]
  · rw [FileTree.entryOf_put (by simp), if_neg (by simp)]
    rfl

/-- The picture is loaded from both under both tags. -/
theorem picture_in_two_formats_is_loaded : assets.IsNew .empty ∧
    ∃ after s, assets.saveAll .empty (twoFormats.map Item.asset) = .ok after ∧
      (Storage.empty none).createAll
        (twoFormats.map fun item => (item.asset.format, item.content)) = .ok s ∧
      ∀ format ∈ [Format.png, .parse "TIFF"], ∃ data data',
        assets.load after (.of (.compute picture) format) = .ok data ∧
        (s.load (.of (.compute picture) format)).1 = .ok data' ∧
        data.normalize = .ok picture ∧ data'.normalize = .ok picture := by
  obtain ⟨after, s, saved, created, alike⟩ :=
    folder_answers_like_storage assets_isNew_empty none twoFormats 3
  refine ⟨assets_isNew_empty, after, s, saved, created, fun format known => ?_⟩
  have same : ∀ item ∈ twoFormats, item.content = picture := by simp [twoFormats, Item.ofBuffer]
  obtain ⟨takes, written⟩ : assets.Takes format ∧
      ∃ item ∈ twoFormats, item.asset.storageKey = .of (.compute picture) format := by
    simp only [List.mem_cons, List.not_mem_nil, or_false] at known
    rcases known with rfl | rfl
    · exact ⟨assets_takes_png, _, List.mem_cons_self, rfl⟩
    · exact ⟨assets_takes_tiff, _, List.mem_cons_of_mem _ List.mem_cons_self, rfl⟩
  have answers := alike (.compute picture) format takes
  generalize assets.load after (.of (.compute picture) format) = first at answers ⊢
  generalize (s.load (.of (.compute picture) format)).1 = second at answers ⊢
  cases answers with
  | missing never =>
    obtain ⟨item, member, own⟩ := written
    exact absurd own (never item member)
  | held given own last first second =>
    have member : _ ∈ twoFormats := given ▸ List.mem_append_right _ List.mem_cons_self
    rw [same _ member] at first second
    exact ⟨_, _, rfl, rfl, first, second⟩

end AssetFolder

end Silhouette
