import Silhouette.Host.Folder
import Silhouette.Proofs.Directories
import Silhouette.Proofs.StorageKey
import Silhouette.Proofs.Utf8

/-! Where a folder keeps the files of its keys. The path of a key goes on from the folder with a name that begins
with the id, so it never leaves the folder's own path out. It ends there if the tag has no separator, and then
saving and loading touch nothing below the folder but that one name. A tag with a separator in it can lead on,
also up again and out of the folder. -/
namespace Silhouette

/-! ## Components of paths -/

/-- A part of a path that counts. -/
inductive Component where
  | root
  | here
  | up
  | name (bytes : List UInt8)
  deriving DecidableEq

namespace Path

/-- What a name in a path stands for; a single point stands for nothing. -/
def component? (name : List UInt8) : Option Component :=
  if name = [point] then none else if name = [point, point] then some .up else some (.name name)

/-- The parts of a path that count. A point does so only at the beginning. -/
def components (p : Path) : List Component :=
  (if p.isAbsolute then [.root] else if startsHere p.bytes then [.here] else []) ++
    (FileTree.names p).filterMap component?

theorem component?_eq_none {name : List UInt8} : component? name = none ↔ name = [point] := by
  unfold component?
  split
  · simp [*]
  · split <;> simp [*]

/-- What a path begins with is not changed by what is joined to it. -/
private theorem opening_join {p q : Path} (relative : q.isAbsolute = false)
    (named : startsHere q.bytes = false) : (p.join q).isAbsolute = p.isAbsolute ∧
      startsHere (p.join q).bytes = startsHere p.bytes := by
  unfold join
  rw [if_neg (by simp [relative])]
  cases letters : p.bytes with
  | nil =>
    rw [if_pos (.inl rfl)]
    refine ⟨?_, named⟩
    simpa [isAbsolute, letters] using relative
  | cons b rest =>
    split
    · rename_i closed
      simp only [isAbsolute, letters, List.cons_append, List.head?_cons, startsHere_cons, true_and]
      cases rest with
      | nil =>
        -- a path of one separator
        have slash : b = separator := by simpa using closed
        simp [slash, separator, point]
      | cons c more => rfl
    · simp only [isAbsolute, letters, List.cons_append, List.head?_cons, startsHere_cons, true_and]
      cases rest with
      | nil => simp
      | cons c more => rfl

/-- A relative path that does not start with a point adds its parts to those of the path it is joined to. -/
theorem components_join {p q : Path} (relative : q.isAbsolute = false)
    (named : startsHere q.bytes = false) : (p.join q).components = p.components ++ q.components := by
  have own : q.components = (FileTree.names q).filterMap component? := by
    simp [components, relative, named]
  obtain ⟨absolute, begins⟩ := opening_join (p := p) relative named
  rw [own, components, components, FileTree.names_join_of_relative relative, absolute, begins,
    List.filterMap_append, List.append_assoc]

end Path

/-! ## Names of files -/

namespace Text.Utf8

theorem encode_append (s t : String) : encode (s ++ t) = encode s ++ encode t := by
  rw [encode_eq_flatMap, encode_eq_flatMap, encode_eq_flatMap, String.toList_append,
    List.flatMap_append]

private theorem digit_byte : ∀ n < 16, (String.utf8EncodeChar (Hex.digit n)).length = 1 ∧
    ∀ b ∈ String.utf8EncodeChar (Hex.digit n), 48 ≤ b := by decide +kernel

/-- Hexadecimal text has a byte for each digit, and none below the digit zero. -/
theorem encode_hex (bytes : List UInt8) : (encode (Hex.encode bytes)).length = 2 * bytes.length ∧
    ∀ b ∈ encode (Hex.encode bytes), 48 ≤ b := by
  rw [encode_eq_flatMap, Hex.encode, String.toList_ofList]
  induction bytes with
  | nil => exact ⟨rfl, by simp [Hex.encodeChars]⟩
  | cons b rest ih =>
    have small := b.toNat_lt
    obtain ⟨highOne, high⟩ := digit_byte (b.toNat / 16) (by omega)
    obtain ⟨lowOne, low⟩ := digit_byte (b.toNat % 16) (by omega)
    simp only [Hex.encodeChars, List.flatMap_cons, List.length_append, List.length_cons,
      List.mem_append, highOne, lowOne, ih.1]
    refine ⟨by omega, ?_⟩
    rintro d (first | second | later)
    · exact high d first
    · exact low d second
    · exact ih.2 d later

theorem slash_mem_encode {s : String} : Path.separator ∈ encode s ↔ '/' ∈ s.toList := by
  constructor
  · exact char_mem_of_byte_mem (by decide)
  · intro member
    rw [encode_eq_flatMap, List.mem_flatMap]
    exact ⟨'/', member, by decide⟩

end Text.Utf8

namespace StorageKey

/-- The name that a key gives a file. -/
def fileName (key : StorageKey) : List UInt8 := Text.Utf8.encode key.text

/-- A name of a file is the id, in digits, then a point, and then the extension. -/
theorem fileName_of (id : AssetId) (format : Format) : (of id format).fileName =
    Text.Utf8.encode id.text ++ Path.point :: Text.Utf8.encode format.extension := by
  have dot : Text.Utf8.encode "." = [Path.point] := by decide +kernel
  rw [fileName, of, Text.Utf8.encode_append, Text.Utf8.encode_append, dot, List.append_assoc]
  rfl

theorem length_encode_text (id : AssetId) : (Text.Utf8.encode id.text).length = 64 := by
  rw [AssetId.text, (Text.Utf8.encode_hex id.bytes).1, id.length_bytes]

theorem length_fileName (id : AssetId) (format : Format) :
    (of id format).fileName.length = 65 + (Text.Utf8.encode format.extension).length := by
  rw [fileName_of, List.length_append, length_encode_text, List.length_cons]
  omega

/-- Neither a separator nor a point stands in the text of an id. -/
theorem digits_of_text {id : AssetId} {b : UInt8} (member : b ∈ Text.Utf8.encode id.text) :
    b ≠ Path.separator ∧ b ≠ Path.point := by
  have digit := (Text.Utf8.encode_hex id.bytes).2 b member
  constructor
  · rintro rfl
    revert digit
    decide
  · rintro rfl
    revert digit
    decide

/-- A byte below the digits that is not a point stands in a name if it stands in the tag. -/
theorem mem_fileName {id : AssetId} {format : Format} {b : UInt8} (low : b < 48)
    (other : b ≠ Path.point) :
    b ∈ (of id format).fileName ↔ b ∈ Text.Utf8.encode format.extension := by
  rw [fileName_of, List.mem_append, List.mem_cons]
  constructor
  · rintro (inId | point | inTag)
    · exact absurd low (UInt8.not_lt.mpr ((Text.Utf8.encode_hex id.bytes).2 b inId))
    · exact absurd point other
    · exact inTag
  · intro inTag
    exact .inr (.inr inTag)

theorem slash_mem_fileName {id : AssetId} {format : Format} :
    Path.separator ∈ (of id format).fileName ↔ '/' ∈ format.extension.toList :=
  (mem_fileName (by decide) (by decide)).trans Text.Utf8.slash_mem_encode

/-- A key whose tag has no separator names a file. -/
theorem fileName_isName {id : AssetId} {format : Format} (whole : '/' ∉ format.extension.toList) :
    FileTree.IsName (of id format).fileName := by
  have length := length_fileName id format
  refine ⟨?_, fun slash => whole (slash_mem_fileName.mp slash), ?_⟩
  · intro none
    simp [none] at length
    omega
  · rintro (here | above)
    · simp [here] at length
      omega
    · simp [above] at length
      omega

end StorageKey

namespace FileTree

theorem parts_append {front back first : List UInt8} {more : List (List UInt8)}
    (whole : Path.separator ∉ front) (split : parts back = first :: more) :
    parts (front ++ back) = (front ++ first) :: more := by
  induction front with
  | nil => exact split
  | cons b rest ih =>
    simp only [List.mem_cons, not_or] at whole
    simp only [List.cons_append, parts, ih whole.2, if_neg (Ne.symm whole.1)]

end FileTree

namespace AssetFolder

variable {folder : AssetFolder} {tree after : FileTree} {asset : Asset} {key : StorageKey}
  {id : AssetId} {format : Format}

theorem pathFor_eq (folder : AssetFolder) (key : StorageKey) :
    folder.pathFor key = folder.root.join ⟨key.fileName⟩ := rfl

/-! ## The path of a key -/

/-- What the path of a key has behind the folder: a name that begins with the id, and what the separators of
the tag cut off from that. -/
theorem components_pathFor {first : List UInt8} {more : List (List UInt8)}
    (split : FileTree.parts (Text.Utf8.encode format.extension) = first :: more) :
    (folder.pathFor (.of id format)).components = folder.root.components ++
      .name (Text.Utf8.encode id.text ++ Path.point :: first) ::
        (more.filter (· ≠ [])).filterMap Path.component? := by
  have length := StorageKey.length_encode_text id
  obtain ⟨b, rest, text⟩ : ∃ b rest, Text.Utf8.encode id.text = b :: rest :=
    List.exists_cons_of_ne_nil (by
      intro none
      simp [none] at length)
  have head : b ≠ Path.separator ∧ b ≠ Path.point :=
    StorageKey.digits_of_text (text ▸ List.mem_cons_self)
  have whole : Path.separator ∉ Text.Utf8.encode id.text ++ [Path.point] := by
    rw [List.mem_append, List.mem_singleton]
    rintro (inId | point)
    · exact (StorageKey.digits_of_text inId).1 rfl
    · cases point
  have relative : (⟨(StorageKey.of id format).fileName⟩ : Path).isAbsolute = false := by
    simp [Path.isAbsolute, StorageKey.fileName_of, text, head.1]
  have named : Path.startsHere (StorageKey.of id format).fileName = false := by
    rw [StorageKey.fileName_of, text, List.cons_append, Path.startsHere_cons]
    simp [head.2]
  have cut : FileTree.parts (StorageKey.of id format).fileName =
      (Text.Utf8.encode id.text ++ Path.point :: first) :: more := by
    rw [StorageKey.fileName_of, List.append_cons, FileTree.parts_append whole split]
    simp
  have counted : Path.component? (Text.Utf8.encode id.text ++ Path.point :: first) =
      some (.name (Text.Utf8.encode id.text ++ Path.point :: first)) := by
    have long : 65 ≤ (Text.Utf8.encode id.text ++ Path.point :: first).length := by
      rw [List.length_append, length, List.length_cons]
      omega
    unfold Path.component?
    rw [if_neg, if_neg]
    · intro dots
      simp [dots] at long
    · intro dot
      simp [dot] at long
  rw [pathFor_eq, Path.components_join relative named]
  simp only [Path.components, relative, named, FileTree.names, cut]
  rw [List.filter_cons_of_pos (by simp), List.filterMap_cons_some counted]
  rfl

/-- The path of a key is that of one name in the folder just if what separators cut off its tag does not
count. -/
theorem direct_child_iff : (∃ name, (folder.pathFor (.of id format)).components =
      folder.root.components ++ [.name name]) ↔
    ∀ part ∈ (FileTree.parts (Text.Utf8.encode format.extension)).tail,
      part = [] ∨ part = [Path.point] := by
  obtain ⟨first, more, split⟩ := List.exists_cons_of_ne_nil
    (FileTree.parts_ne_nil (Text.Utf8.encode format.extension))
  rw [components_pathFor split, split, List.tail_cons]
  have ignored : (more.filter (· ≠ [])).filterMap Path.component? = [] ↔
      ∀ part ∈ more, part = [] ∨ part = [Path.point] := by
    rw [List.filterMap_eq_nil_iff]
    constructor
    · intro nothing part member
      by_cases none : part = []
      · exact .inl none
      · exact .inr (Path.component?_eq_none.mp (nothing part (by simp [member, none])))
    · intro idle part member
      rw [List.mem_filter] at member
      rcases idle part member.1 with none | point
      · simp [none] at member
      · exact Path.component?_eq_none.mpr point
  rw [← ignored]
  constructor
  · rintro ⟨name, same⟩
    exact (List.cons.inj (List.append_cancel_left same)).2
  · intro nothing
    rw [nothing]
    exact ⟨_, rfl⟩

theorem pathFor_of_whole (whole : '/' ∉ format.extension.toList) :
    (folder.pathFor (.of id format)).components =
      folder.root.components ++ [.name (StorageKey.of id format).fileName] := by
  have uncut : Path.separator ∉ Text.Utf8.encode format.extension :=
    fun slash => whole (Text.Utf8.slash_mem_encode.mp slash)
  rw [components_pathFor (FileTree.parts_of_whole uncut), StorageKey.fileName_of]
  rfl

/-! ## Saving and loading -/

/-- What saving can do to a tree: nothing, creating the folder, or that and writing one file in it. -/
inductive Saving (folder : AssetFolder) (tree : FileTree) (name : List UInt8) : FileTree → Prop where
  | nothing : Saving folder tree name tree
  | prepared : Saving folder tree name (tree.createDirectories folder.root).2
  | written (leads : (tree.createDirectories folder.root).2.follow [] (FileTree.names folder.root) =
        .ok here) (content : ByteArray) :
      Saving folder tree name
        ((tree.createDirectories folder.root).2.put (here ++ [name]) (.file content))

theorem save_saving (named : FileTree.IsName asset.storageKey.fileName) :
    Saving folder tree asset.storageKey.fileName (folder.save tree asset).2 := by
  unfold save
  split
  · exact .nothing
  · rename_i bytes given
    split
    · rename_i ready refused
      rw [← congrArg Prod.snd refused]
      exact .prepared
    · rename_i ready made
      dsimp only
      split
      · rw [← congrArg Prod.snd made]
        exact .prepared
      · rename_i written
        obtain ⟨place, leads, -, rfl⟩ := FileTree.write_eq_ok.mp written
        obtain ⟨here, follows, rfl⟩ := FileTree.place_of_join named leads
        cases congrArg Prod.snd made
        exact .written follows bytes

theorem load_eq_ok {data : Buffer} (named : FileTree.IsName key.fileName)
    (loaded : folder.load tree key = .ok data) :
    ∃ here bytes, tree.follow [] (FileTree.names folder.root) = .ok here ∧
      tree.content? (here ++ [key.fileName]) = some bytes ∧ data = .packed bytes := by
  unfold load at loaded
  split at loaded
  · rename_i bytes found
    cases loaded
    obtain ⟨place, leads, held⟩ := FileTree.read_eq_ok.mp found
    obtain ⟨here, follows, rfl⟩ := FileTree.place_of_join named leads
    exact ⟨here, bytes, follows, held, rfl⟩
  · split at loaded <;> cases loaded

/-- A key always leads below the folder, to a single name in it just if nothing that counts follows a separator
in the tag. Without a separator that name is the key's text; saving then changes nothing but the folder's own
directories and what stands under that name, and loading gives nothing else. -/
theorem file_of_key_is_in_folder (folder : AssetFolder) (id : AssetId) (format : Format) :
    (∃ first more, (folder.pathFor (.of id format)).components =
      folder.root.components ++ .name (Text.Utf8.encode id.text ++ Path.point :: first) :: more) ∧
    ((∃ name, (folder.pathFor (.of id format)).components =
        folder.root.components ++ [.name name]) ↔
      ∀ part ∈ (FileTree.parts (Text.Utf8.encode format.extension)).tail,
        part = [] ∨ part = [Path.point]) ∧
    ('/' ∉ format.extension.toList →
      (folder.pathFor (.of id format)).components =
        folder.root.components ++ [.name (StorageKey.of id format).fileName] ∧
      (∀ tree asset, asset.storageKey = .of id format →
        tree.Prepared (tree.createDirectories folder.root).2 ∧
        Saving folder tree (StorageKey.of id format).fileName (folder.save tree asset).2) ∧
      (∀ tree data, folder.load tree (.of id format) = .ok data →
        ∃ here bytes, tree.follow [] (FileTree.names folder.root) = .ok here ∧
          tree.content? (here ++ [(StorageKey.of id format).fileName]) = some bytes ∧
          data = .packed bytes)) := by
  obtain ⟨first, more, split⟩ := List.exists_cons_of_ne_nil
    (FileTree.parts_ne_nil (Text.Utf8.encode format.extension))
  refine ⟨⟨first, _, components_pathFor split⟩, direct_child_iff, fun whole => ?_⟩
  have named : FileTree.IsName (StorageKey.of id format).fileName :=
    StorageKey.fileName_isName whole
  refine ⟨pathFor_of_whole whole, fun tree asset key => ?_, fun tree data => load_eq_ok named⟩
  refine ⟨FileTree.createDirectories_prepared tree folder.root, ?_⟩
  rw [← key] at named ⊢
  exact save_saving named

/-- A folder of assets in the root directory. -/
def assets : AssetFolder := ⟨.ofText "/assets"⟩

/-- Backslashes and points in a tag are plain letters of the name. -/
theorem backslashes_stay_in_folder : '/' ∉ (Format.parse "..\\..\\x").extension.toList ∧
    (assets.pathFor (.of default (.parse "..\\..\\x"))).components =
      [.root, .name (Text.Utf8.encode "assets"),
        .name (Text.Utf8.encode (String.ofList (List.replicate 64 '0') ++ ".\\..\\x"))] := by
  have whole : '/' ∉ (Format.parse "..\\..\\x").extension.toList := by decide
  refine ⟨whole, ?_⟩
  rw [((file_of_key_is_in_folder assets default (.parse "..\\..\\x")).2.2 whole).1]
  decide +kernel

/-- The tree in which a directory is named like a file of the folder, and a file stands beside the folder. -/
def exposed : FileTree := ⟨Table.ofList [
  ([Text.Utf8.encode "assets"], .directory),
  ([Text.Utf8.encode "assets",
    Text.Utf8.encode (String.ofList (List.replicate 64 '0') ++ ".x")], .directory),
  ([Text.Utf8.encode "secret"], .file ⟨#[1]⟩)]⟩

/-- A tag with separators leads out of the folder, to a file that is not in it. -/
theorem tag_can_lead_out_of_folder :
    (¬ ∀ (folder : AssetFolder) (id : AssetId) (tag : String), ∃ name,
      (folder.pathFor (.of id (.parse tag))).components = folder.root.components ++ [.name name]) ∧
    assets.load exposed (.of default (.parse "x/../../secret")) = .ok (.packed ⟨#[1]⟩) := by
  refine ⟨fun inside => ?_, by decide +kernel⟩
  have idle := direct_child_iff.mp (inside assets default "x/../../secret")
  revert idle
  decide +kernel

end AssetFolder

end Silhouette
