import Silhouette.Command.DeriveCostume
import Silhouette.Proofs.Delivery
import Silhouette.Proofs.Integrity
import Silhouette.Proofs.Siblings
import Silhouette.Proofs.Folder

/-! A derived costume is saved under a name that tells its content. The registry names the asset by the answer
of the service, and the folder writes that very answer under the name, so the two agree without either looking
at the other. Until the removal has come to its end nothing is written, and no directory is made. -/
namespace Silhouette

namespace AssetId

/-- The text of an id is 64 lower-case hexadecimal digits. -/
theorem digits_text (id : AssetId) : id.text.toList.length = 64 ∧
    ∀ c ∈ id.text.toList, c ∈ "0123456789abcdef".toList := by
  have digit : ∀ n < 16, Text.Hex.digit n ∈ "0123456789abcdef".toList := by decide +kernel
  rw [text, Text.Hex.encode, String.toList_ofList]
  refine ⟨by rw [Text.Hex.length_encodeChars, id.length_bytes], ?_⟩
  induction id.bytes with
  | nil => simp [Text.Hex.encodeChars]
  | cons b rest ih =>
    have small := b.toNat_lt
    simp only [Text.Hex.encodeChars, List.mem_cons]
    rintro c (high | low | later)
    · rw [high]
      exact digit _ (by omega)
    · rw [low]
      exact digit _ (by omega)
    · exact ih c later

end AssetId

/-- Whatever content an asset that was made of some gives, it is that. -/
theorem Asset.eq_of_bytes_ofBytes {format : Format} {content bytes : ByteArray}
    (gives : (Asset.ofBytes format content).bytes = .ok (some bytes)) : bytes = content := by
  by_cases empty : content.size = 0
  · simp [ofBytes, Asset.bytes, Buffer.normalize, Buffer.window, empty, Except.map] at gives
  · rw [bytes_ofBytes empty] at gives
    cases gives
    rfl

namespace AssetFolder

variable {folder : AssetFolder} {tree after : FileTree} {asset : Asset} {path : Path}

/-- What saving does that ends well: once the folder is there, the file is written in it. -/
theorem save_eq_ok (saved : folder.save tree asset = (.ok path, after)) : ∃ bytes ready place,
    asset.bytes = .ok (some bytes) ∧ tree.Prepared ready ∧ path = folder.pathFor asset.storageKey ∧
    ready.resolve path = .ok (.name place false) ∧ ready.entry? place ≠ some .directory ∧
    after = ready.put place (.file bytes) := by
  unfold save at saved
  split at saved
  · cases saved
  · rename_i bytes given
    have prepared := FileTree.createDirectories_prepared tree folder.root
    split at saved
    · cases saved
    · rename_i ready made
      rw [made] at prepared
      dsimp only at saved
      split at saved
      · cases saved
      · rename_i written
        cases saved
        obtain ⟨place, leads, free, rfl⟩ := FileTree.write_eq_ok.mp written
        refine ⟨bytes, ready, place, ?_, prepared, rfl, leads, free, rfl⟩
        unfold content at given
        split at given <;> cases given
        assumption

/-- Saving that fails has made directories at most. -/
theorem prepared_of_save_eq_error (failed : folder.save tree asset = (.error e, after)) :
    tree.Prepared after := by
  have prepared := FileTree.createDirectories_prepared tree folder.root
  unfold save at failed
  split at failed
  · cases failed
    exact .refl _
  · split at failed
    · rename_i made
      rw [made] at prepared
      cases failed
      exact prepared
    · rename_i made
      rw [made] at prepared
      dsimp only at failed
      split at failed
      · cases failed
        exact prepared
      · cases failed

end AssetFolder

namespace Command.CostumeJob

/-- The removal that a job comes to once its file is read. -/
def removal (job : CostumeJob) (remover : Remover) (fresh : FreshNames) (content : ByteArray) :
    Except RemovalError Installation × RemovalState × Target :=
  let staged := job.stage fresh (job.firstCostume fresh content)
  remover.removeBackground fresh.derived ⟨.inMemory default staged.2, .empty, []⟩ staged.1

/-- One file has been written in a folder, named for its content, which is the answer of the service. -/
structure SavedByName (job : CostumeJob) (files : FileTree) (output : ServiceOutput) (path : Path)
    (after : FileTree) : Prop where
  name : path = job.assetFolder.root.join (Path.ofText ((AssetId.compute output.bytes).text ++
    if output.format = .jpeg then ".jpg" else ".png"))
  digits : (AssetId.compute output.bytes).text.toList.length = 64 ∧
    ∀ c ∈ (AssetId.compute output.bytes).text.toList, c ∈ "0123456789abcdef".toList
  written : after.read path = .ok output.bytes
  place : ∃ place, after.resolve path = .ok (.name place false) ∧
    ∀ other, other ≠ place → after.content? other = files.content? other
  beside : job.folder = none → ∃ here own name,
    files.resolve job.source = .ok (.name (here ++ [own]) false) ∧
    after.resolve path = .ok (.name (here ++ [name]) false)

/-- How a job can end. Only one that has installed an answer gets as far as the folder. -/
inductive Deriving (job : CostumeJob) (remover : Remover) (fresh : FreshNames) (files : FileTree) :
    Outcome CostumeReport → Prop where
  | unread (refused : files.read job.source = .error e) :
      Deriving job remover fresh files (.untouched files (.reading job.source e))
  | failed (read : files.read job.source = .ok content)
      (stopped : job.removal remover fresh content = (.error e, s, target))
      (told : (Failure.removal e).messages.head? = some e.userMessage) :
      Deriving job remover fresh files ⟨.error (.removal e), files, s.sent⟩
  | unsaved (read : files.read job.source = .ok content)
      (finished : job.removal remover fresh content = (.ok made, s, target))
      (refused : job.assetFolder.save files made.costume.asset = (.error e, after))
      (prepared : files.Prepared after) :
      Deriving job remover fresh files
        ⟨.error (.saving made.costume.name job.assetFolder.root e), after, s.sent⟩
  | saved (read : files.read job.source = .ok content)
      (finished : job.removal remover fresh content = (.ok made, s, target))
      (asked : request = ⟨content, Resolve.uploadName ((formatOfPath? job.source).getD .png),
        some ((formatOfPath? job.source).getD .png), none⟩)
      (answered : remover.service [] request = .ok output) (named : made.assetId = .compute output.bytes)
      (saved : SavedByName job files output path after) :
      Deriving job remover fresh files ⟨.ok ⟨path, if job.legacy then 1 else 2, made⟩, after, [request]⟩

variable {job : CostumeJob} {remover : Remover} {fresh : FreshNames} {files after : FileTree}
  {content : ByteArray} {made : Installation} {s : RemovalState} {target : Target}

/-! ## The removal -/

theorem run_of_read (read : files.read job.source = .ok content) :
    job.run remover fresh files =
      match job.removal remover fresh content with
      | (.error e, s, _) => ⟨.error (.removal e), files, s.sent⟩
      | (.ok made, s, target) =>
        ⟨(job.save files target made).1, (job.save files target made).2, s.sent⟩ := by
  unfold run
  rw [read]
  rfl

theorem current_stage (job : CostumeJob) (fresh : FreshNames) (costume : Costume) :
    (job.stage fresh costume).1.current = costume := by
  unfold stage
  cases job.legacy <;> rfl

/-- The variants that a staged target has once it was given another costume. -/
theorem variants_given_stage (job : CostumeJob) (fresh : FreshNames) (costume new : Costume) :
    (((job.stage fresh costume).1.given new).variants?.map VariantList.size).getD 1 =
      if job.legacy then 1 else 2 := by
  unfold stage
  cases job.legacy <;> rfl

/-- What is resolved for the first costume is the content of the file, since nothing else is there. -/
theorem bytes_of_resolved {renderer : Renderer} {found : ResolvedSource} {host : Host}
    (resolved : Resolve.resolve timeout (.inMemory default renderer)
      (job.firstCostume fresh content) = (.ok found, host)) : found.bytes = content := by
  have origin := Resolve.resolve_origin resolved
  generalize found.strategy = strategy at origin
  cases origin with
  | resident given => exact Asset.eq_of_bytes_ofBytes given
  | cache held => cases held
  | loader loaded => cases loaded

/-- What a removal has done that came to its end: the service was asked once, for the content of the file, and
its answer is the asset of the costume that the target was given. -/
theorem removal_eq_ok (done : job.removal remover fresh content = (.ok made, s, target)) :
    ∃ request output, request = ⟨content, Resolve.uploadName ((formatOfPath? job.source).getD .png),
        some ((formatOfPath? job.source).getD .png), none⟩ ∧
      s.sent = [request] ∧ remover.service [] request = .ok output ∧
      made.costume.asset = .ofBytes (Install.keptFormat output.format) output.bytes ∧
      target = (job.stage fresh (job.firstCostume fresh content)).1.given made.costume := by
  have ended := remover.removeBackground_ending fresh.derived
    ⟨.inMemory default (job.stage fresh (job.firstCostume fresh content)).2, .empty, []⟩
    (job.stage fresh (job.firstCostume fresh content)).1
  unfold removal at done
  dsimp only at done
  rw [done] at ended
  cases ended with
  | @answered flags host found output host' target' result acquired resolved answer installed =>
    obtain ⟨bitmap, picture, -, costume, live, shown, mode, given⟩ :=
      Install.installed_costume installed
    rw [current_stage] at resolved
    have bytes := bytes_of_resolved resolved
    refine ⟨Remover.requestFor found, output, ?_, rfl, answer, by rw [costume]; rfl, given⟩
    rw [Remover.requestFor_resolved resolved, bytes]
    rfl

/-! ## Saving -/

/-- Where no folder is given, it is the directory that holds the source. -/
theorem follow_assetFolder (own : job.folder = none) {place : Place}
    (leads : files.resolve job.source = .ok (.name place false)) : ∃ here name,
    place = here ++ [name] ∧ files.follow [] (FileTree.names job.assetFolder.root) = .ok here := by
  obtain ⟨front, name, here, ends, follows, rfl⟩ := (FileTree.resolve_eq_ok.mp leads).2.endsIn
  refine ⟨here, name, rfl, ?_⟩
  rw [← FileTree.follow_trimmed] at follows
  have root : job.assetFolder.root =
      ((some (Path.trimmed ⟨front⟩)).filter fun p => p.bytes ≠ []).getD (Path.ofText ".") := by
    rw [← ends.parent?_eq, assetFolder, own]
    rfl
  by_cases none : (Path.trimmed ⟨front⟩).bytes = []
  · -- the source is a single name, so its directory is the one that a point stands for
    have nowhere : FileTree.names (Path.trimmed ⟨front⟩) = [] := by
      simp [FileTree.names, none, FileTree.parts]
    have point : FileTree.names (Path.ofText ".") = [[Path.point]] := by decide +kernel
    rw [nowhere] at follows
    rw [root, Option.filter_some, if_neg (by simpa using none), Option.getD_none, point, ← follows]
    simp [FileTree.follow]
  · rw [root, Option.filter_some, if_pos (by simpa using none)]
    exact follows

theorem pathFor_answer (job : CostumeJob) (output : ServiceOutput) :
    job.assetFolder.pathFor (Asset.ofBytes (Install.keptFormat output.format) output.bytes).storageKey =
      job.assetFolder.root.join (Path.ofText ((AssetId.compute output.bytes).text ++
        if output.format = .jpeg then ".jpg" else ".png")) := by
  have ending : "." ++ (Install.keptFormat output.format).extension =
      if output.format = .jpeg then ".jpg" else ".png" := by
    rw [Install.keptFormat_eq]
    split <;> rfl
  rw [← ending, ← String.append_assoc]
  rfl

/-- The registered answer is saved under the id of its content, and nothing else is written. -/
theorem savedByName_of_save {output : ServiceOutput} {path : Path}
    (read : files.read job.source = .ok content)
    (asset : made.costume.asset = .ofBytes (Install.keptFormat output.format) output.bytes)
    (saved : job.assetFolder.save files made.costume.asset = (.ok path, after)) :
    SavedByName job files output path after := by
  obtain ⟨bytes, ready, place, gives, prepared, rfl, leads, free, rfl⟩ := AssetFolder.save_eq_ok saved
  rw [asset] at gives leads ⊢
  cases Asset.eq_of_bytes_ofBytes gives
  have below := (FileTree.resolve_eq_ok.mp leads).2.below
  have leads' := (FileTree.keepsDirectories_put below free (.file output.bytes)).resolve leads
  refine {
    name := pathFor_answer job output
    digits := AssetId.digits_text _
    written := FileTree.read_put leads free
    place := ⟨place, leads', fun other elsewhere => ?_⟩
    beside := fun own => ?_ }
  · rw [FileTree.content?_put_file below, if_neg elsewhere, prepared.contents]
  · obtain ⟨at_source, led, -⟩ := FileTree.read_eq_ok.mp read
    obtain ⟨here, name, rfl, follows⟩ := follow_assetFolder own led
    have whole : '/' ∉ (Install.keptFormat output.format).extension.toList := by
      rw [Install.keptFormat_eq]
      split <;> decide
    obtain ⟨here', follows', rfl⟩ :=
      FileTree.place_of_join (StorageKey.fileName_isName whole) leads
    rw [prepared.directories.follow follows] at follows'
    cases follows'
    exact ⟨here, name, _, led, leads'⟩

end Command.CostumeJob

end Silhouette
