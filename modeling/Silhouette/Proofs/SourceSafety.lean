import Silhouette.Command.RemoveFile
import Silhouette.Proofs.Folder
import Silhouette.Proofs.Siblings

/-! Taking the background out of a file, without a place given for the result. The result gets a name of its own
beside the source: the part that is put behind the source's name makes it another one, whatever bytes that
name has. So the source is never written, nor is anything else but the result, and that only once the service
has answered. -/
namespace Silhouette

namespace Path

variable {front tail name : List UInt8} {b : UInt8}

theorem mem_of_mem_stem (member : b ∈ (cutName name).1) : b ∈ name := by
  unfold cutName at member
  dsimp only at member
  split at member
  · exact member
  · have inside := List.mem_of_mem_drop (List.mem_reverse.mp member)
    exact List.mem_reverse.mp ((List.dropWhile_sublist _).mem inside)

/-- A name is cut at its last point, if that does not stand in front. -/
theorem cutName_of_last_point (given : front ≠ []) (last : point ∉ tail) :
    cutName (front ++ point :: tail) = (front, some tail) := by
  have letters : ∀ b ∈ tail.reverse, (b != point) = true := by
    intro b member
    have inTail := List.mem_reverse.mp member
    simpa using fun same : b = point => last (same ▸ inTail)
  have turned : (front ++ point :: tail).reverse = tail.reverse ++ point :: front.reverse := by simp
  unfold cutName
  rw [turned, List.takeWhile_append_of_pos letters, List.dropWhile_append_of_pos letters]
  have longer : tail.length ≠ front.length + (tail.length + 1) := by omega
  simp [given, longer]

end Path

namespace Command

variable {source : Path} {name : List UInt8} {format : Format}

/-! ## The name of a result -/

/-- The name that a result in a format gets from the name of its source. -/
def resultName (name : List UInt8) (format : Format) : List UInt8 :=
  Text.Utf8.encode (Text.Utf8.decodeLossy (Path.cutName name).1 ++ resultMark ++
    match format with
    | .jpeg => "jpg"
    | _ => "png")

theorem resultPath_eq (named : source.fileName? = some name) :
    resultPath source format = source.withFileName (resultName name format) := by
  have stem : source.stem? = some (Path.cutName name).1 := by
    rw [Path.stem?, named]
    rfl
  unfold resultPath
  rw [stem]
  cases format <;> rfl

/-- The name of a result is a text, then a point, and an extension without one. -/
theorem resultName_eq (name : List UInt8) (format : Format) : ∃ tail,
    resultName name format = Text.Utf8.encode
      (Text.Utf8.decodeLossy (Path.cutName name).1 ++ "-cutout") ++ Path.point :: tail ∧
    Path.point ∉ tail ∧ Path.separator ∉ tail := by
  have put : ∀ text ending : String, Text.Utf8.encode (text ++ resultMark ++ ending) =
      Text.Utf8.encode (text ++ "-cutout") ++ Path.point :: Text.Utf8.encode ending := by
    intro text ending
    have mark : resultMark = "-cutout" ++ "." := rfl
    have dot : Text.Utf8.encode "." = [Path.point] := by decide +kernel
    rw [mark, ← String.append_assoc, Text.Utf8.encode_append, Text.Utf8.encode_append, dot,
      List.append_assoc]
    rfl
  have jpg : Path.point ∉ Text.Utf8.encode "jpg" ∧ Path.separator ∉ Text.Utf8.encode "jpg" := by
    decide +kernel
  have png : Path.point ∉ Text.Utf8.encode "png" ∧ Path.separator ∉ Text.Utf8.encode "png" := by
    decide +kernel
  unfold resultName
  cases format with
  | jpeg => exact ⟨_, put _ _, jpg⟩
  | _ => exact ⟨_, put _ _, png⟩

theorem length_marked (text : String) : 7 ≤ (Text.Utf8.encode (text ++ "-cutout")).length := by
  have mark : (Text.Utf8.encode "-cutout").length = 7 := by decide +kernel
  rw [Text.Utf8.encode_append, List.length_append, mark]
  omega

theorem resultName_isName (named : FileTree.IsName name) (format : Format) :
    FileTree.IsName (resultName name format) := by
  obtain ⟨tail, whole, -, uncut⟩ := resultName_eq name format
  have long := length_marked (Text.Utf8.decodeLossy (Path.cutName name).1)
  refine ⟨by simp [whole], ?_, ?_⟩
  · rw [whole, List.mem_append, List.mem_cons, not_or, not_or]
    refine ⟨fun inText => ?_, by decide, uncut⟩
    have slash := Text.Utf8.slash_mem_encode.mp inText
    rw [String.toList_append, Text.Utf8.decodeLossy, String.toList_ofList, List.mem_append] at slash
    rcases slash with inStem | inMark
    · have byte := Text.Utf8.byte_mem_of_char_mem (by decide) (by decide) inStem
      exact named.whole (Path.mem_of_mem_stem byte)
    · revert inMark
      decide
  · rw [whole]
    rintro (here | up)
    · have length := congrArg List.length here
      simp only [List.length_append, List.length_cons, List.length_nil] at length
      omega
    · have length := congrArg List.length up
      simp only [List.length_append, List.length_cons, List.length_nil] at length
      omega

/-- A result is never named like its source: else the text of the source's stem would be longer than itself. -/
theorem resultName_ne (name : List UInt8) (format : Format) : resultName name format ≠ name := by
  obtain ⟨tail, whole, last, -⟩ := resultName_eq name format
  intro same
  have given : Text.Utf8.encode (Text.Utf8.decodeLossy (Path.cutName name).1 ++ "-cutout") ≠ [] := by
    intro none
    have long := length_marked (Text.Utf8.decodeLossy (Path.cutName name).1)
    rw [none] at long
    cases long
  have cut := Path.cutName_of_last_point given last
  rw [← whole, same] at cut
  have text := congrArg Text.Utf8.decodeLossy (congrArg Prod.fst cut)
  rw [Text.Utf8.decodeLossy_encode] at text
  have length := congrArg String.length text
  rw [String.length_append] at length
  have mark : "-cutout".length = 7 := by decide
  omega

/-- A point in front of a name cuts nothing off it, and one between names is left out. -/
example : resultPath (.ofText "photos/./.cat") .jpeg = .ofText "photos/.cat-cutout.jpg" := by decide +kernel

/-! ## How it ends -/

/-- A file with some content has come to be beside another: it has the same parent and another name, in the
same directory, and is all that has changed. -/
structure PutBeside (files : FileTree) (source path : Path) (content : ByteArray) (after : FileTree) :
    Prop where
  parent : path.parent? = source.parent?
  name : path.fileName? ≠ source.fileName?
  written : after.read path = .ok content
  kept : after.read source = files.read source
  elsewhere : ∃ here own other, files.resolve source = .ok (.name (here ++ [own]) false) ∧
    files.resolve path = .ok (.name (here ++ [other]) false) ∧ own ≠ other ∧
    ∀ place, place ≠ here ++ [other] → after.entry? place = files.entry? place

/-- How taking the background out ends for a source that was read, with the one request that is sent. -/
inductive Removing (service : Service) (files : FileTree) (source : Path) (request : ServiceRequest) :
    Outcome Path → Prop where
  | unanswered (refused : service [] request = .error e) :
      Removing service files source request ⟨.error (.service source e), files, [request]⟩
  | unwritten (answered : service [] request = .ok output)
      (refused : files.write (resultPath source output.format) output.bytes = .error e) :
      Removing service files source request
        ⟨.error (.writing (resultPath source output.format) e), files, [request]⟩
  | written (answered : service [] request = .ok output)
      (beside : PutBeside files source (resultPath source output.format) output.bytes after) :
      Removing service files source request ⟨.ok (resultPath source output.format), after, [request]⟩

variable {files after : FileTree}

/-- What is written where the result belongs is put beside the source. -/
theorem putBeside_of_write {content bytes : ByteArray} (read : files.read source = .ok content)
    (wrote : files.write (resultPath source format) bytes = .ok after) :
    PutBeside files source (resultPath source format) bytes after := by
  obtain ⟨place, leads, held⟩ := FileTree.read_eq_ok.mp read
  obtain ⟨here, own, named, fileName, rfl, siblings⟩ := (FileTree.resolve_eq_ok.mp leads).2.sibling
  obtain ⟨parent, newName, beside⟩ := siblings _ (resultName_isName named format)
  have others : own ≠ resultName own format := (resultName_ne own format).symm
  rw [resultPath_eq fileName] at wrote ⊢
  obtain ⟨place, leads', free, rfl⟩ := FileTree.write_eq_ok.mp wrote
  cases beside place false leads'
  have below : here ++ [resultName own format] ≠ [] := by simp
  have apart : here ++ [own] ≠ here ++ [resultName own format] := by
    intro same
    exact others (List.append_singleton_inj.mp same).2
  refine ⟨parent, ?_, FileTree.read_put leads' free, ?_, ?_⟩
  · rw [newName, fileName]
    intro same
    exact others (Option.some.inj same).symm
  · rw [read]
    refine (FileTree.keepsDirectories_put below free _).read read fun place led => ?_
    cases leads.symm.trans led
    rw [FileTree.content?_put_file below, if_neg apart]
  · refine ⟨here, own, resultName own format, leads, leads', others, fun place elsewhere => ?_⟩
    rw [FileTree.entryOf_put below, if_neg elsewhere]

end Command

end Silhouette
