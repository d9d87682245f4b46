import Silhouette.Proofs.FormFraming
import Silhouette.Proofs.MediaTypes
import Silhouette.Service.Upload

/-! What a request looks like when it is sent. A request is refused just if it has no content, or something in it
would not stay within its header line. Every other becomes a form of one part, and no file name, content type or
content makes a reader of the form see another header line, another part or another name. -/
namespace Silhouette.ServiceRequest

open Http

variable {r : ServiceRequest} {part : FormPart}

/-- A request that can be sent. -/
structure Framable (r : ServiceRequest) : Prop where
  given : r.bytes.size ≠ 0
  oneLine : OneLine r.filename
  typed : Mime.parse? r.partContentType ≠ none

/-- The part for a request with a content type that was read. -/
def partOf (r : ServiceRequest) (m : Mime) : FormPart :=
  ⟨fieldName, r.filename, String.ofList m.text, r.bytes⟩

/-- A request is sent with the content type that was read, or it is refused. -/
theorem formPart_cases (r : ServiceRequest) :
    (r.Framable ∧ ∃ m, Mime.parse? r.partContentType = some m ∧ r.formPart = .ok (r.partOf m)) ∨
      (¬ r.Framable ∧ ∃ reason, r.formPart = .error (.encodeFailed reason)) := by
  unfold formPart
  by_cases empty : r.bytes.size = 0
  · rw [if_pos empty]
    exact .inr ⟨fun framable => framable.given empty, _, rfl⟩
  rw [if_neg empty]
  by_cases broken : r.filename.toList.any (fun c => c = '\r' || c = '\n') = true
  · rw [if_pos broken]
    refine .inr ⟨fun framable => ?_, _, rfl⟩
    obtain ⟨c, member, isBreak⟩ := List.any_eq_true.mp broken
    have other := framable.oneLine c member
    simp [other.1, other.2] at isBreak
  rw [if_neg broken]
  have oneLine : OneLine r.filename := by simpa [OneLine] using broken
  cases read : Mime.parse? r.partContentType with
  | none => exact .inr ⟨fun framable => framable.typed read, _, rfl⟩
  | some m => exact .inl ⟨⟨empty, oneLine, by simp [read]⟩, m, rfl, rfl⟩

theorem not_framable_iff : ¬ r.Framable ↔ r.bytes.size = 0 ∨ '\r' ∈ r.filename.toList ∨
    '\n' ∈ r.filename.toList ∨ Mime.parse? r.partContentType = none := by
  constructor
  · intro unframable
    by_contra none
    simp only [not_or] at none
    obtain ⟨given, noReturn, noFeed, typed⟩ := none
    have oneLine : OneLine r.filename := by
      intro c member
      constructor
      · rintro rfl
        exact noReturn member
      · rintro rfl
        exact noFeed member
    exact unframable ⟨given, oneLine, typed⟩
  · rintro (empty | broken | broken | untyped) framable
    · exact framable.given empty
    · exact (framable.oneLine _ broken).1 rfl
    · exact (framable.oneLine _ broken).2 rfl
    · exact framable.typed untyped

theorem refused_iff : (∃ reason, r.formPart = .error (.encodeFailed reason)) ↔ ¬ r.Framable := by
  rcases formPart_cases r with ⟨framable, m, -, framed⟩ | ⟨unframable, reason, refused⟩
  · simp [framed, framable]
  · exact iff_of_true ⟨reason, refused⟩ unframable

theorem encodeFailed_of_refused {e : ServiceError} (refused : r.formPart = .error e) :
    ∃ reason, e = .encodeFailed reason := by
  rcases formPart_cases r with ⟨-, m, -, framed⟩ | ⟨-, reason, refused'⟩
  · rw [framed] at refused
    cases refused
  · rw [refused'] at refused
    cases refused
    exact ⟨reason, rfl⟩

/-- The name of the field stands between quotes as it is. -/
theorem fieldName_plain : ∀ c ∈ fieldName.toList, c ≠ '"' ∧ c ≠ '\\' := by
  have all : (fieldName.toList.all fun c => c ≠ '"' && c ≠ '\\') = true := by decide
  simpa using all

/-- What is written in the header of a request stays within its line. -/
theorem partOf_oneLined {m : Mime} (framable : r.Framable) (read : Mime.parse? r.partContentType = some m) :
    (r.partOf m).OneLined where
  name := by
    change OneLine fieldName
    decide
  filename := framable.oneLine
  contentType := by
    intro c member
    have visible := Mime.isQuotedChar_iff.mp (Mime.text_visible read c (by simpa [partOf] using member))
    constructor
    · rintro rfl
      exact absurd visible (by decide)
    · rintro rfl
      exact absurd visible (by decide)

/-- Framing fails just if there is no content, the file name has a line break, or the content type is not one. Where
it does not fail, and the boundary does not occur in the content, the form holds one part however it is read: with two
lines, of which the first gives back the file name and the second the content type that was read, and with the content
as it was. A boundary is told in a header line, so no line ends in it. -/
theorem upload_is_read_as_one_part (r : ServiceRequest) :
    ((∃ reason, r.formPart = .error (.encodeFailed reason)) ↔
      r.bytes.size = 0 ∨ '\r' ∈ r.filename.toList ∨ '\n' ∈ r.filename.toList ∨
        Mime.parse? r.partContentType = none) ∧
    (∀ e, r.formPart = .error e → ∃ reason, e = .encodeFailed reason) ∧
    ∀ part, r.formPart = .ok part → ∀ boundary : String, '\r' ∉ boundary.toList →
      ¬ Text.Utf8.encode boundary <:+: r.bytes.data.toList →
      ∃ disposition m, Mime.parse? r.partContentType = some m ∧
        (∀ parts, IsForm (Text.Utf8.encode boundary) (part.encode boundary).data.toList parts ↔
          parts = [⟨[disposition, Text.Utf8.encode ("Content-Type: " ++ String.ofList m.text)],
            r.bytes.data.toList⟩]) ∧
        ∀ name filename, Disposes disposition name filename ↔
          name = Text.Utf8.encode "image_file" ∧ filename = Text.Utf8.encode r.filename := by
  refine ⟨refused_iff.trans not_framable_iff, fun e => encodeFailed_of_refused, ?_⟩
  · intro part framed boundary single absent
    rcases formPart_cases r with ⟨framable, m, read, framed'⟩ | ⟨-, reason, refused⟩
    · rw [framed'] at framed
      cases framed
      refine ⟨Text.Utf8.encode (r.partOf m).dispositionLine, m, read, ?_, ?_⟩
      · intro parts
        exact FormPart.isForm_iff (partOf_oneLined framable read) single absent
      · intro name filename
        exact FormPart.disposes_iff fieldName_plain
    · rw [refused] at framed
      cases framed

/-- A file name that would end its quotes, and content that looks like the end of a form, do neither. -/
theorem quoting_name_is_read_back :
    let r : ServiceRequest := ⟨"--x--\r\n".toUTF8, "a\"; name=\"b\\", none, none⟩
    ∃ part disposition, r.formPart = .ok part ∧
      (∀ parts, IsForm (Text.Utf8.encode "y") (part.encode "y").data.toList parts ↔
        parts = [⟨[disposition, Text.Utf8.encode ("Content-Type: " ++ "image/png")], r.bytes.data.toList⟩]) ∧
      Disposes disposition (Text.Utf8.encode "image_file") (Text.Utf8.encode r.filename) := by
  intro r
  have framed : r.formPart = .ok ⟨fieldName, r.filename, "image/png", r.bytes⟩ := by decide
  have known : Mime.parse? r.partContentType =
    some ⟨"image".toList, "png".toList, [], "image/png".toList⟩ := by decide
  have absent : ¬ Text.Utf8.encode "y" <:+: r.bytes.data.toList := by
    rw [Text.Utf8.encode_eq_flatMap]
    decide
  obtain ⟨disposition, m, read, holds, tells⟩ :=
    (upload_is_read_as_one_part r).2.2 _ framed "y" (by decide) absent
  rw [known] at read
  cases read
  exact ⟨_, disposition, framed, holds, (tells _ _).mpr ⟨rfl, rfl⟩⟩

end Silhouette.ServiceRequest
