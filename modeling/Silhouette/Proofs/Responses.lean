import Silhouette.Proofs.MimeEssence
import Silhouette.Proofs.Upload
import Silhouette.Service.Client

/-! What the client makes of a response. What cannot be framed is not sent, and everything else is sent once. The
response then means one thing: its status decides first, then whether its content type tells of an image, and the
spelling of the content type does not matter. -/
namespace Silhouette

namespace Http

/-- A byte of the text of a header: a tab, a blank, or visible ASCII. -/
def Printed (b : UInt8) : Prop := b = 9 ∨ (32 ≤ b ∧ b < 127)

/-- The text of a header, if the header is there and all of it is text. -/
inductive HeaderText : Option (List UInt8) → Option String → Prop where
  | absent : HeaderText none none
  | hidden {value : List UInt8} {b : UInt8} (member : b ∈ value) (other : ¬ Printed b) :
      HeaderText (some value) none
  | text {text : String} (printed : ∀ b ∈ Text.Utf8.encode text, Printed b) :
      HeaderText (some (Text.Utf8.encode text)) (some text)

variable {value : List UInt8} {header : Option (List UInt8)} {text : Option String}

theorem all_isVisibleByte_iff : value.all isVisibleByte = true ↔ ∀ b ∈ value, Printed b := by
  simp only [List.all_eq_true, isVisibleByte, Printed, Bool.or_eq_true, Bool.and_eq_true, decide_eq_true_eq]
  exact forall₂_congr fun b _ => or_comm

/-- Printed bytes are those of the characters with their numbers. -/
theorem encode_of_printed (printed : ∀ b ∈ value, Printed b) :
    Text.Utf8.encode (String.ofList (value.map fun b => Char.ofNat b.toNat)) = value := by
  refine Text.Utf8.encode_ascii fun b member => ?_
  rcases printed b member with rfl | ⟨-, small⟩
  · decide
  · have bound : b.toNat < 127 := small
    omega

theorem headerText_iff : HeaderText header text ↔ header.bind visibleText? = text := by
  constructor
  · intro told
    cases told with
    | absent => rfl
    | hidden member other =>
      have unseen : ¬ (_ : List UInt8).all isVisibleByte = true := fun all =>
        other (all_isVisibleByte_iff.mp all _ member)
      rw [Option.bind_some, visibleText?, if_neg unseen]
    | text printed =>
      rw [Option.bind_some, visibleText?, if_pos (all_isVisibleByte_iff.mpr printed)]
      exact congrArg some (Text.Utf8.encode_injective (encode_of_printed printed))
  · rintro rfl
    cases header with
    | none => exact .absent
    | some value =>
      rw [Option.bind_some, visibleText?]
      split
      · rename_i all
        have printed := all_isVisibleByte_iff.mp all
        have same := encode_of_printed printed
        have told := @HeaderText.text (String.ofList (value.map fun b => Char.ofNat b.toNat))
          (by rwa [same])
        rwa [same] at told
      · rename_i unseen
        rw [all_isVisibleByte_iff] at unseen
        push Not at unseen
        obtain ⟨b, member, other⟩ := unseen
        exact .hidden member other

end Http

namespace Client

open Http Format

/-- What a response means: its status if it is not one of success; that it is no image if no content type is told, or
one of another essence; and else its body, with the content type as it is told and the format that the essence
declares. -/
inductive Judged (response : HttpResponse) : Except ServiceError ServiceOutput → Prop where
  | failed (status : response.status < 200 ∨ 300 ≤ response.status) :
      Judged response (.error (.httpError response.status
        (ErrorBody.parse (Text.Utf8.decodeLossy response.body.data.toList))))
  | untold (status : 200 ≤ response.status ∧ response.status < 300)
      (untold : HeaderText response.contentType none) : Judged response (.error (.notImage none))
  | foreign {type essence : String} (status : 200 ≤ response.status ∧ response.status < 300)
      (told : HeaderText response.contentType (some type)) (bare : IsEssence type essence)
      (foreign : Foreign essence) : Judged response (.error (.notImage (some type)))
  | image {type essence : String} {format : Format} (status : 200 ≤ response.status ∧ response.status < 300)
      (told : HeaderText response.contentType (some type)) (bare : IsEssence type essence)
      (declares : Declares essence format) : Judged response (.ok ⟨response.body, format, type⟩)

/-- What was found out by a response, without the content type that told it. -/
def finding : Except ServiceError ServiceOutput → Except ServiceError (ByteArray × Format)
  | .ok output => .ok (output.bytes, output.format)
  | .error (.notImage _) => .error (.notImage none)
  | .error e => .error e

variable {response response' : HttpResponse} {outcome : Except ServiceError ServiceOutput}

/-- An error response is told with its status and its body as text. -/
theorem judge_of_failed (status : response.status < 200 ∨ 300 ≤ response.status) :
    judge response = .error (.httpError response.status
      (ErrorBody.parse (Text.Utf8.decodeLossy response.body.data.toList))) := by
  rw [judge, if_pos status]

theorem judge_of_succeeded (status : 200 ≤ response.status ∧ response.status < 300) :
    judge response =
      match response.contentType.bind visibleText? with
      | none => .error (.notImage none)
      | some type =>
        match ofMime? type with
        | none => .error (.notImage (some type))
        | some format => .ok ⟨response.body, format, type⟩ := by
  unfold judge
  rw [if_neg (by omega)]
  cases response.contentType.bind visibleText? with
  | none => rfl
  | some type =>
    simp only [Option.bind_some]
    cases ofMime? type with
    | none => rfl
    | some format => rfl

/-- A response means one thing, and that is what it is judged to mean. -/
theorem judge_eq_iff : judge response = outcome ↔ Judged response outcome := by
  constructor
  · rintro rfl
    by_cases status : 200 ≤ response.status ∧ response.status < 300
    · rw [judge_of_succeeded status]
      cases told : response.contentType.bind visibleText? with
      | none => exact .untold status (headerText_iff.mpr told)
      | some type =>
        dsimp only
        have told := headerText_iff.mpr told
        have bare : IsEssence type (lowerEssence type) := isEssence_iff.mpr rfl
        cases found : ofMime? type with
        | none => exact .foreign status told bare (ofMime?_eq_none_iff.mp found)
        | some format => exact .image status told bare (ofMime?_eq_some_iff.mp found)
    · have failed : response.status < 200 ∨ 300 ≤ response.status := by omega
      rw [judge_of_failed failed]
      exact .failed failed
  · intro judged
    cases judged with
    | failed status => exact judge_of_failed status
    | untold status untold => rw [judge_of_succeeded status, headerText_iff.mp untold]
    | foreign status told bare foreign =>
      rw [isEssence_iff.mp bare] at foreign
      simp only [judge_of_succeeded status, headerText_iff.mp told, ofMime?_eq_none_iff.mpr foreign]
    | image status told bare declares =>
      rw [isEssence_iff.mp bare] at declares
      simp only [judge_of_succeeded status, headerText_iff.mp told, ofMime?_eq_some_iff.mpr declares]

/-- A response with the same content type in another spelling. -/
structure SameButSpelling (response response' : HttpResponse) : Prop where
  status : response'.status = response.status
  body : response'.body = response.body
  contentType : ∃ type type', HeaderText response.contentType (some type) ∧
    HeaderText response'.contentType (some type') ∧ Respelled type type'

theorem finding_judge_of_same (same : SameButSpelling response response') :
    finding (judge response') = finding (judge response) := by
  obtain ⟨type, type', told, told', respelled⟩ := same.contentType
  by_cases status : 200 ≤ response.status ∧ response.status < 300
  · have status' : 200 ≤ response'.status ∧ response'.status < 300 := by rwa [same.status]
    rw [judge_of_succeeded status, judge_of_succeeded status', headerText_iff.mp told, headerText_iff.mp told']
    dsimp only
    rw [respelled.ofMime?_eq, same.body]
    cases ofMime? type with
    | none => rfl
    | some format => rfl
  · have failed : response.status < 200 ∨ 300 ≤ response.status := by omega
    have failed' : response'.status < 200 ∨ 300 ≤ response'.status := by rwa [same.status]
    rw [judge_of_failed failed, judge_of_failed failed', same.status, same.body]

/-- A request that cannot be framed is not sent, whatever the network is like. Every other is sent once, and a response
to it means one thing: what its status, its content type and its body are judged to mean. The finding is the same for
every spelling of the content type. -/
theorem request_is_sent_once_and_its_response_judged (c : Client) (r : ServiceRequest) :
    (∀ e, r.formPart = .error e →
      (∃ reason, e = .encodeFailed reason) ∧ ∀ network, c.transform network r = (.error e, [])) ∧
    ∀ part, r.formPart = .ok part → ∀ network, ∃ sent : HttpRequest,
      sent = ⟨c.config.endpoint, c.config.keyHeader, c.config.key.secret, part⟩ ∧
      (c.transform network r).2 = [sent] ∧
      ∀ response, network sent = .answered response →
        (∀ outcome, (c.transform network r).1 = outcome ↔ Judged response outcome) ∧
        ∀ network' response', network' sent = .answered response' → SameButSpelling response response' →
          finding (c.transform network' r).1 = finding (c.transform network r).1 := by
  constructor
  · intro e refused
    refine ⟨ServiceRequest.encodeFailed_of_refused refused, fun network => ?_⟩
    simp only [transform, request, refused]
  · intro part framed network
    have sends : c.request r = .ok ⟨c.config.endpoint, c.config.keyHeader, c.config.key.secret, part⟩ := by
      simp only [request, framed]
    refine ⟨_, rfl, by simp only [transform, sends], fun response answered => ⟨fun outcome => ?_, ?_⟩⟩
    · rw [← judge_eq_iff]
      simp only [transform, sends, answered, Client.outcome]
    · intro network' response' answered' same
      simp only [transform, sends, answered, answered', Client.outcome]
      exact finding_judge_of_same same

/-- Neither a parameter, nor a blank, nor a capital letter hides the format of the body. -/
theorem spelled_out_type_is_found :
    let c : Client := ⟨.interactive ⟨"k"⟩⟩
    let r : ServiceRequest := ⟨"x".toUTF8, "a.png", none, none⟩
    let network : HttpRequest → Exchange := fun _ =>
      .answered ⟨200, some (Text.Utf8.encode " IMAGE/JPG ; q=1"), "y".toUTF8⟩
    (c.transform network r).1 = .ok ⟨"y".toUTF8, .jpeg, " IMAGE/JPG ; q=1"⟩ := by
  intro c r network
  have framed : r.formPart = .ok ⟨"image_file", "a.png", "image/png", r.bytes⟩ := by decide
  obtain ⟨sent, -, -, judged⟩ := (request_is_sent_once_and_its_response_judged c r).2 _ framed network
  have printed : ∀ b ∈ Text.Utf8.encode " IMAGE/JPG ; q=1", Printed b := by
    rw [← all_isVisibleByte_iff, Text.Utf8.encode_eq_flatMap]
    decide
  have bare : IsEssence " IMAGE/JPG ; q=1" ("image/" ++ "jpg") := isEssence_iff.mpr (by decide)
  have declares : Declares ("image/" ++ "jpg") .jpeg := .subtype (by decide)
  exact ((judged _ rfl).1 _).mpr (.image ⟨by decide, by decide⟩ (.text printed) bare declares)

end Client

end Silhouette
