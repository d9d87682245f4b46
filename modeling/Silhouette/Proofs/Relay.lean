import Silhouette.Relay.Routes
import Silhouette.Proofs.SafeName

/-! What the relay makes of a form. The first part with an image decides: it is sent to the service once, and
no other part matters. The reply is a picture just if the service answered and the copy was written, and
then it is the answer, the copy and the body byte for byte. Whatever goes wrong leaves every file as it
was. -/
namespace Silhouette

/-- A reply that brings a picture. -/
def Http.Reply.isPicture (reply : Http.Reply) : Bool :=
  reply.status = 200 && reply.headers.contains ("content-type", "image/png")

theorem Http.Reply.isPicture_text (status : Nat) (body : String) :
    (Http.Reply.text status body).isPicture = false := by
  have other : [("content-type", "text/plain; charset=utf-8")].contains
      ("content-type", "image/png") = false := by decide
  rw [isPicture, text, other, Bool.and_false]

namespace Relay

/-! ## Saving a copy -/

/-- The path of the copy with a name. -/
def copyPath (r : Relay) (name : String) : Path := r.saveDir.join (Path.ofText name)

/-- How saving a copy ends: with an error and no file touched, or with the copy at its place in the
directory of copies, which is there by then. -/
inductive Saving (r : Relay) (files : FileTree) (name : String) (bytes : ByteArray) :
    Except IoError Unit × FileTree → Prop where
  | refused (prepared : files.Prepared ready) : Saving r files name bytes (.error e, ready)
  | done (prepared : files.Prepared ready)
      (leads : ready.resolve (r.copyPath name) = .ok (.name place false))
      (free : ready.entry? place ≠ some .directory) :
      Saving r files name bytes (.ok (), ready.put place (.file bytes))

variable {r : Relay} {files after : FileTree} {name : String} {bytes : ByteArray} {e : IoError}

theorem saveCopy_saving (r : Relay) (files : FileTree) (name : String) (bytes : ByteArray) :
    Saving r files name bytes (r.saveCopy files name bytes) := by
  have prepared := files.createDirectories_prepared r.saveDir
  unfold saveCopy
  split
  · rename_i stopped
    rw [stopped] at prepared
    exact .refused prepared
  · rename_i ready made
    rw [made] at prepared
    split
    · exact .refused prepared
    · rename_i written
      obtain ⟨place, leads, free, rfl⟩ := FileTree.write_eq_ok.mp written
      exact .done prepared leads free

theorem read_of_saved (saved : r.saveCopy files name bytes = (.ok (), after)) :
    after.read (r.copyPath name) = .ok bytes := by
  have ended := saveCopy_saving r files name bytes
  rw [saved] at ended
  cases ended with
  | done prepared leads free => exact FileTree.read_put leads free

theorem prepared_of_unsaved (refused : r.saveCopy files name bytes = (.error e, after)) :
    files.Prepared after := by
  have ended := saveCopy_saving r files name bytes
  rw [refused] at ended
  cases ended with
  | refused prepared => exact prepared

/-! ## Relaying an upload -/

/-- How relaying an upload ends: without an answer, with one that cannot be saved, or with a picture. -/
inductive Relaying (r : Relay) (now : Nat) (s : RelayState) (part : Http.ReceivedPart) :
    Http.Reply × RelayState → Prop where
  | unanswered {failure : ServiceError}
      (failed : r.service s.sent (forwarded part) = .error failure) :
      Relaying r now s part (failureReply failure, ⟨s.files, s.sent ++ [forwarded part]⟩)
  | unsaved (answered : r.service s.sent (forwarded part) = .ok output)
      (refused : r.saveCopy s.files (savedName now (uploadName part)) output.bytes =
        (.error why, left)) :
      Relaying r now s part (.text 500 why.message, ⟨left, s.sent ++ [forwarded part]⟩)
  | saved (answered : r.service s.sent (forwarded part) = .ok output)
      (saved : r.saveCopy s.files (savedName now (uploadName part)) output.bytes = (.ok (), left)) :
      Relaying r now s part
        (⟨200, [("content-type", "image/png")], output.bytes⟩, ⟨left, s.sent ++ [forwarded part]⟩)

variable {now : Nat} {s : RelayState}

theorem relayPart_relaying (r : Relay) (now : Nat) (s : RelayState) (part : Http.ReceivedPart) :
    Relaying r now s part (r.relayPart now s part) := by
  unfold relayPart
  dsimp only
  split
  · rename_i failed
    exact .unanswered failed
  · rename_i output answered
    split
    · rename_i refused
      exact .unsaved answered refused
    · rename_i saved
      exact .saved answered saved

theorem failureReply_not_picture (e : ServiceError) : (failureReply e).isPicture = false := by
  cases e <;> exact Http.Reply.isPicture_text _ _

/-! ## Choosing the upload -/

theorem imagePart?_eq_none {form : Http.ReceivedForm} :
    imagePart? form = none ↔ ∀ p ∈ form.parts, p.label ≠ some "image_file" := by
  unfold imagePart?
  rw [List.find?_eq_none]
  constructor
  · intro others p member named
    exact others p member (decide_eq_true named)
  · intro others p member named
    exact others p member (of_decide_eq_true named)

/-- The first part with an image, wherever it stands. -/
theorem imagePart?_eq {form : Http.ReceivedForm} {before later : List Http.ReceivedPart}
    {part : Http.ReceivedPart} (parts : form.parts = before ++ part :: later)
    (others : ∀ p ∈ before, p.label ≠ some "image_file") (image : part.label = some "image_file") :
    imagePart? form = some part := by
  have passed : imagePart? ⟨before, none⟩ = none := imagePart?_eq_none.mpr others
  unfold imagePart? at passed ⊢
  rw [parts, List.find?_append, passed, Option.none_or]
  exact List.find?_cons_of_pos (decide_eq_true image)

theorem erase_of_image {part : Http.ReceivedPart} {form : Http.ReceivedForm}
    (image : imagePart? form = some part) :
    r.erase now s form = r.relayPart now s part := by
  rw [erase, image]

theorem erase_without_image (r : Relay) (now : Nat) (s : RelayState) {form : Http.ReceivedForm}
    (missing : imagePart? form = none) :
    (r.erase now s form).1.isPicture = false ∧ (r.erase now s form).2 = s := by
  rw [erase, missing]
  dsimp only
  split <;> exact ⟨Http.Reply.isPicture_text _ _, rfl⟩

/-- A request that carries an upload: its content as it came, its file name and content type with what
stands for either if it is missing, and no format. -/
structure Carries (request : ServiceRequest) (part : Http.ReceivedPart) : Prop where
  content : request.bytes = part.content
  unnamed : part.filename = none ∨ part.filename = some "" → request.filename = "input.jpg"
  named : ∀ name, part.filename = some name → name ≠ "" → request.filename = name
  typed : request.contentType = some (part.contentType.getD "application/octet-stream")
  /-- The content type is the upload's own, whatever the format. -/
  declared : request.partContentType = part.contentType.getD "application/octet-stream"
  unformatted : request.format = none

theorem forwarded_carries (part : Http.ReceivedPart) : Carries (forwarded part) part where
  content := rfl
  unnamed := by
    rintro (absent | empty)
    · simp [forwarded, uploadName, absent, defaultFilename]
    · simp [forwarded, uploadName, empty, Option.filter, defaultFilename]
  named := by
    intro name given filled
    simp [forwarded, uploadName, given, Option.filter, filled]
  typed := rfl
  declared := rfl
  unformatted := rfl

/-- What comes of an upload that is relayed with some request. -/
structure Relayed (r : Relay) (now : Nat) (s : RelayState) (request : ServiceRequest)
    (reply : Http.Reply) (s' : RelayState) : Prop where
  once : s'.sent = s.sent ++ [request]
  /-- The reply is a picture just if the service answered and the copy was written. -/
  picture : reply.isPicture = true ↔ ∃ output after,
    r.service s.sent request = .ok output ∧
    r.saveCopy s.files (savedName now request.filename) output.bytes = (.ok (), after)
  /-- Then the body, the answer and the copy are the same bytes. -/
  delivered : reply.isPicture = true → ∃ output, r.service s.sent request = .ok output ∧
    reply.body = output.bytes ∧
    s'.files.read (r.copyPath (toString now ++ "_" ++ safeBase request.filename ++ ".png")) =
      .ok output.bytes
  /-- An error response is passed on, with another status if its own cannot be sent. -/
  passedOn : ∀ status body, r.service s.sent request = .error (.httpError status body) →
    reply = .text (if 100 ≤ status ∧ status ≤ 999 then status else 502) body.raw
  unframed : ∀ reason, r.service s.sent request = .error (.encodeFailed reason) →
    reply = .text 400 (ServiceError.encodeFailed reason).message
  /-- Every other failure of the service, or of saving, is one of the relay. -/
  failed : ∀ e, r.service s.sent request = .error e → (∀ status body, e ≠ .httpError status body) →
    (∀ reason, e ≠ .encodeFailed reason) → reply = .text 500 e.message
  unsaved : ∀ output, r.service s.sent request = .ok output → reply.isPicture = false →
    reply.status = 500
  untouched : ∀ e, r.service s.sent request = .error e → s'.files = s.files
  /-- Only a copy that was written makes or changes a file. -/
  kept : reply.isPicture = false → ∀ place, s'.files.content? place = s.files.content? place

theorem Relaying.relayed {part : Http.ReceivedPart} {outcome : Http.Reply × RelayState}
    (ended : Relaying r now s part outcome) :
    Relayed r now s (forwarded part) outcome.1 outcome.2 := by
  cases ended with
  | unanswered failed =>
    rename_i e
    have plain := failureReply_not_picture e
    refine
      { once := rfl
        picture := by simp [failed, plain]
        delivered := by simp [plain]
        passedOn := ?_
        unframed := ?_
        failed := ?_
        unsaved := by simp [failed]
        untouched := fun _ _ => rfl
        kept := fun _ _ => rfl }
    · intro status body rejected
      cases failed.symm.trans rejected
      rfl
    · intro reason rejected
      cases failed.symm.trans rejected
      rfl
    · intro e' rejected noResponse framed
      cases failed.symm.trans rejected
      cases e with
      | httpError status body => exact absurd rfl (noResponse status body)
      | encodeFailed reason => exact absurd rfl (framed reason)
      | networkError => rfl
      | timeout => rfl
      | invalidConfig => rfl
      | notImage => rfl
  | unsaved answered refused =>
    rename_i output left why
    have plain := Http.Reply.isPicture_text 500 why.message
    refine
      { once := rfl
        picture := ?_
        delivered := by simp [plain]
        passedOn := by simp [answered]
        unframed := by simp [answered]
        failed := by simp [answered]
        unsaved := fun _ _ _ => rfl
        untouched := by simp [answered]
        kept := fun _ => (prepared_of_unsaved refused).contents }
    rw [plain]
    constructor
    · intro picture
      cases picture
    · rintro ⟨output', left', answered', saved⟩
      cases answered.symm.trans answered'
      cases refused.symm.trans saved
  | saved answered saved =>
    rename_i output left
    have picture : Http.Reply.isPicture
        ⟨200, [("content-type", "image/png")], output.bytes⟩ = true := by
      simp [Http.Reply.isPicture]
    exact
      { once := rfl
        picture := ⟨fun _ => ⟨output, left, answered, saved⟩, fun _ => picture⟩
        delivered := fun _ => ⟨output, answered, rfl, read_of_saved saved⟩
        passedOn := by simp [answered]
        unframed := by simp [answered]
        failed := by simp [answered]
        unsaved := by simp [picture]
        untouched := by simp [answered]
        kept := by simp [picture] }

/-! ## Answering a form -/

/-- A form is answered by its first part with an image alone. That is sent once, and what becomes of it
decides the reply; a form without one is refused, and nothing is sent. -/
theorem form_is_relayed_by_its_first_image (r : Relay) (now : Nat) (s : RelayState)
    (form : Http.ReceivedForm) :
    ((r.erase now s form).2.sent ≠ s.sent ↔ ∃ p ∈ form.parts, p.label = some "image_file") ∧
    (∀ before part later, form.parts = before ++ part :: later →
      (∀ p ∈ before, p.label ≠ some "image_file") → part.label = some "image_file" →
      r.erase now s form = r.erase now s ⟨[part], none⟩ ∧
      ∃ request, Carries request part ∧
        Relayed r now s request (r.erase now s form).1 (r.erase now s form).2) ∧
    ((∀ p ∈ form.parts, p.label ≠ some "image_file") → form.broken = none →
      r.erase now s form = (.text 400 "image_file required", s)) := by
  refine ⟨?_, ?_, ?_⟩
  · cases image : imagePart? form with
    | none =>
      have others := imagePart?_eq_none.mp image
      rw [(erase_without_image r now s image).2]
      constructor
      · intro changed
        exact absurd rfl changed
      · rintro ⟨p, member, named⟩
        exact absurd named (others p member)
    | some part =>
      rw [erase_of_image image, (relayPart_relaying r now s part).relayed.once]
      constructor
      · intro _
        have member := List.mem_of_find?_eq_some image
        have named := List.find?_some image
        exact ⟨part, member, of_decide_eq_true named⟩
      · simp
  · intro before part later parts others named
    have image := imagePart?_eq parts others named
    have alone : imagePart? ⟨[part], none⟩ = some part :=
      List.find?_cons_of_pos (decide_eq_true named)
    refine ⟨by rw [erase_of_image image, erase_of_image alone], forwarded part,
      forwarded_carries part, ?_⟩
    rw [erase_of_image image]
    exact (relayPart_relaying r now s part).relayed
  · intro others whole
    rw [erase, imagePart?_eq_none.mpr others]
    simp only [whole]

/-- A form with a note before its picture and another picture after it. -/
def threeParts : Http.ReceivedForm :=
  ⟨[⟨some "note", none, none, ⟨#[72, 105]⟩⟩,
    ⟨some "image_file", some "my cat.png", some "image/png", ⟨#[1, 2, 3]⟩⟩,
    ⟨some "image_file", none, none, ⟨#[9]⟩⟩], none⟩

/-- A relay of a service that answers with what it was sent. -/
def echo : Relay := ⟨fun _ request => .ok ⟨request.bytes, .png, "image/png"⟩, .ofText "/copies"⟩

theorem three_parts_answered_by_second :
    (echo.erase 7 ⟨.empty, []⟩ threeParts).1.body = ⟨#[1, 2, 3]⟩ ∧
    (echo.erase 7 ⟨.empty, []⟩ threeParts).2.files.read (.ofText "/copies/7_my_cat.png") =
      .ok ⟨#[1, 2, 3]⟩ := by
  have picture : (echo.erase 7 ⟨.empty, []⟩ threeParts).1.isPicture = true := by decide +kernel
  obtain ⟨-, relays, -⟩ := form_is_relayed_by_its_first_image echo 7 ⟨.empty, []⟩ threeParts
  obtain ⟨-, request, carries, relayed⟩ :=
    relays [⟨some "note", none, none, ⟨#[72, 105]⟩⟩] ⟨some "image_file", some "my cat.png",
      some "image/png", ⟨#[1, 2, 3]⟩⟩ [⟨some "image_file", none, none, ⟨#[9]⟩⟩] rfl (by decide) rfl
  obtain ⟨output, answered, body, copy⟩ := relayed.delivered picture
  have content : output.bytes = ⟨#[1, 2, 3]⟩ := by
    cases answered
    exact carries.content
  have name : request.filename = "my cat.png" := carries.named _ rfl (by decide)
  have base : toString 7 ++ "_" ++ safeBase "my cat.png" ++ ".png" = "7_my_cat.png" := by
    decide +kernel
  have path : echo.copyPath "7_my_cat.png" = .ofText "/copies/7_my_cat.png" := by decide +kernel
  rw [content] at body copy
  rw [name, base, path] at copy
  exact ⟨body, copy⟩

/-! ## Answering a request -/

/-- The form in a request, if it is for the resource to which forms are posted. -/
def formOf? (q : Http.Request) : Option Http.ReceivedForm :=
  match resource q, boundary q with
  | .ok .erase, .ok boundary => some (.read boundary q.body)
  | _, _ => none

/-- Whether a request is routed at all. -/
def Access.admits : Access → Bool
  | .direct | .granted _ => true
  | .preflight _ | .refused _ => false

/-- The form that a request posts, if it may. -/
def posted? (allowed : List Http.Origin) (q : Http.Request) : Option Http.ReceivedForm :=
  if (access allowed q).admits then formOf? q else none

/-- The upload that a request is made for. -/
def upload? (allowed : List Http.Origin) (q : Http.Request) : Option Http.ReceivedPart :=
  (posted? allowed q).bind imagePart?

variable {allowed : List Http.Origin} {q : Http.Request} {form : Http.ReceivedForm}

theorem route_of_form (given : formOf? q = some form) :
    r.route now s q = (.ok (r.erase now s form).1, (r.erase now s form).2) := by
  unfold formOf? at given
  split at given
  · rename_i found bounded
    cases given
    rw [route, found]
    simp only [bounded]
  · cases given

theorem route_without_form (missing : formOf? q = none) :
    (∃ e, r.route now s q = (.error e, s)) ∨ r.route now s q = (.ok pong, s) := by
  unfold formOf? at missing
  unfold route
  split
  · exact .inl ⟨_, rfl⟩
  · exact .inr rfl
  · rename_i found
    split
    · exact .inl ⟨_, rfl⟩
    · rename_i bounded
      rw [found, bounded] at missing
      cases missing

/-- A reply that says the same, perhaps with a header that grants access. -/
structure SameContent (reply granted : Http.Reply) : Prop where
  status : granted.status = reply.status
  body : granted.body = reply.body
  picture : granted.isPicture = reply.isPicture

theorem sameContent_refl (reply : Http.Reply) : SameContent reply reply := ⟨rfl, rfl, rfl⟩

theorem sameContent_withGrant (reply : Http.Reply) (origin : String) :
    SameContent reply (reply.withHeader grantHeader origin) where
  status := rfl
  body := rfl
  picture := by
    have other : [(grantHeader, origin)].contains ("content-type", "image/png") = false := by
      simp [grantHeader]
    simp only [Http.Reply.isPicture, Http.Reply.withHeader, List.contains_eq_any_beq,
      List.any_append] at other ⊢
    rw [other, Bool.or_false]
    rfl

theorem preflight_not_picture (origin : String) : (preflightReply origin).isPicture = false := by
  simp [preflightReply, Http.Reply.isPicture, grantHeader]

theorem rejection_not_picture (e : Rejection) : e.reply.isPicture = false := by
  cases e with
  | notFound => rfl
  | _ => exact Http.Reply.isPicture_text _ _

/-- A request that posts a form gets what comes of the form. -/
theorem answer_of_posted (r : Relay) (now : Nat) (s : RelayState)
    (posted : posted? allowed q = some form) :
    SameContent (r.erase now s form).1 (r.answer allowed now s q).1 ∧
      (r.answer allowed now s q).2 = (r.erase now s form).2 := by
  unfold posted? at posted
  split at posted
  · rename_i admitted
    unfold answer
    rw [route_of_form posted]
    split
    · rename_i refused
      rw [refused] at admitted
      cases admitted
    · rename_i asked
      rw [asked] at admitted
      cases admitted
    · exact ⟨sameContent_refl _, rfl⟩
    · exact ⟨sameContent_withGrant _ _, rfl⟩
  · cases posted

/-- Every other request changes nothing and gets no picture. -/
theorem answer_of_unposted (r : Relay) (now : Nat) (s : RelayState)
    (unposted : posted? allowed q = none) :
    (r.answer allowed now s q).1.isPicture = false ∧ (r.answer allowed now s q).2 = s := by
  have pongPlain : pong.isPicture = false := by decide +kernel
  -- a page that may have the reply gets it with one header more, which is no content type
  unfold answer
  split
  · exact ⟨rejection_not_picture _, rfl⟩
  · exact ⟨preflight_not_picture _, rfl⟩
  · rename_i direct
    have missing : formOf? q = none := by simpa [posted?, direct, Access.admits] using unposted
    rcases route_without_form missing with ⟨e, turnedAway⟩ | alive
    · rw [turnedAway]
      exact ⟨rejection_not_picture e, rfl⟩
    · rw [alive]
      exact ⟨pongPlain, rfl⟩
  · rename_i origin granted
    have missing : formOf? q = none := by simpa [posted?, granted, Access.admits] using unposted
    rcases route_without_form missing with ⟨e, turnedAway⟩ | alive
    · rw [turnedAway]
      exact ⟨rejection_not_picture e, rfl⟩
    · rw [alive]
      exact ⟨(sameContent_withGrant pong origin).picture.trans pongPlain, rfl⟩

/-- A request that posts a form of one part, with a file name and a content. -/
def posting (filename content : String) : Http.Request :=
  let body := ("--b\r\nContent-Disposition: form-data; name=\"image_file\"; filename=\"" ++ filename ++
    "\"\r\n\r\n" ++ content ++ "\r\n--b--\r\n").toUTF8
  ⟨"POST", "/erase",
    [("content-type", "multipart/form-data; boundary=b".toUTF8.data.toList),
      ("content-length", (toString body.size).toUTF8.data.toList)], body⟩

end Relay

end Silhouette
