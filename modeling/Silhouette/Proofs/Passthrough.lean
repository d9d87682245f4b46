import Silhouette.Proofs.Relay
import Silhouette.Proofs.Responses

/-! What the relay makes of an error response of the service. Its status is passed on, and so is its body as
far as it is text: the client reads the body as text, and what is not text in it is replaced. A body
therefore arrives as it was just if it is text in the first place. Nothing is saved. -/
namespace Silhouette.Relay

variable {client : Client} {network : HttpRequest → Exchange} {saveDir : Path}
  {allowed : List Http.Origin} {now : Nat} {s : RelayState} {q : Http.Request}
  {form : Http.ReceivedForm} {part : Http.ReceivedPart} {sent : HttpRequest} {response : HttpResponse}

/-- The relay of a service that a client reaches. -/
def ofClient (client : Client) (network : HttpRequest → Exchange) (saveDir : Path) : Relay :=
  ⟨client.service network, saveDir⟩

theorem service_of_answered {request : ServiceRequest} (framed : client.request request = .ok sent)
    (answered : network sent = .answered response) (before : List ServiceRequest) :
    client.service network before request = Client.judge response := by
  simp only [Client.service, Client.transform, framed, answered, Client.outcome]

/-- An upload that meets an error response gets the response as far as it is text, and changes no file. -/
theorem relayPart_of_failed (framed : client.request (forwarded part) = .ok sent)
    (answered : network sent = .answered response)
    (failed : 400 ≤ response.status ∧ response.status ≤ 599) :
    (ofClient client network saveDir).relayPart now s part =
      (.text response.status (Text.Utf8.decodeLossy response.body.data.toList),
        ⟨s.files, s.sent ++ [forwarded part]⟩) := by
  have rejected : (ofClient client network saveDir).service s.sent (forwarded part) = _ :=
    (service_of_answered framed answered s.sent).trans (Client.judge_of_failed (.inr (by omega)))
  have sendable : 100 ≤ response.status ∧ response.status ≤ 999 := by omega
  unfold relayPart
  dsimp only
  rw [rejected]
  simp only [failureReply, statusOr502, if_pos sendable, ErrorBody.parse]

theorem answer_of_failed (client : Client) (network : HttpRequest → Exchange) (saveDir : Path)
    (now : Nat) (s : RelayState) (posted : posted? allowed q = some form)
    (image : imagePart? form = some part) (framed : client.request (forwarded part) = .ok sent)
    (answered : network sent = .answered response)
    (failed : 400 ≤ response.status ∧ response.status ≤ 599) :
    SameContent (.text response.status (Text.Utf8.decodeLossy response.body.data.toList))
        ((ofClient client network saveDir).answer allowed now s q).1 ∧
      ((ofClient client network saveDir).answer allowed now s q).2 =
        ⟨s.files, s.sent ++ [forwarded part]⟩ := by
  have answer := answer_of_posted (ofClient client network saveDir) now s posted
  rw [erase_of_image image, relayPart_of_failed framed answered failed] at answer
  exact answer

/-- An error response of the service is the reply to the upload, with its status, and with the bytes of its
body just if they are text; and it leaves every file as it was. -/
theorem error_response_is_passed_on_as_text (client : Client) (network : HttpRequest → Exchange)
    (saveDir : Path) (now : Nat) (s : RelayState) (posted : posted? allowed q = some form)
    (image : imagePart? form = some part) (framed : client.request (forwarded part) = .ok sent)
    (answered : network sent = .answered response)
    (failed : 400 ≤ response.status ∧ response.status ≤ 599) :
    let answer := (ofClient client network saveDir).answer allowed now s q
    answer.1.status = response.status ∧
    answer.1.body = (Text.Utf8.decodeLossy response.body.data.toList).toUTF8 ∧
    (answer.1.body = response.body ↔ ∃ text : String, text.toUTF8 = response.body) ∧
    answer.2.files = s.files ∧ answer.2.sent = s.sent ++ [forwarded part] := by
  intro answer
  obtain ⟨same, state⟩ :=
    answer_of_failed client network saveDir now s posted image framed answered failed
  have body : answer.1.body = (Text.Utf8.decodeLossy response.body.data.toList).toUTF8 := same.body
  have files : answer.2.files = s.files := by rw [state]
  have once : answer.2.sent = s.sent ++ [forwarded part] := by rw [state]
  refine ⟨same.status, body, ?_, files, once⟩
  rw [body]
  exact Text.Utf8.toUTF8_decodeLossy_eq_iff

/-- A client with a key and otherwise the usual settings. -/
def usualClient : Client := ⟨.interactive ⟨"k"⟩⟩

/-- The request that the client sends for the picture. -/
def sentPicture : HttpRequest :=
  ⟨"https://api.backgrounderase.net/v2", "x-api-key", "k",
    ⟨"image_file", "a.png", "application/octet-stream", ⟨#[120]⟩⟩⟩

private theorem picture_posted : posted? [] (posting "a.png" "x") =
    some ⟨[⟨some "image_file", some "a.png", none, ⟨#[120]⟩⟩], none⟩ := by decide +kernel

private theorem picture_framed :
    usualClient.request (forwarded ⟨some "image_file", some "a.png", none, ⟨#[120]⟩⟩) =
      .ok sentPicture := by decide +kernel

/-- A service that is busy. -/
def busyResponse : HttpResponse := ⟨503, none, "busy".toUTF8⟩

/-- A relay of the busy service. -/
def busyRelay : Relay := ofClient usualClient (fun _ => .answered busyResponse) ⟨[]⟩

theorem busy_response_is_passed_on :
    (busyRelay.answer [] 0 ⟨.empty, []⟩ (posting "a.png" "x")).1.status = busyResponse.status ∧
    (busyRelay.answer [] 0 ⟨.empty, []⟩ (posting "a.png" "x")).1.body = busyResponse.body := by
  obtain ⟨status, -, exactly, -⟩ := error_response_is_passed_on_as_text usualClient
    (fun _ => .answered busyResponse) ⟨[]⟩ 0 ⟨.empty, []⟩ picture_posted rfl picture_framed
    rfl (by decide)
  exact ⟨status, exactly.mpr ⟨"busy", rfl⟩⟩

/-- A body that is not text does not come through: this one is a single byte, and three come of it. -/
theorem body_without_text_is_replaced :
    ¬ ∀ (client : Client) (network : HttpRequest → Exchange) (saveDir : Path)
      (allowed : List Http.Origin) (now : Nat) (s : RelayState) (q : Http.Request)
      (form : Http.ReceivedForm) (part : Http.ReceivedPart) (sent : HttpRequest)
      (response : HttpResponse),
      posted? allowed q = some form → form.broken = none → imagePart? form = some part →
      client.request (forwarded part) = .ok sent → network sent = .answered response →
      400 ≤ response.status ∧ response.status ≤ 599 →
      ((ofClient client network saveDir).answer allowed now s q).1.body = response.body := by
  intro unchanged
  have same := unchanged usualClient (fun _ => .answered ⟨500, none, ⟨#[0xff]⟩⟩) ⟨[]⟩ [] 0
    ⟨.empty, []⟩ (posting "a.png" "x") _ _ sentPicture _ picture_posted rfl rfl picture_framed rfl
    (by decide)
  have replaced := (answer_of_failed usualClient (fun _ => .answered ⟨500, none, ⟨#[0xff]⟩⟩) ⟨[]⟩ 0
    ⟨.empty, []⟩ picture_posted rfl picture_framed rfl (by decide)).1.body
  rw [same] at replaced
  revert replaced
  decide +kernel

end Silhouette.Relay
