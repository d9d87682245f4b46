import Mathlib.Data.List.Nodup
import Silhouette.Service.ErrorBody
import Silhouette.Proofs.JsonMembers

/-! The message that is found in a body which is a JSON object. Its three members are read together: a member that
is not what it should be takes the message away, however sound the others are, and so does any key that is no
text. Of the texts that are there the first one decides, and if it is blank the others are not asked. -/
namespace Silhouette.ErrorBody

open Json (Tree spelled)
open Json.Tree (member? Named)

/-! ## What the members offer -/

/-- The text that an optional member offers. It may be null, and offers no text then. -/
inductive Offers : Option Tree → Option String → Prop where
  | absent : Offers none none
  | null : Offers (some .null) none
  | text (s : String) : Offers (some (.string (spelled s))) (some s)

/-- The text that an `error` member offers: its own, or that of a `message` member inside it. -/
inductive ErrorOffers : Option Tree → Option String → Prop where
  | plain {field : Option Tree} {offer : Option String} (own : Offers field offer) :
      ErrorOffers field offer
  | nested {members : List (List Json.Piece × Tree)} {offer : Option String}
      (distinct : (members.map Prod.fst).Nodup) (inner : Offers (member? "message" members) offer) :
      ErrorOffers (some (.object members)) offer

/-- The three members can be read, and all other keys with them. Nothing is asked of other values. -/
structure Legible (members : List (List Json.Piece × Tree)) : Prop where
  named : Named members
  error : ∀ t, member? "error" members = some t → t.sound 126 = true
  message : ∃ offer, Offers (member? "message" members) offer
  detail : ∃ offer, Offers (member? "detail" members) offer

variable {raw : String} {members : List (List Json.Piece × Tree)} {field : Option Tree}
  {offer : Option String} {s : String}

theorem offers_iff : Offers field offer ↔ Json.optional? Tree.text? field = some offer := by
  constructor
  · rintro (_ | _ | s)
    · rfl
    · rfl
    · simp [Json.optional?, Tree.text?]
  · intro read
    cases field with
    | none =>
      cases read
      exact .absent
    | some t =>
      cases t with
      | null =>
        cases read
        exact .null
      | string letters =>
        obtain ⟨s, text, rfl⟩ := Option.map_eq_some_iff.mp read
        rw [Json.text?_eq_some_iff.mp text]
        exact .text s
      | _ => cases read

theorem lastValue?_of_distinct (key : String) (distinct : (members.map Prod.fst).Nodup) :
    lastValue? key members = member? key members := by
  have backwards : lastValue? key members = member? key members.reverse := by
    simp only [lastValue?, member?, Json.text?_eq_some_iff]
  have distinct' : (members.reverse.map Prod.fst).Nodup := by
    rwa [List.map_reverse, List.nodup_reverse]
  rw [backwards]
  ext v
  rw [Json.Tree.member?_eq_some_iff distinct', Json.Tree.member?_eq_some_iff distinct,
    List.mem_reverse]

theorem bind_text?_of_offers (inner : Offers field offer) : field.bind Tree.text? = offer := by
  cases inner with
  | absent => rfl
  | null => rfl
  | text s => simp [Tree.text?]

theorem bind_errorText_of_offers (error : ErrorOffers field offer) :
    field.bind errorText = offer := by
  cases error with
  | plain own =>
    cases own with
    | absent => rfl
    | null => rfl
    | text s => simp [errorText]
  | nested distinct inner =>
    rw [Option.bind_some, errorText, lastValue?_of_distinct "message" distinct]
    exact bind_text?_of_offers inner

/-! ## Reading the members together -/

private theorem optional?_anyValue?_of_sound (sound : ∀ t, field = some t → t.sound 126 = true) :
    ∃ value, Json.optional? anyValue? field = some value ∧
      value.bind errorText = field.bind errorText := by
  cases field with
  | none => exact ⟨none, rfl, rfl⟩
  | some t =>
    have whole : anyValue? t = some t := if_pos (sound t rfl)
    cases t with
    | null => exact ⟨none, rfl, rfl⟩
    | _ =>
      simp only [Json.optional?, whole]
      exact ⟨_, rfl, rfl⟩

private theorem optional?_anyValue?_of_unsound {t : Tree} (unsound : t.sound 126 ≠ true) :
    Json.optional? anyValue? (some t) = none := by
  have refused : anyValue? t = none := if_neg unsound
  cases t with
  | null => exact absurd rfl unsound
  | _ => simp only [Json.optional?, refused, Option.map_none]

/-- Three members give a message together or not at all. -/
theorem messageOf?_eq_some_iff {error message detail : Option Tree} {found : Option String} :
    messageOf? error message detail = some found ↔
      (∀ t, error = some t → t.sound 126 = true) ∧
        ∃ b c, Offers message b ∧ Offers detail c ∧
          found = ((error.bind errorText).or b).or c := by
  simp only [offers_iff]
  constructor
  · intro read
    have sound : ∀ t, error = some t → t.sound 126 = true := by
      rintro t rfl
      by_contra unsound
      simp [messageOf?, optional?_anyValue?_of_unsound unsound] at read
    obtain ⟨value, error', text⟩ := optional?_anyValue?_of_sound sound
    cases message' : Json.optional? Tree.text? message with
    | none => simp [messageOf?, error', message'] at read
    | some b =>
      cases detail' : Json.optional? Tree.text? detail with
      | none => simp [messageOf?, error', message', detail'] at read
      | some c =>
        simp only [messageOf?, error', message', detail', Option.some.injEq] at read
        exact ⟨sound, b, c, rfl, rfl, by rw [← read, text]⟩
  · rintro ⟨sound, b, c, message', detail', rfl⟩
    obtain ⟨value, error', text⟩ := optional?_anyValue?_of_sound sound
    simp only [messageOf?, error', message', detail', text]

theorem ofTree?_eq_some_iff (distinct : (members.map Prod.fst).Nodup) {found : Option String} :
    ofTree? (.object members) = some found ↔
      Named members ∧ messageOf? (member? "error" members) (member? "message" members)
        (member? "detail" members) = some found := by
  by_cases named : Named members
  · simp only [ofTree?, Json.Tree.fields?_of_named _ named distinct, List.map_cons, List.map_nil,
      named, true_and]
  · simp [ofTree?, Json.Tree.fields?_of_not_named _ named, named]

theorem legible_iff (distinct : (members.map Prod.fst).Nodup) :
    Legible members ↔ ∃ found, ofTree? (.object members) = some found := by
  simp only [ofTree?_eq_some_iff distinct, messageOf?_eq_some_iff]
  constructor
  · rintro ⟨named, error, ⟨b, message⟩, ⟨c, detail⟩⟩
    exact ⟨_, named, error, b, c, message, detail, rfl⟩
  · rintro ⟨found, named, error, b, c, message, detail, -⟩
    exact ⟨named, error, ⟨b, message⟩, ⟨c, detail⟩⟩

/-- A legible object gives the first text that is there, unless that is blank. -/
theorem message_of_legible (read : Tree.read? raw = some (.object members))
    (distinct : (members.map Prod.fst).Nodup) (legible : Legible members) {a b c : Option String}
    (error : ErrorOffers (member? "error" members) a) (message : Offers (member? "message" members) b)
    (detail : Offers (member? "detail" members) c) :
    (parse raw).message = ((a.or b).or c).filter fun m => !Text.isBlankText m := by
  have found : ofTree? (.object members) = some ((a.or b).or c) := by
    rw [ofTree?_eq_some_iff distinct, messageOf?_eq_some_iff]
    exact ⟨legible.named, legible.error, b, c, message, detail,
      by rw [bind_errorText_of_offers error]⟩
  simp only [parse, read, Option.bind_some, found, Option.join_some]

theorem message_of_illegible (read : Tree.read? raw = some (.object members))
    (distinct : (members.map Prod.fst).Nodup) (illegible : ¬ Legible members) :
    (parse raw).message = none := by
  have nothing : ofTree? (.object members) = none := by
    cases tree : ofTree? (.object members) with
    | none => rfl
    | some found => exact absurd ((legible_iff distinct).mpr ⟨found, tree⟩) illegible
  simp [parse, read, nothing]

/-! ## A text under `error` and its neighbours -/

/-- Nothing stands in the way of a text under `error`: every key is a text, and `message` and `detail` are null or
texts where they are there. Of all other values nothing is asked. -/
structure Unobstructed (members : List (List Json.Piece × Tree)) : Prop where
  keys : ∀ m ∈ members, ∃ name, m.1 = spelled name
  texts : ∀ key ∈ ["message", "detail"], ∀ v, (spelled key, v) ∈ members →
    v = .null ∨ ∃ t, v = .string (spelled t)

theorem exists_offers_iff (key : String) (distinct : (members.map Prod.fst).Nodup) :
    (∃ offer, Offers (member? key members) offer) ↔
      ∀ v, (spelled key, v) ∈ members → v = .null ∨ ∃ t, v = .string (spelled t) := by
  simp only [← Json.Tree.member?_eq_some_iff distinct]
  constructor
  · rintro ⟨offer, offers⟩ v found
    rw [found] at offers
    cases offers with
    | null => exact .inl rfl
    | text t => exact .inr ⟨t, rfl⟩
  · intro fit
    cases found : member? key members with
    | none => exact ⟨none, .absent⟩
    | some v =>
      rcases fit v found with rfl | ⟨t, rfl⟩
      · exact ⟨none, .null⟩
      · exact ⟨some t, .text t⟩

theorem unobstructed_iff_legible (distinct : (members.map Prod.fst).Nodup)
    (error : member? "error" members = some (.string (spelled s))) :
    Unobstructed members ↔ Legible members := by
  have message := exists_offers_iff "message" distinct
  have detail := exists_offers_iff "detail" distinct
  constructor
  · rintro ⟨keys, texts⟩
    refine ⟨keys, ?_, message.mpr (texts _ (by simp)), detail.mpr (texts _ (by simp))⟩
    intro t found
    rw [error] at found
    cases found
    simp [Tree.sound]
  · intro legible
    refine ⟨legible.named, ?_⟩
    intro key asked
    rcases List.mem_pair.mp asked with rfl | rfl
    · exact message.mp legible.message
    · exact detail.mp legible.detail

/-- A text under `error` that is not blank is the message, whatever the other members hold, as long as they do not
stand in its way. Where one does, there is no message. -/
theorem error_text_is_told_unless_obstructed (read : Tree.read? raw = some (.object members))
    (distinct : (members.map Prod.fst).Nodup)
    (error : (spelled "error", .string (spelled s)) ∈ members)
    (solid : Text.isBlankText s = false) :
    (Unobstructed members → (parse raw).message = some s) ∧
      (¬ Unobstructed members → (parse raw).message = none) := by
  have own := (Json.Tree.member?_eq_some_iff distinct).mpr error
  rw [unobstructed_iff_legible distinct own]
  refine ⟨?_, message_of_illegible read distinct⟩
  intro legible
  obtain ⟨b, message⟩ := legible.message
  obtain ⟨c, detail⟩ := legible.detail
  have text : ErrorOffers (member? "error" members) (some s) := by
    rw [own]
    exact .plain (.text s)
  rw [message_of_legible read distinct legible text message detail]
  simp [Option.filter, solid]

/-- An error response that says what is wrong, with a code of its own. -/
def quotaMembers : List (List Json.Piece × Tree) :=
  [(spelled "error", .string (spelled "quota exceeded")),
   (spelled "code", .array [.number ⟨false, ['7'], [], none⟩]), (spelled "detail", .null)]

theorem quota_error_is_told :
    Unobstructed quotaMembers ∧
      (parse "\x7b\"error\":\"quota exceeded\",\"code\":[7],\"detail\":null\x7d").message =
        some "quota exceeded" := by
  have legible : Legible quotaMembers :=
    ⟨Json.Tree.named_iff.mpr ⟨_, rfl⟩, fun t found => by cases found; rfl, ⟨_, .absent⟩, ⟨_, .null⟩⟩
  have unobstructed := (unobstructed_iff_legible (by decide) rfl).mpr legible
  have told := @error_text_is_told_unless_obstructed
    "\x7b\"error\":\"quota exceeded\",\"code\":[7],\"detail\":null\x7d" quotaMembers
    "quota exceeded" rfl (by decide) List.mem_cons_self (by decide)
  exact ⟨unobstructed, told.1 unobstructed⟩

/-- A detail with a structure of its own takes the message away. -/
theorem structured_detail_hides_error :
    ¬ ∀ (raw : String) (members : List (List Json.Piece × Tree)) (s : String),
      Tree.read? raw = some (.object members) → (members.map Prod.fst).Nodup →
      (spelled "error", .string (spelled s)) ∈ members → Text.isBlankText s = false →
      (parse raw).message = some s := by
  intro told
  have message := told "\x7b\"error\":\"e\",\"detail\":[]\x7d"
    [(spelled "error", .string (spelled "e")), (spelled "detail", .array [])] "e" rfl (by decide)
    List.mem_cons_self (by decide)
  revert message
  decide +kernel

/-! ## Which text counts -/

/-- The first of some texts that is there. -/
def firstThere (texts : List (Option String)) : Option String := texts.findSome? id

/-- The first of some texts that is there and not blank. -/
def firstSolid (texts : List (Option String)) : Option String :=
  texts.findSome? fun text => text.filter fun s => !Text.isBlankText s

private theorem filter_solid (s : String) :
    ((some s).filter fun s => !Text.isBlankText s) = if Text.isBlankText s then none else some s := by
  cases blank : Text.isBlankText s with
  | true => simp [Option.filter, blank]
  | false => simp [Option.filter, blank]

/-- The two differ only where a blank text comes before one that is not blank. -/
theorem filter_firstThere_eq_iff (texts : List (Option String)) :
    ((firstThere texts).filter fun s => !Text.isBlankText s) = firstSolid texts ↔
      ∀ s, firstThere texts = some s → Text.isBlankText s = true → firstSolid texts = none := by
  induction texts with
  | nil => simp [firstThere, firstSolid]
  | cons text rest ih =>
    cases text with
    | none => exact ih
    | some s =>
      have there : firstThere (some s :: rest) = some s := rfl
      rw [there, filter_solid]
      cases blank : Text.isBlankText s with
      | true =>
        constructor
        · intro same _ _ _
          exact same.symm
        · intro hidden
          exact (hidden s rfl blank).symm
      | false =>
        have solid : firstSolid (some s :: rest) = some s := by
          rw [firstSolid, List.findSome?_cons, filter_solid, blank]
          rfl
        rw [solid]
        constructor
        · rintro - _ ⟨⟩ blank'
          rw [blank] at blank'
          cases blank'
        · intro _
          rfl

/-- Of the texts of `error`, `message` and `detail` the first that is there is the message, unless it is blank:
then there is no message, even if a later one is not blank. So the message is the first text that is not blank
just if no blank one hides it. For all that the object has to be legible, in its keys and in the value of
`error`. -/
theorem first_text_there_decides (read : Tree.read? raw = some (.object members))
    (distinct : (members.map Prod.fst).Nodup) {a b c : Option String}
    (error : ErrorOffers (member? "error" members) a)
    (message : Offers (member? "message" members) b)
    (detail : Offers (member? "detail" members) c) :
    (Legible members ↔ Named members ∧ ∀ t, member? "error" members = some t → t.sound 126 = true) ∧
    (Legible members →
      (parse raw).message = (firstThere [a, b, c]).filter (fun s => !Text.isBlankText s) ∧
      ((parse raw).message = firstSolid [a, b, c] ↔
        ∀ s, firstThere [a, b, c] = some s → Text.isBlankText s = true →
          firstSolid [a, b, c] = none)) ∧
    (¬ Legible members → (parse raw).message = none) := by
  refine ⟨?_, ?_, message_of_illegible read distinct⟩
  · constructor
    · intro legible
      exact ⟨legible.named, legible.error⟩
    · rintro ⟨named, sound⟩
      exact ⟨named, sound, ⟨b, message⟩, ⟨c, detail⟩⟩
  · intro legible
    have order : firstThere [a, b, c] = (a.or b).or c := by
      cases a <;> cases b <;> cases c <;> rfl
    have decided : (parse raw).message =
        (firstThere [a, b, c]).filter fun s => !Text.isBlankText s := by
      rw [order]
      exact message_of_legible read distinct legible error message detail
    refine ⟨decided, ?_⟩
    rw [decided]
    exact filter_firstThere_eq_iff [a, b, c]

/-- An error response whose `error` has a code and no text. -/
def codedMembers : List (List Json.Piece × Tree) :=
  [(spelled "error", .object [(spelled "code", .number ⟨false, ['7'], [], none⟩)]),
   (spelled "message", .string (spelled "bad key")), (spelled "detail", .string (spelled " "))]

theorem message_speaks_for_coded_error :
    (parse "\x7b\"error\":\x7b\"code\":7\x7d,\"message\":\"bad key\",\"detail\":\" \"\x7d").message =
      some "bad key" := by
  have silent : ErrorOffers (member? "error" codedMembers) none := .nested (by decide) .absent
  obtain ⟨legible, told, -⟩ := @first_text_there_decides
    "\x7b\"error\":\x7b\"code\":7\x7d,\"message\":\"bad key\",\"detail\":\" \"\x7d" codedMembers rfl
    (by decide) none (some "bad key") (some " ") silent (.text "bad key") (.text " ")
  have read := legible.mpr
    ⟨Json.Tree.named_iff.mpr ⟨_, rfl⟩, fun t found => by cases found; decide +kernel⟩
  exact (told read).1

/-- A blank text under `error` takes the message away, though there is another text. -/
theorem blank_error_hides_message :
    ¬ ∀ (raw : String) (members : List (List Json.Piece × Tree)) (a b c : Option String),
      Tree.read? raw = some (.object members) → (members.map Prod.fst).Nodup →
      ErrorOffers (member? "error" members) a → Offers (member? "message" members) b →
      Offers (member? "detail" members) c → (parse raw).message = firstSolid [a, b, c] := by
  intro told
  have message := told "\x7b\"error\":\" \",\"message\":\"m\"\x7d"
    [(spelled "error", .string (spelled " ")), (spelled "message", .string (spelled "m"))]
    (some " ") (some "m") none rfl (by decide) (.plain (.text " ")) (.text "m") .absent
  revert message
  decide +kernel

end Silhouette.ErrorBody
