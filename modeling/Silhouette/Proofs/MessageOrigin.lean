import Silhouette.Proofs.ErrorMessage
import Silhouette.Proofs.FormatText
import Silhouette.Proofs.JsonGrammar

/-! Where the message of an error response comes from. It is the text of one of three fields, never blank and never
made up, and a body without such a field has no message. The fields are the members of an object, but an array of
three values is taken for them too, so the body of a message need not be an object. -/
namespace Silhouette.ErrorBody

open Json (Tree spelled)
open Json.Tree (Named Only Last)

/-! ## Fields and what they tell -/

/-- The fields of a body: three members of an object with texts for keys, each there once at most, or the values of
an array of exactly three. -/
inductive Fields : Tree → Option Tree → Option Tree → Option Tree → Prop where
  | members {members : List (List Json.Piece × Tree)} {error message detail : Option Tree}
      (named : Named members) (first : Only "error" members error)
      (second : Only "message" members message) (third : Only "detail" members detail) :
      Fields (.object members) error message detail
  | items (error message detail : Tree) :
      Fields (.array [error, message, detail]) (some error) (some message) (some detail)

/-- Fields that can be read together: a sound value, and two that are null or texts where they are there. -/
structure Readable (error message detail : Option Tree) : Prop where
  sound : ∀ t, error = some t → t.sound 126 = true
  message : ∃ offer, Offers message offer
  detail : ∃ offer, Offers detail offer

/-- An `error` field tells a text: it is that text, or an object with that text as its last `message`. -/
inductive ErrorTells (m : String) : Option Tree → Prop where
  | own : ErrorTells m (some (.string (spelled m)))
  | inner {members : List (List Json.Piece × Tree)}
      (last : Last "message" members (.string (spelled m))) : ErrorTells m (some (.object members))

/-- The first field that has a text tells it, blank or not. -/
inductive Tells (m : String) : Option Tree → Option Tree → Option Tree → Prop where
  | error {error message detail : Option Tree} (told : ErrorTells m error) : Tells m error message detail
  | message {error detail : Option Tree} (silent : ∀ s, ¬ ErrorTells s error) :
      Tells m error (some (.string (spelled m))) detail
  | detail {error message : Option Tree} (silent : ∀ s, ¬ ErrorTells s error)
      (mute : ∀ s, message ≠ some (.string (spelled s))) :
      Tells m error message (some (.string (spelled m)))

variable {raw m : String} {tree : Tree} {error message detail field : Option Tree}

theorem text?_eq_some_iff {t : Tree} : t.text? = some m ↔ t = .string (spelled m) := by
  cases t with
  | string letters => simp [Tree.text?, Json.text?_eq_some_iff]
  | _ => simp [Tree.text?]

theorem lastValue?_eq_some_iff {key : String} {members : List (List Json.Piece × Tree)} {v : Tree} :
    lastValue? key members = some v ↔ Last key members v := by
  simp only [lastValue?, Json.text?_eq_some_iff, Option.map_eq_some_iff, List.find?_eq_some_iff_append]
  constructor
  · rintro ⟨⟨k, w⟩, ⟨here, back, front, split, later⟩, rfl⟩
    have key : k = spelled key := by simpa using here
    refine ⟨front.reverse, back.reverse, ?_, ?_⟩
    · rw [← List.reverse_reverse members, split, key]
      simp
    · intro m member
      simpa using later m (List.mem_reverse.mp member)
  · rintro ⟨front, back, rfl, later⟩
    refine ⟨(spelled key, v), ⟨by simp, back.reverse, front.reverse, by simp, ?_⟩, rfl⟩
    intro m member
    simpa using later m (List.mem_reverse.mp member)

theorem errorTells_iff : ErrorTells m field ↔ field.bind errorText = some m := by
  constructor
  · rintro (_ | last)
    · simp [errorText]
    · rw [Option.bind_some, errorText, lastValue?_eq_some_iff.mpr last]
      exact text?_eq_some_iff.mpr rfl
  · intro read
    cases field with
    | none => cases read
    | some t =>
      cases t with
      | string letters =>
        rw [Json.text?_eq_some_iff.mp read]
        exact .own
      | object members =>
        rw [Option.bind_some, errorText] at read
        obtain ⟨v, last, text⟩ := Option.bind_eq_some_iff.mp read
        rw [text?_eq_some_iff.mp text, lastValue?_eq_some_iff] at last
        exact .inner last
      | _ => cases read

theorem bind_errorText_eq_none_iff : field.bind errorText = none ↔ ∀ s, ¬ ErrorTells s field := by
  simp only [errorTells_iff, Option.eq_none_iff_forall_ne_some]

theorem offers_text_iff {offer : Option String} (offers : Offers field offer) :
    field = some (.string (spelled m)) ↔ offer = some m := by
  cases offers with
  | absent => simp
  | null => simp
  | text s =>
    simp only [Option.some.injEq, Tree.string.injEq]
    exact ⟨Json.spelled_injective, congrArg spelled⟩

/-- What the fields tell is the first text that they offer. -/
theorem tells_iff {b c : Option String} (second : Offers message b) (third : Offers detail c) :
    Tells m error message detail ↔ ((error.bind errorText).or b).or c = some m := by
  constructor
  · rintro (told | silent | ⟨silent, mute⟩)
    · rw [errorTells_iff.mp told]
      rfl
    · rw [bind_errorText_eq_none_iff.mpr silent, (offers_text_iff second).mp rfl]
      rfl
    · have nothing : b = none := by
        rw [Option.eq_none_iff_forall_ne_some]
        exact fun s text => mute s ((offers_text_iff second).mpr text)
      rw [bind_errorText_eq_none_iff.mpr silent, nothing, (offers_text_iff third).mp rfl]
      rfl
  · intro first
    cases own : error.bind errorText with
    | some s =>
      rw [own] at first
      cases first
      exact .error (errorTells_iff.mpr own)
    | none =>
      have silent := bind_errorText_eq_none_iff.mp own
      rw [own] at first
      cases b with
      | some s =>
        cases first
        rw [(offers_text_iff second).mpr rfl]
        exact .message silent
      | none =>
        rw [(offers_text_iff third).mpr first]
        refine .detail silent fun s text => ?_
        cases (offers_text_iff second).mp text

/-! ## The message of a body -/

theorem messageOf?_eq_text_iff : messageOf? error message detail = some (some m) ↔
    Readable error message detail ∧ Tells m error message detail := by
  rw [messageOf?_eq_some_iff]
  constructor
  · rintro ⟨sound, b, c, second, third, first⟩
    exact ⟨⟨sound, ⟨b, second⟩, ⟨c, third⟩⟩, (tells_iff second third).mpr first.symm⟩
  · rintro ⟨⟨sound, ⟨b, second⟩, ⟨c, third⟩⟩, tells⟩
    exact ⟨sound, b, c, second, third, ((tells_iff second third).mp tells).symm⟩

/-- Every shape that is taken for the three fields is read through them, and no other is read. -/
theorem ofTree?_fields_iff {found : Option String} : ofTree? tree = some found ↔
    ∃ error message detail, Fields tree error message detail ∧
      messageOf? error message detail = some found := by
  constructor
  · intro read
    unfold ofTree? at read
    split at read
    · split at read
      · rename_i error message detail fields
        obtain ⟨named, each⟩ := Json.Tree.fields?_eq_some_iff.mp fields
        simp only [List.forall₂_cons, List.forall₂_nil_left_iff, and_true] at each
        exact ⟨error, message, detail, .members named each.1 each.2.1 each.2.2, read⟩
      · cases read
    · rename_i error message detail
      exact ⟨error, message, detail, .items error message detail, read⟩
    · cases read
  · rintro ⟨error, message, detail, shape, read⟩
    cases shape with
    | members named first second third =>
      have fields := Json.Tree.fields?_eq_some_iff.mpr
        ⟨named, .cons first (.cons second (.cons third .nil))⟩
      rw [ofTree?, fields]
      exact read
    | items error message detail => exact read

/-- The message of a body is what its fields tell, unless that is blank. The text itself is kept, and where there is
no message it is shown without the blanks around it. -/
theorem message_is_told_by_a_field (raw : String) :
    (parse raw).raw = raw ∧
    (∀ m, (parse raw).message = some m ↔
      Text.isBlankText m = false ∧ ∃ tree error message detail,
        Json.Token.scan raw.toList = some tree.tokens ∧ Fields tree error message detail ∧
          Readable error message detail ∧ Tells m error message detail) ∧
    ∃ trimmed, Text.Trimmed raw trimmed ∧ (parse raw).text = (parse raw).message.getD trimmed := by
  refine ⟨rfl, ?_, Text.trim raw, Text.trim_trimmed raw, rfl⟩
  intro m
  have told : ((Tree.read? raw).bind ofTree?).join = some m ↔
      ∃ tree error message detail, Json.Token.scan raw.toList = some tree.tokens ∧
        Fields tree error message detail ∧ Readable error message detail ∧
          Tells m error message detail := by
    rw [Option.join_eq_some_iff, Option.bind_eq_some_iff]
    constructor
    · rintro ⟨tree, read, fields⟩
      obtain ⟨error, message, detail, shape, first⟩ := ofTree?_fields_iff.mp fields
      exact ⟨tree, error, message, detail, Json.Tree.read?_eq_some_iff.mp read, shape,
        messageOf?_eq_text_iff.mp first⟩
    · rintro ⟨tree, error, message, detail, scanned, shape, first⟩
      exact ⟨tree, Json.Tree.read?_eq_some_iff.mpr scanned,
        ofTree?_fields_iff.mpr ⟨error, message, detail, shape, messageOf?_eq_text_iff.mpr first⟩⟩
  rw [parse, Option.filter_eq_some_iff, told, and_comm, Bool.not_eq_true']

/-- An array of three values has a message, though it is no object. -/
theorem items_have_a_message :
    ¬ ∀ (raw m : String), (parse raw).message = some m →
      ∃ members, Json.Token.scan raw.toList = some (Tree.object members).tokens := by
  intro objects
  obtain ⟨members, scanned⟩ := objects "[\"e\",null,null]" "e" (by decide +kernel)
  have opened : (Json.Token.scan "[\"e\",null,null]".toList).bind List.head? = some .openArray := by
    decide +kernel
  rw [scanned] at opened
  cases opened

end Silhouette.ErrorBody
