import Mathlib.Data.List.TakeWhile
import Silhouette.Command.Configuration

/-! Where the key for the service comes from. A key on the command line or in the environment counts unless it is
blank, and then the file is not asked; otherwise the file's key counts, and that one is taken as it stands. So the
key that is used can be blank, but only one that the file holds. -/
namespace Silhouette

namespace Text

theorem all_dropWhile (cs : List Char) : (cs.dropWhile isBlank).all isBlank = cs.all isBlank := by
  induction cs with
  | nil => rfl
  | cons c rest ih =>
    cases blank : isBlank c with
    | true => rw [List.dropWhile_cons_of_pos blank, ih, List.all_cons, blank, Bool.true_and]
    | false => rw [List.dropWhile_cons_of_neg (by simp [blank])]

/-- Trimming takes nothing away that would make a text blank or keep it from being so. -/
theorem isBlankText_trim (s : String) : isBlankText (trim s) = isBlankText s := by
  simp only [isBlankText, trim, trimChars, String.toList_ofList, List.all_reverse, all_dropWhile]

theorem trim_eq_empty_iff (s : String) : trim s = "" ↔ isBlankText s = true := by
  constructor
  · intro empty
    rw [← isBlankText_trim, empty]
    rfl
  · intro blank
    have dropped : s.toList.dropWhile isBlank = [] :=
      List.dropWhile_eq_nil_iff.mpr (List.all_eq_true.mp blank)
    simp [trim, trimChars, dropped]

end Text

namespace ApiKey

theorem ofText?_of_blank {s : String} (blank : Text.isBlankText s = true) : ofText? s = none := by
  simp only [ofText?, (Text.trim_eq_empty_iff s).mpr blank, ↓reduceIte]

theorem ofText?_of_solid {s : String} (solid : Text.isBlankText s = false) :
    ofText? s = some ⟨Text.trim s⟩ := by
  have some_left : Text.trim s ≠ "" := by
    rw [Ne, Text.trim_eq_empty_iff, solid]
    decide
  simp only [ofText?, if_neg some_left]

end ApiKey

namespace Command

/-- There is no key, or it is blank. -/
def Ungiven (given : Option String) : Prop := ∀ k, given = some k → Text.isBlankText k = true

/-- The key that counts, of one that may be given and one that the file may hold. -/
inductive KeyCounts (given : Option String) (held : Option ApiKey) : ApiKey → Prop where
  | given {k : String} (here : given = some k) (solid : Text.isBlankText k = false) :
      KeyCounts given held ⟨Text.trim k⟩
  | held {key : ApiKey} (other : Ungiven given) (here : held = some key) : KeyCounts given held key

variable {given : Option String} {held : Option ApiKey} {key : ApiKey}

theorem bind_ofText?_of_ungiven (other : Ungiven given) : given.bind ApiKey.ofText? = none := by
  cases given with
  | none => rfl
  | some k => rw [Option.bind_some, ApiKey.ofText?_of_blank (other k rfl)]

theorem ungiven_or_solid (given : Option String) :
    Ungiven given ∨ ∃ k, given = some k ∧ Text.isBlankText k = false := by
  cases given with
  | none =>
    left
    rintro k ⟨⟩
  | some k =>
    cases blank : Text.isBlankText k with
    | true =>
      left
      rintro _ ⟨⟩
      exact blank
    | false => exact .inr ⟨k, rfl, blank⟩

theorem keyCounts_iff :
    KeyCounts given held key ↔ (given.bind ApiKey.ofText?).or held = some key := by
  constructor
  · rintro (⟨rfl, solid⟩ | ⟨other, rfl⟩)
    · simp [ApiKey.ofText?_of_solid solid]
    · simp [bind_ofText?_of_ungiven other]
  · intro found
    rcases ungiven_or_solid given with other | ⟨k, rfl, solid⟩
    · rw [bind_ofText?_of_ungiven other, Option.none_or] at found
      exact .held other found
    · rw [Option.bind_some, ApiKey.ofText?_of_solid solid, Option.some_or] at found
      cases found
      exact .given rfl solid

theorem no_keyCounts_iff :
    (∀ key, ¬ KeyCounts given held key) ↔ Ungiven given ∧ held = none := by
  constructor
  · intro nothing
    rcases ungiven_or_solid given with other | ⟨k, here, solid⟩
    · cases held with
      | none => exact ⟨other, rfl⟩
      | some key => exact absurd (.held other rfl) (nothing key)
    · exact absurd (.given here solid) (nothing _)
  · rintro ⟨other, none_held⟩ key (⟨here, solid⟩ | ⟨-, here⟩)
    · rw [other _ here] at solid
      cases solid
    · rw [none_held] at here
      cases here

/-- A key that counts is blank just if it is the file's and that is blank. -/
theorem KeyCounts.blank_iff (counts : KeyCounts given held key) :
    Text.isBlankText key.secret = true ↔
      Ungiven given ∧ ∃ own, held = some own ∧ Text.isBlankText own.secret = true := by
  cases counts with
  | given here solid =>
    rw [Text.isBlankText_trim, solid]
    constructor
    · intro blank
      cases blank
    · rintro ⟨other, -⟩
      rw [other _ here] at solid
      cases solid
  | held other here =>
    constructor
    · intro blank
      exact ⟨other, key, here, blank⟩
    · rintro ⟨-, own, same, blank⟩
      rw [here] at same
      cases same
      exact blank

/-- A key that is given and not blank is the one that counts, and the only one. -/
theorem KeyCounts.eq_trim {k : String} (counts : KeyCounts (some k) held key)
    (solid : Text.isBlankText k = false) : key = ⟨Text.trim k⟩ := by
  cases counts with
  | given here _ =>
    cases here
    rfl
  | held other _ =>
    rw [other k rfl] at solid
    cases solid

namespace ServiceSection

variable {s : ServiceSection} {shared : SharedOptions} {bulk : Bool} {config : ServiceConfig}

theorem timeLimit_ne_keyMissing (s : ServiceSection) : s.timeLimit ≠ .error .keyMissing := by
  unfold timeLimit
  split
  · simp
  · split
    · simp
    · simp

/-- Settings hold the key that counts. -/
theorem settings_key (made : s.settings shared bulk = .ok config) :
    KeyCounts shared.key s.key config.key := by
  rw [keyCounts_iff]
  unfold settings at made
  cases found : (shared.key.bind ApiKey.ofText?).or s.key with
  | none => simp [found] at made
  | some key =>
    cases limit : s.timeLimit with
    | error e => simp [found, limit] at made
    | ok timeout =>
      simp only [found, limit, Except.ok.injEq] at made
      rw [← made]

/-- Where a key counts, only the time limit can still be refused. -/
theorem settings_of_keyCounts (bulk : Bool) (counts : KeyCounts shared.key s.key key) :
    (∃ e, s.timeLimit = .error e ∧ s.settings shared bulk = .error e) ∨
      ∃ timeout config, s.timeLimit = .ok timeout ∧ s.settings shared bulk = .ok config := by
  rw [keyCounts_iff] at counts
  unfold settings
  cases limit : s.timeLimit with
  | error e =>
    left
    exact ⟨e, rfl, by simp [counts]⟩
  | ok timeout =>
    right
    exact ⟨timeout, _, rfl, by simp only [counts]; rfl⟩

theorem settings_keyMissing_iff :
    s.settings shared bulk = .error .keyMissing ↔ Ungiven shared.key ∧ s.key = none := by
  constructor
  · intro refused
    rw [← no_keyCounts_iff]
    intro key counts
    rcases settings_of_keyCounts bulk counts with ⟨e, limit, same⟩ | ⟨_, _, -, made⟩
    · rw [refused] at same
      cases same
      exact timeLimit_ne_keyMissing s limit
    · rw [refused] at made
      cases made
  · rintro ⟨other, none_held⟩
    simp [settings, bind_ofText?_of_ungiven other, none_held]

/-- Beside a key that counts because it is given, the file's key makes no difference. -/
theorem settings_of_given {k : String} (here : shared.key = some k)
    (solid : Text.isBlankText k = false) (held : Option ApiKey) :
    { s with key := held }.settings shared bulk = s.settings shared bulk := by
  have found : shared.key.bind ApiKey.ofText? = some ⟨Text.trim k⟩ := by
    rw [here, Option.bind_some, ApiKey.ofText?_of_solid solid]
  have limit : { s with key := held }.timeLimit = s.timeLimit := rfl
  simp only [settings, found, Option.some_or, limit]

end ServiceSection

/-- The settings come about just if a key counts and the time limit is one. A key that is given and not blank is
the one they hold, without the blanks around it and whatever the file holds. The key they hold is blank just if
none is given but blank ones and the file's is blank; only a file without a key makes that a missing key. -/
theorem blank_key_can_only_be_held (c : Configuration) (shared : SharedOptions) (bulk : Bool) :
    (c.service.settings shared bulk = .error .keyMissing ↔
      Ungiven shared.key ∧ c.service.key = none) ∧
    ((∃ config, c.service.settings shared bulk = .ok config) ↔
      (∃ key, KeyCounts shared.key c.service.key key) ∧
        ∃ timeout, c.service.timeLimit = .ok timeout) ∧
    (∀ config, c.service.settings shared bulk = .ok config →
      (Text.isBlankText config.key.secret = true ↔ Ungiven shared.key ∧
        ∃ own, c.service.key = some own ∧ Text.isBlankText own.secret = true)) ∧
    (∀ k, shared.key = some k → Text.isBlankText k = false →
      (∀ config, c.service.settings shared bulk = .ok config → config.key = ⟨Text.trim k⟩) ∧
      ∀ held, { c.service with key := held }.settings shared bulk =
        c.service.settings shared bulk) := by
  refine ⟨ServiceSection.settings_keyMissing_iff, ?_, ?_, ?_⟩
  · constructor
    · rintro ⟨config, made⟩
      have counts := ServiceSection.settings_key made
      rcases ServiceSection.settings_of_keyCounts bulk counts with ⟨e, -, refused⟩ | ⟨t, _, limit, -⟩
      · rw [made] at refused
        cases refused
      · exact ⟨⟨_, counts⟩, t, limit⟩
    · rintro ⟨⟨key, counts⟩, timeout, limit⟩
      rcases ServiceSection.settings_of_keyCounts bulk counts with ⟨e, refused, -⟩ | ⟨_, config, -, made⟩
      · rw [limit] at refused
        cases refused
      · exact ⟨config, made⟩
  · intro config made
    exact (ServiceSection.settings_key made).blank_iff
  · intro k here solid
    refine ⟨?_, ServiceSection.settings_of_given here solid⟩
    intro config made
    have counts := ServiceSection.settings_key made
    rw [here] at counts
    exact counts.eq_trim solid

/-- A configuration that holds a key and nothing else. -/
def holding (secret : String) : Configuration :=
  { Configuration.usual with service := { ServiceSection.empty with key := some ⟨secret⟩ } }

/-- A command line on which a key may be given and nothing else. -/
def giving (key : Option String) : SharedOptions := ⟨none, key, none, .text⟩

theorem padded_key_goes_before_blank_one :
    ∃ config, (holding " ").service.settings (giving (some " k ")) true = .ok config ∧
      config.key = ⟨"k"⟩ ∧ Text.isBlankText config.key.secret = false := by
  obtain ⟨-, made, -, given⟩ := blank_key_can_only_be_held (holding " ") (giving (some " k ")) true
  have solid : Text.isBlankText " k " = false := by decide
  obtain ⟨config, done⟩ := made.mpr ⟨⟨_, .given rfl solid⟩, none, rfl⟩
  have key : config.key = ⟨"k"⟩ := (given " k " rfl solid).1 config done
  refine ⟨config, done, key, ?_⟩
  rw [key]
  decide

/-- A file with a blank key and no other lets a blank key be used. -/
theorem held_blank_is_used :
    ¬ ∀ (text : String) (c : Configuration) (shared : SharedOptions) (bulk : Bool)
      (config : ServiceConfig), Configuration.read? text = some c →
      c.service.settings shared bulk = .ok config → Text.isBlankText config.key.secret = false := by
  intro solid
  have used : ((Configuration.read? "[transform]\napi_key = '  '").any fun c =>
      (c.service.settings (giving none) true).toOption.any fun config =>
        Text.isBlankText config.key.secret) = true := by decide +kernel
  obtain ⟨c, read, used⟩ := (Option.any_eq_true _ _).mp used
  cases made : c.service.settings (giving none) true with
  | error e => simp [made, Except.toOption] at used
  | ok config =>
    have blank : Text.isBlankText config.key.secret = true := by
      simpa [made, Except.toOption] using used
    rw [solid _ c _ _ config read made] at blank
    cases blank

end Command

end Silhouette
