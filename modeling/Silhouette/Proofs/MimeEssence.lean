import Mathlib.Data.List.TakeWhile
import Silhouette.Proofs.FormatText

/-! What a content type is judged by. Only its essence counts: what stands in front of its parameters, without the
blanks around it and in lower case. So a content type is judged the same in every spelling, with parameters or
without. -/
namespace Silhouette

namespace Text

theorem after?_eq_some_iff {lead cs rest : List Char} : after? lead cs = some rest ↔ cs = lead ++ rest := by
  fun_induction after? lead cs with
  | case1 cs => simp [eq_comm]
  | case2 => simp
  | case3 c lead cs ih => simpa using ih
  | case4 a lead c cs other =>
    refine iff_of_false (by simp) fun same => other ?_
    exact (List.cons.inj same).1.symm

theorem after?_eq_none_iff {lead cs : List Char} : after? lead cs = none ↔ ¬ lead <+: cs := by
  constructor
  · rintro none ⟨rest, split⟩
    rw [after?_eq_some_iff.mpr split.symm] at none
    cases none
  · intro other
    refine Option.eq_none_iff_forall_ne_some.mpr fun rest found => other ⟨rest, ?_⟩
    exact (after?_eq_some_iff.mp found).symm

theorem lowerChar_comp_lowerChar : lowerChar ∘ lowerChar = lowerChar := funext lowerChar_lowerChar

theorem lower_lower (s : String) : lower (lower s) = lower s := by
  rw [lower, lower, String.toList_ofList, List.map_map, lowerChar_comp_lowerChar]

theorem lowerChar_ne_semicolon_iff {c : Char} : lowerChar c ≠ ';' ↔ c ≠ ';' := by
  rcases lowerChar_cases c with ⟨n, small, rfl, lower⟩ | same
  · rw [lower]
    exact (by decide : ∀ n < 26, Char.ofNat (65 + n + 32) ≠ ';' ↔ Char.ofNat (65 + n) ≠ ';') n small
  · rw [same]

end Text

namespace Format

/-- What stands in front of the parameters of a content type, without blanks around it and in lower case. -/
inductive IsEssence : String → String → Prop where
  | whole {type bare : String} (alone : ';' ∉ type.toList) (trimmed : Text.Trimmed type bare) :
      IsEssence type (Text.lower bare)
  | cut {type bare params : String} (alone : ';' ∉ type.toList) (trimmed : Text.Trimmed type bare) :
      IsEssence (type ++ ";" ++ params) (Text.lower bare)

/-- One content type in another spelling: with parameters or without, with blanks around it or without, or with letters
of the other case, and any number of these one after another. -/
inductive Respelled : String → String → Prop where
  | params (type params : String) : Respelled type (type ++ ";" ++ params)
  | blanks {front back : String} (type : String) (frontBlank : Text.isBlankText front = true)
      (backBlank : Text.isBlankText back = true) : Respelled type (front ++ type ++ back)
  | letters {type type' : String} (same : Text.lower type = Text.lower type') : Respelled type type'
  | symm {type type' : String} (other : Respelled type type') : Respelled type' type
  | trans {type type' type'' : String} (first : Respelled type type') (second : Respelled type' type'') :
      Respelled type type''

/-- The format that an essence names: the vector format by a name of its own, and else the one whose tag the subtype
is. -/
inductive Declares : String → Format → Prop where
  | vector : Declares "image/svg+xml" .svg
  | subtype {subtype : String} (other : subtype ≠ "svg+xml") : Declares ("image/" ++ subtype) (parse subtype)

/-- An essence that names no image. -/
def Foreign (essence : String) : Prop := ¬ "image/".toList <+: essence.toList

variable {type type' e : String} {f : Format}

/-! ## Essences -/

/-- The essence of a content type as it is computed. -/
def lowerEssence (type : String) : String := String.ofList ((essence type).map Text.lowerChar)

theorem toList_lowerEssence (type : String) : (lowerEssence type).toList = (essence type).map Text.lowerChar :=
  String.toList_ofList

theorem takeWhile_semicolon (cs : List Char) (params : List Char) :
    (cs ++ ';' :: params).takeWhile (· != ';') = cs.takeWhile (· != ';') := by
  rw [List.takeWhile_append]
  split
  · rename_i alone
    rw [List.takeWhile_cons_of_neg (by decide), List.append_nil]
    exact (List.IsPrefix.eq_of_length (List.takeWhile_prefix _) alone).symm
  · rfl

theorem essence_params (type params : String) : essence (type ++ ";" ++ params) = essence type := by
  have letters : (type ++ ";" ++ params).toList = type.toList ++ ';' :: params.toList := by simp
  rw [essence, letters, takeWhile_semicolon, essence]

/-- A content type has no parameters, or they begin behind its first semicolon. -/
theorem exists_params (type : String) :
    ';' ∉ type.toList ∨ ∃ front params : String, type = front ++ ";" ++ params ∧ ';' ∉ front.toList := by
  by_cases given : ';' ∈ type.toList
  · obtain ⟨front, params, split, alone⟩ := List.eq_append_cons_of_mem given
    refine .inr ⟨String.ofList front, String.ofList params, String.toList_inj.mp ?_, ?_⟩
    · simp [split]
    · rwa [String.toList_ofList]
  · exact .inl given

theorem essence_of_alone (alone : ';' ∉ type.toList) : essence type = Text.trimChars type.toList := by
  have before : type.toList.takeWhile (· != ';') = type.toList := by
    rw [List.takeWhile_eq_self_iff]
    intro c member
    simpa using fun same : c = ';' => alone (same ▸ member)
  rw [essence, before]

theorem lower_eq_lowerEssence {bare : String} (alone : ';' ∉ type.toList) (trimmed : Text.Trimmed type bare) :
    Text.lower bare = lowerEssence type := by
  rw [trimmed.eq_trim, Text.lower, lowerEssence, essence_of_alone alone, Text.trim, String.toList_ofList]

theorem isEssence_iff : IsEssence type e ↔ e = lowerEssence type := by
  constructor
  · intro isEssence
    cases isEssence with
    | whole alone trimmed => exact lower_eq_lowerEssence alone trimmed
    | cut alone trimmed => rw [lower_eq_lowerEssence alone trimmed, lowerEssence, lowerEssence, essence_params]
  · rintro rfl
    rcases exists_params type with alone | ⟨front, params, rfl, alone⟩
    · have trimmed := Text.trim_trimmed type
      rw [← lower_eq_lowerEssence alone trimmed]
      exact .whole alone trimmed
    · have trimmed := Text.trim_trimmed front
      rw [lowerEssence, essence_params, ← lowerEssence, ← lower_eq_lowerEssence alone trimmed]
      exact .cut alone trimmed

/-! ## Spellings -/

theorem semicolon_notMem_of_blank (blank : Text.isBlankText type = true) : ';' ∉ type.toList := fun member =>
  absurd (List.all_eq_true.mp blank ';' member) (by decide)

theorem essence_around {front back : String} (type : String) (frontBlank : Text.isBlankText front = true)
    (backBlank : Text.isBlankText back = true) : essence (front ++ type ++ back) = essence type := by
  have frontAlone := semicolon_notMem_of_blank frontBlank
  have backAlone := semicolon_notMem_of_blank backBlank
  rcases exists_params type with alone | ⟨bare, params, rfl, alone⟩
  · have together : ';' ∉ (front ++ type ++ back).toList := by simp [frontAlone, alone, backAlone]
    rw [essence_of_alone together, essence_of_alone alone, String.toList_append, String.toList_append,
      Text.trimChars_around _ frontBlank backBlank]
  · have together : ';' ∉ (front ++ bare).toList := by simp [frontAlone, alone]
    have bareOnly := Text.trimChars_around bare.toList frontBlank (List.all_nil : [].all Text.isBlank = true)
    have regrouped : front ++ (bare ++ ";" ++ params) ++ back = front ++ bare ++ ";" ++ (params ++ back) := by
      simp only [String.append_assoc]
    rw [regrouped, essence_params, essence_params, essence_of_alone together, essence_of_alone alone,
      String.toList_append, ← bareOnly, List.append_nil]

theorem lowerEssence_lower (type : String) : lowerEssence (Text.lower type) = lowerEssence type := by
  have same : (fun c => c != ';') ∘ Text.lowerChar = fun c => c != ';' := by
    funext c
    rw [Function.comp_apply, Bool.eq_iff_iff, bne_iff_ne, bne_iff_ne, Text.lowerChar_ne_semicolon_iff]
  rw [lowerEssence, essence, Text.lower, String.toList_ofList, List.takeWhile_map, same,
    Text.trimChars_map_lowerChar, List.map_map, Text.lowerChar_comp_lowerChar, ← essence, ← lowerEssence]

/-- The essence is the same in every spelling. -/
theorem Respelled.lowerEssence_eq (respelled : Respelled type type') : lowerEssence type' = lowerEssence type := by
  induction respelled with
  | params type params => rw [lowerEssence, essence_params, lowerEssence]
  | blanks type frontBlank backBlank => rw [lowerEssence, essence_around type frontBlank backBlank, lowerEssence]
  | letters same => rw [← lowerEssence_lower, ← same, lowerEssence_lower]
  | symm _ same => exact same.symm
  | trans _ _ first second => rw [second, first]

theorem respelled_of_trimmed {bare : String} (trimmed : Text.Trimmed type bare) :
    Respelled (Text.lower bare) type := by
  obtain ⟨front, back, letters, frontBlank, backBlank⟩ := trimmed.around
  have around : type = String.ofList front ++ bare ++ String.ofList back := by
    rw [← String.toList_inj, letters]
    simp
  have spaced := @Respelled.blanks (String.ofList front) (String.ofList back) bare
    (by rwa [Text.isBlankText, String.toList_ofList]) (by rwa [Text.isBlankText, String.toList_ofList])
  rw [← around] at spaced
  exact .trans (.letters (Text.lower_lower bare)) spaced

theorem IsEssence.respelled (isEssence : IsEssence type e) : Respelled e type := by
  cases isEssence with
  | whole alone trimmed => exact respelled_of_trimmed trimmed
  | cut alone trimmed => exact .trans (respelled_of_trimmed trimmed) (.params _ _)

/-- Two content types are spellings of each other just if they have one essence. -/
theorem respelled_iff : Respelled type type' ↔ ∃ e, IsEssence type e ∧ IsEssence type' e := by
  constructor
  · intro respelled
    exact ⟨lowerEssence type, isEssence_iff.mpr rfl, isEssence_iff.mpr respelled.lowerEssence_eq.symm⟩
  · rintro ⟨e, isEssence, isEssence'⟩
    exact .trans (.symm isEssence.respelled) isEssence'.respelled

/-! ## Formats -/

theorem ofMime?_eq_some_iff : ofMime? type = some f ↔ Declares (lowerEssence type) f := by
  have vector : "image/svg+xml" = "image/" ++ "svg+xml" := by decide
  rw [ofMime?, Option.map_eq_some_iff]
  constructor
  · rintro ⟨subtype, behind, rfl⟩
    have named : lowerEssence type = "image/" ++ String.ofList subtype := by
      rw [lowerEssence, Text.after?_eq_some_iff.mp behind]
      exact String.toList_inj.mp (by simp)
    rw [named]
    split
    · rename_i known
      rw [known, String.ofList_toList, ← vector]
      exact .vector
    · rename_i other
      exact .subtype fun known => other (by rw [← known, String.toList_ofList])
  · intro declares
    generalize named : lowerEssence type = essence at declares
    have letters := congrArg String.toList named
    rw [toList_lowerEssence] at letters
    cases declares with
    | vector => exact ⟨_, Text.after?_eq_some_iff.mpr letters, if_pos rfl⟩
    | @subtype subtype other =>
      rw [String.toList_append] at letters
      refine ⟨subtype.toList, Text.after?_eq_some_iff.mpr letters, ?_⟩
      rw [if_neg fun known => other (String.toList_inj.mp known), String.ofList_toList]

theorem ofMime?_eq_none_iff : ofMime? type = none ↔ Foreign (lowerEssence type) := by
  rw [ofMime?, Option.map_eq_none_iff, Text.after?_eq_none_iff, Foreign, toList_lowerEssence]

/-- Whether a content type tells of an image, and of which format, is the same in every spelling. -/
theorem Respelled.ofMime?_eq (respelled : Respelled type type') : ofMime? type' = ofMime? type := by
  refine Option.ext fun format => ?_
  rw [ofMime?_eq_some_iff, ofMime?_eq_some_iff, respelled.lowerEssence_eq]

end Format

end Silhouette
