import Mathlib.Data.List.Forall2
import Silhouette.Proofs.JsonText

/-! The members of a JSON object by name. Escapes are gone once a string has been read, so a text is spelled by one
string only, and members whose keys are pairwise different have different names. A field is then the member with
its name, provided that every key of the object, and not that one alone, is a text. -/
namespace Silhouette.Json

/-- A text as the string that spells it. -/
def spelled (s : String) : List Piece := s.toList.map .char

theorem chars?_eq_some_iff {s : List Piece} {cs : List Char} :
    chars? s = some cs ↔ s = cs.map .char := by
  constructor
  · intro read
    induction s generalizing cs with
    | nil =>
      cases read
      rfl
    | cons piece rest ih =>
      cases piece with
      | char c =>
        obtain ⟨ds, tail, rfl⟩ := Option.map_eq_some_iff.mp read
        rw [ih tail, List.map_cons]
      | surrogate code => cases read
  · rintro rfl
    exact chars?_map_char cs

theorem text?_eq_some_iff {s : List Piece} {t : String} : text? s = some t ↔ s = spelled t := by
  rw [text?, Option.map_eq_some_iff]
  constructor
  · rintro ⟨cs, read, rfl⟩
    rw [spelled, String.toList_ofList, ← chars?_eq_some_iff, read]
  · intro letters
    exact ⟨t.toList, chars?_eq_some_iff.mpr letters, String.ofList_toList⟩

@[simp]
theorem text?_spelled (s : String) : text? (spelled s) = some s := text?_eq_some_iff.mpr rfl

theorem spelled_injective {s t : String} (same : spelled s = spelled t) : s = t := by
  have read := text?_spelled s
  rw [same, text?_spelled] at read
  exact (Option.some.inj read).symm

theorem spelled_inj {s t : String} : spelled s = spelled t ↔ s = t := ⟨spelled_injective, congrArg spelled⟩

namespace Tree

/-- The value of the first member with a name. -/
def member? (name : String) (members : List (List Piece × Tree)) : Option Tree :=
  (members.find? fun m => m.1 = spelled name).map Prod.snd

/-- Every key is a text. -/
def Named (members : List (List Piece × Tree)) : Prop :=
  ∀ m ∈ members, ∃ name, m.1 = spelled name

variable {members : List (List Piece × Tree)} {name : String} {v : Tree}

theorem member?_cons (name : String) (k : List Piece) (v : Tree) (rest : List (List Piece × Tree)) :
    member? name ((k, v) :: rest) = if k = spelled name then some v else member? name rest := by
  unfold member?
  by_cases here : k = spelled name
  · simp [here]
  · simp [here]

theorem mem_of_member?_eq_some (found : member? name members = some v) :
    (spelled name, v) ∈ members := by
  obtain ⟨⟨k, w⟩, first, rfl⟩ := Option.map_eq_some_iff.mp found
  have key : k = spelled name := by simpa using List.find?_some first
  rw [← key]
  exact List.mem_of_find?_eq_some first

/-- Where no key occurs twice, a member is what its name finds. -/
theorem member?_eq_some_iff (distinct : (members.map Prod.fst).Nodup) :
    member? name members = some v ↔ (spelled name, v) ∈ members := by
  constructor
  · exact mem_of_member?_eq_some
  · intro here
    induction members with
    | nil => cases here
    | cons m rest ih =>
      obtain ⟨k, w⟩ := m
      rw [List.map_cons, List.nodup_cons] at distinct
      rw [member?_cons]
      rcases List.mem_cons.mp here with same | later
      · cases same
        rw [if_pos rfl]
      · have other : k ≠ spelled name := by
          rintro rfl
          exact distinct.1 (List.mem_map.mpr ⟨_, later, rfl⟩)
        rw [if_neg other]
        exact ih distinct.2 later

theorem members?_eq_some_iff {named : List (String × Tree)} :
    members? members = some named ↔ members = named.map fun m => (spelled m.1, m.2) := by
  constructor
  · intro read
    induction members generalizing named with
    | nil =>
      cases read
      rfl
    | cons m rest ih =>
      obtain ⟨k, v⟩ := m
      cases key : Json.text? k with
      | none => simp [members?, key] at read
      | some name =>
        cases tail : members? rest with
        | none => simp [members?, key, tail] at read
        | some others =>
          simp only [members?, key, tail, Option.some.injEq] at read
          rw [← read, List.map_cons, ih tail, text?_eq_some_iff.mp key]
  · rintro rfl
    induction named with
    | nil => rfl
    | cons m rest ih => simp [members?, ih]

/-- A single key that is no text keeps all members from being read. -/
theorem named_iff : Named members ↔ ∃ named, members? members = some named := by
  constructor
  · intro texts
    induction members with
    | nil => exact ⟨[], rfl⟩
    | cons m rest ih =>
      obtain ⟨k, v⟩ := m
      obtain ⟨name, rfl⟩ := texts (k, v) List.mem_cons_self
      obtain ⟨others, tail⟩ := ih fun m later => texts m (List.mem_cons_of_mem _ later)
      exact ⟨(name, v) :: others, by simp [members?, tail]⟩
  · rintro ⟨named, read⟩ m here
    rw [members?_eq_some_iff.mp read] at here
    obtain ⟨⟨name, v⟩, -, rfl⟩ := List.mem_map.mp here
    exact ⟨name, rfl⟩

private theorem valuesOf_cons (key name : String) (v : Tree) (rest : List (String × Tree)) :
    valuesOf key ((name, v) :: rest) =
      if name = key then v :: valuesOf key rest else valuesOf key rest := by
  unfold valuesOf
  by_cases same : name = key
  · simp [same]
  · simp [same]

private theorem valuesOf_eq_nil {key : String} {named : List (String × Tree)}
    (absent : key ∉ named.map Prod.fst) : valuesOf key named = [] := by
  simp only [valuesOf, List.map_eq_nil_iff, List.filter_eq_nil_iff, decide_eq_true_eq]
  rintro m here rfl
  exact absent (List.mem_map_of_mem here)

theorem unique?_of_distinct {named : List (String × Tree)} (key : String)
    (distinct : (named.map Prod.fst).Nodup) :
    unique? key named = some (member? key (named.map fun m => (spelled m.1, m.2))) := by
  have values : valuesOf key named =
      (member? key (named.map fun m => (spelled m.1, m.2))).toList := by
    induction named with
    | nil => rfl
    | cons m rest ih =>
      obtain ⟨name, v⟩ := m
      rw [List.map_cons, List.nodup_cons] at distinct
      rw [valuesOf_cons, List.map_cons, member?_cons]
      by_cases same : name = key
      · subst same
        rw [if_pos rfl, if_pos rfl, valuesOf_eq_nil distinct.1, Option.toList_some]
      · rw [if_neg same, if_neg fun spelling => same (spelled_injective spelling)]
        exact ih distinct.2
  rw [unique?, values]
  cases member? key (named.map fun m => (spelled m.1, m.2)) <;> rfl

/-- Fields that are looked up by name are the members with these names. -/
theorem fields?_of_named (keys : List String) (texts : Named members)
    (distinct : (members.map Prod.fst).Nodup) :
    fields? keys members = some (keys.map fun key => member? key members) := by
  obtain ⟨named, read⟩ := named_iff.mp texts
  have spelling := members?_eq_some_iff.mp read
  have names : (named.map Prod.fst).Nodup := by
    have keys : members.map Prod.fst = (named.map Prod.fst).map spelled := by
      rw [spelling, List.map_map, List.map_map]
      rfl
    rw [keys] at distinct
    exact List.Pairwise.of_map spelled (fun a b other same => other (congrArg spelled same)) distinct
  have each : ∀ key, unique? key named = some (member? key members) := by
    intro key
    rw [unique?_of_distinct key names, ← spelling]
  simp only [fields?, read]
  induction keys with
  | nil => rfl
  | cons key rest ih =>
    rw [List.mapM_cons, each, ih]
    rfl

/-- In an object with different names, fields are found by these. -/
theorem fields?_spelled {named : List (String × Tree)} (keys : List String) (distinct : (named.map Prod.fst).Nodup) :
    fields? keys (named.map fun m => (spelled m.1, m.2)) =
      some (keys.map fun key => member? key (named.map fun m => (spelled m.1, m.2))) := by
  have texts : Named (named.map fun m => (spelled m.1, m.2)) := by
    intro m here
    obtain ⟨f, -, rfl⟩ := List.mem_map.mp here
    exact ⟨f.1, rfl⟩
  have spelling : (named.map fun m => (spelled m.1, m.2)).map Prod.fst = (named.map Prod.fst).map spelled := by
    simp
  refine fields?_of_named keys texts ?_
  rw [spelling]
  exact List.Pairwise.map spelled (fun a b other same => other (spelled_injective same)) distinct

/-- Leaving members out by their names takes away what is found under these names. -/
theorem member?_filter (keep : String → Bool) (name : String) (named : List (String × Tree)) :
    member? name ((named.filter fun m => keep m.1).map fun m => (spelled m.1, m.2)) =
      if keep name then member? name (named.map fun m => (spelled m.1, m.2)) else none := by
  induction named with
  | nil => simp [member?]
  | cons m rest ih =>
    rw [List.map_cons, member?_cons, List.filter_cons]
    by_cases here : m.1 = name
    · subst here
      by_cases kept : keep m.1 = true
      · simp [kept, member?_cons]
      · simp [kept, ih]
    · by_cases kept : keep m.1 = true
      · simp [kept, member?_cons, spelled_inj, here, ih]
      · simp [kept, spelled_inj, here, ih]

theorem fields?_of_not_named (keys : List String) (unnamed : ¬ Named members) :
    fields? keys members = none := by
  cases read : members? members with
  | none => simp only [fields?, read]
  | some named => exact absurd (named_iff.mpr ⟨named, read⟩) unnamed

/-- All that stands under a name is this field: nothing, or one value. -/
def Only (name : String) (members : List (List Piece × Tree)) (field : Option Tree) : Prop :=
  (members.filter fun m => m.1 = spelled name).map Prod.snd = field.toList

/-- The last value under a name. -/
def Last (name : String) (members : List (List Piece × Tree)) (v : Tree) : Prop :=
  ∃ front back, members = front ++ (spelled name, v) :: back ∧ ∀ m ∈ back, m.1 ≠ spelled name

theorem unique?_eq_some_iff {named : List (String × Tree)} (key : String) {field : Option Tree} :
    unique? key named = some field ↔ Only key (named.map fun m => (spelled m.1, m.2)) field := by
  have values : ((named.map fun m => (spelled m.1, m.2)).filter fun m => m.1 = spelled key).map Prod.snd =
      valuesOf key named := by
    induction named with
    | nil => rfl
    | cons m rest ih =>
      rw [valuesOf_cons, List.map_cons, List.filter_cons]
      by_cases same : m.1 = key
      · simp [same, ih]
      · have other : spelled m.1 ≠ spelled key := fun spelling => same (spelled_injective spelling)
        simp [same, other, ih]
  rw [Only, values, unique?]
  cases valuesOf key named with
  | nil => cases field <;> simp
  | cons v rest =>
    cases rest with
    | nil => cases field <;> simp
    | cons next more => cases field <;> simp

private theorem mapM_eq_some_iff {α β : Type} {f : α → Option β} {xs : List α} {ys : List β} :
    xs.mapM f = some ys ↔ List.Forall₂ (fun x y => f x = some y) xs ys := by
  induction xs generalizing ys with
  | nil => cases ys <;> simp
  | cons x rest ih =>
    rw [List.mapM_cons]
    cases first : f x with
    | none => cases ys <;> simp [first]
    | some y =>
      cases more : rest.mapM f with
      | none => cases ys <;> simp [first, ← ih, more]
      | some others => cases ys <;> simp [first, ← ih, more]

/-- Fields are read just if every key is a text and under each of their names there is one value at most. -/
theorem fields?_eq_some_iff {keys : List String} {fields : List (Option Tree)} :
    fields? keys members = some fields ↔
      Named members ∧ List.Forall₂ (fun key field => Only key members field) keys fields := by
  constructor
  · intro read
    cases texts : members? members with
    | none => simp [fields?, texts] at read
    | some named =>
      simp only [fields?, texts, mapM_eq_some_iff, unique?_eq_some_iff] at read
      rw [← members?_eq_some_iff.mp texts] at read
      exact ⟨named_iff.mpr ⟨named, texts⟩, read⟩
  · rintro ⟨texts, each⟩
    obtain ⟨named, read⟩ := named_iff.mp texts
    simp only [fields?, read, mapM_eq_some_iff, unique?_eq_some_iff]
    rwa [← members?_eq_some_iff.mp read]

end Tree

end Silhouette.Json
