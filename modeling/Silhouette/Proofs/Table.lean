import Mathlib.Data.List.Nodup
import Silhouette.Table

/-! What a table holds, read through `get?`. Putting a value in changes the answer for its key alone,
erasing a key takes its answer away and no other, and a key that is new is written at the end, so
that erasing it again gives back the very table there was. -/
namespace Silhouette.Table

variable {K V : Type} {t u : Table K V} {k a : K} {v : V}

/-- A table is its entries. -/
theorem ext (same : t.entries = u.entries) : t = u := by
  cases t
  cases u
  cases same
  rfl

variable [DecidableEq K]

private theorem find?_set {l : List (K × V)} :
    find? a (set k v l) = if a = k then some v else find? a l := by
  induction l with
  | nil =>
    by_cases same : a = k
    · simp [set, find?, same]
    · have other : k ≠ a := fun h => same h.symm
      simp [set, find?, same, other]
  | cons p rest ih =>
    obtain ⟨b, w⟩ := p
    by_cases here : b = k
    · subst here
      by_cases same : a = b
      · simp [set, find?, same]
      · have other : b ≠ a := fun h => same h.symm
        simp [set, find?, same, other]
    · by_cases found : b = a
      · subst found
        simp [set, find?, here]
      · simp [set, find?, here, found, ih]

private theorem find?_filter {l : List (K × V)} :
    find? a (l.filter fun p => p.1 ≠ k) = if a = k then none else find? a l := by
  induction l with
  | nil => simp [find?]
  | cons p rest ih =>
    obtain ⟨b, w⟩ := p
    by_cases erased : b = k
    · subst erased
      by_cases same : a = b
      · simpa [same] using ih
      · have other : b ≠ a := fun h => same h.symm
        simpa [find?, same, other] using ih
    · by_cases found : b = a
      · subst found
        simp [find?, erased]
      · simp only [ne_eq, erased, not_false_eq_true, decide_true, List.filter_cons_of_pos, find?,
          if_neg found]
        exact ih

private theorem set_of_not_mem {l : List (K × V)} (new : k ∉ l.map Prod.fst) :
    set k v l = l ++ [(k, v)] := by
  induction l with
  | nil => rfl
  | cons p rest ih =>
    obtain ⟨b, w⟩ := p
    simp only [List.map_cons, List.mem_cons, not_or] at new
    have other : b ≠ k := fun h => new.1 h.symm
    simp [set, other, ih new.2]

@[simp]
theorem get?_put : (t.put k v).get? a = if a = k then some v else t.get? a := find?_set

@[simp]
theorem get?_erase : (t.erase k).get? a = if a = k then none else t.get? a := find?_filter

@[simp]
theorem contains_put : (t.put k v).contains a = (decide (a = k) || t.contains a) := by
  by_cases same : a = k <;> simp [contains, same]

@[simp]
theorem contains_erase : (t.erase k).contains a = (decide (a ≠ k) && t.contains a) := by
  by_cases same : a = k <;> simp [contains, same]

theorem mem_keys_put : a ∈ (t.put k v).keys ↔ a = k ∨ a ∈ t.keys := mem_keys_set

theorem mem_keys_of_mem_erase (kept : a ∈ (t.erase k).keys) : a ∈ t.keys := by
  obtain ⟨p, member, rfl⟩ := List.mem_map.mp kept
  exact List.mem_map_of_mem (List.mem_filter.mp member).1

private theorem isSome_find? {l : List (K × V)} : (find? a l).isSome ↔ a ∈ l.map Prod.fst := by
  induction l with
  | nil => simp [find?]
  | cons p rest ih =>
    by_cases here : p.1 = a
    · simp [find?, here]
    · simp [find?, here, Ne.symm here, ih]

theorem contains_iff_mem_keys : t.contains a = true ↔ a ∈ t.keys := isSome_find?

private theorem mem_values_of_find? {l : List (K × V)} (found : find? a l = some v) :
    v ∈ l.map Prod.snd := by
  induction l with
  | nil => cases found
  | cons p rest ih =>
    by_cases here : p.1 = a
    · simp [find?, here] at found
      simp [found]
    · simp only [find?, here, if_false] at found
      exact List.mem_cons_of_mem _ (ih found)

theorem mem_values_of_get? (found : t.get? a = some v) : v ∈ t.entries.map Prod.snd :=
  mem_values_of_find? found

/-- A new key goes to the end. -/
theorem entries_put_of_new (new : k ∉ t.keys) : (t.put k v).entries = t.entries ++ [(k, v)] :=
  set_of_not_mem new

/-- Erasing a key that was new when it was put in gives back the table there was. -/
theorem erase_put_of_new (new : k ∉ t.keys) : (t.put k v).erase k = t := by
  apply ext
  have others : ∀ p ∈ t.entries, p.1 ≠ k := by
    intro p member same
    exact new (same ▸ List.mem_map_of_mem member)
  simp only [erase, entries_put_of_new new, List.filter_append]
  rw [List.filter_eq_self.mpr (by simpa using others)]
  simp

theorem size_put_of_new (new : k ∉ t.keys) : (t.put k v).size = t.size + 1 := by
  simp [size, entries_put_of_new new]

/-- A key that is there is there once. -/
theorem size_erase_of_contains (present : t.contains k = true) : (t.erase k).size + 1 = t.size := by
  have once : t.keys.count k = 1 :=
    List.count_eq_one_of_mem t.nodup_keys (contains_iff_mem_keys.mp present)
  have parts := t.entries.length_eq_countP_add_countP fun p => p.1 ≠ k
  have erased : t.entries.countP (fun p => ¬ (decide (p.1 ≠ k) = true)) = t.keys.count k := by
    rw [keys, List.count, List.countP_map]
    exact List.countP_congr fun p _ => by simp
  have kept : (t.erase k).size = t.entries.countP fun p => p.1 ≠ k :=
    List.countP_eq_length_filter.symm
  unfold size at *
  omega

end Silhouette.Table
