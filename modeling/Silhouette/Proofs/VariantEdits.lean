import Mathlib.Data.List.Nodup
import Silhouette.Proofs.Variants

/-! Lists of variants over runs of edits. Whatever is pushed and selected, entries are only added, at the end, and
no two of them share a name or an asset. A list that is built at once from its entries is built exactly when
pushing them one after another goes through, so every list that edits lead to can be built again. -/
namespace Silhouette.VariantList

/-- No two entries have one name, and no two have one asset. -/
structure Distinct (entries : List Costume) : Prop where
  ids : (entries.map Costume.id).Nodup
  assets : (entries.map fun entry => entry.asset.id).Nodup

/-- What can be done to a list. -/
inductive Edit where
  | push (c : Costume)
  | select (index : Nat)

/-- The answer to an edit and the list that is left. A push is answered with the place of the new entry; a list
that refuses stays as it is. -/
def edit (l : VariantList) : Edit → Except VariantError (Option Nat) × VariantList
  | .push c =>
    match l.push c with
    | .error e => (.error e, l)
    | .ok after => (.ok (some (after.size - 1)), after)
  | .select index =>
    match l.select index with
    | .error e => (.error e, l)
    | .ok after => (.ok none, after)

/-- The lists that edits lead to. -/
inductive Reachable : VariantList → Prop where
  | singleton (c : Costume) : Reachable (singleton c)
  | ofList (built : ofList costumes index = .ok l) : Reachable l
  | edit (reached : Reachable l) (e : Edit) : Reachable (l.edit e).2

/-- What an edit can do to a list. -/
inductive Edited (l : VariantList) :
    Edit → Except VariantError (Option Nat) → VariantList → Prop where
  | pushed (new : ∀ entry ∈ l.entries, entry.id ≠ c.id ∧ entry.asset.id ≠ c.asset.id)
      (entries : after.entries = l.entries ++ [c]) (current : after.current = l.current) :
      Edited l (.push c) (.ok (some l.entries.length)) after
  | named (member : entry ∈ l.entries) (same : entry.id = c.id) :
      Edited l (.push c) (.error (.duplicateCostume c.id)) l
  | held (member : entry ∈ l.entries) (same : entry.asset.id = c.asset.id) :
      Edited l (.push c) (.error (.duplicateAsset c.asset.id)) l
  | selected (entries : after.entries = l.entries) (current : after.current = index) :
      Edited l (.select index) (.ok none) after
  | outside (beyond : l.entries.length ≤ index) :
      Edited l (.select index) (.error (.indexOutOfRange index l.entries.length)) l

variable {l after : VariantList} {c : Costume} {costumes more : List Costume} {index : Nat}

/-! ## One operation -/

theorem ext (entries : l.entries = after.entries) (current : l.current = after.current) :
    l = after := by
  cases l
  cases after
  cases entries
  cases current
  rfl

/-- The objection to a costume is that of an entry with its name, or of one with its asset. -/
theorem objection_eq_some {entries : List Costume} {e : VariantError}
    (objects : objection c entries = some e) :
    (∃ entry ∈ entries, entry.id = c.id ∧ e = .duplicateCostume c.id) ∨
      (∃ entry ∈ entries, entry.asset.id = c.asset.id ∧ e = .duplicateAsset c.asset.id) := by
  induction entries with
  | nil => cases objects
  | cons entry rest ih =>
    unfold objection at objects
    split at objects
    · rename_i named
      cases objects
      exact .inl ⟨entry, List.mem_cons_self, named, rfl⟩
    · split at objects
      · rename_i held
        cases objects
        exact .inr ⟨entry, List.mem_cons_self, held, rfl⟩
      · rcases ih objects with ⟨other, member, found⟩ | ⟨other, member, found⟩
        · exact .inl ⟨other, List.mem_cons_of_mem _ member, found⟩
        · exact .inr ⟨other, List.mem_cons_of_mem _ member, found⟩

theorem push_eq_ok : l.push c = .ok after ↔
    (∀ entry ∈ l.entries, entry.id ≠ c.id ∧ entry.asset.id ≠ c.asset.id) ∧ after = l.append c := by
  rw [← checkAppend_eq_ok, push]
  cases l.checkAppend c with
  | error e => simp
  | ok done => simp [eq_comm]

theorem push_eq_error {e : VariantError} (refused : l.push c = .error e) :
    objection c l.entries = some e := by
  unfold push checkAppend at refused
  cases objects : objection c l.entries with
  | none => simp [objects] at refused
  | some other => simpa [objects] using refused

theorem select_eq_ok : l.select index = .ok after ↔
    after.entries = l.entries ∧ after.current = index := by
  unfold select
  constructor
  · intro chosen
    split at chosen
    · cases chosen
      exact ⟨rfl, rfl⟩
    · cases chosen
  · rintro ⟨entries, rfl⟩
    have inside : after.current < l.entries.length := entries ▸ after.current_lt
    rw [dif_pos inside]
    exact congrArg Except.ok (ext entries.symm rfl)

theorem edit_edited (l : VariantList) (e : Edit) : Edited l e (l.edit e).1 (l.edit e).2 := by
  cases e with
  | push c =>
    cases pushed : l.push c with
    | error e =>
      simp only [edit, pushed]
      rcases objection_eq_some (push_eq_error pushed) with
        ⟨entry, member, same, rfl⟩ | ⟨entry, member, same, rfl⟩
      · exact .named member same
      · exact .held member same
    | ok after =>
      obtain ⟨new, rfl⟩ := push_eq_ok.mp pushed
      have place : (l.append c).size - 1 = l.entries.length := by simp [size, append]
      simp only [edit, pushed, place]
      exact .pushed new rfl rfl
  | select index =>
    cases chosen : l.select index with
    | error e =>
      simp only [edit, chosen]
      unfold select at chosen
      split at chosen
      · cases chosen
      · rename_i beyond
        cases chosen
        exact .outside (Nat.le_of_not_lt beyond)
    | ok after =>
      obtain ⟨entries, current⟩ := select_eq_ok.mp chosen
      simp only [edit, chosen]
      exact .selected entries current

/-! ## Names and assets -/

/-- What costumes are told apart by stays so when one more costume has it as none of them has. -/
private theorem nodup_map_concat {K : Type} {f : Costume → K} : ((costumes ++ [c]).map f).Nodup ↔
    (costumes.map f).Nodup ∧ ∀ entry ∈ costumes, f entry ≠ f c := by
  rw [List.map_append, List.map_singleton, ← List.concat_eq_append, List.nodup_concat, and_comm]
  refine and_congr_right fun _ => ?_
  rw [List.mem_map]
  constructor
  · intro new entry member same
    exact new ⟨entry, member, same⟩
  · rintro new ⟨entry, member, same⟩
    exact new entry member same

theorem distinct_append_singleton : Distinct (costumes ++ [c]) ↔
    Distinct costumes ∧ ∀ entry ∈ costumes, entry.id ≠ c.id ∧ entry.asset.id ≠ c.asset.id := by
  constructor
  · rintro ⟨ids, assets⟩
    obtain ⟨ids, unnamed⟩ := nodup_map_concat.mp ids
    obtain ⟨assets, unheld⟩ := nodup_map_concat.mp assets
    exact ⟨⟨ids, assets⟩, fun entry member => ⟨unnamed entry member, unheld entry member⟩⟩
  · rintro ⟨⟨ids, assets⟩, new⟩
    exact ⟨nodup_map_concat.mpr ⟨ids, fun entry member => (new entry member).1⟩,
      nodup_map_concat.mpr ⟨assets, fun entry member => (new entry member).2⟩⟩

theorem Distinct.front (distinct : Distinct (costumes ++ more)) : Distinct costumes := by
  obtain ⟨ids, assets⟩ := distinct
  rw [List.map_append] at ids assets
  exact ⟨ids.of_append_left, assets.of_append_left⟩

theorem Edited.distinct {e : Edit} {answer : Except VariantError (Option Nat)}
    (edited : Edited l e answer after) (distinct : Distinct l.entries) : Distinct after.entries := by
  cases edited with
  | pushed new entries current =>
    rw [entries]
    exact distinct_append_singleton.mpr ⟨distinct, new⟩
  | named member same => exact distinct
  | held member same => exact distinct
  | selected entries current => rwa [entries]
  | outside beyond => exact distinct

theorem Edited.grows {e : Edit} {answer : Except VariantError (Option Nat)}
    (edited : Edited l e answer after) : l.entries <+: after.entries := by
  cases edited with
  | pushed new entries current =>
    rw [entries]
    exact List.prefix_append _ _
  | named member same => exact List.prefix_refl _
  | held member same => exact List.prefix_refl _
  | selected entries current => exact entries ▸ List.prefix_refl _
  | outside beyond => exact List.prefix_refl _

/-! ## Building a list -/

/-- Costumes can be pushed one after another just if they and the entries together are distinct. -/
theorem pushAll_eq_ok (distinct : Distinct l.entries) : l.pushAll more = .ok after ↔
    Distinct (l.entries ++ more) ∧ after.entries = l.entries ++ more ∧ after.current = l.current := by
  induction more generalizing l with
  | nil =>
    simp only [pushAll, List.append_nil, Except.ok.injEq]
    constructor
    · rintro rfl
      exact ⟨distinct, rfl, rfl⟩
    · rintro ⟨-, entries, current⟩
      exact ext entries.symm current.symm
  | cons c rest ih =>
    have whole : l.entries ++ c :: rest = (l.append c).entries ++ rest := by simp [append]
    cases pushed : l.push c with
    | error e =>
      simp only [pushAll, pushed, reduceCtorEq, false_iff]
      rintro ⟨apart, -⟩
      rw [whole] at apart
      have new := (distinct_append_singleton.mp apart.front).2
      rw [push_eq_ok.mpr ⟨new, rfl⟩] at pushed
      cases pushed
    | ok next =>
      obtain ⟨new, rfl⟩ := push_eq_ok.mp pushed
      simp only [pushAll, pushed]
      rw [whole]
      exact ih (distinct_append_singleton.mpr ⟨distinct, new⟩)

/-- A list is built from distinct costumes, of which there is one at the place that is to be selected. -/
theorem ofList_eq_ok : ofList costumes index = .ok l ↔
    Distinct costumes ∧ l.entries = costumes ∧ l.current = index := by
  cases costumes with
  | nil =>
    simp only [ofList, reduceCtorEq, false_iff]
    rintro ⟨-, none, -⟩
    have inside := l.current_lt
    simp [none] at inside
  | cons first rest =>
    have alone : Distinct (singleton first).entries := ⟨List.nodup_singleton _, List.nodup_singleton _⟩
    have build : ∀ next, (singleton first).pushAll rest = .ok next ↔
        Distinct (first :: rest) ∧ next.entries = first :: rest ∧ next.current = 0 :=
      fun next => pushAll_eq_ok alone
    cases pushed : (singleton first).pushAll rest with
    | error e =>
      simp only [ofList, pushed, reduceCtorEq, false_iff]
      rintro ⟨distinct, -, -⟩
      have made := (build ⟨first :: rest, 0, by simp⟩).mpr ⟨distinct, rfl, rfl⟩
      rw [pushed] at made
      cases made
    | ok next =>
      obtain ⟨distinct, entries, -⟩ := (build next).mp pushed
      simp only [ofList, pushed]
      rw [select_eq_ok, entries]
      exact (and_iff_right distinct).symm

theorem Reachable.distinct (reached : Reachable l) : Distinct l.entries := by
  induction reached with
  | singleton c => exact ⟨List.nodup_singleton _, List.nodup_singleton _⟩
  | ofList built =>
    obtain ⟨distinct, entries, -⟩ := ofList_eq_ok.mp built
    rwa [entries]
  | edit reached e ih => exact (edit_edited _ e).distinct ih

/-- A list that edits lead to is never empty, has one of its entries selected and no name or asset twice; it can
be built again from what it holds; and an edit adds an entry at its end, moves the selection or is refused.
Costumes make a list just if there are any, they are distinct, and the selected place is one of theirs. -/
theorem reachable_lists_are_sound :
    (∀ l, Reachable l → l.entries ≠ [] ∧ l.current < l.entries.length ∧ Distinct l.entries ∧
      ofList l.entries l.current = .ok l ∧
      ∀ e, l.entries <+: (l.edit e).2.entries ∧ Edited l e (l.edit e).1 (l.edit e).2) ∧
    (∀ costumes index, (∃ l, ofList costumes index = .ok l) ↔
      costumes ≠ [] ∧ Distinct costumes ∧ index < costumes.length) ∧
    (∀ costumes index l, ofList costumes index = .ok l → l.entries = costumes ∧ l.current = index) := by
  refine ⟨fun l reached => ?_, fun costumes index => ?_, fun costumes index l built => ?_⟩
  · have some : l.entries ≠ [] := List.ne_nil_of_length_pos (Nat.zero_lt_of_lt l.current_lt)
    have again := ofList_eq_ok.mpr ⟨reached.distinct, rfl, rfl⟩
    exact ⟨some, l.current_lt, reached.distinct, again,
      fun e => ⟨(edit_edited l e).grows, edit_edited l e⟩⟩
  · constructor
    · rintro ⟨l, built⟩
      obtain ⟨distinct, rfl, rfl⟩ := ofList_eq_ok.mp built
      exact ⟨List.ne_nil_of_length_pos (Nat.zero_lt_of_lt l.current_lt), distinct, l.current_lt⟩
    · rintro ⟨-, distinct, inside⟩
      exact ⟨⟨costumes, index, inside⟩, ofList_eq_ok.mpr ⟨distinct, rfl, rfl⟩⟩
  · exact (ofList_eq_ok.mp built).2

/-- A costume of a given name and content. -/
def look (name digest : Nat) : Costume :=
  .create ⟨.ofNat name⟩ "look" (.reference ⟨List.replicate 32 (UInt8.ofNat digest), by simp⟩ .png)

theorem list_of_two_looks_is_sound :
    Reachable ((singleton (look 1 1)).edit (.push (look 2 2))).2 ∧
      ofList [look 1 1, look 2 2] 0 = .ok ((singleton (look 1 1)).edit (.push (look 2 2))).2 ∧
      ¬ ∃ l, ofList [look 1 1, look 2 2, look 3 1] 0 = .ok l := by
  have reached := (Reachable.singleton (look 1 1)).edit (.push (look 2 2))
  obtain ⟨-, -, -, again, -⟩ := reachable_lists_are_sound.1 _ reached
  refine ⟨reached, again, fun built => ?_⟩
  obtain ⟨-, distinct, -⟩ := (reachable_lists_are_sound.2.1 _ _).mp built
  have assets := distinct.assets
  revert assets
  decide

end Silhouette.VariantList
