import Silhouette.VariantList

/-! Appending to a list of variants. A list that was asked whether it takes a costume and has not
objected takes it: neither appending the costume nor selecting it can fail afterwards. -/
namespace Silhouette.VariantList

variable {l : VariantList} {c : Costume}

/-- The list with one more entry at its end, which is selected. -/
def withNewest (l : VariantList) (c : Costume) : VariantList :=
  ⟨l.entries ++ [c], l.entries.length, by simp⟩

@[simp]
theorem entries_withNewest : (l.withNewest c).entries = l.entries ++ [c] := rfl

@[simp]
theorem selected_withNewest : (l.withNewest c).selected = c := by
  simp [selected, withNewest]

private theorem objection_eq_none {entries : List Costume} :
    objection c entries = none ↔
      ∀ entry ∈ entries, entry.id ≠ c.id ∧ entry.asset.id ≠ c.asset.id := by
  induction entries with
  | nil => simp [objection]
  | cons entry rest ih =>
    by_cases named : entry.id = c.id <;> by_cases held : entry.asset.id = c.asset.id <;>
      simp [objection, named, held, ih]

/-- A list takes a costume if no entry has its name and none has its asset. -/
theorem checkAppend_eq_ok :
    l.checkAppend c = .ok () ↔
      ∀ entry ∈ l.entries, entry.id ≠ c.id ∧ entry.asset.id ≠ c.asset.id := by
  rw [← objection_eq_none]
  unfold checkAppend
  cases objection c l.entries <;> simp

/-- Asking first is enough for the append. -/
theorem push_of_checkAppend (takes : l.checkAppend c = .ok ()) : l.push c = .ok (l.append c) := by
  simp [push, takes]

/-- Asking first is enough for the selection of what was appended. -/
theorem select_append : (l.append c).select ((l.append c).size - 1) = .ok (l.withNewest c) := by
  simp [append, select, size, withNewest]

end Silhouette.VariantList
