/-! Where a list is cut by the first mark in it. A mark can begin in what is written in front of it, or run over from
there into the mark itself; what keeps both from happening is put together from the pieces in front of the mark. -/
namespace Silhouette

variable {α : Type} {mark front back rest front' rest' : List α} {a : α}

/-- No mark begins in `front` where `rest` follows it. -/
def Clear (mark front rest : List α) : Prop :=
  ∀ before behind, front ++ rest = before ++ (mark ++ behind) → front.length ≤ before.length

namespace Clear

theorem nil : Clear mark [] rest := fun _ _ _ => Nat.zero_le _

theorem append (first : Clear mark front (back ++ rest)) (second : Clear mark back rest) :
    Clear mark (front ++ back) rest := by
  intro before behind found
  rw [List.append_assoc] at found
  have reached := first before behind found
  obtain ⟨between, rfl, left⟩ : ∃ between, before = front ++ between ∧
      back ++ rest = between ++ (mark ++ behind) := by
    rcases List.append_eq_append_iff.mp found with ⟨between, split, left⟩ | ⟨between, split, left⟩
    · exact ⟨between, split, left⟩
    · have none : between = [] := by
        rw [split, List.length_append] at reached
        exact List.length_eq_zero_iff.mp (by omega)
      subst none
      exact ⟨[], by simpa using split.symm, by simpa using left.symm⟩
  have more := second between behind left
  simp only [List.length_append]
  omega

/-- The first mark cuts a list in one way. -/
theorem unique (clear : Clear mark front (mark ++ rest)) (clear' : Clear mark front' (mark ++ rest'))
    (same : front ++ (mark ++ rest) = front' ++ (mark ++ rest')) : front = front' ∧ rest = rest' := by
  have shorter := clear front' rest' same
  have longer := clear' front rest same.symm
  obtain ⟨fronts, backs⟩ := List.append_inj same (by omega)
  exact ⟨fronts, List.append_cancel_left backs⟩

/-- A mark cannot begin where its first letter does not stand. -/
theorem of_notMem (absent : a ∉ front) : Clear (a :: mark) front rest := by
  intro before behind found
  rcases List.append_eq_append_iff.mp found with ⟨between, rfl, -⟩ | ⟨between, rfl, left⟩
  · simp
  · cases between with
    | nil => simp
    | cons b between =>
      obtain ⟨rfl, -⟩ := List.cons.inj left
      simp at absent

end Clear

/-- A word that does not occur in `front`, and does not hold the letter behind it, stands behind that letter. -/
theorem length_lt_of_absent {word before behind : List α} (single : a ∉ word) (absent : ¬ word <:+: front)
    (found : front ++ a :: rest = before ++ (word ++ behind)) : front.length < before.length := by
  rcases List.append_eq_append_iff.mp found with ⟨between, rfl, left⟩ | ⟨between, rfl, left⟩
  · cases between with
    | cons b between => simp
    | nil =>
      cases word with
      | nil => exact absurd (List.nil_infix) absent
      | cons w word =>
        obtain ⟨rfl, -⟩ := List.cons.inj left
        simp at single
  · refine absurd ?_ absent
    rcases List.append_eq_append_iff.mp left with ⟨more, rfl, -⟩ | ⟨more, rfl, cut⟩
    · exact ⟨before, more, by simp⟩
    · cases more with
      | nil => exact ⟨before, [], by simp⟩
      | cons b more =>
        obtain ⟨rfl, -⟩ := List.cons.inj cut
        simp at single

/-- A mark whose tail stands nowhere in `front` does not begin there either, nor run over into what follows. -/
theorem Clear.of_absent (single : a ∉ mark) (absent : ¬ mark <:+: front) : Clear (a :: mark) front (a :: rest) := by
  intro before behind found
  have tail : front ++ a :: rest = (before ++ [a]) ++ (mark ++ behind) := by simpa using found
  have later := length_lt_of_absent single absent tail
  simpa [Nat.lt_succ_iff] using later

end Silhouette
