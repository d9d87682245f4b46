import Silhouette.Relay.SafeName
import Silhouette.Proofs.Files
import Silhouette.Proofs.Marks
import Silhouette.Proofs.Utf8

/-! The names of saved copies. A safe name holds nothing but ASCII letters, digits and underscores, so that
what is made of it names a file in the directory it is saved in. The name of a copy tells the time and the
safe name, but not the name of the file that was uploaded. -/
namespace Silhouette.Relay

private theorem underscored_safe {inRun : Bool} {cs : List Char} :
    ∀ c ∈ underscored inRun cs, isSafeChar c = true := by
  induction cs generalizing inRun with
  | nil => simp [underscored]
  | cons first rest ih =>
    intro c member
    unfold underscored at member
    split at member
    · rename_i safe
      rcases List.mem_cons.mp member with rfl | later
      · exact safe
      · exact ih c later
    · split at member
      · exact ih c member
      · rcases List.mem_cons.mp member with rfl | later
        · decide
        · exact ih c later

theorem safeBase_safe (filename : String) : ∀ c ∈ (safeBase filename).toList, isSafeChar c = true := by
  have plain : emptyName.toList.all isSafeChar = true := by decide
  unfold safeBase
  split
  · exact List.all_eq_true.mp plain
  · intro c member
    rw [String.toList_ofList] at member
    exact underscored_safe c member

/-- The name of a copy spells its time, an underscore, the safe name and the ending. -/
theorem toList_savedName (now : Nat) (filename : String) :
    (savedName now filename).toList =
      Nat.toDigits 10 now ++ '_' :: ((safeBase filename).toList ++ ".png".toList) := by
  simp [savedName]

/-- Time and safe name can be read off the name of a copy. -/
theorem savedName_eq_iff {now later : Nat} {f g : String} :
    savedName now f = savedName later g ↔ now = later ∧ safeBase f = safeBase g := by
  constructor
  · intro same
    have letters := congrArg String.toList same
    rw [toList_savedName, toList_savedName] at letters
    -- no digit is an underscore, so both names have their first underscore at one place
    have clear : ∀ n rest, Clear ['_'] (Nat.toDigits 10 n) rest := fun _ _ =>
      .of_notMem Nat.underscore_not_in_toDigits
    obtain ⟨digits, rest⟩ := (clear now _).unique (clear later _) letters
    have times : now = later := by
      rw [← Nat.ofDigitChars_ten_toDigits (n := now), digits, Nat.ofDigitChars_ten_toDigits]
    exact ⟨times, String.toList_inj.mp (List.append_cancel_right rest)⟩
  · rintro ⟨rfl, bases⟩
    rw [savedName, savedName, bases]

theorem savedName_plain (now : Nat) (filename : String) :
    ∀ c ∈ (savedName now filename).toList, isSafeChar c = true ∨ c = '.' := by
  intro c member
  rw [toList_savedName, List.mem_append, List.mem_cons, List.mem_append] at member
  rcases member with digit | rfl | base | ending
  · have known := Nat.isDigit_of_mem_toDigits (by omega) (by omega) digit
    exact .inl (by simp [isSafeChar, Char.isAlphanum, known])
  · exact .inl (by decide)
  · exact .inl (safeBase_safe filename c base)
  · have plain : (".png".toList.all fun c => isSafeChar c || c == '.') = true := by decide
    simpa using List.all_eq_true.mp plain c ending

/-- A copy is saved under the name of a file, in whatever directory. -/
theorem savedName_isName (now : Nat) (filename : String) :
    FileTree.IsName (Text.Utf8.encode (savedName now filename)) where
  given := by
    intro none
    have empty : Text.Utf8.encode "" = [] := by decide +kernel
    have letters := congrArg String.toList (Text.Utf8.encode_injective (none.trans empty.symm))
    simp [toList_savedName] at letters
  whole := by
    intro separated
    have slash := Text.Utf8.char_mem_of_byte_mem (by decide) separated
    have plain := savedName_plain now filename _ slash
    revert plain
    decide
  noStep := by
    have underscore : '_' ∈ (savedName now filename).toList := by simp [toList_savedName]
    have dot : Text.Utf8.encode "." = [Path.point] := by decide +kernel
    have dots : Text.Utf8.encode ".." = [Path.point, Path.point] := by decide +kernel
    rintro (here | above)
    · rw [Text.Utf8.encode_injective (here.trans dot.symm)] at underscore
      revert underscore
      decide
    · rw [Text.Utf8.encode_injective (above.trans dots.symm)] at underscore
      revert underscore
      decide

end Silhouette.Relay
