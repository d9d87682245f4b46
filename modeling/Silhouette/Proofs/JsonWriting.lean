import Silhouette.Proofs.JsonGrammar
import Silhouette.Proofs.JsonMembers

/-! Objects that are written are read as they were written. A value is written well if its tokens are found again
wherever a value may end. Strings and whole numbers are, and so are objects of such values, which then need
nothing else to be read back. -/
namespace Silhouette.Json

/-! ## Whole numbers -/

namespace Literal

/-- A whole number as it is spelled. -/
def ofNat (n : Nat) : Literal := ⟨false, Nat.toDigits 10 n, [], none⟩

/-- The digits of a number that fits a word are taken in as that number. -/
theorem absorb_toDigits {n : Nat} (fits : n ≤ 0xffffffffffffffff) (more : List Char) :
    absorb 0 (Nat.toDigits 10 n ++ more) = absorb n more := by
  induction n using Nat.strongRecOn generalizing more with
  | ind n ih =>
    by_cases small : n < 10
    · have value : digitValue n.digitChar = n := Nat.toNat_digitChar_sub_48_of_lt_ten small
      rw [Nat.toDigits_of_lt_base small, List.singleton_append, absorb, value, Nat.zero_mul, Nat.zero_add]
      exact if_pos fits
    · have value : digitValue (n % 10).digitChar = n % 10 :=
        Nat.toNat_digitChar_sub_48_of_lt_ten (Nat.mod_lt n (by decide))
      have parts : n / 10 * 10 + n % 10 = n := by omega
      rw [Nat.toDigits_of_base_le (by decide) (Nat.not_lt.mp small), List.append_assoc,
        ih (n / 10) (by omega) (by omega), List.singleton_append, absorb, value, parts]
      exact if_pos fits

theorem toNat?_ofNat {n : Nat} (fits : n ≤ 0xffffffffffffffff) : (ofNat n).toNat? = some n := by
  have taken := absorb_toDigits fits []
  rw [List.append_nil] at taken
  simp [toNat?, ofNat, taken, absorb]

end Literal

/-- The digits of a number begin with a zero only if the number is zero. -/
theorem toDigits_eq_cons (n : Nat) :
    ∃ d ds, Nat.toDigits 10 n = d :: ds ∧ (d = '0' → n = 0) := by
  induction n using Nat.strongRecOn with
  | ind n ih =>
    by_cases small : n < 10
    · exact ⟨n.digitChar, [], Nat.toDigits_of_lt_base small, Nat.digitChar_eq_zero.mp⟩
    · obtain ⟨d, ds, digits, zero⟩ := ih (n / 10) (by omega)
      refine ⟨d, ds ++ [(n % 10).digitChar], ?_, fun none => absurd (zero none) (by omega)⟩
      rw [Nat.toDigits_of_base_le (by decide) (Nat.not_lt.mp small), digits, List.cons_append]

/-- Where a value may end. -/
def Ends (rest : List Char) : Prop := ∀ c ∈ rest.head?, c = ',' ∨ c = '\x7d'

namespace Token

/-- A token of one character. -/
theorem Spells.mark {c : Char} {rest : List Char} {token : Token} {tokens : List Token}
    (others : Spells rest tokens) (printed : isSpace c = false)
    (first : next? (c :: rest) = some (token, rest)) : Spells (c :: rest) (token :: tokens) :=
  .cons (by simp [printed]) first (Nat.lt_succ_self _) others

private theorem ne_of_isDigit {d c : Char} (digit : d.isDigit = true) (other : c.isDigit = false) : d ≠ c := by
  rintro rfl
  rw [digit] at other
  cases other

/-- What follows a value does not belong to a number. -/
theorem scanNumber_of_ends {rest : List Char} (ends : Ends rest) (n : Nat) :
    scanNumber (Nat.toDigits 10 n ++ rest) = some (.ofNat n, rest) := by
  obtain ⟨d, ds, spelling, zero⟩ := toDigits_eq_cons n
  have digit : ∀ c ∈ d :: ds, c.isDigit = true := fun c here =>
    Nat.isDigit_of_mem_toDigits (by decide) (by decide) (spelling ▸ here)
  have behind : rest.takeWhile Char.isDigit = [] ∧ rest.dropWhile Char.isDigit = rest ∧
      scanFraction rest = some ([], rest) ∧ scanExponent rest = some (none, rest) := by
    cases rest with
    | nil => exact ⟨rfl, rfl, rfl, rfl⟩
    | cons c rest => rcases ends c rfl with rfl | rfl <;> exact ⟨rfl, rfl, rfl, rfl⟩
  obtain ⟨noDigits, kept, noFraction, noExponent⟩ := behind
  have whole : digits (d :: ds ++ rest) = (d :: ds, rest) := by
    rw [digits, List.takeWhile_append_of_pos digit, List.dropWhile_append_of_pos digit, noDigits, kept,
      List.append_nil]
  have noLeadingZero : ¬ (d = '0' ∧ ds ≠ []) := by
    rintro ⟨first, more⟩
    rw [zero first, Nat.toDigits_zero] at spelling
    exact more (List.cons.inj spelling).2.symm
  rw [Literal.ofNat, spelling]
  unfold scanNumber
  split
  rename_i sign
  split at sign
  · rename_i minus
    exact absurd (List.cons.inj minus).1 (ne_of_isDigit (digit d List.mem_cons_self) rfl)
  · cases sign
    simp only [whole, noLeadingZero, noFraction, noExponent, if_false]

/-- A digit begins a number. -/
theorem next?_digit {d : Char} (digit : d.isDigit = true) (cs : List Char) :
    next? (d :: cs) = (scanNumber (d :: cs)).map fun (l, rest) => (number l, rest) := by
  unfold next?
  -- every case but the last begins with a character that is no digit
  split <;> first
    | rfl
    | rename_i same
      exact absurd (List.cons.inj same).1 (ne_of_isDigit digit rfl)

theorem Spells.ofNat {rest : List Char} {tokens : List Token} (ends : Ends rest) (n : Nat)
    (others : Spells rest tokens) :
    Spells (Nat.toDigits 10 n ++ rest) (number (.ofNat n) :: tokens) := by
  obtain ⟨d, ds, spelling, -⟩ := toDigits_eq_cons n
  have digit : d.isDigit = true :=
    Nat.isDigit_of_mem_toDigits (by decide) (by decide) (spelling ▸ List.mem_cons_self)
  have printed : isSpace d = false := by
    simp [isSpace, ne_of_isDigit digit]
  have scanned := scanNumber_of_ends ends n
  rw [spelling, List.cons_append] at scanned ⊢
  have first : next? (d :: (ds ++ rest)) = some (number (.ofNat n), rest) := by
    rw [next?_digit digit, scanned]
    rfl
  have shorter : rest.length < (d :: (ds ++ rest)).length := by
    rw [List.length_cons, List.length_append]
    omega
  exact .cons (by simp [printed]) first shorter others

end Token

/-! ## Values -/

/-- A text is written for a value: wherever the value may end, its tokens are found again. -/
def Writes (text : String) (t : Tree) : Prop :=
  ∀ rest tokens, Ends rest → Token.Spells rest tokens →
    Token.Spells (text.toList ++ rest) (t.tokens ++ tokens)

/-- What is written for a value is read as that value. -/
theorem Writes.read {text : String} {t : Tree} (writes : Writes text t) : Tree.read? text = some t := by
  have alone := (writes [] [] nofun .nil).scan
  rw [List.append_nil, List.append_nil] at alone
  exact Tree.read?_eq_some_iff.mpr alone

theorem writes_quote (s : String) : Writes (quote s) (.string (spelled s)) := by
  intro rest tokens ends others
  rw [quote, String.toList_ofList]
  exact others.quoteChars s.toList

theorem writes_nat (n : Nat) : Writes (toString n) (.number (.ofNat n)) := by
  intro rest tokens ends others
  have digits : (toString n).toList = Nat.toDigits 10 n := Nat.toList_repr
  rw [digits]
  exact others.ofNat ends n

/-! ## Objects -/

/-- Members as they are written and as they are read. -/
def WritesMembers : List (String × String) → List (String × Tree) → Prop :=
  List.Forall₂ fun m f => m.1 = f.1 ∧ Writes m.2 f.2

/-- One member: its key, a colon and its value. -/
theorem spells_member {m : String × String} {t : Tree} {rest : List Char} {tokens : List Token}
    (writes : Writes m.2 t) (ends : Ends rest) (others : Token.Spells rest tokens) :
    Token.Spells ((quote m.1 ++ ":" ++ m.2).toList ++ rest)
      (.string (spelled m.1) :: .colon :: (t.tokens ++ tokens)) := by
  have value := writes rest tokens ends others
  have colon : Token.Spells (':' :: (m.2.toList ++ rest)) (.colon :: (t.tokens ++ tokens)) :=
    value.mark rfl rfl
  have all := colon.quoteChars m.1.toList
  simpa [quote, spelled] using all

theorem spells_members {members : List (String × String)} {fields : List (String × Tree)}
    (writes : WritesMembers members fields) {rest : List Char} {tokens : List Token}
    (others : Token.Spells rest tokens) :
    Token.Spells
      ((",".intercalate (members.map fun m => quote m.1 ++ ":" ++ m.2)).toList ++ '\x7d' :: rest)
      (separated (Tree.memberTokens (fields.map fun f => (spelled f.1, f.2))) ++ .closeObject :: tokens) := by
  have closed : Token.Spells ('\x7d' :: rest) (.closeObject :: tokens) :=
    others.mark rfl rfl
  induction writes with
  | nil => exact closed
  | @cons m f members fields own more ih =>
    obtain ⟨name, value⟩ := own
    cases more with
    | nil =>
      have last := spells_member value (by simp [Ends]) closed
      simpa [Tree.memberTokens, name] using last
    | cons own' more =>
      have comma : Token.Spells (',' :: _) (.comma :: _) := ih.mark rfl rfl
      have first := spells_member value (by simp [Ends]) comma
      simpa [Tree.memberTokens, name] using first

/-- An object of values that are read back is read back. -/
theorem writes_object {members : List (String × String)} {fields : List (String × Tree)}
    (writes : WritesMembers members fields) :
    Writes (object members) (.object (fields.map fun f => (spelled f.1, f.2))) := by
  intro rest tokens _ others
  have inside := spells_members writes others
  have opened : Token.Spells ('\x7b' :: _) (.openObject :: _) := inside.mark rfl rfl
  simpa [object, Tree.tokens] using opened

end Silhouette.Json
