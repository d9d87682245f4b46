import Silhouette.Json.Decode
import Silhouette.Json.Text

/-! What is written as a JSON string is read as that string. A character is read back from the escape that was
written for it, whatever stands before and after it, so a quoted text is a single token wherever it stands, and as
a whole JSON text it gives back the characters that were written. -/
namespace Silhouette.Json

namespace Token

private theorem hexUnit?_control :
    ∀ n < 0x20, hexUnit? '0' '0' (hexDigit (n / 16)) (hexDigit (n % 16)) = some n := by decide

private theorem addUnit_control {n : Nat} (small : n < 0x20) (pieces : List Piece) :
    addUnit n pieces = .char (Char.ofNat n) :: pieces := by
  unfold addUnit
  rw [if_neg (by omega), if_neg (by omega)]

private theorem char_eq_of_toNat {c : Char} {n : Nat} (code : c.toNat = n) : c = Char.ofNat n := by
  rw [← code, Char.ofNat_toNat]

private theorem scanString_short {e c : Char} (short : shortEscape? e = some c) (other : e ≠ 'u')
    (pieces : List Piece) (rest : List Char) :
    scanString pieces ('\\' :: e :: rest) = scanString (.char c :: pieces) rest := by
  rw [scanString]
  · rw [short]
  · intro a b c d rest' unit
    exact fun _ => other unit

private theorem scanString_plain {c : Char} (quote : c ≠ '"') (slash : c ≠ '\\')
    (printed : ¬ c.toNat < 0x20) (pieces : List Piece) (rest : List Char) :
    scanString pieces (c :: rest) = scanString (.char c :: pieces) rest := by
  rw [scanString]
  · rw [if_neg (by simp [slash, printed])]
  · exact quote
  · intro a b c d rest' same
    exact absurd same slash
  · intro e rest' same
    exact absurd same slash

/-- One escape gives back one character. -/
theorem scanString_escape (c : Char) (pieces : List Piece) (rest : List Char) :
    scanString pieces (escape c ++ rest) = scanString (.char c :: pieces) rest := by
  unfold escape
  split
  · subst_vars
    exact scanString_short rfl (by decide) pieces rest
  split
  · subst_vars
    exact scanString_short rfl (by decide) pieces rest
  split
  · subst_vars
    exact scanString_short rfl (by decide) pieces rest
  split
  · subst_vars
    exact scanString_short rfl (by decide) pieces rest
  split
  · subst_vars
    exact scanString_short rfl (by decide) pieces rest
  split
  · rename_i code
    rw [char_eq_of_toNat code]
    exact scanString_short rfl (by decide) pieces rest
  split
  · rename_i code
    rw [char_eq_of_toNat code]
    exact scanString_short rfl (by decide) pieces rest
  split
  · rename_i control
    have unit := hexUnit?_control c.toNat control
    simp only [List.cons_append, List.nil_append]
    rw [scanString, unit]
    simp only [addUnit_control control, Char.ofNat_toNat]
  · rename_i quote slash _ _ _ _ _ printed
    exact scanString_plain quote slash printed pieces rest

theorem scanString_escapes (cs rest : List Char) (pieces : List Piece) :
    scanString pieces (cs.flatMap escape ++ '"' :: rest) =
      some (pieces.reverse ++ cs.map .char, rest) := by
  induction cs generalizing pieces with
  | nil => simp [scanString]
  | cons c cs ih =>
    rw [List.flatMap_cons, List.append_assoc, scanString_escape, ih]
    simp

/-- A text that some tokens spell: each begins where the one before it ends, with no space between them. -/
inductive Spells : List Char → List Token → Prop where
  | nil : Spells [] []
  | cons {cs rest : List Char} {token : Token} {tokens : List Token} (packed : cs.dropWhile isSpace = cs)
      (first : next? cs = some (token, rest)) (shorter : rest.length < cs.length)
      (others : Spells rest tokens) : Spells cs (token :: tokens)

variable {cs rest : List Char} {tokens : List Token}

theorem Spells.length_le (spells : Spells cs tokens) : tokens.length ≤ cs.length := by
  induction spells with
  | nil => exact Nat.le_refl 0
  | cons _ _ shorter _ ih => exact Nat.succ_le_of_lt (Nat.lt_of_le_of_lt ih shorter)

theorem Spells.scanFrom (spells : Spells cs tokens) {fuel : Nat} (enough : tokens.length ≤ fuel)
    (before : List Token) : scanFrom fuel before cs = some (before.reverse ++ tokens) := by
  induction spells generalizing fuel before with
  | nil => cases fuel <;> simp [Token.scanFrom]
  | @cons cs rest token tokens packed first shorter _ ih =>
    obtain ⟨fuel, rfl⟩ := Nat.exists_eq_succ_of_ne_zero (Nat.ne_zero_of_lt enough)
    cases cs with
    | nil => cases shorter
    | cons c cs =>
      simp only [Token.scanFrom, packed, first, ih (Nat.le_of_succ_le_succ enough)]
      simp

/-- A text is scanned as the tokens that spell it. -/
theorem Spells.scan (spells : Spells cs tokens) : scan cs = some tokens :=
  spells.scanFrom spells.length_le []

/-- A quoted text is a single token. -/
theorem Spells.quoteChars (text : List Char) (others : Spells rest tokens) :
    Spells (quoteChars text ++ rest) (string (text.map .char) :: tokens) := by
  have packed : (Json.quoteChars text ++ rest).dropWhile isSpace = Json.quoteChars text ++ rest := rfl
  refine .cons packed ?_ (by simp [Json.quoteChars]; omega) others
  simp [Json.quoteChars, next?, scanString_escapes]

end Token

theorem chars?_map_char (cs : List Char) : chars? (cs.map .char) = some cs := by
  induction cs with
  | nil => rfl
  | cons c rest ih => simp [chars?, ih]

/-- The text that was quoted is the text that is read. -/
theorem text_read_quote (s : String) : (Tree.read? (quote s)).bind Tree.text? = some s := by
  have token : Token.scan (quote s).toList = some [.string (s.toList.map .char)] := by
    rw [quote, String.toList_ofList, ← List.append_nil (quoteChars s.toList)]
    exact (Token.Spells.quoteChars s.toList .nil).scan
  simp [Tree.read?, token, Tree.ofTokens?, Progress.step, Progress.start, Tree.text?, Json.text?,
    chars?_map_char]

end Silhouette.Json
