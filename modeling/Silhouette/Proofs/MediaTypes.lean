import Silhouette.Http.Mime
import Silhouette.Proofs.FormatText

/-! The text of a media type. Whatever was read as one, its text holds no control character, so it stays within
the line it is written in. -/
namespace Silhouette.Http.Mime

variable {c : Char} {cs rest content : List Char}

theorem isQuotedChar_iff : isQuotedChar c = true ↔ 31 < c.toNat ∧ c.toNat ≠ 127 := by
  simp [isQuotedChar]

theorem isQuotedChar_of_isTokenChar (token : isTokenChar c = true) : isQuotedChar c = true := by
  rw [isTokenChar, Bool.or_eq_true] at token
  rcases token with letter | mark
  · rw [Text.isAlphanum_iff] at letter
    rw [isQuotedChar_iff]
    omega
  · have marks : "!#$%&\x27*+-.^_\x60|~".toList.all isQuotedChar = true := by decide
    exact List.all_eq_true.mp marks c (List.contains_iff_mem.mp mark)

theorem isQuotedChar_lowerChar (visible : isQuotedChar c = true) : isQuotedChar (Text.lowerChar c) = true := by
  rcases Text.lowerChar_cases c with ⟨n, small, -, lower⟩ | same
  · rw [lower]
    exact (by decide : ∀ n < 26, isQuotedChar (Char.ofNat (65 + n + 32)) = true) n small
  · rwa [same]

/-- Characters that may be written in one line. -/
def Visible (cs : List Char) : Prop := ∀ c ∈ cs, isQuotedChar c = true

namespace Visible

theorem nil : Visible [] := List.forall_mem_nil _

theorem cons (first : isQuotedChar c = true) (more : Visible cs) : Visible (c :: cs) :=
  List.forall_mem_cons.mpr ⟨first, more⟩

theorem append (front : Visible cs) (back : Visible rest) : Visible (cs ++ rest) :=
  List.forall_mem_append.mpr ⟨front, back⟩

theorem lower (visible : Visible cs) : Visible (cs.map Text.lowerChar) :=
  List.forall_mem_map.mpr fun c member => isQuotedChar_lowerChar (visible c member)

theorem token (cs : List Char) : Visible (Mime.token cs).1 := fun c member =>
  isQuotedChar_of_isTokenChar (List.all_eq_true.mp List.all_takeWhile c member)

theorem blanks (cs : List Char) : Visible (cs.takeWhile (· == ' ')) := by
  intro c member
  have blank : c = ' ' := beq_iff_eq.mp (List.all_eq_true.mp List.all_takeWhile c member)
  rw [blank]
  decide

end Visible

theorem quoted?_visible (read : quoted? cs = some (content, rest)) : Visible content := by
  cases cs with
  | nil => cases read
  | cons first cs =>
    simp only [quoted?] at read
    split at read
    · cases read
    · split at read
      · rename_i all
        cases read
        exact List.all_eq_true.mp all
      · cases read

theorem value?_visible {value : Value} (read : value? cs = some value) : Visible value.written := by
  unfold value? at read
  split at read
  · split at read
    · cases read
    · rename_i found
      cases read
      exact .append (.cons (by decide) (quoted?_visible found)) (.cons (by decide) (.blanks _))
  · have token := Visible.token cs
    split at read
    · cases read
      exact .nil
    · cases read
    · rename_i found
      cases read
      rw [found] at token
      exact token

theorem cons_visible {name ending : List Char} {value : Value} {more : Params} (named : Visible name)
    (valued : Visible value.written) (ended : Visible ending) (others : Visible more.text) :
    Visible (Params.cons name value ending more).text := by
  have written : Visible (if name.map Text.lowerChar = "charset".toList
      then value.written.map Text.lowerChar else value.written) := by
    split
    · exact valued.lower
    · exact valued
  exact .append (.append (.append named.lower (.cons (by decide) written)) ended) others

theorem params?_visible {fuel : Nat} {ps : Params} (read : params? fuel cs = some ps) : Visible ps.text := by
  induction fuel generalizing cs ps with
  | zero =>
    rw [params?] at read
    split at read
    · cases read
      exact .nil
    · cases read
  | succ fuel ih =>
    rw [params?] at read
    split at read
    · cases read
      exact .blanks cs
    · have token := Visible.token (cs.dropWhile (· == ' '))
      split at read
      · cases read
      · rename_i name rest _ named
        rw [named] at token
        split at read
        · cases read
        · rename_i value found
          obtain ⟨held, source, rfl⟩ := Option.map_eq_some_iff.mp read
          refine .append (.blanks cs) ?_
          have valued := value?_visible found
          split at source
          · cases source
            exact cons_visible token valued .nil .nil
          · obtain ⟨more, others, rfl⟩ := Option.map_eq_some_iff.mp source
            exact cons_visible token valued (.cons (by decide) .nil) (ih others)
          · cases source
      · cases read

/-- No control character stands in the text of a media type that was read. -/
theorem text_visible {s : String} {m : Mime} (read : parse? s = some m) : Visible m.text := by
  unfold parse? at read
  have token := Visible.token s.toList
  split at read
  · cases read
  · rename_i top rest _ topped
    rw [topped] at token
    have subtype := Visible.token rest
    split at read
    · rename_i sub subbed
      cases read
      rw [subbed] at subtype
      exact .append token.lower (.cons (by decide) subtype.lower)
    · cases read
    · rename_i sub more _ subbed
      obtain ⟨ps, params, rfl⟩ := Option.map_eq_some_iff.mp read
      rw [subbed] at subtype
      exact .append (.append token.lower (.cons (by decide) subtype.lower))
        (.cons (by decide) (params?_visible params))
    · cases read
  · cases read

end Silhouette.Http.Mime
