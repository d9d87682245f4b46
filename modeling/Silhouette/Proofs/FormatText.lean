import Silhouette.Asset.Json
import Silhouette.Proofs.JsonText

/-! The text of a format, read again. Reading a tag takes away the blanks around it first and the points in
front of it next, each once, so a blank that stands behind a leading point is left in front. Such a text is
read differently the next time; every other text of a format is read as that format. -/
namespace Silhouette

namespace Text

/-- A text with a blank in front. -/
def opensBlank (s : String) : Bool := s.toList.head?.any isBlank

/-! ## Letters -/

private theorem lower_letter : ∀ n < 26, let c := Char.ofNat (65 + n + 32)
    isBlank c = false ∧ isBlank (Char.ofNat (65 + n)) = false ∧ lowerChar c = c ∧ c ≠ '.' := by
  decide

/-- A character is a capital letter with a place in the alphabet, or stays as it is. -/
theorem lowerChar_cases (c : Char) :
    (∃ n < 26, c = Char.ofNat (65 + n) ∧ lowerChar c = Char.ofNat (65 + n + 32)) ∨
      lowerChar c = c := by
  by_cases capital : 'A' ≤ c ∧ c ≤ 'Z'
  · have low : 65 ≤ c.toNat := capital.1
    have high : c.toNat ≤ 90 := capital.2
    have place : 65 + (c.toNat - 65) = c.toNat := by omega
    refine .inl ⟨c.toNat - 65, by omega, ?_, ?_⟩
    · rw [place, Char.ofNat_toNat]
    · rw [lowerChar, if_pos capital, place]
  · exact .inr (if_neg capital)

@[simp]
theorem isBlank_lowerChar (c : Char) : isBlank (lowerChar c) = isBlank c := by
  rcases lowerChar_cases c with ⟨n, small, capital, lower⟩ | same
  · have known := lower_letter n small
    rw [lower, capital, known.1, known.2.1]
  · rw [same]

@[simp]
theorem lowerChar_lowerChar (c : Char) : lowerChar (lowerChar c) = lowerChar c := by
  rcases lowerChar_cases c with ⟨n, small, -, lower⟩ | same
  · rw [lower, (lower_letter n small).2.2.1]
  · rw [same, same]

theorem lowerChar_ne_point {c : Char} (other : c ≠ '.') : lowerChar c ≠ '.' := by
  rcases lowerChar_cases c with ⟨n, small, -, lower⟩ | same
  · rw [lower]
    exact (lower_letter n small).2.2.2
  · rwa [same]

/-- The letters and digits of ASCII, by their numbers. -/
theorem isAlphanum_iff {c : Char} : c.isAlphanum = true ↔
    (65 ≤ c.toNat ∧ c.toNat ≤ 90) ∨ (97 ≤ c.toNat ∧ c.toNat ≤ 122) ∨ (48 ≤ c.toNat ∧ c.toNat ≤ 57) := by
  change (decide ('A' ≤ c ∧ c ≤ 'Z') || (decide ('a' ≤ c) && decide (c ≤ 'z')) || c.isDigit) = true ↔ _
  simp only [Bool.or_eq_true, Bool.and_eq_true, decide_eq_true_eq, Char.isDigit_iff_toNat, or_assoc]
  exact Iff.rfl

/-! ## Trimming -/

theorem isBlank_of_getLast?_trimChars {cs : List Char} {c : Char}
    (last : (trimChars cs).getLast? = some c) : isBlank c = false := by
  rw [trimChars, List.getLast?_reverse] at last
  have first := List.head?_dropWhile_not isBlank (cs.dropWhile isBlank).reverse
  rw [last] at first
  simpa using first

theorem isBlank_of_head?_trimChars {cs : List Char} {c : Char}
    (first : (trimChars cs).head? = some c) : isBlank c = false := by
  obtain ⟨rest, letters⟩ := List.head?_eq_some_iff.mp first
  obtain ⟨dropped, whole⟩ := List.dropWhile_suffix isBlank (l := (cs.dropWhile isBlank).reverse)
  have inner : cs.dropWhile isBlank = trimChars cs ++ dropped.reverse := by
    rw [← List.reverse_inj, ← whole]
    simp [trimChars]
  have clear := List.head?_dropWhile_not isBlank cs
  rw [inner, letters] at clear
  exact clear

/-- Text without a blank at either end is trimmed already. -/
theorem trimChars_eq_self {cs : List Char} (front : ∀ c, cs.head? = some c → isBlank c = false)
    (back : ∀ c, cs.getLast? = some c → isBlank c = false) : trimChars cs = cs := by
  have stays : ∀ ds : List Char, (∀ c, ds.head? = some c → isBlank c = false) →
      ds.dropWhile isBlank = ds := by
    intro ds clear
    cases ds with
    | nil => rfl
    | cons d rest => simp [clear d rfl]
  rw [trimChars, stays cs front, stays cs.reverse, List.reverse_reverse]
  intro c last
  rw [List.head?_reverse] at last
  exact back c last

/-- One text is another one without the blanks around it. -/
structure Trimmed (s t : String) : Prop where
  around : ∃ front back, s.toList = front ++ t.toList ++ back ∧ front.all isBlank = true ∧
    back.all isBlank = true
  first : ∀ c, t.toList.head? = some c → isBlank c = false
  last : ∀ c, t.toList.getLast? = some c → isBlank c = false

theorem trim_trimmed (s : String) : Trimmed s (trim s) where
  around := by
    have inner := List.takeWhile_append_dropWhile (p := isBlank) (l := s.toList)
    have outer := List.takeWhile_append_dropWhile (p := isBlank)
      (l := (s.toList.dropWhile isBlank).reverse)
    refine ⟨s.toList.takeWhile isBlank,
      ((s.toList.dropWhile isBlank).reverse.takeWhile isBlank).reverse, ?_,
      List.all_takeWhile, ?_⟩
    · rw [trim, String.toList_ofList, trimChars, List.append_assoc, ← List.reverse_append, outer,
        List.reverse_reverse, inner]
    · rw [List.all_reverse]
      exact List.all_takeWhile
  first := by
    intro c first
    rw [trim, String.toList_ofList] at first
    exact isBlank_of_head?_trimChars first
  last := by
    intro c last
    rw [trim, String.toList_ofList] at last
    exact isBlank_of_getLast?_trimChars last

/-- Blanks at both ends do not matter to what is left when they are taken away. -/
theorem trimChars_around {front back : List Char} (cs : List Char) (frontBlank : front.all isBlank = true)
    (backBlank : back.all isBlank = true) : trimChars (front ++ cs ++ back) = trimChars cs := by
  have dropped : ∀ {blanks : List Char} (ds : List Char), blanks.all isBlank = true →
      (blanks ++ ds).dropWhile isBlank = ds.dropWhile isBlank := fun ds blank =>
    List.dropWhile_append_of_pos (List.all_eq_true.mp blank)
  have reversed : back.reverse.all isBlank = true := by rw [List.all_reverse, backBlank]
  rw [trimChars, List.append_assoc, dropped _ frontBlank, List.dropWhile_append]
  split
  · -- nothing but blanks is left in front of those at the end
    rename_i none
    rw [trimChars, List.isEmpty_iff.mp none, ← List.append_nil back, dropped _ backBlank]
    rfl
  · rw [List.reverse_append, dropped _ reversed]
    rfl

theorem Trimmed.eq_trim {s t : String} (trimmed : Trimmed s t) : t = trim s := by
  obtain ⟨front, back, letters, frontBlank, backBlank⟩ := trimmed.around
  rw [trim, letters, trimChars_around _ frontBlank backBlank, trimChars_eq_self trimmed.first trimmed.last,
    String.ofList_toList]

theorem trimChars_map_lowerChar (cs : List Char) :
    trimChars (cs.map lowerChar) = (trimChars cs).map lowerChar := by
  have same : isBlank ∘ lowerChar = isBlank := funext isBlank_lowerChar
  rw [trimChars, trimChars, List.dropWhile_map, same, ← List.map_reverse, List.dropWhile_map, same,
    List.map_reverse]

theorem length_trimChars_le (cs : List Char) : (trimChars cs).length ≤ cs.length := by
  have inner := (List.dropWhile_suffix isBlank (l := (cs.dropWhile isBlank).reverse)).length_le
  have outer := (List.dropWhile_suffix isBlank (l := cs)).length_le
  simp only [trimChars, List.length_reverse] at inner ⊢
  omega

theorem trimChars_cons_blank {c : Char} (blank : isBlank c = true) (rest : List Char) :
    trimChars (c :: rest) = trimChars rest := by
  simp [trimChars, blank]

end Text

namespace Format

/-! ## Normal tags -/

/-- What a tag looks like when it has been read: no point in front, no blank at the end and no capital
letter. A blank in front is not excluded. -/
structure IsTidy (cs : List Char) : Prop where
  front : ∀ c, cs.head? = some c → c ≠ '.'
  back : ∀ c, cs.getLast? = some c → Text.isBlank c = false
  lower : cs.map Text.lowerChar = cs

theorem tidy_normalize (tag : String) : IsTidy (normalize tag).toList := by
  rw [normalize, String.toList_ofList]
  refine ⟨?_, ?_, by simp⟩
  · intro c first
    rw [List.head?_map] at first
    obtain ⟨d, here, rfl⟩ := Option.map_eq_some_iff.mp first
    have dropped := List.head?_dropWhile_not (· == '.') (Text.trimChars tag.toList)
    rw [here] at dropped
    exact Text.lowerChar_ne_point (by simpa using dropped)
  · intro c last
    rw [List.getLast?_map] at last
    obtain ⟨d, here, rfl⟩ := Option.map_eq_some_iff.mp last
    rw [Text.isBlank_lowerChar]
    -- dropping points in front does not change what stands at the end
    obtain ⟨points, whole⟩ := List.dropWhile_suffix (· == '.') (l := Text.trimChars tag.toList)
    have final : (Text.trimChars tag.toList).getLast? = some d := by
      rw [← whole, List.getLast?_append, here]
      rfl
    exact Text.isBlank_of_getLast?_trimChars final

theorem length_normalize_le (tag : String) :
    (normalize tag).toList.length ≤ (Text.trimChars tag.toList).length := by
  rw [normalize, String.toList_ofList, List.length_map]
  exact (List.dropWhile_suffix (· == '.')).length_le

/-- A blank in front is lost when a tag is read. -/
theorem length_normalize_lt {tag : String} (blank : Text.opensBlank tag = true) :
    (normalize tag).toList.length < tag.toList.length := by
  have kept := length_normalize_le tag
  unfold Text.opensBlank at blank
  cases letters : tag.toList with
  | nil => simp [letters] at blank
  | cons c rest =>
    simp only [letters, List.head?_cons, Option.any_some] at blank
    have shorter := Text.length_trimChars_le rest
    rw [letters, Text.trimChars_cons_blank blank] at kept
    simp only [List.length_cons]
    omega

/-- What is left in front of a tag is a blank just if one stood behind leading points. -/
theorem opensBlank_normalize_iff (tag : String) :
    Text.opensBlank (normalize tag) = true ↔
      ∃ points blank rest, Text.trimChars tag.toList =
        List.replicate (points + 1) '.' ++ blank :: rest ∧ Text.isBlank blank = true := by
  have opens : Text.opensBlank (normalize tag) =
      ((Text.trimChars tag.toList).dropWhile (· == '.')).head?.any Text.isBlank := by
    rw [Text.opensBlank, normalize, String.toList_ofList, List.head?_map, Option.any_map]
    simp
  rw [opens]
  constructor
  · intro blank
    obtain ⟨c, first, isBlank⟩ := (Option.any_eq_true _ _).mp blank
    obtain ⟨rest, left⟩ := List.head?_eq_some_iff.mp first
    have whole := List.takeWhile_append_dropWhile (p := (· == '.')) (l := Text.trimChars tag.toList)
    rw [left] at whole
    have points : (Text.trimChars tag.toList).takeWhile (· == '.') =
        List.replicate ((Text.trimChars tag.toList).takeWhile (· == '.')).length '.' := by
      refine List.eq_replicate_of_mem fun d member => ?_
      simpa using List.all_eq_true.mp List.all_takeWhile d member
    cases count : ((Text.trimChars tag.toList).takeWhile (· == '.')).length with
    | zero =>
      -- trimmed text has no blank in front, so some point stands there
      rw [List.length_eq_zero_iff.mp count] at whole
      have front : (Text.trimChars tag.toList).head? = some c := by simp [← whole]
      have clear := Text.isBlank_of_head?_trimChars front
      rw [isBlank] at clear
      cases clear
    | succ points' =>
      rw [count] at points
      exact ⟨points', c, rest, by rw [← points, whole], isBlank⟩
  · rintro ⟨points, blank, rest, letters, isBlank⟩
    have other : (blank == '.') = false := by
      cases same : blank == '.' with
      | false => rfl
      | true =>
        rw [beq_iff_eq.mp same] at isBlank
        revert isBlank
        decide
    rw [letters, List.dropWhile_append_of_pos (by simp)]
    simp [other, isBlank]

/-- A tidy tag is left alone by reading just if no blank stands in front. -/
theorem normalize_eq_self_iff {tag : String} (tidy : IsTidy tag.toList) :
    normalize tag = tag ↔ Text.opensBlank tag = false := by
  constructor
  · intro same
    cases opens : Text.opensBlank tag with
    | false => rfl
    | true =>
      have shorter := length_normalize_lt opens
      rw [same] at shorter
      exact absurd shorter (Nat.lt_irrefl _)
  · intro clear
    have front : ∀ c, tag.toList.head? = some c → Text.isBlank c = false := by
      intro c first
      simpa [Text.opensBlank, first] using clear
    have points : tag.toList.dropWhile (· == '.') = tag.toList := by
      cases letters : tag.toList with
      | nil => rfl
      | cons c rest => simp [tidy.front c (by simp [letters])]
    rw [normalize, Text.trimChars_eq_self front tidy.back, points, tidy.lower, String.ofList_toList]

/-! ## Formats that were read -/

/-- A format that was read, from a tag or from the MIME type of an image. -/
inductive IsRead : Format → Prop where
  | tag (tag : String) : IsRead (parse tag)
  | mime {type : String} {f : Format} (found : ofMime? type = some f) : IsRead f

/-- The formats with names of their own. -/
def named : List Format := [png, jpeg, gif, bmp, webp, svg]

theorem IsRead.exists_tag {f : Format} (read : IsRead f) : ∃ tag, parse tag = f := by
  cases read with
  | tag tag => exact ⟨tag, rfl⟩
  | mime found =>
    obtain ⟨subtype, -, rfl⟩ := Option.map_eq_some_iff.mp found
    split
    · exact ⟨"svg", by decide⟩
    · exact ⟨_, rfl⟩

/-- A format has a name of its own, which is no longer than the tag it was found under, or is that tag. -/
theorem ofTag_cases (tag : String) :
    ofTag tag ∈ named ∧ (ofTag tag).extension.toList.length ≤ tag.toList.length ∨
      ofTag tag = .other tag := by
  unfold ofTag
  split
  · subst_vars
    exact .inl (by decide)
  split
  · rename_i jpeg
    rcases jpeg with rfl | rfl
    · exact .inl (by decide)
    · exact .inl (by decide)
  split
  · subst_vars
    exact .inl (by decide)
  split
  · subst_vars
    exact .inl (by decide)
  split
  · subst_vars
    exact .inl (by decide)
  split
  · subst_vars
    exact .inl (by decide)
  · exact .inr rfl

theorem named_read_back : ∀ f ∈ named,
    parse f.extension = f ∧ Text.opensBlank f.extension = false := by
  decide

theorem ofTag_eq_other {tag held : String} (other : ofTag tag = .other held) : held = tag := by
  rcases ofTag_cases tag with ⟨known, -⟩ | same
  · rw [other] at known
    simp [named] at known
  · rw [other] at same
    cases same
    rfl

/-- A format that was read is read again from its text just if no blank stands in front of that. -/
theorem parse_extension_eq_iff {f : Format} (read : IsRead f) :
    parse f.extension = f ↔ Text.opensBlank f.extension = false := by
  obtain ⟨tag, rfl⟩ := read.exists_tag
  rcases ofTag_cases (normalize tag) with ⟨known, -⟩ | other
  · have back := named_read_back _ known
    exact iff_of_true back.1 back.2
  · have here : parse tag = .other (normalize tag) := other
    rw [here, extension, ← normalize_eq_self_iff (tidy_normalize tag)]
    constructor
    · intro again
      exact (ofTag_eq_other again).symm
    · intro same
      rw [parse, same, other]

theorem length_extension_parse_lt {tag : String} (blank : Text.opensBlank tag = true) :
    (parse tag).extension.toList.length < tag.toList.length := by
  have shorter := length_normalize_lt blank
  rcases ofTag_cases (normalize tag) with ⟨-, bounded⟩ | other
  · exact Nat.lt_of_le_of_lt bounded shorter
  · rw [parse, other]
    exact shorter

/-- In JSON a format is read from its text, whatever that holds. -/
theorem ofJson?_json (f : Format) : ofJson? f.json = some (parse f.extension) := by
  rw [ofJson?, json, Json.text_read_quote]
  rfl

/-- One reading settles a tag just if no blank stands behind leading points in it. A format that was read comes
back from its text and from its JSON just if no blank was left in front; where one was, the next reading gives
a shorter text. -/
theorem text_is_read_back_unless_blank_opens (tag : String) {f : Format} (read : IsRead f) :
    (normalize (normalize tag) = normalize tag ↔
      ¬ ∃ points blank rest, Text.trimChars tag.toList =
        List.replicate (points + 1) '.' ++ blank :: rest ∧ Text.isBlank blank = true) ∧
    (parse f.extension = f ↔ Text.opensBlank f.extension = false) ∧
    (ofJson? f.json = some f ↔ Text.opensBlank f.extension = false) ∧
    (f.isRaster = false → parse f.extension = f) ∧
    (f.isRaster = true → (parse f.extension).isRaster = false →
      Text.opensBlank f.extension = true) ∧
    (Text.opensBlank f.extension = true →
      (parse f.extension).extension.toList.length < f.extension.toList.length) := by
  have back := parse_extension_eq_iff read
  refine ⟨?_, back, ?_, ?_, ?_, length_extension_parse_lt⟩
  · rw [normalize_eq_self_iff (tidy_normalize tag), ← opensBlank_normalize_iff, Bool.not_eq_true]
  · rw [ofJson?_json, Option.some.injEq]
    exact back
  · intro vector
    cases f with
    | svg => decide
    | _ => cases vector
  · intro raster vector
    cases opens : Text.opensBlank f.extension with
    | true => rfl
    | false =>
      rw [back.mpr opens, raster] at vector
      cases vector

/-- A blank behind a point stays, also in a MIME type, and the next reading takes it away. -/
theorem blank_behind_point_is_lost :
    IsRead (.other " png") ∧ ofJson? (Format.other " png").json ≠ some (.other " png") ∧
      (parse " png").extension.toList.length < " png".toList.length := by
  have found : ofMime? "image/. png; q=1" = some (.other " png") := by decide
  have read : IsRead (.other " png") := .mime found
  obtain ⟨-, -, json, -, -, shorter⟩ := text_is_read_back_unless_blank_opens ". png" read
  exact ⟨read, fun same => absurd (json.mp same) (by decide), shorter (by decide)⟩

/-- A format can be one of pixels when it is read and one of shapes when its text is. -/
theorem raster_tag_is_read_back_as_vector :
    ¬ ∀ f, IsRead f → parse f.extension = f ∧ (parse f.extension).isRaster = f.isRaster := by
  intro same
  have kept := (same (parse ". svg") (.tag ". svg")).2
  revert kept
  decide

end Format

end Silhouette
