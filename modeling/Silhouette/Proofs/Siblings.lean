import Silhouette.Proofs.Directories

/-! Paths of files beside each other. A path that leads to a file ends in its name, and what stands before the
name leads to the directory that holds it, also after dropping all that does not count at its end. So a path
that gets another file name keeps its parent, and leads to the same directory. -/
namespace Silhouette

namespace Path

open FileTree (IsName names parts)

variable {p q : Path} {front name : List UInt8}

/-! ## What does not count at the end -/

theorem trimEnd_suffix (bytes : List UInt8) : trimEnd bytes <:+ bytes := by
  fun_induction trimEnd bytes with
  | case1 => exact List.suffix_refl _
  | case2 rest ih => exact ih.trans (List.suffix_cons _ _)
  | case3 => exact List.nil_suffix
  | case4 rest point ih => exact ih.trans ((List.suffix_cons _ _).trans (List.suffix_cons _ _))
  | case5 | case6 => exact List.suffix_refl _

theorem trimEnd_trimEnd (bytes : List UInt8) : trimEnd (trimEnd bytes) = trimEnd bytes := by
  fun_induction trimEnd bytes with
  | case1 | case3 => rfl
  | case2 rest ih | case4 rest point ih => exact ih
  | case5 c rest whole notFirst => rw [trimEnd, if_neg (by decide), if_pos rfl, if_neg whole]
  | case6 b rest whole other => rw [trimEnd.eq_def]; simp only [if_neg whole, if_neg other]

theorem trimEnd_separator (bytes : List UInt8) : trimEnd (separator :: bytes) = trimEnd bytes := by
  rw [trimEnd.eq_def]
  simp only [if_true]

/-- Nothing is dropped behind a name. -/
theorem trimEnd_name (named : IsName name) (before : List UInt8) :
    trimEnd (name.reverse ++ before) = name.reverse ++ before := by
  have whole : separator ∉ name.reverse := by simpa using named.whole
  have noPoint : name.reverse ≠ [point] := by
    intro alone
    exact named.noStep (.inl (by simpa using alone))
  cases ends : name.reverse with
  | nil => exact absurd (List.reverse_eq_nil_iff.mp ends) named.given
  | cons b rest =>
    rw [ends] at whole noPoint
    simp only [List.mem_cons, not_or] at whole
    rw [List.cons_append, trimEnd.eq_def]
    simp only [if_neg (Ne.symm whole.1)]
    split
    · rename_i isPoint
      cases rest with
      | nil => exact absurd (by rw [isPoint]) noPoint
      | cons c more =>
        simp only [List.mem_cons, not_or] at whole
        simp only [List.cons_append, if_neg (Ne.symm whole.2.1)]
    · rfl

theorem letter_of_name (named : IsName name) : ∀ b ∈ name.reverse, (b != separator) = true := by
  intro b member
  have inName := List.mem_reverse.mp member
  simpa using fun same : b = separator => named.whole (same ▸ inName)

/-! ## What stands before the names -/

theorem startsHere_name (named : IsName name) : startsHere name = false := by
  cases letters : name with
  | nil => rfl
  | cons b rest =>
    rw [startsHere_cons, Bool.and_eq_false_imp]
    intro isPoint
    have point : b = point := by simpa using isPoint
    cases rest with
    | nil => exact absurd (.inl (by rw [letters, point])) named.noStep
    | cons c more =>
      have whole := named.whole
      simp only [letters, List.mem_cons, not_or] at whole
      simpa using Ne.symm whole.2.1

theorem lead_le (p : Path) : p.lead ≤ p.bytes.length := by
  unfold lead
  cases letters : p.bytes with
  | nil => simp [isAbsolute, letters, startsHere]
  | cons b rest => split <;> simp

/-- What stands before the names stays when a path goes on, unless that gives a single point a longer name. -/
theorem lead_append (given : p.bytes ≠ []) {back : List UInt8}
    (apart : p.bytes = [point] → back.head?.all (· == separator)) :
    lead ⟨p.bytes ++ back⟩ = p.lead := by
  have starts : startsHere (p.bytes ++ back) = startsHere p.bytes := by
    rcases letters : p.bytes with _ | ⟨b, _ | ⟨c, rest⟩⟩
    · exact absurd letters given
    · rw [List.singleton_append, startsHere_cons, startsHere_cons]
      by_cases here : b = point
      · rw [apart (by rw [letters, here])]
        rfl
      · simp [here]
    · simp only [List.cons_append, startsHere_cons, List.head?_cons]
  have absolute : (⟨p.bytes ++ back⟩ : Path).isAbsolute = p.isAbsolute := by
    unfold isAbsolute
    rw [List.head?_append_of_ne_nil _ given]
  unfold lead
  rw [starts, absolute]

/-- What stands before the names is nothing, the root, or a single point that no name goes on from. -/
theorem lead_cases (p : Path) : p.bytes.take p.lead = [] ∨ p.bytes.take p.lead = [separator] ∨
    p.bytes.take p.lead = [point] ∧
      (p.bytes.drop p.lead = [] ∨ (p.bytes.drop p.lead).head? = some separator) := by
  unfold lead
  split
  · rename_i counts
    rcases letters : p.bytes with _ | ⟨b, rest⟩
    · exact .inl rfl
    · refine .inr ?_
      rcases Bool.or_eq_true_iff.mp counts with absolute | here
      · simp [isAbsolute, letters] at absolute
        exact .inl (by simp [absolute])
      · rw [letters, startsHere_cons] at here
        simp only [Bool.and_eq_true, beq_iff_eq] at here
        refine .inr ⟨by simp [here.1], ?_⟩
        cases rest with
        | nil => exact .inl rfl
        | cons c more => exact .inr (by simpa using here.2)
  · exact .inl rfl

/-- A path without what does not count at its end. -/
def trimmed (p : Path) : Path := ⟨p.bytes.take p.lead ++ p.namesReversed.reverse⟩

theorem length_take_lead (p : Path) : (p.bytes.take p.lead).length = p.lead := by
  rw [List.length_take, Nat.min_eq_left p.lead_le]

/-- What does not count at the end comes behind what stands before the names. -/
theorem trimmed_prefix (p : Path) : p.trimmed.bytes <+: p.bytes := by
  have kept : p.namesReversed.reverse <+: p.bytes.drop p.lead := by
    have ends := List.reverse_prefix.mpr (trimEnd_suffix (p.bytes.drop p.lead).reverse)
    rwa [List.reverse_reverse] at ends
  have whole := List.take_append_drop p.lead p.bytes
  obtain ⟨rest, ends⟩ := kept
  exact ⟨rest, by rw [trimmed, List.append_assoc, ends, whole]⟩

/-- Dropping what does not count leaves what stands before the names as it is. -/
theorem trimmed_lead (p : Path) : p.trimmed.lead = p.lead := by
  obtain ⟨rest, whole⟩ := p.trimmed_prefix
  by_cases none : p.trimmed.bytes = []
  · have noLead : p.bytes.take p.lead = [] := (List.append_eq_nil_iff.mp none).1
    rw [← p.length_take_lead, noLead]
    simp [lead, isAbsolute, none, startsHere]
  · have same : lead ⟨p.trimmed.bytes ++ rest⟩ = p.lead := by rw [whole]
    rw [← same]
    refine (lead_append none fun alone => ?_).symm
    -- a point that is left alone is what stands before the names, since the names do not end in one
    rcases p.lead_cases with noLead | absolute | ⟨here, apart⟩
    · have point_left : p.namesReversed = [point] := by simpa [trimmed, noLead] using alone
      have kept := trimEnd_trimEnd (p.bytes.drop p.lead).reverse
      rw [← namesReversed, point_left] at kept
      cases kept
    · simp [trimmed, absolute, separator, point] at alone
    · have behind : p.bytes.drop p.lead = rest := by
        rw [alone, ← here] at whole
        exact List.append_cancel_left ((List.take_append_drop _ _).trans whole.symm)
      rw [behind] at apart
      rcases apart with ended | slash
      · simp [ended]
      · simp [slash]

theorem namesReversed_trimmed (p : Path) : p.trimmed.namesReversed = p.namesReversed := by
  have behind : p.trimmed.bytes.drop p.lead = p.namesReversed.reverse :=
    List.drop_left' p.length_take_lead
  rw [namesReversed, trimmed_lead, behind, List.reverse_reverse, namesReversed, trimEnd_trimEnd]

theorem trimmed_trimmed (p : Path) : p.trimmed.trimmed = p.trimmed := by
  have front : p.trimmed.bytes.take p.lead = p.bytes.take p.lead :=
    List.take_left' p.length_take_lead
  rw [trimmed, trimmed_lead, namesReversed_trimmed, front, trimmed]

/-- A separator at the end does not count, unless it is the root. -/
theorem trimmed_closed (given : p.bytes ≠ []) : trimmed ⟨p.bytes ++ [separator]⟩ = p.trimmed := by
  have same : lead ⟨p.bytes ++ [separator]⟩ = p.lead := lead_append given fun _ => rfl
  have behind : namesReversed ⟨p.bytes ++ [separator]⟩ = p.namesReversed := by
    rw [namesReversed, same, List.drop_append_of_le_length p.lead_le, List.reverse_append,
      List.reverse_singleton, List.singleton_append, trimEnd_separator, namesReversed]
  rw [trimmed, trimmed, behind, same, List.take_append_of_le_length p.lead_le]

/-! ## Names at the end -/

/-- A path that ends in a name, with nothing or a separator before it. -/
structure EndsIn (p : Path) (front name : List UInt8) : Prop where
  bytes : p.bytes = front ++ name
  named : IsName name
  cut : front = [] ∨ front.getLast? = some separator

/-- A name below a path comes behind the path or behind the separator that is put between them. -/
theorem join_endsIn (named : IsName name) (q : Path) : ∃ front, (q.join ⟨name⟩).EndsIn front name ∧
    (front = q.bytes ∨ q.bytes ≠ [] ∧ front = q.bytes ++ [separator]) := by
  unfold join
  rw [if_neg (by simp [named.relative])]
  split
  · rename_i bare
    exact ⟨q.bytes, ⟨rfl, named, bare⟩, .inl rfl⟩
  · rename_i inside
    rw [not_or] at inside
    refine ⟨q.bytes ++ [separator], ⟨by simp, named, .inr (by simp)⟩, .inr ⟨inside.1, rfl⟩⟩

namespace EndsIn

theorem lead_eq (ends : p.EndsIn front name) : p.lead = lead ⟨front⟩ := by
  by_cases none : front = []
  · have alone : p = ⟨name⟩ := congrArg Path.mk (by rw [ends.bytes, none, List.nil_append])
    rw [alone, none, lead, lead, startsHere_name ends.named, ends.named.relative]
    rfl
  · have whole : p = ⟨front ++ name⟩ := congrArg Path.mk ends.bytes
    rw [whole]
    refine lead_append (p := ⟨front⟩) none fun alone => ?_
    rw [show front = [point] from alone] at ends
    exact absurd ends.cut (by decide)

/-- What stands before the name ends in a separator, as far as it is there. -/
theorem before (ends : p.EndsIn front name) (n : Nat) :
    (front.drop n).reverse = [] ∨ ∃ rest, (front.drop n).reverse = separator :: rest := by
  rcases ends.cut with none | closed
  · exact .inl (by simp [none])
  · obtain ⟨rest, whole⟩ := List.getLast?_eq_some_iff.mp closed
    rw [whole]
    by_cases inside : n ≤ rest.length
    · rw [List.drop_append_of_le_length inside, List.reverse_append]
      exact .inr ⟨_, rfl⟩
    · refine .inl ?_
      rw [List.drop_eq_nil_of_le (by simp; omega), List.reverse_nil]

theorem namesReversed_eq (ends : p.EndsIn front name) :
    p.namesReversed = name.reverse ++ (front.drop p.lead).reverse := by
  have inside : p.lead ≤ front.length := by
    rw [ends.lead_eq]
    exact lead_le ⟨front⟩
  rw [namesReversed, ends.bytes, List.drop_append_of_le_length inside, List.reverse_append,
    trimEnd_name ends.named]

theorem fileName?_eq (ends : p.EndsIn front name) : p.fileName? = some name := by
  have last : p.lastName = name := by
    rw [lastName, ends.namesReversed_eq, List.takeWhile_append_of_pos (letter_of_name ends.named)]
    rcases ends.before p.lead with none | ⟨rest, slash⟩
    · simp [none]
    · simp [slash]
  rw [fileName?, last, if_neg]
  rintro (none | up)
  · exact ends.named.given none
  · exact ends.named.noStep (.inr up)

/-- The parent of a path is what stands before its name, without what does not count at the end. -/
theorem parent?_eq (ends : p.EndsIn front name) : p.parent? = some (trimmed ⟨front⟩) := by
  have before : trimEnd (((p.namesReversed.dropWhile (· != separator)).drop 1)) =
      namesReversed ⟨front⟩ := by
    rw [ends.namesReversed_eq, List.dropWhile_append_of_pos (letter_of_name ends.named),
      namesReversed, ends.lead_eq]
    rcases ends.before (lead ⟨front⟩) with none | ⟨rest, slash⟩
    · rw [none]
      rfl
    · rw [slash, trimEnd_separator]
      simp
  have given : p.namesReversed ≠ [] := by
    rw [ends.namesReversed_eq]
    simp [ends.named.given]
  have size : p.parentSize? = some (trimmed ⟨front⟩).bytes.length := by
    rw [parentSize?, if_neg given]
    simp only [before]
    rw [trimmed, List.length_append, length_take_lead, List.length_reverse, ends.lead_eq]
  have begins := trimmed_prefix ⟨front⟩
  have shorter : (trimmed ⟨front⟩).bytes.length < p.bytes.length := by
    have most := begins.length_le
    have more := List.length_pos_iff.mpr ends.named.given
    rw [ends.bytes, List.length_append]
    exact Nat.lt_of_le_of_lt most (Nat.lt_add_of_pos_right more)
  have inside : (trimmed ⟨front⟩).bytes <+: p.bytes := by
    rw [ends.bytes]
    exact begins.trans (List.prefix_append _ _)
  rw [parent?, size]
  simp only [if_pos shorter]
  rw [← List.prefix_iff_eq_take.mp inside]

/-- With another name a path keeps its parent. -/
theorem withFileName_eq (ends : p.EndsIn front name) (other : List UInt8) :
    p.withFileName other = (trimmed ⟨front⟩).join ⟨other⟩ := by
  unfold withFileName
  rw [ends.fileName?_eq, ends.parent?_eq]
  rfl

theorem parent?_withFileName (ends : p.EndsIn front name) {other : List UInt8} (named : IsName other) :
    (p.withFileName other).parent? = p.parent? ∧ (p.withFileName other).fileName? = some other := by
  rw [ends.withFileName_eq]
  obtain ⟨front', ends', begins⟩ := join_endsIn named (trimmed ⟨front⟩)
  refine ⟨?_, ends'.fileName?_eq⟩
  rw [ends'.parent?_eq, ends.parent?_eq]
  rcases begins with rfl | ⟨given, rfl⟩
  · rw [trimmed_trimmed]
  · rw [trimmed_closed given, trimmed_trimmed]

end EndsIn

end Path

namespace FileTree

variable {t : FileTree} {p : Path} {place here : Place}

/-! ## The directory of a path -/

theorem names_of_closed (front : List UInt8) : names ⟨front ++ [Path.separator]⟩ = names ⟨front⟩ := by
  rw [names, names, parts_append_separator]
  simp [parts]

theorem names_append {front name : List UInt8} (given : name ≠ []) (whole : Path.separator ∉ name)
    (cut : front = [] ∨ front.getLast? = some Path.separator) :
    names ⟨front ++ name⟩ = names ⟨front⟩ ++ [name] := by
  rcases cut with rfl | closed
  · simp [names, parts_of_whole whole, given, parts]
  · obtain ⟨rest, rfl⟩ := List.getLast?_eq_some_iff.mp closed
    rw [names_of_closed, names, List.append_assoc, List.singleton_append, parts_append_separator,
      parts_of_whole whole]
    simp [names, given]

/-- Every path ends in letters that no separator stands in, behind nothing or a separator. -/
theorem exists_last_name (bytes : List UInt8) : ∃ front name, bytes = front ++ name ∧
    Path.separator ∉ name ∧ (front = [] ∨ front.getLast? = some Path.separator) := by
  induction bytes with
  | nil => exact ⟨[], [], rfl, List.not_mem_nil, .inl rfl⟩
  | cons b rest ih =>
    obtain ⟨front, name, rfl, whole, cut⟩ := ih
    by_cases slash : b = Path.separator
    · refine ⟨b :: front, name, rfl, whole, .inr ?_⟩
      rcases cut with rfl | closed
      · rw [slash, List.getLast?_singleton]
      · rw [List.getLast?_cons, closed]
        rfl
    · rcases cut with rfl | closed
      · refine ⟨[], b :: name, rfl, ?_, .inl rfl⟩
        rw [List.mem_cons, not_or]
        exact ⟨Ne.symm slash, whole⟩
      · refine ⟨b :: front, name, rfl, whole, .inr ?_⟩
        rw [List.getLast?_cons, closed]
        rfl

/-- A single point at the end of a path steps nowhere. -/
theorem follow_pointed (t : FileTree) (here : Place) (front : List UInt8) :
    t.follow here (names ⟨front ++ [Path.separator, Path.point]⟩) =
      t.follow here (names ⟨front⟩) := by
  have last : names ⟨front ++ [Path.separator, Path.point]⟩ = names ⟨front⟩ ++ [[Path.point]] := by
    rw [names, parts_append_separator]
    simp [parts, names, Path.point, Path.separator]
  rw [last, follow_append]
  cases t.follow here (names ⟨front⟩) with
  | error e => rfl
  | ok place => simp [Except.bind, follow]

/-- That the end of a path begins a part of it stays so when less of it is left. -/
private theorem apart_tail {front : List UInt8} (dropped rest : List UInt8)
    (apart : front = [] ∨ front = [Path.separator] ∨ dropped ++ rest = [] ∨
      (dropped ++ rest).getLast? = some Path.separator) :
    front = [] ∨ front = [Path.separator] ∨ rest = [] ∨ rest.getLast? = some Path.separator := by
  refine apart.imp_right (Or.imp_right fun ends => ?_)
  by_cases none : rest = []
  · exact .inl none
  · refine .inr (ends.resolve_left (by simp [none]) ▸ ?_)
    rw [List.getLast?_append_of_ne_nil _ none]

/-- What does not count at the end of names steps nowhere, if they begin a part of the path. -/
theorem follow_trimEnd (t : FileTree) (here : Place) (front bytes : List UInt8)
    (apart : front = [] ∨ front = [Path.separator] ∨ bytes = [] ∨
      bytes.getLast? = some Path.separator) :
    t.follow here (names ⟨front ++ (Path.trimEnd bytes).reverse⟩) =
      t.follow here (names ⟨front ++ bytes.reverse⟩) := by
  fun_induction Path.trimEnd bytes with
  | case1 => rfl
  | case2 rest ih =>
    rw [ih (apart_tail [Path.separator] rest apart), List.reverse_cons, ← List.append_assoc,
      names_of_closed]
  | case3 =>
    rcases apart with rfl | rfl | none | slash
    · rfl
    · rfl
    · cases none
    · exact absurd slash (by decide)
  | case4 rest _ ih =>
    rw [ih (apart_tail [Path.point, Path.separator] rest apart), List.reverse_cons, List.reverse_cons,
      List.append_assoc, ← List.append_assoc]
    exact (follow_pointed t here _).symm
  | case5 | case6 => rfl

/-- A path leads to the same directory without what does not count at its end. -/
theorem follow_trimmed (t : FileTree) (here : Place) (p : Path) :
    t.follow here (names p.trimmed) = t.follow here (names p) := by
  have whole := List.take_append_drop p.lead p.bytes
  have trimmed := follow_trimEnd t here (p.bytes.take p.lead) (p.bytes.drop p.lead).reverse (by
    rcases p.lead_cases with none | root | ⟨-, ended | slash⟩
    · exact .inl none
    · exact .inr (.inl root)
    · exact .inr (.inr (.inl (by rw [ended, List.reverse_nil])))
    · exact .inr (.inr (.inr (by rw [List.getLast?_reverse, slash]))))
  rw [List.reverse_reverse, whole] at trimmed
  exact trimmed

/-- A path that leads to a place and ends there does so with the name of what stands at the place. -/
theorem Leads.endsIn (leads : t.Leads p (.name place false)) : ∃ front name here,
    p.EndsIn front name ∧ t.follow [] (names ⟨front⟩) = .ok here ∧ place = here ++ [name] := by
  generalize unclosed : false = closed at leads
  cases leads with
  | @name last here found named above short =>
    have ends : p.bytes.getLast? ≠ some Path.separator := by simpa using unclosed
    obtain ⟨front, name, bytes, whole, cut⟩ := exists_last_name p.bytes
    have same : p = ⟨front ++ name⟩ := congrArg Path.mk bytes
    have given : name ≠ [] := by
      rintro rfl
      rw [bytes, List.append_nil] at ends
      rw [same, List.append_nil, cut.resolve_right ends] at found
      cases found
    rw [same, names_append given whole cut, List.getLast?_concat] at found
    rw [same, names_append given whole cut, List.dropLast_concat] at above
    cases found
    exact ⟨front, last, here, ⟨bytes, ⟨given, whole, named⟩, cut⟩, above, rfl⟩

/-- With another name a path leads to what stands under that name in the same directory. -/
theorem Leads.sibling (leads : t.Leads p (.name place false)) : ∃ here name,
    IsName name ∧ p.fileName? = some name ∧ place = here ++ [name] ∧
    ∀ other, IsName other →
      (p.withFileName other).parent? = p.parent? ∧ (p.withFileName other).fileName? = some other ∧
      ∀ beside closed, t.resolve (p.withFileName other) = .ok (.name beside closed) →
        beside = here ++ [other] := by
  obtain ⟨front, name, here, ends, follows, rfl⟩ := leads.endsIn
  refine ⟨here, name, ends.named, ends.fileName?_eq, rfl, fun other named => ?_⟩
  obtain ⟨parent, fileName⟩ := ends.parent?_withFileName named
  refine ⟨parent, fileName, fun beside closed leads' => ?_⟩
  rw [ends.withFileName_eq] at leads'
  obtain ⟨here', follows', rfl⟩ := place_of_join named leads'
  rw [follow_trimmed, follows] at follows'
  cases follows'
  rfl

end FileTree

end Silhouette
