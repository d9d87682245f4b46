import Silhouette.Proofs.Files

/-! Directories that are made and entered. A path that can be handed to the system leads to a directory just if
all of its names can be followed. Creating the directories of a path ends well only if they can be followed
afterwards, and only if before that they could be followed too or something was missing on the way. -/
namespace Silhouette

namespace Path

/-- A path that starts with a single point starts with it alone. -/
theorem startsHere_cons (b : UInt8) (rest : List UInt8) :
    startsHere (b :: rest) = (b == point && rest.head?.all (· == separator)) := by
  unfold startsHere
  split
  · simp_all [point]
  · simp_all [point, separator]
  · rename_i alone followed
    cases rest with
    | nil => simpa [point] using alone
    | cons c more =>
      by_cases first : b = 46
      · have second : c ≠ 47 := fun same => followed more (by rw [first, same])
        simp [separator, second]
      · simp [point, first]

theorem suffix_join (p q : Path) : q.bytes <:+ (p.join q).bytes := by
  unfold join
  split
  · exact List.suffix_refl _
  · split
    · exact List.suffix_append _ _
    · exact ⟨p.bytes ++ [separator], by simp⟩

/-- What stands in a path that was joined stands in one of the two, or is the separator between them. -/
theorem mem_join {p q : Path} {b : UInt8} (member : b ∈ (p.join q).bytes) :
    b ∈ p.bytes ∨ b = separator ∨ b ∈ q.bytes := by
  unfold join at member
  split at member
  · exact .inr (.inr member)
  · split at member
    · exact (List.mem_append.mp member).imp_right .inr
    · exact (List.mem_append.mp member).imp_right List.mem_cons.mp

theorem length_join_le (p q : Path) :
    (p.join q).bytes.length ≤ p.bytes.length + 1 + q.bytes.length := by
  unfold join
  split
  · omega
  · split <;> simp only [List.length_append, List.length_cons] <;> omega

end Path

namespace FileTree

variable {t u : FileTree} {p dir : Path} {place here : Place} {name : List UInt8}
  {front back : List (List UInt8)}

/-! ## Following names -/

theorem follow_append (t : FileTree) (here : Place) (front back : List (List UInt8)) :
    t.follow here (front ++ back) = (t.follow here front).bind fun place => t.follow place back := by
  induction front generalizing here with
  | nil => rfl
  | cons name rest ih =>
    simp only [List.cons_append, follow]
    split
    · exact ih here
    split
    · exact ih here.dropLast
    split
    · rfl
    split
    · exact ih _
    · rfl
    · rfl

/-- A name that is no step leads to what stands under it, which must be a directory. -/
theorem follow_name (named : ¬ (name = [Path.point] ∨ name = [Path.point, Path.point]))
    (short : name.length ≤ 255) : t.follow here [name] =
      match t.entry? (here ++ [name]) with
      | some .directory => .ok (here ++ [name])
      | some (.file _) => .error .notDirectory
      | none => .error .notFound := by
  simp only [not_or] at named
  have fits := Nat.not_lt.mpr short
  cases there : t.entry? (here ++ [name]) with
  | none => simp [follow, named.1, named.2, fits, there]
  | some entry => cases entry <;> simp [follow, named.1, named.2, fits, there]

theorem names_eq_of_getLast? (last : (names p).getLast? = some name) :
    names p = (names p).dropLast ++ [name] := by
  obtain ⟨front, whole⟩ := List.getLast?_eq_some_iff.mp last
  rw [whole, List.dropLast_concat]

/-- Where the last name of a path stands is where all of its names lead, if a directory stands there. -/
theorem follow_of_directory (last : (names p).getLast? = some name)
    (named : ¬ (name = [Path.point] ∨ name = [Path.point, Path.point]))
    (above : t.follow [] (names p).dropLast = .ok here) (short : name.length ≤ 255)
    (there : t.entry? (here ++ [name]) = some .directory) :
    t.follow [] (names p) = .ok (here ++ [name]) := by
  rw [names_eq_of_getLast? last, follow_append, above]
  simp only [Except.bind]
  rw [follow_name named short, there]

theorem isDirectory_iff : t.isDirectory p = true ↔
    IsUsable p ∧ ∃ place, t.follow [] (names p) = .ok place := by
  unfold isDirectory
  constructor
  · intro yes
    cases led : t.resolve p with
    | error e => simp [led] at yes
    | ok spot =>
      obtain ⟨usable, leads⟩ := resolve_eq_ok.mp led
      refine ⟨usable, ?_⟩
      cases leads with
      | root none => exact ⟨[], by rw [List.getLast?_eq_none_iff.mp none]; rfl⟩
      | step last steps stepped => exact ⟨_, stepped⟩
      | name last named above short =>
        simp only [led, decide_eq_true_eq] at yes
        exact ⟨_, follow_of_directory last named above short yes⟩
  · rintro ⟨usable, place, follows⟩
    cases last : (names p).getLast? with
    | none => rw [resolve_eq_ok.mpr ⟨usable, .root last⟩]
    | some name =>
      by_cases steps : name = [Path.point] ∨ name = [Path.point, Path.point]
      · rw [resolve_eq_ok.mpr ⟨usable, .step last steps follows⟩]
      · -- the last name was followed, so it is short and a directory stands under it
        rw [names_eq_of_getLast? last, follow_append] at follows
        cases above : t.follow [] (names p).dropLast with
        | error e => simp [above, Except.bind] at follows
        | ok here =>
          simp only [above, Except.bind] at follows
          have short : name.length ≤ 255 := by
            simp only [not_or] at steps
            simp only [follow, if_neg steps.1, if_neg steps.2] at follows
            by_contra long
            simp [if_pos (Nat.lt_of_not_le long)] at follows
          rw [follow_name steps short] at follows
          rw [resolve_eq_ok.mpr ⟨usable, .name last steps above short⟩]
          split at follows
          · rename_i there
            simp [there]
          · cases follows
          · cases follows

/-- A path that does not resolve because something is missing cannot be followed for the same reason. -/
theorem follow_of_resolve_notFound (given : p.bytes ≠ []) (missing : t.resolve p = .error .notFound) :
    t.follow [] (names p) = .error .notFound := by
  unfold resolve at missing
  split at missing
  · cases missing
  split at missing
  · cases missing
  dsimp only at missing
  split at missing
  · cases missing
  · rename_i name last
    split at missing
    · cases follows : t.follow [] (names p) with
      | error e =>
        rw [follows] at missing
        cases missing
        rfl
      | ok place =>
        rw [follows] at missing
        cases missing
    · cases above : t.follow [] (names p).dropLast with
      | error e =>
        rw [above] at missing
        cases missing
        rw [names_eq_of_getLast? last, follow_append, above]
        rfl
      | ok place =>
        rw [above] at missing
        simp only at missing
        split at missing
        · cases missing
        · cases missing

/-! ## Creating directories -/

/-- What stands where a directory is created: nothing before, a directory after. -/
theorem createDirectory_eq_ok (created : t.createDirectory p = .ok u) :
    IsUsable p ∧ t.follow [] (names p) = .error .notFound ∧ ∃ place, u.follow [] (names p) = .ok place := by
  have kept := (createDirectory_prepared created).directories
  unfold createDirectory at created
  split at created
  · cases created
  · cases created
  · rename_i place closed led
    split at created
    · cases created
    · rename_i free
      cases created
      obtain ⟨usable, leads⟩ := resolve_eq_ok.mp led
      have below := leads.below
      cases leads with
      | name last named above short =>
        refine ⟨usable, ?_, _, follow_of_directory last named (kept.follow above) short ?_⟩
        · rw [names_eq_of_getLast? last, follow_append, above]
          simp only [Except.bind]
          rw [follow_name named short, free]
        · rw [entryOf_put below, if_pos rfl]

theorem createDirectory_eq_notFound (given : p.bytes ≠ [])
    (missing : t.createDirectory p = .error .notFound) : t.follow [] (names p) = .error .notFound := by
  unfold createDirectory at missing
  split at missing
  · rename_i e led
    cases missing
    exact follow_of_resolve_notFound given led
  · cases missing
  · split at missing <;> cases missing

theorem ensureDirectory_eq_ok (ensured : (t.ensureDirectory p).1 = .ok ()) :
    IsUsable p ∧ ∃ place, (t.ensureDirectory p).2.follow [] (names p) = .ok place := by
  unfold ensureDirectory at ensured ⊢
  split at ensured
  · rename_i u created
    obtain ⟨usable, -, there⟩ := createDirectory_eq_ok created
    exact ⟨usable, there⟩
  · rename_i e refused
    split at ensured
    · rename_i isThere
      rw [if_pos isThere]
      exact isDirectory_iff.mp isThere
    · cases ensured

/-- A path whose directories were created leads to a directory. -/
theorem createDirectories_eq_ok (made : (t.createDirectories p).1 = .ok ()) :
    (p.bytes = [] ∨ IsUsable p) ∧
      ∃ place, (t.createDirectories p).2.follow [] (names p) = .ok place := by
  fun_induction createDirectories t p with
  | case1 p none => exact ⟨.inl none, [], by simp [names, none, parts, follow]⟩
  | case2 p given u created =>
    obtain ⟨usable, -, there⟩ := createDirectory_eq_ok created
    exact ⟨.inr usable, there⟩
  | case3 => cases made
  | case4 => cases made
  | case5 p given above isAbove u missing parent ih =>
    obtain ⟨usable, there⟩ := ensureDirectory_eq_ok made
    exact ⟨.inr usable, there⟩
  | case6 p given e refused other isThere =>
    obtain ⟨usable, there⟩ := isDirectory_iff.mp isThere
    exact ⟨.inr usable, there⟩
  | case7 => cases made

/-- Creating directories does not end well where a file stands in the way or a name is too long. -/
theorem follow_before_createDirectories (made : (t.createDirectories p).1 = .ok ()) :
    (∃ place, t.follow [] (names p) = .ok place) ∨ t.follow [] (names p) = .error .notFound := by
  rw [createDirectories] at made
  split at made
  · rename_i none
    exact .inl ⟨[], by simp [names, none, parts, follow]⟩
  · rename_i given
    split at made
    · rename_i created
      exact .inr (createDirectory_eq_ok created).2.1
    · rename_i e refused
      split at made
      · rename_i missing
        subst missing
        exact .inr (createDirectory_eq_notFound given refused)
      · split at made
        · rename_i isThere
          exact .inl (isDirectory_iff.mp isThere).2
        · cases made

/-- Nothing is created where a directory is. -/
theorem createDirectories_of_follow (usable : p.bytes = [] ∨ IsUsable p)
    (follows : t.follow [] (names p) = .ok place) : t.createDirectories p = (.ok (), t) := by
  rw [createDirectories]
  split
  · rfl
  · rename_i given
    have isThere := isDirectory_iff.mpr ⟨usable.resolve_left given, place, follows⟩
    split
    · rename_i created
      rw [(createDirectory_eq_ok created).2.1] at follows
      cases follows
    · rename_i e refused
      split
      · rename_i missing
        subst missing
        rw [createDirectory_eq_notFound given refused] at follows
        cases follows
      · rfl

/-! ## Names in a directory -/

/-- A name below a path leads to its place in the directory that the path leads to. -/
theorem resolve_join (named : IsName name) (short : name.length ≤ 255)
    (usable : IsUsable (dir.join ⟨name⟩)) :
    t.resolve (dir.join ⟨name⟩) =
      (t.follow [] (names dir)).map fun place => .name (place ++ [name]) false := by
  have last : (names (dir.join ⟨name⟩)).getLast? = some name := by
    rw [names_join named, List.getLast?_concat]
  have above : (names (dir.join ⟨name⟩)).dropLast = names dir := by
    rw [names_join named, List.dropLast_concat]
  -- the name ends the path, so no separator follows it
  have unclosed : (dir.join ⟨name⟩).bytes.getLast? ≠ some Path.separator := by
    obtain ⟨front, ends⟩ := dir.suffix_join ⟨name⟩
    rw [← ends, List.getLast?_append, List.getLast?_eq_some_getLast named.given]
    intro closed
    exact named.whole (Option.some.inj closed ▸ List.getLast_mem named.given)
  obtain ⟨plain, given, bounded⟩ := usable
  rw [resolve, if_neg plain, if_neg given, if_neg (Nat.not_le.mpr bounded)]
  simp only [last, above]
  rw [if_neg named.noStep]
  cases t.follow [] (names dir) with
  | error e => rfl
  | ok place => simp [Except.map, Nat.not_lt.mpr short, unclosed]

end FileTree

end Silhouette
