import Silhouette.Files.Tree
import Silhouette.Proofs.Table

/-! What writing and creating directories leave of a tree. A directory that is there stays a directory, so a
path that leads somewhere leads there for good, and a file is lost only to a write at its own place.
Creating directories touches no file at all, also when it fails half way down. -/
namespace Silhouette

namespace FileTree

variable {t u v : FileTree} {p : Path} {place other : Place} {content : ByteArray}

/-- Putting something below the root changes the tree there and nowhere else. -/
theorem entryOf_put (below : place ≠ []) (entry : Entry) :
    entry? (t.put place entry) other = if other = place then some entry else t.entry? other := by
  by_cases root : other = []
  · subst root
    simp [Ne.symm below, entry?]
  · simp [put, entry?, root]

theorem content?_eq_some : t.content? place = some content ↔ t.entry? place = some (.file content) := by
  unfold content?
  split <;> simp_all

theorem file_mem_of_content? (held : t.content? place = some content) :
    .file content ∈ t.table.entries.map Prod.snd := by
  have there := content?_eq_some.mp held
  unfold entry? at there
  split at there
  · cases there
  · exact Table.mem_values_of_get? there

theorem content?_put_file (below : place ≠ []) (content : ByteArray) :
    (t.put place (.file content)).content? other =
      if other = place then some content else t.content? other := by
  unfold content?
  rw [entryOf_put below]
  by_cases same : other = place <;> simp [same]

theorem content?_put_directory (below : place ≠ []) :
    (t.put place .directory).content? other = if other = place then none else t.content? other := by
  unfold content?
  rw [entryOf_put below]
  by_cases same : other = place <;> simp [same]

/-! ## Directories stay -/

/-- A tree in which every directory of another is still one. -/
def KeepsDirectories (t u : FileTree) : Prop :=
  ∀ place, t.entry? place = some .directory → u.entry? place = some .directory

theorem KeepsDirectories.refl (t : FileTree) : t.KeepsDirectories t := fun _ there => there

theorem KeepsDirectories.trans (first : t.KeepsDirectories u) (second : u.KeepsDirectories v) :
    t.KeepsDirectories v := fun place there => second place (first place there)

/-- Only a directory can be lost to what is put in its place. -/
theorem keepsDirectories_put (below : place ≠ []) (free : t.entry? place ≠ some .directory)
    (entry : Entry) : t.KeepsDirectories (t.put place entry) := by
  intro other there
  rw [entryOf_put below]
  split
  · rename_i same
    exact absurd (same ▸ there) free
  · exact there

theorem KeepsDirectories.follow (kept : t.KeepsDirectories u) {names : List (List UInt8)}
    {here : Place} (leads : t.follow here names = .ok place) : u.follow here names = .ok place := by
  induction names generalizing here with
  | nil => exact leads
  | cons name rest ih =>
    unfold FileTree.follow at leads ⊢
    split
    · rename_i stays
      rw [if_pos stays] at leads
      exact ih leads
    · rename_i moves
      rw [if_neg moves] at leads
      split
      · rename_i up
        rw [if_pos up] at leads
        exact ih leads
      · rename_i down
        rw [if_neg down] at leads
        split
        · rename_i long
          rw [if_pos long] at leads
          exact leads
        · rename_i short
          rw [if_neg short] at leads
          split at leads
          · rename_i there
            rw [kept _ there]
            exact ih leads
          · cases leads
          · cases leads

/-! ## Where paths lead -/

/-- A path that can be handed to the system. -/
structure IsUsable (p : Path) : Prop where
  plain : ¬ p.bytes.contains 0
  given : p.bytes ≠ []
  short : p.bytes.length < 4096

/-- Where the names of a path lead: to a directory if there are none or the last one only steps to the
directory itself or the one above, and else to the last one, in the directory that those before it lead
to. -/
inductive Leads (t : FileTree) (p : Path) : Spot → Prop where
  | root (none : (names p).getLast? = none) : Leads t p (.directory [])
  | step (last : (names p).getLast? = some name)
      (steps : name = [Path.point] ∨ name = [Path.point, Path.point])
      (stepped : t.follow [] (names p) = .ok dir) : Leads t p (.directory dir)
  | name (last : (names p).getLast? = some name)
      (named : ¬ (name = [Path.point] ∨ name = [Path.point, Path.point]))
      (above : t.follow [] (names p).dropLast = .ok dir) (short : name.length ≤ 255) :
      Leads t p (.name (dir ++ [name]) (p.bytes.getLast? = some Path.separator))

theorem resolve_eq_ok {spot : Spot} : t.resolve p = .ok spot ↔ IsUsable p ∧ t.Leads p spot := by
  unfold resolve
  constructor
  · intro leads
    split at leads
    · cases leads
    rename_i plain
    split at leads
    · cases leads
    rename_i given
    split at leads
    · cases leads
    rename_i short
    refine ⟨⟨plain, given, by omega⟩, ?_⟩
    dsimp only at leads
    split at leads
    · rename_i none
      cases leads
      exact .root none
    · rename_i name last
      split at leads
      · rename_i steps
        cases stepped : t.follow [] (names p) with
        | error e =>
          rw [stepped] at leads
          cases leads
        | ok place =>
          rw [stepped] at leads
          cases leads
          exact .step last steps stepped
      · rename_i named
        split at leads
        · cases leads
        · rename_i place above
          split at leads
          · cases leads
          · cases leads
            exact .name last named above (by omega)
  · rintro ⟨⟨plain, given, short⟩, leads⟩
    rw [if_neg plain, if_neg given, if_neg (by omega)]
    cases leads with
    | root none => simp only [none]
    | step last steps stepped =>
      simp only [last]
      rw [if_pos steps, stepped]
      rfl
    | name last named above short =>
      simp only [last]
      rw [if_neg named, above]
      simp only []
      rw [if_neg (by omega)]

/-- A path goes on leading where it leads. -/
theorem KeepsDirectories.resolve (kept : t.KeepsDirectories u) {spot : Spot}
    (leads : t.resolve p = .ok spot) : u.resolve p = .ok spot := by
  obtain ⟨usable, leads⟩ := resolve_eq_ok.mp leads
  refine resolve_eq_ok.mpr ⟨usable, ?_⟩
  cases leads with
  | root none => exact .root none
  | step last steps stepped => exact .step last steps (kept.follow stepped)
  | name last named above short => exact .name last named (kept.follow above) short

theorem Leads.below {closed : Bool} (leads : t.Leads p (.name place closed)) : place ≠ [] := by
  cases leads with
  | name last named above short => simp

/-! ## Reading and writing -/

theorem read_eq_ok : t.read p = .ok content ↔
    ∃ place, t.resolve p = .ok (.name place false) ∧ t.content? place = some content := by
  unfold read
  constructor
  · intro gives
    split at gives
    · cases gives
    · cases gives
    · rename_i place closed leads
      split at gives
      · cases gives
      · cases gives
      · rename_i found there
        cases closed with
        | true => simp at gives
        | false =>
          cases gives
          exact ⟨place, leads, content?_eq_some.mpr there⟩
  · rintro ⟨place, leads, there⟩
    rw [leads]
    simp [content?_eq_some.mp there]

theorem write_eq_ok : t.write p content = .ok u ↔
    ∃ place, t.resolve p = .ok (.name place false) ∧ t.entry? place ≠ some .directory ∧
      u = t.put place (.file content) := by
  unfold write
  constructor
  · intro written
    split at written
    · cases written
    · cases written
    · rename_i place closed leads
      cases closed with
      | true => split at written <;> simp at written
      | false =>
        split at written
        · cases written
        · rename_i there
          cases written
          exact ⟨place, leads, by simp [there], rfl⟩
        · rename_i free
          cases written
          exact ⟨place, leads, by simp [free], rfl⟩
  · rintro ⟨place, leads, free, rfl⟩
    rw [leads]
    simp only
    split
    · contradiction
    · rfl
    · rfl

/-- What was written is read at the same path. -/
theorem read_put (leads : t.resolve p = .ok (.name place false))
    (free : t.entry? place ≠ some .directory) : (t.put place (.file content)).read p = .ok content := by
  have below := (resolve_eq_ok.mp leads).2.below
  refine read_eq_ok.mpr ⟨place, (keepsDirectories_put below free _).resolve leads, ?_⟩
  simp [content?_put_file below]

/-- What is read at a path is read there as long as directories stay and its place keeps its content. -/
theorem KeepsDirectories.read (kept : t.KeepsDirectories u) (was : t.read p = .ok content)
    (same : ∀ place, t.resolve p = .ok (.name place false) → u.content? place = t.content? place) :
    u.read p = .ok content := by
  obtain ⟨place, leads, there⟩ := read_eq_ok.mp was
  exact read_eq_ok.mpr ⟨place, kept.resolve leads, (same place leads).trans there⟩

/-! ## Creating directories -/

/-- A tree that may have more directories than another, and has the same files. -/
structure Prepared (t u : FileTree) : Prop where
  directories : t.KeepsDirectories u
  contents : ∀ place, u.content? place = t.content? place

theorem Prepared.refl (t : FileTree) : t.Prepared t := ⟨.refl t, fun _ => rfl⟩

theorem Prepared.trans (first : t.Prepared u) (second : u.Prepared v) : t.Prepared v :=
  ⟨first.directories.trans second.directories,
    fun place => (second.contents place).trans (first.contents place)⟩

theorem createDirectory_prepared (created : t.createDirectory p = .ok u) : t.Prepared u := by
  unfold createDirectory at created
  split at created
  · cases created
  · cases created
  · rename_i place closed leads
    split at created
    · cases created
    · rename_i free
      cases created
      have below := (resolve_eq_ok.mp leads).2.below
      refine ⟨keepsDirectories_put below (by simp [free]) _, fun other => ?_⟩
      rw [content?_put_directory below]
      split
      · rename_i same
        simp [content?, same, free]
      · rfl

theorem ensureDirectory_prepared (t : FileTree) (p : Path) : t.Prepared (t.ensureDirectory p).2 := by
  unfold ensureDirectory
  split
  · rename_i created
    exact createDirectory_prepared created
  · split <;> exact .refl t

/-- However far creating directories comes, it only adds directories. -/
theorem createDirectories_prepared (t : FileTree) (p : Path) :
    t.Prepared (t.createDirectories p).2 := by
  fun_induction createDirectories t p with
  | case1 => exact .refl t
  | case2 p given u created => exact createDirectory_prepared created
  | case3 => exact .refl t
  | case4 p given above isAbove e u missing stopped ih =>
    rw [missing] at ih
    exact ih
  | case5 p given above isAbove u made missing ih =>
    rw [made] at ih
    exact ih.trans (ensureDirectory_prepared u p)
  | case6 => exact .refl t
  | case7 => exact .refl t

/-! ## Names below a path -/

/-- A name that something in a directory can have: it is no step and has no separator in it. -/
structure IsName (name : List UInt8) : Prop where
  given : name ≠ []
  whole : Path.separator ∉ name
  noStep : ¬ (name = [Path.point] ∨ name = [Path.point, Path.point])

theorem parts_ne_nil (bytes : List UInt8) : parts bytes ≠ [] := by
  cases bytes with
  | nil => simp [parts]
  | cons b rest =>
    unfold parts
    split
    · simp
    · split <;> simp

theorem parts_append_separator (front back : List UInt8) :
    parts (front ++ Path.separator :: back) = parts front ++ parts back := by
  induction front with
  | nil => simp [parts]
  | cons b rest ih =>
    simp only [List.cons_append, parts, ih]
    by_cases cut : b = Path.separator
    · simp [cut]
    · obtain ⟨first, more, found⟩ := List.exists_cons_of_ne_nil (parts_ne_nil rest)
      simp [cut, found]

theorem parts_of_whole {name : List UInt8} (whole : Path.separator ∉ name) : parts name = [name] := by
  induction name with
  | nil => rfl
  | cons b rest ih =>
    simp only [List.mem_cons, not_or] at whole
    simp [parts, ih whole.2, Ne.symm whole.1]

/-- The names of a relative path come after those of the path that it is joined to. -/
theorem names_join_of_relative {q : Path} (relative : q.isAbsolute = false) :
    names (p.join q) = names p ++ names q := by
  unfold Path.join
  rw [if_neg (by simp [relative])]
  split
  · rename_i bare
    rcases bare with none | closed
    · simp [names, none, parts]
    · obtain ⟨front, ends⟩ := List.getLast?_eq_some_iff.mp closed
      have whole : p.bytes ++ q.bytes = front ++ Path.separator :: q.bytes := by simp [ends]
      rw [names, names, whole, ends, parts_append_separator, parts_append_separator]
      simp [parts, names]
  · rw [names, names, parts_append_separator]
    simp [names]

theorem IsName.relative {name : List UInt8} (named : IsName name) :
    (⟨name⟩ : Path).isAbsolute = false := by
  cases name with
  | nil => exact absurd rfl named.given
  | cons b rest =>
    have other : b ≠ Path.separator := fun same => named.whole (same ▸ List.mem_cons_self)
    simp [Path.isAbsolute, other]

/-- A name below a path comes after the names of the path. -/
theorem names_join {name : List UInt8} (named : IsName name) (dir : Path) :
    names (dir.join ⟨name⟩) = names dir ++ [name] := by
  have alone : names ⟨name⟩ = [name] := by
    simp [names, parts_of_whole named.whole, named.given]
  rw [names_join_of_relative named.relative, alone]

/-- A name below a path leads to a place in the directory that the path leads to, and to nothing else. -/
theorem spot_of_join {dir : Path} {name : List UInt8} {spot : Spot} (named : IsName name)
    (leads : t.resolve (dir.join ⟨name⟩) = .ok spot) :
    ∃ here closed, t.follow [] (names dir) = .ok here ∧ spot = .name (here ++ [name]) closed := by
  have last := names_join named dir
  cases (resolve_eq_ok.mp leads).2 with
  | root none =>
    rw [last, List.getLast?_concat] at none
    cases none
  | step found steps _ =>
    rw [last, List.getLast?_concat] at found
    cases found
    exact absurd steps named.noStep
  | name found _ above _ =>
    rw [last, List.getLast?_concat] at found
    rw [last, List.dropLast_concat] at above
    cases found
    exact ⟨_, _, above, rfl⟩

/-- What a name below a path leads to stands in the directory that the path leads to. -/
theorem place_of_join {dir : Path} {name : List UInt8} {closed : Bool} (named : IsName name)
    (leads : t.resolve (dir.join ⟨name⟩) = .ok (.name place closed)) :
    ∃ here, t.follow [] (names dir) = .ok here ∧ place = here ++ [name] := by
  obtain ⟨here, _, above, same⟩ := spot_of_join named leads
  cases same
  exact ⟨here, above, rfl⟩

/-- Below one directory, paths of different names lead to different places. -/
theorem name_eq_of_place_eq {dir : Path} {name name' : List UInt8} {closed closed' : Bool}
    (named : IsName name) (named' : IsName name')
    (leads : t.resolve (dir.join ⟨name⟩) = .ok (.name place closed))
    (leads' : t.resolve (dir.join ⟨name'⟩) = .ok (.name place closed')) : name = name' := by
  obtain ⟨here, -, ends⟩ := place_of_join named leads
  obtain ⟨here', -, ends'⟩ := place_of_join named' leads'
  exact (List.append_singleton_inj.mp (ends.symm.trans ends')).2

end FileTree

end Silhouette
