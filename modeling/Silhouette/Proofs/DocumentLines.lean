import Silhouette.Toml.Document

/-! What the lines of a document leave in its table. No line takes away what earlier lines have put there, and the key
or the header that a line names is in the table when all lines have been read, below the tables and lists of
tables that stand in front of it. -/
namespace Silhouette.Toml

namespace Members

/-! ## Looking up -/

theorem get?_cons (key : String) (v : Value) (rest : Members) (k : String) :
    get? ((key, v) :: rest) k = if key = k then some v else get? rest k := by
  unfold get?
  by_cases same : key = k
  · simp [same]
  · simp [same]

theorem exists_get?_iff {ms : Members} {k : String} :
    (∃ v, get? ms k = some v) ↔ ∃ m ∈ ms, m.1 = k := by
  induction ms with
  | nil => simp [get?]
  | cons m rest ih =>
    obtain ⟨a, w⟩ := m
    rw [get?_cons]
    by_cases same : a = k
    · simp [same]
    · simp [same, ih]

theorem get?_append (ms : Members) (key : String) (v : Value) (k : String) :
    get? (ms ++ [(key, v)]) k = (get? ms k).or (if key = k then some v else none) := by
  induction ms with
  | nil => exact get?_cons key v [] k
  | cons m rest ih =>
    obtain ⟨a, w⟩ := m
    rw [List.cons_append, get?_cons, get?_cons]
    by_cases same : a = k
    · rw [if_pos same, if_pos same, Option.some_or]
    · rw [if_neg same, if_neg same, ih]

theorem get?_replace (ms : Members) (key : String) (v : Value) (k : String) :
    get? (ms.replace key v) k = if k = key then (get? ms key).map fun _ => v else get? ms k := by
  induction ms with
  | nil => simp [get?, replace]
  | cons m rest ih =>
    obtain ⟨a, w⟩ := m
    have unfolded : replace ((a, w) :: rest) key v =
        (if a = key then (key, v) else (a, w)) :: replace rest key v := rfl
    rw [unfolded, get?_cons a w rest k, get?_cons a w rest key]
    by_cases here : a = key
    · subst here
      rw [if_pos rfl, if_pos rfl, get?_cons, ih]
      by_cases same : a = k
      · simp [same]
      · simp [same, Ne.symm same]
    · rw [if_neg here, if_neg here, get?_cons, ih]
      by_cases same : a = k
      · subst same
        simp [here]
      · simp [same]

/-- A path that leads to a key, through tables and lists of tables. -/
inductive Holds : Members → List String → Prop where
  | key {ms : Members} {k : String} {v : Value} (found : get? ms k = some v) : Holds ms [k]
  | table {ms : Members} {k : String} {kind : TableKind} {inner : Members} {path : List String}
      (found : get? ms k = some (.table kind inner)) (below : Holds inner path) :
      Holds ms (k :: path)
  | tables {ms : Members} {k : String} {all : List Members} {inner : Members} {path : List String}
      (found : get? ms k = some (.tables all)) (one : inner ∈ all) (below : Holds inner path) :
      Holds ms (k :: path)

/-- What stands above a key that is held is held too. -/
theorem Holds.front {ms : Members} {path rest : List String} {k : String}
    (holds : Holds ms (path ++ k :: rest)) : Holds ms (path ++ [k]) := by
  induction path generalizing ms with
  | nil =>
    cases holds with
    | key found => exact .key found
    | table found below => exact .key found
    | tables found one below => exact .key found
  | cons key path ih =>
    rw [List.cons_append] at holds ⊢
    generalize split : path ++ k :: rest = inside at holds
    cases holds with
    | key found => simp at split
    | table found below => exact .table found (ih (split ▸ below))
    | tables found one below => exact .tables found one (ih (split ▸ below))

/-- Follows a path key by key, as a test of `Holds`. -/
def finds : Members → List String → Bool
  | _, [] => false
  | ms, k :: path =>
    match get? ms k with
    | none => false
    | some v =>
      path.isEmpty ||
        match v with
        | .table _ inner => finds inner path
        | .tables all => all.any fun inner => finds inner path
        | _ => false

theorem finds_iff {ms : Members} {path : List String} : finds ms path = true ↔ Holds ms path := by
  induction path generalizing ms with
  | nil =>
    constructor
    · rintro ⟨⟩
    · rintro ⟨⟩
  | cons k path ih =>
    constructor
    · intro found
      rw [finds] at found
      cases here : get? ms k with
      | none => simp [here] at found
      | some v =>
        simp only [here, Bool.or_eq_true, List.isEmpty_iff] at found
        rcases found with rfl | below
        · exact .key here
        · cases v with
          | table kind inner => exact .table here (ih.mp below)
          | tables all =>
            obtain ⟨inner, one, below⟩ := List.any_eq_true.mp below
            exact .tables here one (ih.mp below)
          | _ => cases below
    · intro holds
      rw [finds]
      cases holds with
      | key found => simp [found]
      | table found below => simp [found, ih.mpr below]
      | @tables _ _ all _ _ found one below =>
        have some_one : all.any (fun inner => finds inner path) = true :=
          List.any_eq_true.mpr ⟨_, one, ih.mpr below⟩
        simp [found, some_one]

instance (ms : Members) (path : List String) : Decidable (Holds ms path) :=
  decidable_of_iff _ finds_iff

/-- A path that leads on from a value: none at all, or one that the members of a table hold. -/
inductive Leads : Value → List String → Prop where
  | here (v : Value) : Leads v []
  | table {kind : TableKind} {inner : Members} {path : List String} (below : Holds inner path) :
      Leads (.table kind inner) path

theorem Leads.holds {ms : Members} {key : String} {v : Value} {path : List String}
    (leads : Leads v path) (found : get? ms key = some v) : Holds ms (key :: path) := by
  cases leads with
  | here => exact .key found
  | table below => exact .table found below

/-- Every path that leads to a key still does. -/
def Keeps (before after : Members) : Prop := ∀ path, Holds before path → Holds after path

theorem Keeps.refl (ms : Members) : Keeps ms ms := fun _ holds => holds

theorem Keeps.trans {a b c : Members} (first : Keeps a b) (second : Keeps b c) : Keeps a c :=
  fun path holds => second path (first path holds)

/-- Nothing is lost below a value when another takes its place. -/
inductive Follows : Value → Value → Prop where
  | table {before after : TableKind} {inner inner' : Members} (kept : Keeps inner inner') :
      Follows (.table before inner) (.table after inner')
  | tables {all all' : List Members} (kept : ∀ inner ∈ all, ∃ inner' ∈ all', Keeps inner inner') :
      Follows (.tables all) (.tables all')

theorem keeps_append (ms : Members) (key : String) (v : Value) : Keeps ms (ms ++ [(key, v)]) := by
  have stays : ∀ {k : String} {w : Value}, get? ms k = some w →
      get? (ms ++ [(key, v)]) k = some w := by
    intro k w found
    rw [get?_append, found, Option.some_or]
  intro path holds
  cases holds with
  | key found => exact .key (stays found)
  | table found below => exact .table (stays found) below
  | tables found one below => exact .tables (stays found) one below

theorem keeps_replace {ms : Members} {key : String} {v v' : Value} (found : get? ms key = some v)
    (follows : Follows v v') : Keeps ms (ms.replace key v') := by
  have there : get? (ms.replace key v') key = some v' := by
    rw [get?_replace, if_pos rfl, found, Option.map_some]
  have elsewhere : ∀ {k : String}, k ≠ key → get? (ms.replace key v') k = get? ms k := by
    intro k other
    rw [get?_replace, if_neg other]
  intro path holds
  cases holds with
  | @key _ k w here =>
    by_cases same : k = key
    · subst same
      exact .key there
    · exact .key ((elsewhere same).trans here)
  | @table _ k kind inner path here below =>
    by_cases same : k = key
    · subst same
      rw [found] at here
      cases here
      cases follows with
      | table kept => exact .table there (kept path below)
    · exact .table ((elsewhere same).trans here) below
  | @tables _ k all inner path here one below =>
    by_cases same : k = key
    · subst same
      rw [found] at here
      cases here
      cases follows with
      | tables kept =>
        obtain ⟨inner', one', kept⟩ := kept inner one
        exact .tables there one' (kept path below)
    · exact .tables ((elsewhere same).trans here) one below

/-! ## Changing a table below a path -/

/-- Nothing is lost, and a path leads to a key afterwards. -/
structure Adds (path : List String) (before after : Members) : Prop where
  keeps : Keeps before after
  holds : Holds after path

variable {dotted : Bool} {change : TableKind → Members → Option Members}

/-- What becomes of the members at the first key of a path. -/
theorem within_cons {kind : TableKind} {key : String} {path : List String} {ms ms' : Members}
    (made : within dotted change kind (key :: path) ms = some ms') :
    (∃ kind inner, get? ms key = none ∧ within dotted change kind path [] = some inner ∧
      ms' = ms ++ [(key, .table kind inner)]) ∨
    (∃ kind old inner, get? ms key = some (.table kind old) ∧
      within dotted change kind path old = some inner ∧ ms' = ms.replace key (.table kind inner)) ∨
    ∃ all last inner, get? ms key = some (.tables all) ∧ all.getLast? = some last ∧
      within dotted change .header path last = some inner ∧
      ms' = ms.replace key (.tables (all.dropLast ++ [inner])) := by
  rw [within] at made
  cases found : get? ms key with
  | none =>
    simp only [found] at made
    obtain ⟨inner, below, rfl⟩ := Option.map_eq_some_iff.mp made
    exact .inl ⟨_, inner, rfl, below, rfl⟩
  | some v =>
    cases v with
    | table kind old =>
      simp only [found] at made
      split at made
      · cases made
      · obtain ⟨inner, below, rfl⟩ := Option.map_eq_some_iff.mp made
        exact .inr (.inl ⟨kind, old, inner, rfl, below, rfl⟩)
    | tables all =>
      simp only [found] at made
      split at made
      · cases made
      · rename_i last final
        obtain ⟨inner, below, rfl⟩ := Option.map_eq_some_iff.mp made
        exact .inr (.inr ⟨all, last, inner, rfl, final, below, rfl⟩)
    | _ => simp [found] at made

theorem within_adds {target : List String}
    (step : ∀ kind ms ms', change kind ms = some ms' → Adds target ms ms') (path : List String) :
    ∀ {kind : TableKind} {ms ms' : Members}, within dotted change kind path ms = some ms' →
      Adds (path ++ target) ms ms' := by
  induction path with
  | nil =>
    intro kind ms ms' made
    exact step kind ms ms' made
  | cons key path ih =>
    intro kind ms ms' made
    rcases within_cons made with ⟨kind, inner, new, below, rfl⟩ |
      ⟨kind, old, inner, found, below, rfl⟩ | ⟨all, last, inner, found, final, below, rfl⟩
    · have there : get? (ms ++ [(key, .table kind inner)]) key = some (.table kind inner) := by
        rw [get?_append, new, Option.none_or, if_pos rfl]
      exact ⟨keeps_append ms key _, .table there (ih below).holds⟩
    · have there : get? (ms.replace key (.table kind inner)) key = some (.table kind inner) := by
        rw [get?_replace, if_pos rfl, found, Option.map_some]
      exact ⟨keeps_replace found (.table (ih below).keeps), .table there (ih below).holds⟩
    · have there : get? (ms.replace key (.tables (all.dropLast ++ [inner]))) key =
          some (.tables (all.dropLast ++ [inner])) := by
        rw [get?_replace, if_pos rfl, found, Option.map_some]
      refine ⟨keeps_replace found (.tables ?_), .tables there (by simp) (ih below).holds⟩
      intro other one
      have split : all = all.dropLast ++ [last] := by
        obtain ⟨front, rfl⟩ := List.getLast?_eq_some_iff.mp final
        simp
      rw [split, List.mem_append, List.mem_singleton] at one
      rcases one with before | rfl
      · exact ⟨other, List.mem_append_left _ before, .refl other⟩
      · exact ⟨inner, by simp, (ih below).keeps⟩

/-! ## What a line does -/

theorem adds_append {ms : Members} {key : String} {v : Value} {below : List String}
    (new : get? ms key = none) (leads : Leads v below) :
    Adds (key :: below) ms (ms ++ [(key, v)]) := by
  refine ⟨keeps_append ms key v, leads.holds ?_⟩
  rw [get?_append, new, Option.none_or, if_pos rfl]

theorem adds_replace {ms : Members} {key : String} {v v' : Value} (found : get? ms key = some v)
    (follows : Follows v v') : Adds [key] ms (ms.replace key v') := by
  refine ⟨keeps_replace found follows, .key (v := v') ?_⟩
  rw [get?_replace, if_pos rfl, found, Option.map_some]

theorem define_adds {ms ms' : Members} {path : List String} {key : String} {v : Value}
    {below : List String} (leads : Leads v below) (made : ms.define path key v = some ms') :
    Adds (path ++ key :: below) ms ms' := by
  refine within_adds ?_ path made
  intro kind ms ms' put
  split at put
  · cases put
  · split at put
    · cases put
    · rename_i _ new
      cases put
      exact adds_append (by simpa using new) leads

theorem openTable_adds {ms ms' : Members} {path : List String} {key : String}
    (made : ms.openTable path key = some ms') : Adds (path ++ [key]) ms ms' := by
  refine within_adds ?_ path made
  intro kind ms ms' opened
  split at opened
  · rename_i new
    cases opened
    exact adds_append new (.here _)
  · rename_i inner found
    cases opened
    exact adds_replace found (.table (.refl inner))
  · cases opened

theorem openNext_adds {ms ms' : Members} {path : List String} {key : String}
    (made : ms.openNext path key = some ms') : Adds (path ++ [key]) ms ms' := by
  refine within_adds ?_ path made
  intro kind ms ms' opened
  split at opened
  · rename_i new
    cases opened
    exact adds_append new (.here _)
  · rename_i all found
    cases opened
    refine adds_replace found (.tables ?_)
    intro inner one
    exact ⟨inner, List.mem_append_left _ one, .refl inner⟩
  · cases opened

end Members

/-- All parts of a key. -/
def Key.parts (key : Key) : List String := key.path ++ [key.last]

namespace Statement

/-- A line names a path, below the header that is open: the header or key that it spells, and behind a key also
what is in braces. -/
inductive Names (header : List String) : Statement → List String → Prop where
  | define {key : Key} {v : Value} {below : List String} (leads : Members.Leads v below) :
      Names header (.define key v) (header ++ (key.path ++ key.last :: below))
  | table (key : Key) : Names header (.table key) key.parts
  | nextTable (key : Key) : Names header (.nextTable key) key.parts

/-- The header that is open behind a line. -/
def header (before : List String) : Statement → List String
  | .define _ _ => before
  | .table key => key.parts
  | .nextTable key => key.parts

/-- Some lines name a path if one of them does, below the header that is open there. -/
inductive Named : List String → List Statement → List String → Prop where
  | here {before path : List String} {line : Statement} {rest : List Statement}
      (names : line.Names before path) : Named before (line :: rest) path
  | later {before path : List String} {line : Statement} {rest : List Statement}
      (named : Named (line.header before) rest path) : Named before (line :: rest) path

end Statement

/-- The lines of a text. A byte order mark in front is passed over. -/
def lines? (text : String) : Option (List Statement) := do
  let cs ← unixLines? text.toList
  let cs := match cs with
    | c :: rest => if c = Char.ofNat 0xfeff then rest else c :: rest
    | [] => []
  statements? cs

/-- A line keeps what is there and adds what it names. -/
theorem add_keeps {d d' : Draft} {line : Statement} (added : d.add line = some d') :
    d'.current = line.header d.current ∧ Members.Keeps d.root d'.root ∧
      ∀ path, line.Names d.current path → d'.root.Holds path := by
  cases line with
  | define key v =>
    obtain ⟨root, made, rfl⟩ := Option.map_eq_some_iff.mp added
    have adds : ∀ below, Members.Leads v below →
        Members.Adds (d.current ++ (key.path ++ key.last :: below)) d.root root := by
      intro below leads
      exact Members.within_adds (fun _ _ _ put => Members.define_adds leads put) d.current made
    refine ⟨rfl, (adds [] (.here v)).keeps, ?_⟩
    rintro path (leads | _ | _)
    exact (adds _ leads).holds
  | table key =>
    obtain ⟨root, made, rfl⟩ := Option.map_eq_some_iff.mp added
    have adds := Members.openTable_adds made
    refine ⟨rfl, adds.keeps, ?_⟩
    rintro path (_ | _ | _)
    exact adds.holds
  | nextTable key =>
    obtain ⟨root, made, rfl⟩ := Option.map_eq_some_iff.mp added
    have adds := Members.openNext_adds made
    refine ⟨rfl, adds.keeps, ?_⟩
    rintro path (_ | _ | _)
    exact adds.holds

/-- What some lines name is there when they have all been read, and so is what was there before. -/
theorem foldlM_add_keeps (lines : List Statement) : ∀ {d d' : Draft},
    lines.foldlM Draft.add d = some d' →
      Members.Keeps d.root d'.root ∧
        ∀ path, Statement.Named d.current lines path → d'.root.Holds path := by
  induction lines with
  | nil =>
    intro d d' built
    cases built
    refine ⟨.refl d.root, ?_⟩
    rintro path ⟨⟩
  | cons line rest ih =>
    intro d d' built
    rw [List.foldlM_cons] at built
    obtain ⟨middle, added, built⟩ := Option.bind_eq_some_iff.mp built
    obtain ⟨header, keeps, adds⟩ := add_keeps added
    obtain ⟨laterKeeps, laterAdds⟩ := ih built
    refine ⟨keeps.trans laterKeeps, ?_⟩
    rintro path (names | later)
    · exact laterKeeps path (adds path names)
    · exact laterAdds path (header ▸ later)

theorem read?_eq (text : String) :
    read? text = (lines? text).bind fun lines =>
      (lines.foldlM Draft.add ⟨[], []⟩).map Draft.root := by
  simp only [read?, lines?, Option.bind_eq_bind, Option.bind_assoc, Option.map_eq_bind]
  rfl

/-- The document of a text holds every path that a line of the text names. -/
theorem holds_of_named {text : String} {lines : List Statement} {document : Members}
    (written : lines? text = some lines) (read : read? text = some document) {path : List String}
    (named : Statement.Named [] lines path) : document.Holds path := by
  rw [read?_eq, written, Option.bind_some] at read
  obtain ⟨draft, built, rfl⟩ := Option.map_eq_some_iff.mp read
  exact (foldlM_add_keeps lines built).2 path named

end Silhouette.Toml
