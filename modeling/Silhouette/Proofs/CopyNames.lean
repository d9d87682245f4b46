import Mathlib.Data.List.TakeDrop
import Mathlib.Data.List.TakeWhile
import Silhouette.Proofs.Folder
import Silhouette.Proofs.FormatText
import Silhouette.Proofs.SafeName

/-! How the name of a saved copy is made from the name of a file. The stem of a name is what stands before its last
point, if anything stands behind that, and each longest run of other characters in it becomes one underscore. The
same comes out of two searches from the left, one for an ending and one for such runs. What comes out is a name
that stays as it is when it is made safe again, and that leads to no other directory. -/
namespace Silhouette.Relay

/-! ## What a safe name is -/

/-- A character that a safe name may hold: an ASCII digit or letter, or the underscore. -/
def Plain (c : Char) : Prop :=
  ('0' ≤ c ∧ c ≤ '9') ∨ ('A' ≤ c ∧ c ≤ 'Z') ∨ ('a' ≤ c ∧ c ≤ 'z') ∨ c = '_'

instance : DecidablePred Plain := fun _ => inferInstanceAs (Decidable (_ ∨ _))

/-- The stem of a name: what is in front of its last point if something is behind it, and else all of it. -/
inductive Stem : List Char → List Char → Prop where
  | cut {front ending : List Char} (given : ending ≠ []) (last : '.' ∉ ending) :
      Stem (front ++ '.' :: ending) front
  | whole {name : List Char}
      (uncut : ∀ front ending, name = front ++ '.' :: ending → '.' ∉ ending → ending = []) :
      Stem name name

/-- One underscore in the place of each longest run of characters that are not plain. -/
inductive Collapsed : List Char → List Char → Prop where
  | nil : Collapsed [] []
  | plain {c : Char} {rest out : List Char} (plain : Plain c) (more : Collapsed rest out) :
      Collapsed (c :: rest) (c :: out)
  | run {run rest out : List Char} (given : run ≠ []) (other : ∀ c ∈ run, ¬ Plain c)
      (longest : ∀ c, rest.head? = some c → Plain c) (more : Collapsed rest out) :
      Collapsed (run ++ rest) ('_' :: out)

/-- The safe name for a name: its stem collapsed, or the name for nothing if nothing is left. -/
inductive MadeSafe (filename : String) : String → Prop where
  | stem {stem letters : List Char} (stemmed : Stem filename.toList stem)
      (collapsed : Collapsed stem letters) (given : letters ≠ []) :
      MadeSafe filename (String.ofList letters)
  | nothing {stem : List Char} (stemmed : Stem filename.toList stem) (collapsed : Collapsed stem []) :
      MadeSafe filename "image"

variable {c : Char} {cs name stem letters front ending : List Char} {filename base : String}

theorem isSafeChar_iff : isSafeChar c = true ↔ Plain c := by
  have underscore : (decide (c = '_') = true) ↔ c = '_' := decide_eq_true_iff
  rw [isSafeChar, Bool.or_eq_true, Text.isAlphanum_iff, underscore]
  change (('A' ≤ c ∧ c ≤ 'Z') ∨ ('a' ≤ c ∧ c ≤ 'z') ∨ ('0' ≤ c ∧ c ≤ '9')) ∨ c = '_' ↔ _
  rw [Plain]
  tauto

theorem not_isSafeChar_iff : (!isSafeChar c) = true ↔ ¬ Plain c := by
  rw [← isSafeChar_iff, Bool.not_eq_true', Bool.not_eq_true]

/-! ## Stems -/

/-- A name has no point, or a last one. -/
theorem last_point (name : List Char) :
    '.' ∉ name ∨ ∃ front ending, name = front ++ '.' :: ending ∧ '.' ∉ ending := by
  by_cases point : '.' ∈ name
  · obtain ⟨back, front, split, last⟩ := List.eq_append_cons_of_mem (List.mem_reverse.mpr point)
    refine .inr ⟨front.reverse, back.reverse, ?_, by simpa using last⟩
    rw [← List.reverse_reverse name, split]
    simp
  · exact .inl point

private theorem span_reverse (last : '.' ∉ ending) (rest : List Char) :
    (ending.reverse ++ '.' :: rest).span (· ≠ '.') = (ending.reverse, '.' :: rest) := by
  have free : ∀ c ∈ ending.reverse, decide (c ≠ '.') = true := by
    intro c member
    simp only [decide_eq_true_eq]
    rintro rfl
    exact last (List.mem_reverse.mp member)
  rw [List.span_eq_takeWhile_dropWhile, List.takeWhile_append_of_pos free,
    List.dropWhile_append_of_pos free]
  simp

theorem dropEnding_of_last (last : '.' ∉ ending) : dropEnding (front ++ '.' :: ending) =
    if ending = [] then front ++ '.' :: ending else front := by
  have split := span_reverse last front.reverse
  have turned : (front ++ '.' :: ending).reverse = ending.reverse ++ '.' :: front.reverse := by simp
  rw [dropEnding, turned, split]
  cases ending with
  | nil => rfl
  | cons c rest => simp

theorem dropEnding_of_no_point (none : '.' ∉ name) : dropEnding name = name := by
  have free : ∀ c ∈ name.reverse, decide (c ≠ '.') = true := by
    intro c member
    simp only [decide_eq_true_eq]
    rintro rfl
    exact none (List.mem_reverse.mp member)
  have split : name.reverse.span (· ≠ '.') = (name.reverse, []) := by
    rw [List.span_eq_takeWhile_dropWhile, List.takeWhile_eq_self_iff.mpr free,
      List.dropWhile_eq_nil_iff.mpr free]
  rw [dropEnding, split]
  split <;> simp_all

theorem dropEnding_eq_iff : dropEnding name = stem ↔ Stem name stem := by
  constructor
  · rintro rfl
    rcases last_point name with none | ⟨front, ending, rfl, last⟩
    · rw [dropEnding_of_no_point none]
      refine .whole fun front ending split => ?_
      rw [split] at none
      simp at none
    · rw [dropEnding_of_last last]
      split
      · rename_i nothing
        subst nothing
        refine .whole fun front' ending split free => ?_
        rcases List.eq_nil_or_concat' ending with rfl | ⟨before, c, rfl⟩
        · rfl
        · -- the last character is a point, and no point is behind the last one
          rw [← List.cons_append, ← List.append_assoc] at split
          have same := congrArg List.getLast? split
          simp only [List.getLast?_concat, Option.some.injEq] at same
          simp [← same] at free
      · rename_i given
        exact .cut given last
  · rintro (⟨given, last⟩ | uncut)
    · rw [dropEnding_of_last last, if_neg given]
    · rcases last_point name with none | ⟨front, ending, rfl, last⟩
      · exact dropEnding_of_no_point none
      · rw [dropEnding_of_last last, if_pos (uncut front ending rfl last)]

/-! ## Runs -/

/-- In a run nothing more is written until it is over. -/
theorem underscored_inRun (cs : List Char) :
    underscored true cs = underscored false (cs.dropWhile fun c => !isSafeChar c) := by
  induction cs with
  | nil => rfl
  | cons c rest ih =>
    cases safe : isSafeChar c with
    | true => simp [underscored, safe]
    | false => simp [underscored, safe, ih]

theorem underscored_run {run rest : List Char} (given : run ≠ []) (other : ∀ c ∈ run, ¬ Plain c)
    (longest : ∀ c, rest.head? = some c → Plain c) :
    underscored false (run ++ rest) = '_' :: underscored false rest := by
  obtain ⟨c, more, rfl⟩ := List.exists_cons_of_ne_nil given
  have stray := List.forall_mem_cons.mp other
  have first : isSafeChar c = false := by
    simpa using not_isSafeChar_iff.mpr stray.1
  have ended : (more ++ rest).dropWhile (fun c => !isSafeChar c) = rest := by
    rw [List.dropWhile_append_of_pos fun d member => not_isSafeChar_iff.mpr (stray.2 d member)]
    cases rest with
    | nil => rfl
    | cons d tail => simp [isSafeChar_iff.mpr (longest d rfl)]
  simp [underscored, first, underscored_inRun, ended]

theorem collapsed_underscored (cs : List Char) : Collapsed cs (underscored false cs) := by
  cases cs with
  | nil => exact .nil
  | cons c rest =>
    cases safe : isSafeChar c with
    | true =>
      have more := collapsed_underscored rest
      simpa [underscored, safe] using .plain (isSafeChar_iff.mp safe) more
    | false =>
      have more := collapsed_underscored (rest.dropWhile fun c => !isSafeChar c)
      have stray : ∀ d ∈ c :: rest.takeWhile (fun c => !isSafeChar c), ¬ Plain d := by
        refine List.forall_mem_cons.mpr ⟨?_, fun d member => ?_⟩
        · rw [← isSafeChar_iff, safe]
          exact Bool.false_ne_true
        · exact not_isSafeChar_iff.mp (List.all_eq_true.mp List.all_takeWhile d member)
      have longest : ∀ d, (rest.dropWhile fun c => !isSafeChar c).head? = some d → Plain d := by
        intro d first
        have stop := List.head?_dropWhile_not (fun c => !isSafeChar c) rest
        rw [first] at stop
        exact isSafeChar_iff.mp (by simpa using stop)
      have whole := Collapsed.run (List.cons_ne_nil _ _) stray longest more
      rw [List.cons_append, List.takeWhile_append_dropWhile] at whole
      simpa [underscored, safe, underscored_inRun] using whole
  termination_by cs.length
  decreasing_by
    · have shorter := (List.dropWhile_suffix (l := rest) fun c => !isSafeChar c).length_le
      exact Nat.lt_succ_of_le shorter
    · simp

theorem underscored_eq_iff : underscored false cs = letters ↔ Collapsed cs letters := by
  constructor
  · rintro rfl
    exact collapsed_underscored cs
  · intro collapsed
    induction collapsed with
    | nil => rfl
    | plain plain more ih => simp [underscored, isSafeChar_iff.mpr plain, ih]
    | run given other longest more ih => rw [underscored_run given other longest, ih]

/-- What is made of a name is its safe name and nothing else. -/
theorem safeBase_eq_iff : safeBase filename = base ↔ MadeSafe filename base := by
  constructor
  · rintro rfl
    have stemmed := dropEnding_eq_iff.mp (rfl : dropEnding filename.toList = _)
    have collapsed := collapsed_underscored (dropEnding filename.toList)
    unfold safeBase
    split
    · rename_i nothing
      rw [nothing] at collapsed
      exact .nothing stemmed collapsed
    · rename_i given
      exact .stem stemmed collapsed given
  · intro made
    cases made with
    | stem stemmed collapsed given =>
      obtain ⟨c, rest, rfl⟩ := List.exists_cons_of_ne_nil given
      rw [safeBase, dropEnding_eq_iff.mpr stemmed, underscored_eq_iff.mpr collapsed]
    | nothing stemmed collapsed =>
      rw [safeBase, dropEnding_eq_iff.mpr stemmed, underscored_eq_iff.mpr collapsed]
      rfl

/-! ## Searching from the left -/

/-- What can be looked for in a text: from what stands at a place it tells what is left behind a match there. A match
takes one character at least. -/
structure Pattern where
  after? : List Char → Option (List Char)
  shorter : ∀ {cs rest}, after? cs = some rest → rest.length < cs.length

namespace Pattern

/-- A point and then at least one character up to the end, none of them a point. -/
def fileEnding : Pattern where
  after?
    | [] => none
    | c :: rest => if c = '.' ∧ rest ≠ [] ∧ '.' ∉ rest then some [] else none
  shorter := by
    intro cs rest found
    split at found
    · cases found
    · split at found <;> cases found
      simp

/-- A run of characters that are not plain, as long as it goes on. -/
def strays : Pattern where
  after?
    | [] => none
    | c :: rest => if Plain c then none else some (rest.dropWhile fun c => ¬ Plain c)
  shorter := by
    intro cs rest found
    split at found
    · cases found
    · rename_i c more
      split at found <;> cases found
      exact Nat.lt_succ_of_le (List.dropWhile_suffix _).length_le

/-- A text with something new for the leftmost match. -/
def replaceFirst (p : Pattern) (new : List Char) : List Char → List Char
  | [] => []
  | c :: cs =>
    match p.after? (c :: cs) with
    | some rest => new ++ rest
    | none => c :: replaceFirst p new cs

/-- A text with something new for every match, one after the other from the left. -/
def replaceAll (p : Pattern) (new : List Char) : List Char → List Char
  | [] => []
  | c :: cs =>
    match _found : p.after? (c :: cs) with
    | some rest => new ++ replaceAll p new rest
    | none => c :: replaceAll p new cs
  termination_by cs => cs.length
  decreasing_by
    · exact p.shorter (by assumption)
    · simp

theorem replaceFirst_of_found {p : Pattern} {new rest : List Char} (found : p.after? (c :: cs) = some rest) :
    p.replaceFirst new (c :: cs) = new ++ rest := by
  rw [replaceFirst, found]

theorem replaceFirst_of_absent {p : Pattern} {new : List Char} (absent : p.after? (c :: cs) = none) :
    p.replaceFirst new (c :: cs) = c :: p.replaceFirst new cs := by
  rw [replaceFirst, absent]

theorem replaceFirst_of_last (last : '.' ∉ ending) :
    fileEnding.replaceFirst [] (front ++ '.' :: ending) =
      if ending = [] then front ++ '.' :: ending else front := by
  induction front with
  | nil =>
    cases ending with
    | nil => rfl
    | cons c rest => exact replaceFirst_of_found (if_pos ⟨rfl, List.cons_ne_nil _ _, last⟩)
  | cons c rest ih =>
    -- there is a later point, so the ending does not begin here
    have absent : fileEnding.after? (c :: (rest ++ '.' :: ending)) = none := if_neg (by simp)
    rw [List.cons_append, replaceFirst_of_absent absent, ih]
    split <;> rfl

theorem replaceFirst_of_no_point (none : '.' ∉ name) : fileEnding.replaceFirst [] name = name := by
  induction name with
  | nil => rfl
  | cons c rest ih =>
    simp only [List.mem_cons, not_or] at none
    have absent : fileEnding.after? (c :: rest) = Option.none := if_neg fun here => none.1 here.1.symm
    rw [replaceFirst_of_absent absent, ih none.2]

/-- The leftmost ending is the one behind the last point. -/
theorem replaceFirst_fileEnding (name : List Char) :
    fileEnding.replaceFirst [] name = dropEnding name := by
  rcases last_point name with none | ⟨front, ending, rfl, last⟩
  · rw [replaceFirst_of_no_point none, dropEnding_of_no_point none]
  · rw [replaceFirst_of_last last, dropEnding_of_last last]

/-- The matches found from the left are the longest runs. -/
theorem replaceAll_strays (cs : List Char) : strays.replaceAll ['_'] cs = underscored false cs := by
  fun_induction replaceAll strays ['_'] cs with
  | case1 => rfl
  | case2 c rest left found ih =>
    obtain ⟨stray, ended⟩ : isSafeChar c = false ∧ (rest.dropWhile fun c => !isSafeChar c) = left := by
      simpa [strays, ← isSafeChar_iff] using found
    rw [ih, ← ended]
    simp [underscored, stray, underscored_inRun]
  | case3 c rest absent ih =>
    have plain : Plain c := by
      by_contra stray
      simp [strays, stray] at absent
    rw [ih]
    simp [underscored, isSafeChar_iff.mpr plain]

end Pattern

/-- The safe name as two searches find it: the leftmost ending is dropped, and every run of other characters is
replaced. -/
def searchedName (filename : String) : String :=
  match Pattern.strays.replaceAll ['_'] (Pattern.fileEnding.replaceFirst [] filename.toList) with
  | [] => "image"
  | letters => String.ofList letters

theorem safeBase_eq_searchedName (filename : String) : safeBase filename = searchedName filename := by
  rw [searchedName, Pattern.replaceFirst_fileEnding, Pattern.replaceAll_strays]
  rfl

/-! ## Safe names as they are used -/

theorem safeBase_plain (filename : String) : ∀ c ∈ (safeBase filename).toList, Plain c :=
  fun c member => isSafeChar_iff.mp (safeBase_safe filename c member)

theorem MadeSafe.ne_empty (made : MadeSafe filename base) : base ≠ "" := by
  cases made with
  | stem stemmed collapsed given =>
    intro empty
    exact given (String.ofList_eq_empty_iff.mp empty)
  | nothing stemmed collapsed => decide

/-- Plain characters stay as they are. -/
theorem collapsed_of_plain (plain : ∀ c ∈ cs, Plain c) : Collapsed cs cs := by
  induction cs with
  | nil => exact .nil
  | cons c rest ih =>
    obtain ⟨first, more⟩ := List.forall_mem_cons.mp plain
    exact .plain first (ih more)

/-- A name of plain characters is its own safe name: it has no point, and nothing in it is replaced. -/
theorem madeSafe_of_plain (given : base ≠ "") (plain : ∀ c ∈ base.toList, Plain c) : MadeSafe base base := by
  have stemmed : Stem base.toList base.toList := by
    refine .whole fun front ending split _ => ?_
    have point := plain '.' (by simp [split])
    exact absurd point (by decide)
  have made := MadeSafe.stem stemmed (collapsed_of_plain plain) (by simpa using given)
  rwa [String.ofList_toList] at made

end Silhouette.Relay

namespace Silhouette

/-- A name that is joined to a path is one more part of it. -/
theorem Path.components_join_name {name : List UInt8} (named : FileTree.IsName name) (dir : Path) :
    (dir.join ⟨name⟩).components = dir.components ++ [.name name] := by
  have notHere : startsHere name = false := by
    obtain ⟨b, rest, rfl⟩ := List.exists_cons_of_ne_nil named.given
    rw [startsHere_cons]
    cases rest with
    | nil =>
      have other : b ≠ point := fun same => named.noStep (.inl (by rw [same]))
      simp [other]
    | cons d more =>
      have other : d ≠ separator := fun same => named.whole (by simp [same])
      simp [other]
  have counted : component? name = some (.name name) := by
    obtain ⟨notPoint, notPoints⟩ := not_or.mp named.noStep
    rw [component?, if_neg notPoint, if_neg notPoints]
  have own : (⟨name⟩ : Path).components = [.name name] := by
    simp [components, named.relative, notHere, FileTree.names, FileTree.parts_of_whole named.whole,
      named.given, counted]
  rw [components_join named.relative notHere, own]

end Silhouette

namespace Silhouette.Relay

/-- The safe name of any name is what its definition says, and what is found by searching from the left. It is never
empty, holds plain characters only and is its own safe name. So the path of a copy has the directory's parts and
one name more, and leads to a place in that directory and in no other. -/
theorem safe_name_is_canonical (filename : String) :
    (∀ base, safeBase filename = base ↔ MadeSafe filename base) ∧
    safeBase filename = searchedName filename ∧
    safeBase filename ≠ "" ∧ (∀ c ∈ (safeBase filename).toList, Plain c) ∧
    safeBase (safeBase filename) = safeBase filename ∧
    ∀ (dir : Path) (now : Nat),
      (dir.join (.ofText (savedName now filename))).components =
        dir.components ++ [.name (Text.Utf8.encode (savedName now filename))] ∧
      ∀ (tree : FileTree) (spot : FileTree.Spot),
        tree.resolve (dir.join (.ofText (savedName now filename))) = .ok spot →
        ∃ here closed, tree.follow [] (FileTree.names dir) = .ok here ∧
          spot = .name (here ++ [Text.Utf8.encode (savedName now filename)]) closed := by
  have made := safeBase_eq_iff.mp (rfl : safeBase filename = _)
  have plain := safeBase_plain filename
  refine ⟨fun base => safeBase_eq_iff, safeBase_eq_searchedName filename, made.ne_empty, plain,
    safeBase_eq_iff.mpr (madeSafe_of_plain made.ne_empty plain), ?_⟩
  intro dir now
  have named := savedName_isName now filename
  exact ⟨Path.components_join_name named dir, fun tree spot => FileTree.spot_of_join named⟩

example : safeBase "../a  b.tar.gz" = "_a_b_tar" := by decide

end Silhouette.Relay
