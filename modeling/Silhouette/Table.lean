/-!
Finite tables: at most one value for a key, keys in the order in which they were first put in. A
value that is put in for a known key takes the place of the old one.
-/
namespace Silhouette

/-- Pairs of keys and values in which no key occurs twice. -/
structure Table (K V : Type) where
  entries : List (K × V)
  nodup_keys : (entries.map Prod.fst).Nodup

namespace Table

variable {K V : Type}

/-- No entries. -/
def empty : Table K V := ⟨[], List.nodup_nil⟩

instance : Inhabited (Table K V) := ⟨empty⟩

/-- The number of entries. -/
def size (t : Table K V) : Nat := t.entries.length

/-- The keys, oldest first. -/
def keys (t : Table K V) : List K := t.entries.map Prod.fst

variable [DecidableEq K]

/-- The value that some pairs give a key. -/
def find? (k : K) : List (K × V) → Option V
  | [] => none
  | (a, v) :: rest => if a = k then some v else find? k rest

/-- Some pairs with a value for a key, in the place of the old one or at the end. -/
def set (k : K) (v : V) : List (K × V) → List (K × V)
  | [] => [(k, v)]
  | (a, b) :: rest => if a = k then (k, v) :: rest else (a, b) :: set k v rest

theorem mem_keys_set {k x : K} {v : V} {l : List (K × V)} :
    x ∈ (set k v l).map Prod.fst ↔ x = k ∨ x ∈ l.map Prod.fst := by
  induction l with
  | nil => simp [set]
  | cons p rest ih =>
    obtain ⟨a, b⟩ := p
    by_cases h : a = k
    · simp [set, h]
    · simp only [set, if_neg h, List.map_cons, List.mem_cons, ih]
      constructor
      · rintro (rfl | rfl | h) <;> simp_all
      · rintro (rfl | rfl | h) <;> simp_all

theorem nodup_keys_set {k : K} {v : V} {l : List (K × V)} (h : (l.map Prod.fst).Nodup) :
    ((set k v l).map Prod.fst).Nodup := by
  induction l with
  | nil => simp [set]
  | cons p rest ih =>
    obtain ⟨a, b⟩ := p
    simp only [List.map_cons, List.nodup_cons] at h
    by_cases hk : a = k
    · subst hk
      simpa [set] using h
    · simp only [set, if_neg hk, List.map_cons, List.nodup_cons, mem_keys_set]
      exact ⟨by rintro (e | e) <;> simp_all, ih h.2⟩

/-- The value for a key. -/
def get? (t : Table K V) (k : K) : Option V := find? k t.entries

/-- Whether there is a value for a key. -/
def contains (t : Table K V) (k : K) : Bool := (t.get? k).isSome

/-- The table with a value for a key. -/
def put (t : Table K V) (k : K) (v : V) : Table K V :=
  ⟨set k v t.entries, nodup_keys_set t.nodup_keys⟩

/-- The table without a key. -/
def erase (t : Table K V) (k : K) : Table K V :=
  ⟨t.entries.filter fun p => p.1 ≠ k, by
    have := t.nodup_keys
    exact List.Nodup.sublist (List.filter_sublist.map _) this⟩

/-- The table that some pairs make, later ones taking the place of earlier ones. -/
def ofList (pairs : List (K × V)) : Table K V :=
  pairs.foldl (fun t p => t.put p.1 p.2) empty

end Table

end Silhouette
