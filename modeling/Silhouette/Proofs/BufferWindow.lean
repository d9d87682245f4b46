import Silhouette.Asset.Buffer

/-! The window of a buffer. Every buffer claims a number of bytes from some place on in the bytes that back it, the
whole of them unless it is a view. A window that ends behind its backing is refused, also when it is empty; of the
others the empty ones are refused, and the rest are given byte by byte. Windows with the same bytes mean the same
image data, whatever keeps them.

Places are words, and the end of a view is a sum of two of them that need not be a word. That sum is formed and
tested first, so that bytes are only taken from places that are in order and inside. -/
namespace Silhouette.Buffer

variable {a b : Buffer} {bytes data : ByteArray}

/-! ## What a buffer names -/

/-- The bytes in which a buffer is kept. -/
def backing : Buffer → ByteArray
  | packed data => data
  | shared data => data
  | view data _ _ => data

/-- The place in its backing at which a buffer begins. -/
def start : Buffer → Nat
  | packed _ => 0
  | shared _ => 0
  | view _ offset _ => offset.toNat

/-- A buffer that ends where its backing ends, or before. -/
def Inside (b : Buffer) : Prop := b.start + b.size ≤ b.backing.size

instance : DecidablePred Inside := fun _ => Nat.decLe _ _

/-- The bytes that a buffer names: as many as it claims, each the one at its place in the backing. -/
structure Names (b : Buffer) (bytes : ByteArray) : Prop where
  inside : b.Inside
  size_eq : bytes.size = b.size
  byte_eq : ∀ i < b.size, bytes[i]? = b.backing[b.start + i]?

/-- Two buffers whose windows have the same bytes, wherever they begin and whatever lies around them. -/
def SameWindow (a b : Buffer) : Prop :=
  a.size = b.size ∧ ∀ i < a.size, a.backing[a.start + i]? = b.backing[b.start + i]?

/-- A packed or shared buffer names all of its data. -/
theorem names_whole (whole : b = packed data ∨ b = shared data) : b.Names data := by
  rcases whole with rfl | rfl
  all_goals
    refine ⟨Nat.le_of_eq (Nat.zero_add _), rfl, fun i _ => ?_⟩
    rw [start, Nat.zero_add, backing]

theorem size_window (inside : b.Inside) :
    (b.backing.extract b.start (b.start + b.size)).size = b.size := by
  rw [ByteArray.size_extract, Nat.min_eq_left inside, Nat.add_sub_cancel_left]

theorem names_extract (inside : b.Inside) :
    b.Names (b.backing.extract b.start (b.start + b.size)) where
  inside := inside
  size_eq := size_window inside
  byte_eq := by
    intro i within
    have taken : i < (b.backing.extract b.start (b.start + b.size)).size :=
      (size_window inside).symm ▸ within
    have held : b.start + i < b.backing.size :=
      Nat.lt_of_lt_of_le (Nat.add_lt_add_left within _) inside
    rw [getElem?_pos _ i taken, getElem?_pos b.backing _ held, ByteArray.getElem_extract]

/-- A buffer names one byte string at most. -/
theorem Names.unique {other : ByteArray} (named : b.Names bytes) (also : b.Names other) :
    bytes = other := by
  have sizes : bytes.size = other.size := named.size_eq.trans also.size_eq.symm
  refine ByteArray.ext_getElem sizes fun i first second => ?_
  have within : i < b.size := named.size_eq ▸ first
  have same : bytes[i]? = other[i]? := (named.byte_eq i within).trans (also.byte_eq i within).symm
  rw [getElem?_pos bytes i first, getElem?_pos other i second] at same
  exact Option.some.inj same

theorem Names.transfer (named : a.Names bytes) (inside : b.Inside) (same : a.SameWindow b) :
    b.Names bytes where
  inside := inside
  size_eq := named.size_eq.trans same.1
  byte_eq := by
    intro i within
    have here : i < a.size := same.1 ▸ within
    exact (named.byte_eq i here).trans (same.2 i here)

theorem Names.sameWindow (first : a.Names bytes) (second : b.Names bytes) : a.SameWindow b := by
  have sizes : a.size = b.size := first.size_eq.symm.trans second.size_eq
  refine ⟨sizes, fun i within => ?_⟩
  exact (first.byte_eq i within).symm.trans (second.byte_eq i (sizes ▸ within))

/-- All shapes of buffers are read alike, by where they begin and how much they claim. -/
theorem window_eq (b : Buffer) : b.window =
    if b.Inside then .ok (b.backing.extract b.start (b.start + b.size))
    else .error (.viewOutOfBounds b.start b.size b.backing.size) := by
  cases b with
  | packed data =>
    have named := names_whole (b := packed data) (.inl rfl)
    rw [if_pos named.inside, (names_extract named.inside).unique named]
    rfl
  | shared data =>
    have named := names_whole (b := shared data) (.inr rfl)
    rw [if_pos named.inside, (names_extract named.inside).unique named]
    rfl
  | view data offset len => rfl

/-! ## What a buffer comes to -/

/-- What normalizing a buffer comes to. Of an empty window that begins behind the end it is told that it lies
outside, not that it is empty. -/
inductive Meaning (b : Buffer) : Except BufferError ByteArray → Prop where
  | outside (beyond : ¬ b.Inside) :
      Meaning b (.error (.viewOutOfBounds b.start b.size b.backing.size))
  | empty (inside : b.Inside) (empty : b.size = 0) : Meaning b (.error .empty)
  | image {bytes : ByteArray} (named : b.Names bytes) (filled : b.size ≠ 0) : Meaning b (.ok bytes)

variable {result : Except BufferError ByteArray}

/-- Every buffer comes to something. -/
theorem exists_meaning (b : Buffer) : ∃ result, Meaning b result := by
  by_cases inside : b.Inside
  · by_cases empty : b.size = 0
    · exact ⟨_, .empty inside empty⟩
    · exact ⟨_, .image (names_extract inside) empty⟩
  · exact ⟨_, .outside inside⟩

theorem Meaning.normalize_eq (meaning : Meaning b result) : b.normalize = result := by
  cases meaning with
  | outside beyond => rw [normalize, window_eq, if_neg beyond]
  | empty inside empty =>
    have nothing := (names_extract inside).size_eq.trans empty
    rw [normalize, window_eq, if_pos inside]
    exact if_pos nothing
  | @image bytes named filled =>
    have something : bytes.size ≠ 0 := named.size_eq ▸ filled
    rw [normalize, window_eq, if_pos named.inside, (names_extract named.inside).unique named]
    exact if_neg something

theorem normalize_eq_iff : b.normalize = result ↔ Meaning b result := by
  constructor
  · rintro rfl
    obtain ⟨result, meaning⟩ := exists_meaning b
    rw [meaning.normalize_eq]
    exact meaning
  · exact Meaning.normalize_eq

/-- Only a view can lie outside. -/
theorem exists_view_of_outside (beyond : ¬ b.Inside) : ∃ data offset len, b = view data offset len := by
  cases b with
  | packed data => exact absurd (names_whole (.inl rfl)).inside beyond
  | shared data => exact absurd (names_whole (.inr rfl)).inside beyond
  | view data offset len => exact ⟨data, offset, len, rfl⟩

/-- Buffers that lie inside mean the same just if their windows have the same bytes. -/
theorem normalize_eq_normalize_iff (first : a.Inside) (second : b.Inside) :
    a.normalize = b.normalize ↔ a.SameWindow b := by
  obtain ⟨result, meaning⟩ := exists_meaning a
  rw [meaning.normalize_eq, eq_comm, normalize_eq_iff]
  cases meaning with
  | outside beyond => exact absurd first beyond
  | empty _ empty =>
    constructor
    · rintro (_ | ⟨-, also⟩)
      exact ⟨empty.trans also.symm, fun i within => absurd within (by omega)⟩
    · intro same
      exact .empty second (same.1.symm.trans empty)
  | image named filled =>
    constructor
    · rintro (_ | _ | ⟨also, -⟩)
      exact named.sameWindow also
    · intro same
      exact .image (named.transfer second same) (same.1 ▸ filled)

/-! ## Normalizing with words -/

/-- The sum of two words, if it is a word. A sum that is too large wraps around, and is then smaller than either
part. -/
def checkedAdd (a b : UInt64) : Option UInt64 := if a ≤ a + b then some (a + b) else none

/-- The bytes from one place up to another. Places that are out of order or behind the end are a fault. -/
def slice? (data : ByteArray) (start stop : UInt64) : Option ByteArray :=
  if start ≤ stop ∧ stop.toNat ≤ data.size then some (data.extract start.toNat stop.toNat) else none

/-- The bytes that a buffer names, found by arithmetic on words; `none` is a fault. -/
def windowByWords : Buffer → Option (Except BufferError ByteArray)
  | packed data => some (.ok data)
  | shared data => some (.ok data)
  | view data offset len =>
    match (checkedAdd offset len).filter (·.toNat ≤ data.size) with
    | none => some (.error (.viewOutOfBounds offset.toNat len.toNat data.size))
    | some stop => (slice? data offset stop).map .ok

/-- Normalizing by arithmetic on words; `none` is a fault. -/
def normalizeByWords (b : Buffer) : Option (Except BufferError ByteArray) :=
  match b.windowByWords with
  | none => none
  | some (.error e) => some (.error e)
  | some (.ok bytes) => some (if bytes.size = 0 then .error .empty else .ok bytes)

variable {m n sum : UInt64}

theorem checkedAdd_eq_some_iff : checkedAdd m n = some sum ↔ sum.toNat = m.toNat + n.toNat := by
  have first := m.toNat_lt
  have second := n.toNat_lt
  have third := sum.toNat_lt
  have wrapped := UInt64.toNat_add m n
  have order : m ≤ m + n ↔ m.toNat ≤ (m + n).toNat := UInt64.le_iff_toNat_le
  unfold checkedAdd
  by_cases fits : m ≤ m + n
  · have above := order.mp fits
    rw [if_pos fits, Option.some.injEq, ← UInt64.toNat_inj]
    omega
  · have below := mt order.mpr fits
    rw [if_neg fits]
    refine iff_of_false (Option.some_ne_none sum).symm ?_
    omega

theorem checkedAdd_eq_none_iff : checkedAdd m n = none ↔ UInt64.size ≤ m.toNat + n.toNat := by
  constructor
  · intro wraps
    refine Nat.le_of_not_lt fun small => ?_
    have number : (UInt64.ofNat (m.toNat + n.toNat)).toNat = m.toNat + n.toNat :=
      UInt64.toNat_ofNat_of_lt' small
    rw [checkedAdd_eq_some_iff.mpr number] at wraps
    cases wraps
  · intro large
    cases found : checkedAdd m n with
    | none => rfl
    | some sum =>
      have number := checkedAdd_eq_some_iff.mp found
      have bound := UInt64.toNat_lt_size sum
      omega

/-- The bytes that a buffer names are found without a fault, and where a word counts the bytes of the backing,
what is found is what is named. -/
theorem exists_windowByWords (b : Buffer) : ∃ found, b.windowByWords = some found ∧
    (b.backing.size < UInt64.size → found = b.window) := by
  cases b with
  | packed data => exact ⟨_, rfl, fun _ => rfl⟩
  | shared data => exact ⟨_, rfl, fun _ => rfl⟩
  | view data offset len =>
    cases sum : checkedAdd offset len with
    | none =>
      -- A word cannot hold the end, so a backing that a word counts ends before it.
      have large := checkedAdd_eq_none_iff.mp sum
      refine ⟨.error (.viewOutOfBounds offset.toNat len.toNat data.size), ?_, fun small => ?_⟩
      · rw [windowByWords, sum, Option.filter_none]
      · have beyond : ¬ offset.toNat + len.toNat ≤ data.size := by
          change data.size < UInt64.size at small
          omega
        rw [window, if_neg beyond]
    | some stop =>
      -- The sum did not wrap: places are in order, and only the end of the data can be passed.
      have exact_sum := checkedAdd_eq_some_iff.mp sum
      by_cases inside : stop.toNat ≤ data.size
      · have ordered : offset ≤ stop := by
          rw [UInt64.le_iff_toNat_le]
          omega
        refine ⟨.ok (data.extract offset.toNat stop.toNat), ?_, fun _ => ?_⟩
        · rw [windowByWords, sum, Option.filter_some, if_pos (decide_eq_true inside)]
          exact congrArg (Option.map Except.ok) (if_pos ⟨ordered, inside⟩)
        · rw [exact_sum] at inside ⊢
          rw [window, if_pos inside]
      · refine ⟨.error (.viewOutOfBounds offset.toNat len.toNat data.size), ?_, fun _ => ?_⟩
        · rw [windowByWords, sum, Option.filter_some, if_neg (by simpa using inside)]
        · rw [exact_sum] at inside
          rw [window, if_neg inside]

theorem exists_normalizeByWords (b : Buffer) : ∃ result, b.normalizeByWords = some result ∧
    (b.backing.size < UInt64.size → result = b.normalize) := by
  obtain ⟨window, found, agrees⟩ := exists_windowByWords b
  unfold normalizeByWords normalize
  rw [found]
  cases window with
  | error e => exact ⟨_, rfl, fun small => by rw [← agrees small]⟩
  | ok bytes => exact ⟨_, rfl, fun small => by rw [← agrees small]⟩

/-- **What a buffer means.** Normalizing by words never takes bytes from outside the data, not even where offset
and length add up to more than a word, and for every backing whose bytes a word counts it comes to what
normalizing with unbounded numbers does. That tells offset, length and capacity just of a view that ends behind
its backing; it tells emptiness just of a buffer that lies inside and claims nothing; and of every other buffer it
gives the bytes that the buffer names, which are all of the data where that is packed or shared. Buffers inside
their backings mean the same just if their windows have the same bytes, and what was given means itself when it
is wrapped again. -/
theorem buffer_means_the_bytes_it_names (b : Buffer) :
    (∃ result, b.normalizeByWords = some result ∧
      (b.backing.size < UInt64.size → result = b.normalize)) ∧
    (∀ place claimed capacity, b.normalize = .error (.viewOutOfBounds place claimed capacity) ↔
      ∃ data offset len, b = view data offset len ∧ data.size < offset.toNat + len.toNat ∧
        place = offset.toNat ∧ claimed = len.toNat ∧ capacity = data.size) ∧
    (b.normalize = .error .empty ↔ b.Inside ∧ b.size = 0) ∧
    (b.Inside → b.size ≠ 0 → ∃ bytes, b.normalize = .ok bytes ∧ b.Names bytes) ∧
    (∀ data, b = packed data ∨ b = shared data → b.Names data) ∧
    (∀ other, b.Inside → other.Inside → (b.normalize = other.normalize ↔ b.SameWindow other)) ∧
    ∀ bytes, b.normalize = .ok bytes → (shared bytes).normalize = .ok bytes := by
  refine ⟨exists_normalizeByWords b, fun place claimed capacity => ?_, ?_, fun inside filled => ?_,
    fun data => names_whole, fun other => normalize_eq_normalize_iff, fun bytes given => ?_⟩
  · rw [normalize_eq_iff]
    constructor
    · rintro ⟨beyond⟩
      obtain ⟨data, offset, len, rfl⟩ := exists_view_of_outside beyond
      exact ⟨data, offset, len, rfl, Nat.lt_of_not_le beyond, rfl, rfl, rfl⟩
    · rintro ⟨data, offset, len, rfl, beyond, rfl, rfl, rfl⟩
      exact .outside (Nat.not_le_of_lt beyond)
  · rw [normalize_eq_iff]
    constructor
    · rintro (_ | ⟨inside, empty⟩)
      exact ⟨inside, empty⟩
    · rintro ⟨inside, empty⟩
      exact .empty inside empty
  · have named := names_extract inside
    exact ⟨_, Meaning.normalize_eq (.image named filled), named⟩
  · rw [normalize_eq_iff] at given ⊢
    cases given with
    | image named filled =>
      exact .image (names_whole (.inr rfl)) fun empty => filled (named.size_eq.symm.trans empty)

/-- Three bytes in the middle of six are those three bytes. -/
theorem window_means_its_packed_copy :
    let part := view ⟨#[0, 0, 7, 8, 9, 0]⟩ 2 3
    let copy := packed ⟨#[7, 8, 9]⟩
    part.backing.size < UInt64.size ∧ part.Inside ∧ part.size ≠ 0 ∧ copy.Inside ∧
      part.SameWindow copy ∧ part.normalizeByWords = some part.normalize ∧
      part.normalize = copy.normalize ∧
      ∃ bytes, part.normalize = .ok bytes ∧ (shared bytes).normalize = .ok bytes := by
  intro part copy
  have small : part.backing.size < UInt64.size := by decide
  have inside : part.Inside := by decide
  have filled : part.size ≠ 0 := by decide
  have whole : copy.Inside := by decide
  have same : part.SameWindow copy := ⟨rfl, by decide⟩
  obtain ⟨⟨result, found, agrees⟩, -, -, gives, -, pairs, again⟩ :=
    buffer_means_the_bytes_it_names part
  obtain ⟨bytes, given, -⟩ := gives inside filled
  refine ⟨small, inside, filled, whole, same, ?_, (pairs copy inside whole).mpr same, bytes, given,
    again bytes given⟩
  rw [found, agrees small]

/-- A sum that wrapped around would lie inside, and taking bytes up to it would be a fault. -/
example : slice? ⟨#[0, 0, 0, 0]⟩ 18446744073709551615 (18446744073709551615 + 2) = none := by decide

/-- An empty view may begin at the end, and then it is empty; behind the end it lies outside. -/
example : (view ⟨#[7]⟩ 1 0).normalize = .error .empty ∧
    (view ⟨#[7]⟩ 2 0).normalize = .error (.viewOutOfBounds 2 0 1) := ⟨rfl, rfl⟩

end Silhouette.Buffer
