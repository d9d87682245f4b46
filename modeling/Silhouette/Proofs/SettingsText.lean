import Silhouette.Removal.Settings
import Silhouette.Proofs.JsonWriting

/-! The settings of a removal as JSON. Whatever they are, their text is read back. What is lost is less than a
millisecond of each limit, and what is beyond a word of milliseconds; so a second text is the same as the first.
Members that are left out have their usual values, and the others do not notice. -/
namespace Silhouette

namespace RemovalSettings

open Json

/-- The members that the settings are written with. -/
def members (s : RemovalSettings) : List (String × String) :=
  [("load_timeout_ms", toString (wholeMillis s.loadTimeout)),
    ("decode_timeout_ms", toString (wholeMillis s.decodeTimeout)),
    ("name_suffix", quote s.nameSuffix)]

/-- The text of the settings with some members left out. -/
def jsonWithout (omitted : List String) (s : RemovalSettings) : String :=
  object (s.members.filter fun m => m.1 ∉ omitted)

/-- The members as they are read. -/
def fields (s : RemovalSettings) : List (String × Tree) :=
  [("load_timeout_ms", .number (.ofNat (wholeMillis s.loadTimeout))),
    ("decode_timeout_ms", .number (.ofNat (wholeMillis s.decodeTimeout))),
    ("name_suffix", .string (spelled s.nameSuffix))]

/-- What is read for a duration: its whole milliseconds, as many as a word holds. -/
structure WholeMillisOf (d d' : Duration) : Prop where
  nanos : d'.nanos = min (d.nanos / 1000000) 0xffffffffffffffff * 1000000
  never_longer : d'.nanos ≤ d.nanos
  near : d.nanos < 0x10000000000000000 * 1000000 → d.nanos < d'.nanos + 1000000
  whole : ∀ n < 0x10000000000000000, d = .ofMillis n → d' = d

variable (s : RemovalSettings) (omitted : List String)

theorem writesMembers : WritesMembers s.members s.fields :=
  .cons ⟨rfl, writes_nat _⟩ <| .cons ⟨rfl, writes_nat _⟩ <| .cons ⟨rfl, writes_quote _⟩ .nil

theorem read_jsonWithout :
    Tree.read? (s.jsonWithout omitted) =
      some (.object ((s.fields.filter fun f => f.1 ∉ omitted).map fun f => (spelled f.1, f.2))) := by
  have writes : WritesMembers (s.members.filter fun m => m.1 ∉ omitted)
      (s.fields.filter fun f => f.1 ∉ omitted) :=
    List.rel_filter (fun m f both => by simp [both.1]) s.writesMembers
  exact (writes_object writes).read

/-- The settings that are read where some members are left out. -/
def readBack : RemovalSettings :=
  ⟨if "load_timeout_ms" ∈ omitted then defaultLoadTimeout else .ofMillis (wholeMillis s.loadTimeout),
    if "decode_timeout_ms" ∈ omitted then defaultDecodeTimeout else .ofMillis (wholeMillis s.decodeTimeout),
    if "name_suffix" ∈ omitted then defaultNameSuffix else s.nameSuffix⟩

private theorem orDefault?_ite {α : Type} {read : Tree → Option α} {t : Tree} {v : α} (value : read t = some v)
    (usual : α) (name : String) :
    orDefault? read usual (if decide (name ∉ omitted) = true then some t else none) =
      some (if name ∈ omitted then usual else v) := by
  by_cases left : name ∈ omitted <;> simp [left, orDefault?, value]

private theorem millis?_wholeMillis (d : Duration) :
    millis? (.number (.ofNat (wholeMillis d))) = some (.ofMillis (wholeMillis d)) := by
  have fits : wholeMillis d ≤ 0xffffffffffffffff := Nat.min_le_right ..
  simp [millis?, Tree.nat?, Literal.toNat?_ofNat fits]

/-- A text without some of the members is read, each of these as its usual value. -/
theorem ofJson?_jsonWithout : ofJson? (s.jsonWithout omitted) = some (s.readBack omitted) := by
  have distinct : ((s.fields.filter fun f => f.1 ∉ omitted).map Prod.fst).Nodup := by
    have names : (s.fields.map Prod.fst).Nodup := by simp [fields]
    exact names.sublist (List.filter_sublist.map Prod.fst)
  have found := fun name => Tree.member?_filter (fun name => decide (name ∉ omitted)) name s.fields
  rw [ofJson?, read_jsonWithout, Option.bind_some, ofTree?, Tree.fields?_spelled _ distinct]
  simp only [List.map_cons, List.map_nil, found]
  have load : Tree.member? "load_timeout_ms" (s.fields.map fun f => (spelled f.1, f.2)) =
      some (.number (.ofNat (wholeMillis s.loadTimeout))) := by
    simp [fields, Tree.member?_cons]
  have decode : Tree.member? "decode_timeout_ms" (s.fields.map fun f => (spelled f.1, f.2)) =
      some (.number (.ofNat (wholeMillis s.decodeTimeout))) := by
    simp [fields, Tree.member?_cons, spelled_inj]
  have suffix : Tree.member? "name_suffix" (s.fields.map fun f => (spelled f.1, f.2)) =
      some (.string (spelled s.nameSuffix)) := by
    simp [fields, Tree.member?_cons, spelled_inj]
  have text : Tree.text? (.string (spelled s.nameSuffix)) = some s.nameSuffix := text?_spelled s.nameSuffix
  rw [load, decode, suffix, ofFields?, orDefault?_ite omitted (millis?_wholeMillis s.loadTimeout),
    orDefault?_ite omitted (millis?_wholeMillis s.decodeTimeout), orDefault?_ite omitted text]
  rfl

theorem wholeMillisOf (d : Duration) : WholeMillisOf d (.ofMillis (wholeMillis d)) where
  nanos := rfl
  never_longer := by
    simp only [Duration.ofMillis, wholeMillis, Duration.millis]
    omega
  near below := by
    simp only [Duration.ofMillis, wholeMillis, Duration.millis]
    omega
  whole n fits same := by
    subst same
    have all : n * 1000000 / 1000000 = n := Nat.mul_div_cancel n (by decide)
    simp only [Duration.ofMillis, wholeMillis, Duration.millis, all]
    rw [Nat.min_eq_left (by omega)]

/-- A second text has the same milliseconds. -/
theorem wholeMillis_ofMillis (d : Duration) : wholeMillis (.ofMillis (wholeMillis d)) = wholeMillis d := by
  simp only [Duration.ofMillis, wholeMillis, Duration.millis]
  omega

/-- **Settings survive their text.** Their text is read back, with the same ending of names and with the whole
milliseconds of both limits, as many as a word holds. What is read is written as the same text. A text that leaves
members out is read as well: these have their usual values, and the others are what they are without it. -/
theorem settings_survive_their_text (s : RemovalSettings) :
    ∃ back, ofJson? s.json = some back ∧ back.json = s.json ∧
      back.nameSuffix = s.nameSuffix ∧ WholeMillisOf s.loadTimeout back.loadTimeout ∧
      WholeMillisOf s.decodeTimeout back.decodeTimeout ∧
      s.jsonWithout [] = s.json ∧ ∀ omitted, ∃ part, ofJson? (s.jsonWithout omitted) = some part ∧
        part.loadTimeout = (if "load_timeout_ms" ∈ omitted then default.loadTimeout else back.loadTimeout) ∧
        part.decodeTimeout =
          (if "decode_timeout_ms" ∈ omitted then default.decodeTimeout else back.decodeTimeout) ∧
        part.nameSuffix = (if "name_suffix" ∈ omitted then default.nameSuffix else back.nameSuffix) := by
  have whole : s.jsonWithout [] = s.json := by simp [jsonWithout, members, json]
  refine ⟨s.readBack [], ?_, ?_, rfl, wholeMillisOf _, wholeMillisOf _, whole, fun omitted =>
    ⟨s.readBack omitted, s.ofJson?_jsonWithout omitted, rfl, rfl, rfl⟩⟩
  · rw [← whole]
    exact s.ofJson?_jsonWithout []
  · simp [json, readBack, wholeMillis_ofMillis]

end RemovalSettings

end Silhouette
