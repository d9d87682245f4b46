import Silhouette.Command.Configuration
import Silhouette.Proofs.DocumentLines

/-! What becomes of keys that a configuration does not know. At the top and in the sections for the service and for the
relay such a key makes the whole configuration unreadable, wherever in the text a line names it. In the section
for removals it is passed over: the configuration is the same as without it. -/
namespace Silhouette.Command

open Toml (Members Value)
open Toml.Members (Holds)

/-- The tables of a configuration that have keys of their own. -/
inductive ConfigTable where
  | top
  | service
  | removal
  | relay
  deriving DecidableEq

namespace ConfigTable

/-- The keys of a table. -/
def keys : ConfigTable → List String
  | top => ["transform", "pipeline", "proxy"]
  | service => ["endpoint", "api_key", "api_key_header", "timeout_secs"]
  | removal => ["load_timeout_ms", "decode_timeout_ms", "name_suffix"]
  | relay => ["bind", "save_dir", "allowed_origins"]

/-- Where a table stands in a document. -/
def path : ConfigTable → List String
  | top => []
  | service => ["transform"]
  | removal => ["pipeline"]
  | relay => ["proxy"]

/-- A document has a key in a table that is none of the table's keys. -/
def Strays (p : ConfigTable) (document : Members) : Prop :=
  ∃ k, k ∉ p.keys ∧ Holds document (p.path ++ [k])

theorem own_of_not_strays {p : ConfigTable} {document : Members} {k : String}
    (clear : ¬ p.Strays document) (holds : Holds document (p.path ++ [k])) : k ∈ p.keys := by
  by_cases own : k ∈ p.keys
  · exact own
  · exact absurd ⟨k, own, holds⟩ clear

end ConfigTable

/-- The members with some keys only. -/
def known (keys : List String) (ms : Members) : Members := ms.filter fun m => keys.contains m.1

/-- A table, or a list of tables, with some keys only. -/
def knownIn (keys : List String) : Value → Value
  | .table kind inner => .table kind (known keys inner)
  | .tables all => .tables (all.map (known keys))
  | v => v

/-- The keys of the table below a key of the document. -/
def keysUnder (name : String) : List String :=
  if name = "transform" then ConfigTable.service.keys
  else if name = "pipeline" then ConfigTable.removal.keys
  else ConfigTable.relay.keys

/-- A document without the keys that are not those of their tables. -/
def withoutStrays (document : Members) : Members :=
  (known ConfigTable.top.keys document).map fun m => (m.1, knownIn (keysUnder m.1) m.2)

/-! ## The keys of one table -/

/-- A table, or one of a list of tables, has a key. -/
inductive HasKey (k : String) : Value → Prop where
  | table {kind : Toml.TableKind} {inner : Members} (there : ∃ m ∈ inner, m.1 = k) :
      HasKey k (.table kind inner)
  | tables {all : List Members} {inner : Members} (one : inner ∈ all) (there : ∃ m ∈ inner, m.1 = k) :
      HasKey k (.tables all)

variable {keys : List String} {ms document : Members} {v : Value} {k name : String}

theorem holds_key_iff : Holds ms [k] ↔ ∃ m ∈ ms, m.1 = k := by
  rw [← Members.exists_get?_iff]
  constructor
  · rintro (found | ⟨-, ⟨⟩⟩ | ⟨-, -, ⟨⟩⟩)
    exact ⟨_, found⟩
  · rintro ⟨v, found⟩
    exact .key found

theorem holds_below_iff :
    Holds document [name, k] ↔ ∃ v, Members.get? document name = some v ∧ HasKey k v := by
  constructor
  · intro holds
    cases holds with
    | table found below => exact ⟨_, found, .table (holds_key_iff.mp below)⟩
    | tables found one below => exact ⟨_, found, .tables one (holds_key_iff.mp below)⟩
  · rintro ⟨v, found, has⟩
    cases has with
    | table there => exact .table found (holds_key_iff.mpr there)
    | tables one there => exact .tables found one (holds_key_iff.mpr there)

theorem mem_known {m : String × Value} : m ∈ known keys ms ↔ m ∈ ms ∧ m.1 ∈ keys := by
  simp [known]

theorem get?_known (own : k ∈ keys) (ms : Members) :
    Members.get? (known keys ms) k = Members.get? ms k := by
  unfold Members.get? known
  rw [List.find?_filter]
  congr 2
  funext m
  by_cases same : m.1 = k
  · simp [same, own]
  · simp [same]

theorem known_eq_self (all : ∀ m ∈ ms, m.1 ∈ keys) : known keys ms = ms := by
  refine List.filter_eq_self.mpr ?_
  intro m here
  simpa using all m here

/-- Nothing is taken from a table that has no other keys. -/
theorem knownIn_eq_self (own : ∀ k, HasKey k v → k ∈ keys) : knownIn keys v = v := by
  cases v with
  | table kind inner =>
    have all : ∀ m ∈ inner, m.1 ∈ keys := fun m here => own m.1 (.table ⟨m, here, rfl⟩)
    rw [knownIn, known_eq_self all]
  | tables all =>
    have each : ∀ inner ∈ all, known keys inner = inner := by
      intro inner one
      exact known_eq_self fun m here => own m.1 (.tables one ⟨m, here, rfl⟩)
    rw [knownIn, List.map_congr_left each, List.map_id']
  | _ => rfl

theorem mem_of_hasKey_knownIn (has : HasKey k (knownIn keys v)) : k ∈ keys := by
  cases v with
  | table kind inner =>
    obtain ⟨m, here, rfl⟩ | _ := has
    exact (mem_known.mp here).2
  | tables all =>
    obtain _ | ⟨one, m, here, rfl⟩ := has
    obtain ⟨inner, -, rfl⟩ := List.mem_map.mp one
    exact (mem_known.mp here).2
  | _ => cases has

/-- A strict section refuses a key that is not its own. -/
theorem sectionValues?_of_stray (has : HasKey k v) (other : k ∉ keys) :
    sectionValues? true keys v = none := by
  cases has with
  | table there =>
    obtain ⟨m, here, rfl⟩ := there
    simp only [sectionValues?, Bool.true_and]
    rw [if_pos]
    simp only [Bool.not_eq_true', List.all_eq_false]
    exact ⟨m, here, by simpa using other⟩
  | tables one there => rfl

theorem sectionValues?_of_own (strict : Bool) (kind : Toml.TableKind)
    (own : ∀ m ∈ ms, m.1 ∈ keys) :
    sectionValues? strict keys (.table kind ms) = some (keys.map fun k => Members.get? ms k) := by
  have accepted : ms.all (fun m => keys.contains m.1) = true := by simpa using own
  rw [sectionValues?, accepted]
  simp

/-- Keys that a section does not know make no difference to a lenient one. -/
theorem sectionValues?_knownIn (keys : List String) (v : Value) :
    sectionValues? false keys (knownIn keys v) = sectionValues? false keys v := by
  cases v with
  | table kind inner =>
    have values : (keys.map fun k => Members.get? (known keys inner) k) =
        keys.map fun k => Members.get? inner k :=
      List.map_congr_left fun k own => get?_known own inner
    simp [knownIn, sectionValues?, values]
  | _ => rfl

/-! ## The whole document -/

theorem service_ofValue?_of_stray (has : HasKey k v) (other : k ∉ ConfigTable.service.keys) :
    ServiceSection.ofValue? v = none := by
  simp only [ServiceSection.ofValue?]
  rw [show ["endpoint", "api_key", "api_key_header", "timeout_secs"] = ConfigTable.service.keys from rfl,
    sectionValues?_of_stray has other]

theorem relay_ofValue?_of_stray (has : HasKey k v) (other : k ∉ ConfigTable.relay.keys) :
    RelaySection.ofValue? v = none := by
  simp only [RelaySection.ofValue?]
  rw [show ["bind", "save_dir", "allowed_origins"] = ConfigTable.relay.keys from rfl,
    sectionValues?_of_stray has other]

theorem removalSection?_knownIn (v : Value) :
    removalSection? (knownIn ConfigTable.removal.keys v) = removalSection? v := by
  simp only [removalSection?]
  rw [show ["load_timeout_ms", "decode_timeout_ms", "name_suffix"] = ConfigTable.removal.keys from rfl,
    sectionValues?_knownIn]

namespace Configuration

/-- The configuration that three sections make, each of which may be missing. -/
def ofSections? (service removal relay : Option Value) : Option Configuration := do
  let service ← optional? ServiceSection.ofValue? service
  let removal ← optional? removalSection? removal
  let relay ← optional? RelaySection.ofValue? relay
  return ⟨service.getD usual.service, removal.getD usual.removal, relay.getD usual.relay⟩

/-- The configuration that a document makes. -/
def ofMembers? (document : Members) : Option Configuration :=
  match sectionValues? true ConfigTable.top.keys (.table .header document) with
  | some [service, removal, relay] => ofSections? service removal relay
  | _ => none

theorem read?_eq (text : String) : read? text = (Toml.read? text).bind ofMembers? := rfl

theorem ofMembers?_of_stray (other : k ∉ ConfigTable.top.keys) (there : ∃ m ∈ document, m.1 = k) :
    ofMembers? document = none := by
  rw [ofMembers?, sectionValues?_of_stray (.table there) other]

theorem ofMembers?_of_own (own : ∀ m ∈ document, m.1 ∈ ConfigTable.top.keys) :
    ofMembers? document = ofSections? (Members.get? document "transform")
      (Members.get? document "pipeline") (Members.get? document "proxy") := by
  rw [ofMembers?, sectionValues?_of_own true .header own]
  rfl

theorem ofSections?_of_service {removal relay : Option Value}
    (refused : ServiceSection.ofValue? v = none) : ofSections? (some v) removal relay = none := by
  simp [ofSections?, optional?, refused]

theorem ofSections?_of_relay {service removal : Option Value}
    (refused : RelaySection.ofValue? v = none) : ofSections? service removal (some v) = none := by
  simp [ofSections?, optional?, refused]

end Configuration

theorem get?_withoutStrays (own : name ∈ ConfigTable.top.keys) (document : Members) :
    Members.get? (withoutStrays document) name =
      (Members.get? document name).map (knownIn (keysUnder name)) := by
  rw [← get?_known own document]
  unfold withoutStrays
  induction known ConfigTable.top.keys document with
  | nil => rfl
  | cons m rest ih =>
    obtain ⟨a, w⟩ := m
    rw [List.map_cons, Members.get?_cons, Members.get?_cons, ih]
    by_cases same : a = name
    · subst same
      rw [if_pos rfl, if_pos rfl, Option.map_some]
    · rw [if_neg same, if_neg same]

theorem withoutStrays_own (document : Members) : ∀ m ∈ withoutStrays document, m.1 ∈ ConfigTable.top.keys := by
  intro m here
  obtain ⟨old, there, rfl⟩ := List.mem_map.mp here
  exact (mem_known.mp there).2

/-- What is left of a document has no key that is not documented. -/
theorem not_strays_withoutStrays (p : ConfigTable) (document : Members) : ¬ p.Strays (withoutStrays document) := by
  have below : ∀ name ∈ ConfigTable.top.keys, ∀ k, Holds (withoutStrays document) [name, k] →
      k ∈ keysUnder name := by
    intro name own k holds
    obtain ⟨v, found, has⟩ := holds_below_iff.mp holds
    rw [get?_withoutStrays own] at found
    obtain ⟨old, -, rfl⟩ := Option.map_eq_some_iff.mp found
    exact mem_of_hasKey_knownIn has
  rintro ⟨k, other, holds⟩
  cases p with
  | top =>
    obtain ⟨m, here, rfl⟩ := holds_key_iff.mp holds
    exact other (withoutStrays_own document m here)
  | service => exact other (below "transform" (by decide) k holds)
  | removal => exact other (below "pipeline" (by decide) k holds)
  | relay => exact other (below "proxy" (by decide) k holds)

theorem map_knownIn_eq_self {p : ConfigTable} (path : p.path = [name]) (clear : ¬ p.Strays document) :
    (Members.get? document name).map (knownIn p.keys) = Members.get? document name := by
  cases found : Members.get? document name with
  | none => rfl
  | some v =>
    rw [Option.map_some, knownIn_eq_self]
    intro k has
    have holds : Holds document (p.path ++ [k]) := by
      rw [path]
      exact holds_below_iff.mpr ⟨v, found, has⟩
    exact ConfigTable.own_of_not_strays clear holds

theorem own_of_not_strays_top (clear : ¬ ConfigTable.top.Strays document) :
    ∀ m ∈ document, m.1 ∈ ConfigTable.top.keys := by
  intro m here
  exact ConfigTable.own_of_not_strays clear (holds_key_iff.mpr ⟨m, here, rfl⟩)

/-- A key that is not documented keeps a document from being read, but for one in the section for removals. -/
theorem ofMembers?_of_strays {p : ConfigTable} (strict : p ≠ .removal) (strays : p.Strays document) :
    Configuration.ofMembers? document = none := by
  by_cases top : ConfigTable.top.Strays document
  · obtain ⟨k, other, holds⟩ := top
    exact Configuration.ofMembers?_of_stray other (holds_key_iff.mp holds)
  · rw [Configuration.ofMembers?_of_own (own_of_not_strays_top top)]
    obtain ⟨k, other, holds⟩ := strays
    cases p with
    | top => exact absurd ⟨k, other, holds⟩ top
    | service =>
      obtain ⟨v, found, has⟩ := holds_below_iff.mp holds
      rw [found]
      exact Configuration.ofSections?_of_service (service_ofValue?_of_stray has other)
    | removal => exact absurd rfl strict
    | relay =>
      obtain ⟨v, found, has⟩ := holds_below_iff.mp holds
      rw [found]
      exact Configuration.ofSections?_of_relay (relay_ofValue?_of_stray has other)

/-- Where no other section has one, the keys in the section for removals that are not documented make no
difference. -/
theorem ofMembers?_withoutStrays (clear : ∀ p, p ≠ ConfigTable.removal → ¬ p.Strays document) :
    Configuration.ofMembers? (withoutStrays document) = Configuration.ofMembers? document := by
  have service : (Members.get? document "transform").map (knownIn (keysUnder "transform")) =
      Members.get? document "transform" :=
    map_knownIn_eq_self (p := .service) rfl (clear .service (by decide))
  have relay : (Members.get? document "proxy").map (knownIn (keysUnder "proxy")) =
      Members.get? document "proxy" :=
    map_knownIn_eq_self (p := .relay) rfl (clear .relay (by decide))
  have removal : ∀ found : Option Value,
      optional? removalSection? (found.map (knownIn (keysUnder "pipeline"))) =
        optional? removalSection? found := by
    intro found
    cases found with
    | none => rfl
    | some v => exact congrArg (Option.map some) (removalSection?_knownIn v)
  rw [Configuration.ofMembers?_of_own (own_of_not_strays_top (clear .top (by decide))),
    Configuration.ofMembers?_of_own (withoutStrays_own document),
    get?_withoutStrays (by decide), get?_withoutStrays (by decide), get?_withoutStrays (by decide),
    service, relay]
  simp only [Configuration.ofSections?, removal]

/-- A key that a line names and no table knows is in the document. At the top and in the sections for the service and
for the relay it keeps the text from being a configuration. In the section for removals, where there is none
elsewhere, the configuration is that of the document without it. -/
theorem stray_keys_are_refused_but_for_removals {text : String} (read : Toml.read? text = some document) :
    (∀ lines, Toml.lines? text = some lines → ∀ (p : ConfigTable) (k : String) (below : List String),
      Toml.Statement.Named [] lines (p.path ++ k :: below) → k ∉ p.keys → p.Strays document) ∧
    ((∃ p, p ≠ ConfigTable.removal ∧ p.Strays document) → Configuration.read? text = none) ∧
    ((∀ p, p ≠ ConfigTable.removal → ¬ p.Strays document) →
      Configuration.read? text = Configuration.ofMembers? (withoutStrays document) ∧
        ∀ p : ConfigTable, ¬ p.Strays (withoutStrays document)) := by
  have made : Configuration.read? text = Configuration.ofMembers? document := by
    rw [Configuration.read?_eq, read, Option.bind_some]
  rw [made]
  refine ⟨?_, ?_, ?_⟩
  · intro lines written p k below named other
    exact ⟨k, other, (Toml.holds_of_named written read named).front⟩
  · rintro ⟨p, strict, strays⟩
    exact ofMembers?_of_strays strict strays
  · intro clear
    exact ⟨(ofMembers?_withoutStrays clear).symm, fun p => not_strays_withoutStrays p document⟩

theorem misspelt_key_is_refused :
    ∃ document, Toml.read? "[transform]\napikey = 'k'" = some document ∧
      ConfigTable.service.Strays document ∧ Configuration.read? "[transform]\napikey = 'k'" = none := by
  have found : ((Toml.read? "[transform]\napikey = 'k'").any fun document =>
      Holds document ["transform", "apikey"]) = true := by decide +kernel
  obtain ⟨document, read, holds⟩ := (Option.any_eq_true _ _).mp found
  have strays : ConfigTable.service.Strays document := ⟨"apikey", by decide, of_decide_eq_true holds⟩
  obtain ⟨-, refused, -⟩ := stray_keys_are_refused_but_for_removals read
  exact ⟨document, read, strays, refused ⟨.service, by decide, strays⟩⟩

/-- A misspelt key in the section for removals is not refused. -/
theorem misspelt_time_limit_is_passed_over :
    ¬ ∀ (text : String) (document : Members), Toml.read? text = some document →
      (∃ p : ConfigTable, p.Strays document) → Configuration.read? text = none := by
  intro refused
  have found : ((Toml.read? "[pipeline]\nload_timout_ms = 1").any fun document =>
      Holds document ["pipeline", "load_timout_ms"]) = true := by decide +kernel
  have accepted : (Configuration.read? "[pipeline]\nload_timout_ms = 1").isSome = true := by
    decide +kernel
  obtain ⟨document, read, holds⟩ := (Option.any_eq_true _ _).mp found
  have strays : ConfigTable.removal.Strays document :=
    ⟨"load_timout_ms", by decide, of_decide_eq_true holds⟩
  rw [refused _ document read ⟨_, strays⟩] at accepted
  cases accepted

end Silhouette.Command
