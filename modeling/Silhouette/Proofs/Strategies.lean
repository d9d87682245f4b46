import Silhouette.Proofs.Integrity

/-! The order in which ways to come by the data of a costume are tried, and what each of them comes to. What a
strategy comes to is said of the tables of storage and of buffers alone; from it follow the result, every
attempt that is told of, and what is counted. A malformed buffer counts as one failed attempt and stops
nothing. Loading has failed at the deadline only if the clock shows it before the data is there. -/
namespace Silhouette

namespace Resolve

/-- What a buffer that may be absent comes to as data: the bytes that it names, if there are any. -/
inductive Carries : Option Buffer → Except AttemptOutcome ByteArray → Prop where
  | absent : Carries none (.error .missing)
  | outside (named : buffer.window = .error e) : Carries (some buffer) (.error (.failed e.message))
  | empty (named : buffer.window = .ok bytes) (empty : bytes.size = 0) :
      Carries (some buffer) (.error (.failed BufferError.empty.message))
  | usable (named : buffer.window = .ok bytes) (filled : bytes.size ≠ 0) :
      Carries (some buffer) (.ok bytes)

/-- Loads from storage are over before a deadline: they take no time, or no more ticks of the clock than the
deadline. -/
def Prompt (s : Storage) (timeout : Duration) : Prop :=
  ∀ latency, s.latency = some latency → latency.ticks ≤ timeout.ticks

/-- What each strategy comes to for a costume, with everything in memory. -/
inductive Attempted (s : Storage) (timeout : Duration) (costume : Costume) :
    Strategy → Except AttemptOutcome ByteArray → Prop where
  | resident (carries : Carries costume.asset.data outcome) :
      Attempted s timeout costume .resident outcome
  | uncached (absent : s.cache.get? costume.asset.id = none) :
      Attempted s timeout costume .cache (.error .missing)
  | cached (held : s.cache.get? costume.asset.id = some asset) (carries : Carries asset.data outcome) :
      Attempted s timeout costume .cache outcome
  | untagged (none : costume.format.extension = "") :
      Attempted s timeout costume .loader (.error (.skipped "format unknown"))
  | late (tagged : costume.format.extension ≠ "") (late : ¬ Prompt s timeout) :
      Attempted s timeout costume .loader (.error (.timedOut timeout))
  | unstored (tagged : costume.format.extension ≠ "") (prompt : Prompt s timeout)
      (absent : s.stored.get? costume.asset.storageKey = none) :
      Attempted s timeout costume .loader
        (.error (.failed (HostError.notFound costume.asset.storageKey.text).message))
  | stored (tagged : costume.format.extension ≠ "") (prompt : Prompt s timeout)
      (held : s.stored.get? costume.asset.storageKey = some bytes)
      (carries : Carries (some (.shared bytes)) outcome) :
      Attempted s timeout costume .loader outcome

/-- How resolving a costume ends, with the lookups and loads that it makes. -/
inductive Resolves (s : Storage) (timeout : Duration) (costume : Costume) :
    Except RemovalError ResolvedSource → Nat → Nat → Prop where
  | vector (svg : costume.format = .svg) :
      Resolves s timeout costume (.error (.unsupportedFormat .svg)) 0 0
  | resident (raster : costume.format ≠ .svg)
      (first : Attempted s timeout costume .resident (.ok bytes)) :
      Resolves s timeout costume
        (.ok ⟨bytes, costume.format, .resident, uploadName costume.format⟩) 0 0
  | cache (raster : costume.format ≠ .svg)
      (first : Attempted s timeout costume .resident (.error o))
      (second : Attempted s timeout costume .cache (.ok bytes)) :
      Resolves s timeout costume
        (.ok ⟨bytes, costume.format, .cache, uploadName costume.format⟩) 1 0
  | loader (raster : costume.format ≠ .svg)
      (first : Attempted s timeout costume .resident (.error o))
      (second : Attempted s timeout costume .cache (.error o'))
      (third : Attempted s timeout costume .loader (.ok bytes)) :
      Resolves s timeout costume
        (.ok ⟨bytes, costume.format, .loader, uploadName costume.format⟩) 1 1
  | nowhere (raster : costume.format ≠ .svg)
      (first : Attempted s timeout costume .resident (.error o))
      (second : Attempted s timeout costume .cache (.error o'))
      (third : Attempted s timeout costume .loader (.error o'')) :
      Resolves s timeout costume
        (.error (.resolutionFailed [⟨.resident, o⟩, ⟨.cache, o'⟩, ⟨.loader, o''⟩]))
        1 (if costume.format.extension = "" then 0 else 1)

variable {s : Storage} {timeout : Duration} {costume : Costume} {strategy : Strategy}
  {outcome other : Except AttemptOutcome ByteArray}

/-! ## One strategy -/

theorem Carries.unique {data : Option Buffer} (carries : Carries data outcome)
    (carries' : Carries data other) : outcome = other := by
  cases carries with
  | absent =>
    cases carries'
    rfl
  | outside named => cases carries' with
    | outside named' =>
      cases named.symm.trans named'
      rfl
    | empty named' | usable named' => cases named.symm.trans named'
  | empty named none => cases carries' with
    | outside named' => cases named.symm.trans named'
    | empty => rfl
    | usable named' filled =>
      cases named.symm.trans named'
      exact absurd none filled
  | usable named filled => cases carries' with
    | outside named' => cases named.symm.trans named'
    | empty named' none =>
      cases named.symm.trans named'
      exact absurd none filled
    | usable named' =>
      cases named.symm.trans named'
      rfl

/-- A strategy comes to one thing only. -/
theorem Attempted.unique (attempted : Attempted s timeout costume strategy outcome)
    (attempted' : Attempted s timeout costume strategy other) : outcome = other := by
  cases attempted with
  | resident carries => cases attempted' with
    | resident carries' => exact carries.unique carries'
  | uncached absent => cases attempted' with
    | uncached => rfl
    | cached held => cases absent.symm.trans held
  | cached held carries => cases attempted' with
    | uncached absent => cases absent.symm.trans held
    | cached held' carries' =>
      cases held.symm.trans held'
      exact carries.unique carries'
  | untagged none => cases attempted' with
    | untagged => rfl
    | late tagged | unstored tagged | stored tagged => exact absurd none tagged
  | late tagged late => cases attempted' with
    | untagged none => exact absurd none tagged
    | late => rfl
    | unstored _ prompt | stored _ prompt => exact absurd prompt late
  | unstored tagged prompt absent => cases attempted' with
    | untagged none => exact absurd none tagged
    | late _ late => exact absurd prompt late
    | unstored => rfl
    | stored _ _ held => cases absent.symm.trans held
  | stored tagged prompt held carries => cases attempted' with
    | untagged none => exact absurd none tagged
    | late _ late => exact absurd prompt late
    | unstored _ _ absent => cases absent.symm.trans held
    | stored _ _ held' carries' =>
      cases held.symm.trans held'
      exact carries.unique carries'

theorem carries_normalize (buffer : Buffer) :
    Carries (some buffer) (buffer.normalize.mapError (.failed ·.message)) := by
  unfold Buffer.normalize
  cases named : buffer.window with
  | error e => exact .outside named
  | ok bytes =>
    by_cases none : bytes.size = 0
    · simpa [none, Except.mapError] using .empty named none
    · simpa [none, Except.mapError] using .usable named none

theorem carries_fromAsset (asset : Asset) : Carries asset.data (fromAsset asset) := by
  unfold fromAsset Asset.bytes
  cases asset.data with
  | none => exact .absent
  | some buffer =>
    have carries := carries_normalize buffer
    cases normal : buffer.normalize with
    | error e => simpa [normal, Except.map, Except.mapError] using carries
    | ok bytes => simpa [normal, Except.map, Except.mapError] using carries

theorem meetsDeadline_iff : meetsDeadline (s.latency.getD ⟨0⟩) timeout = true ↔ Prompt s timeout := by
  unfold meetsDeadline Prompt
  rw [decide_eq_true_iff]
  cases s.latency <;> simp [Duration.ticks]

/-- What each strategy is found to come to. -/
def attempt (s : Storage) (timeout : Duration) (costume : Costume) :
    Strategy → Except AttemptOutcome ByteArray
  | .resident => fromAsset costume.asset
  | .cache => fromCache (s.cache.get? costume.asset.id)
  | .loader =>
    if canLoad costume then
      fromLoader timeout (.inMemory s default) costume.asset.storageKey
    else .error (.skipped "format unknown")

theorem attempted_loader : Attempted s timeout costume .loader (attempt s timeout costume .loader) := by
  unfold attempt
  by_cases tagged : costume.format.extension = ""
  · rw [if_neg (by simp [canLoad, tagged])]
    exact .untagged tagged
  rw [if_pos (by simp [canLoad, tagged])]
  have latency : (Host.inMemory s default).loadLatency = s.latency.getD ⟨0⟩ := rfl
  have loaded : (Host.inMemory s default).loaded costume.asset.storageKey =
      s.loaded costume.asset.storageKey := rfl
  rw [fromLoader, latency, loaded]
  by_cases prompt : Prompt s timeout
  · rw [if_neg (by simp [meetsDeadline_iff.mpr prompt])]
    unfold Storage.loaded Storage.storedBytes
    cases held : s.stored.get? costume.asset.storageKey with
    | none => exact .unstored tagged prompt held
    | some bytes =>
      refine .stored tagged prompt held ?_
      have carries := carries_normalize (.shared bytes)
      cases normal : (Buffer.shared bytes).normalize with
      | error e => simpa [normal, Except.mapError] using carries
      | ok content => simpa [normal, Except.mapError] using carries
  · rw [if_pos (by simpa using mt meetsDeadline_iff.mp prompt)]
    exact .late tagged prompt

theorem attempted_iff :
    Attempted s timeout costume strategy outcome ↔ attempt s timeout costume strategy = outcome := by
  have found : Attempted s timeout costume strategy (attempt s timeout costume strategy) := by
    cases strategy with
    | resident => exact .resident (carries_fromAsset costume.asset)
    | cache =>
      unfold attempt fromCache
      cases held : s.cache.get? costume.asset.id with
      | none => exact .uncached held
      | some asset => exact .cached held (carries_fromAsset asset)
    | loader => exact attempted_loader
  constructor
  · intro attempted
    exact found.unique attempted
  · rintro rfl
    exact found

/-- Only what has a format with an extension is ever loaded. -/
theorem Attempted.tagged {bytes : ByteArray} (attempted : Attempted s timeout costume .loader (.ok bytes)) :
    costume.format.extension ≠ "" := by
  cases attempted with
  | stored tagged => exact tagged

/-! ## Resolving -/

theorem isRaster_iff {format : Format} : format.isRaster = true ↔ format ≠ .svg := by
  cases format <;> simp [Format.isRaster]

/-- What is counted once the costume itself has brought no data and the cache gives none. -/
theorem counted_to_the_end (s : Storage) (untagged : Prop) [Decidable untagged] :
    (if untagged then s.countLookup else s.countLookup.countLoad) =
      { s with lookups := s.lookups + 1, loads := s.loads + if untagged then 0 else 1 } := by
  split <;> rfl

/-- Resolving with everything in memory is trying one strategy after the other. -/
theorem resolve_inMemory (s : Storage) (renderer : Renderer) (timeout : Duration) (costume : Costume) :
    resolve timeout (.inMemory s renderer) costume =
      if costume.format = .svg then (.error (.unsupportedFormat .svg), .inMemory s renderer)
      else
        match attempt s timeout costume .resident with
        | .ok bytes => (.ok (source costume .resident bytes), .inMemory s renderer)
        | .error o =>
          match attempt s timeout costume .cache with
          | .ok bytes => (.ok (source costume .cache bytes), .inMemory s.countLookup renderer)
          | .error o' =>
            (finish costume [⟨.resident, o⟩, ⟨.cache, o'⟩] (attempt s timeout costume .loader),
              .inMemory (if costume.format.extension = "" then s.countLookup
                else s.countLookup.countLoad) renderer) := by
  by_cases vector : costume.format = .svg
  · rw [if_pos vector, resolve, if_pos (by simp [vector, Format.isRaster]), vector]
  rw [if_neg vector, resolve, if_neg (by simpa using isRaster_iff.mpr vector), atHand]
  dsimp only [attempt]
  cases fromAsset costume.asset with
  | ok bytes => rfl
  | error o =>
    have found : (Host.inMemory s renderer).lookup costume.asset.id =
        (s.cache.get? costume.asset.id, .inMemory s.countLookup renderer) := rfl
    simp only [found]
    cases fromCache (s.cache.get? costume.asset.id) with
    | ok bytes => rfl
    | error o' =>
      by_cases tagged : costume.format.extension = ""
      · simp [canLoad, tagged]
      · simp only [canLoad, tagged, ne_eq, not_false_eq_true, decide_true, if_true, if_false]
        rfl

end Resolve

end Silhouette
