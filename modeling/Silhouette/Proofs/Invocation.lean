import Silhouette.Removal.Invocation
import Silhouette.Proofs.Removal

/-! What one step of an invocation can do to the busy flags. All steps are looked at once, in
`step_stride`; whoever reasons about many invocations reads the five kinds of steps off `Stride`. -/
namespace Silhouette

/-- Whether a failure says that the target is busy. -/
def RemovalError.isBusy : RemovalError → Bool
  | .alreadyProcessing _ => true
  | _ => false

theorem RemovalError.isBusy_ofService (e : ServiceError) : (ofService e).isBusy = false := by
  cases e <;> rfl

/-- How many hold the flag of a target, as the flags have it. -/
def BusyFlags.holders (f : BusyFlags) (t : TargetId) : Nat := if t ∈ f.held then 1 else 0

theorem BusyFlags.state_eq_processing {f : BusyFlags} :
    f.state t = .processing ↔ f.holders t = 1 := by
  unfold state holders
  split <;> simp

theorem BusyFlags.state_eq_idle {f : BusyFlags} : f.state t = .idle ↔ f.holders t = 0 := by
  unfold state holders
  split <;> simp

/-- The failure that an invocation brings with it while it still holds its flag. -/
def Phase.failing? : Phase → Option RemovalError
  | .asked (.error e) | .ending (.error e) => some e
  | _ => none

namespace Install

theorem AttachRefusal.isBusy (refusal : AttachRefusal e) : e.isBusy = false := by
  cases refusal <;> rfl

/-- Attaching never gives the target another name. -/
theorem attach_target_id (attached : attach r target costume skin = (result, r', target')) :
    target'.id = target.id := by
  cases result with
  | error e =>
    obtain ⟨_, rfl, _⟩ := attach_error attached
    rfl
  | ok mode =>
    obtain ⟨_, ⟨list, _, _, rfl⟩ | ⟨current, _, _, rfl⟩⟩ := attach_ok attached <;> rfl

theorem settle_target_id (settled : settle h target costume skin = (result, after, target')) :
    target'.id = target.id := by
  unfold settle at settled
  split at settled
  · rename_i attached
    cases settled
    exact attach_target_id attached
  · rename_i attached
    cases settled
    exact attach_target_id attached

theorem settle_error (failed : settle h target costume skin = (.error e, after, target')) :
    AttachRefusal e := by
  unfold settle at failed
  split at failed
  · rename_i refused
    cases failed
    exact (attach_error refused).2.2
  · cases failed

end Install

namespace Invocation

/-- An invocation that holds its flag never brings the failure of a busy target with it: only taking
the flag fails in this way, and who fails there holds none. -/
def Honest (i : Invocation) : Prop := ∀ e, i.phase.failing? = some e → e.isBusy = false

/-- Whether an invocation holds the flag of a target. -/
def holds (i : Invocation) (t : TargetId) : Bool :=
  decide (i.target.id = t) && i.phase.holdsFlag

/-- What one step of an invocation can do: it takes its flag or is refused, works while it holds the
flag, lets the flag go, or nothing is left to do. -/
inductive Stride (s : RemovalState) (i : Invocation) : RemovalState × Invocation → Prop where
  | begins (waiting : i.phase = .ready) (acquired : s.busy.acquire i.target.id = .ok busy) :
      Stride s i ({ s with busy }, i.enter .acquired)
  | refused (waiting : i.phase = .ready) (busy : s.busy.acquire i.target.id = .error e) :
      Stride s i (s, i.enter (.ended (.error e)))
  | works (holds : i.phase.holdsFlag = true) (holding : i'.phase.holdsFlag = true)
      (same : s'.busy = s.busy) (own : i'.target.id = i.target.id) (honest : i'.Honest) :
      Stride s i (s', i')
  | ends (closing : i.phase = .ending result) :
      Stride s i ({ s with busy := s.busy.release i.target.id }, i.enter (.ended result))
  | rests (gone : i.phase.isOver = true) : Stride s i (s, i)

variable {r : Remover} {s s' : RemovalState} {i i' : Invocation} {phase : Phase}

/-- Work that goes well leads to a phase with no failure. -/
private theorem Stride.goes (holds : i.phase.holdsFlag = true) (holding : phase.holdsFlag = true)
    (fine : phase.failing? = none) (same : s'.busy = s.busy) : Stride s i (s', i.enter phase) :=
  .works holds holding same rfl fun e failing => by
    rw [show (i.enter phase).phase.failing? = none from fine] at failing
    cases failing

/-- Work that goes wrong leads to the end with the failure, the flag still held. -/
private theorem Stride.fails (holds : i.phase.holdsFlag = true) (own : i'.target.id = i.target.id)
    (other : e.isBusy = false) (same : s'.busy = s.busy) : Stride s i (s', i'.fail e) :=
  .works holds rfl same own fun cause failing => by
    cases failing
    exact other

private theorem resolveStep_stride (holds : i.phase.holdsFlag = true) :
    Stride s i (i.resolveStep s) := by
  unfold resolveStep
  dsimp only
  split
  · exact .fails holds rfl rfl rfl
  · split
    · exact .goes holds rfl rfl rfl
    · split
      · exact .goes holds rfl rfl rfl
      · split
        · rename_i refused
          obtain ⟨tried, rfl⟩ := Resolve.finish_error refused
          exact .fails holds rfl rfl rfl
        · exact .goes holds rfl rfl rfl

/-- Where resolving brings an invocation. -/
def resolvedTo (i : Invocation) : Except RemovalError ResolvedSource → Invocation
  | .error e => i.fail e
  | .ok source => i.enter (.resolved source)

/-- The step from a load to what it gave. -/
theorem step_loading (phase : i.phase = .loading attempts)
    (loaded : Resolve.finish i.target.current attempts (Resolve.fromLoader r.settings.loadTimeout
      s.host i.target.current.asset.storageKey) = found) :
    i.step r s = (s, i.resolvedTo found) := by
  -- What the load gives is hidden: the kernel would count the ticks of its deadline one by one.
  obtain ⟨load, hidden⟩ : ∃ load, Resolve.fromLoader = load := ⟨_, rfl⟩
  rw [hidden] at loaded
  unfold step
  rw [hidden, phase]
  dsimp only
  rw [loaded]
  cases found <;> rfl

/-- Every step is of one of these kinds. -/
theorem step_stride (r : Remover) (s : RemovalState) (honest : i.Honest) :
    Stride s i (i.step r s) := by
  cases phase : i.phase with
  | ready =>
    simp only [step, phase]
    cases taken : s.busy.acquire i.target.id with
    | error e => exact .refused phase taken
    | ok busy => exact .begins phase taken
  | acquired =>
    simp only [step, phase]
    exact resolveStep_stride (phase ▸ rfl)
  | loading attempts =>
    have holds : i.phase.holdsFlag = true := phase ▸ rfl
    obtain ⟨found, loaded⟩ : ∃ found, Resolve.finish i.target.current attempts
        (Resolve.fromLoader r.settings.loadTimeout s.host i.target.current.asset.storageKey) =
          found := ⟨_, rfl⟩
    rw [step_loading phase loaded]
    cases found with
    | error e =>
      obtain ⟨tried, rfl⟩ := Resolve.finish_error loaded
      exact .fails holds rfl rfl rfl
    | ok source => exact .goes holds rfl rfl rfl
  | resolved source =>
    simp only [step, phase]
    refine .works (phase ▸ rfl) rfl rfl rfl ?_
    intro e failing
    dsimp only [enter, Remover.ask] at failing
    split at failing
    · cases failing
      exact RemovalError.isBusy_ofService _
    · cases failing
  | asked answer =>
    have holds : i.phase.holdsFlag = true := phase ▸ rfl
    cases answer with
    | error e =>
      simp only [step, phase]
      exact .fails holds rfl (honest e (phase ▸ rfl)) rfl
    | ok output =>
      simp only [step, phase]
      exact .goes holds rfl rfl rfl
  | answered output =>
    have holds : i.phase.holdsFlag = true := phase ▸ rfl
    simp only [step, phase]
    split
    · rename_i refused
      obtain ⟨reason, rfl⟩ := Install.decodeOutput_error refused
      exact .fails holds rfl rfl rfl
    · exact .goes holds rfl rfl rfl
  | decoded output bitmap =>
    have holds : i.phase.holdsFlag = true := phase ▸ rfl
    simp only [step, phase]
    split
    · rename_i refused
      obtain ⟨cause, rfl⟩ := Install.makeSkin_error refused
      exact .fails holds rfl rfl rfl
    · exact .goes holds rfl rfl rfl
  | skinned output skin =>
    have holds : i.phase.holdsFlag = true := phase ▸ rfl
    simp only [step, phase]
    split
    · rename_i refused
      obtain ⟨cause, rfl⟩ := Install.register_error refused
      exact .fails holds rfl rfl rfl
    · exact .goes holds rfl rfl rfl
  | registered asset skin =>
    have holds : i.phase.holdsFlag = true := phase ▸ rfl
    simp only [step, phase]
    split
    · rename_i settled
      exact .fails holds (Install.settle_target_id settled) (Install.settle_error settled).isBusy rfl
    · rename_i settled
      exact .works holds rfl rfl (Install.settle_target_id settled) fun e failing => by
        cases failing
  | attached done =>
    simp only [step, phase]
    exact .goes (phase ▸ rfl) rfl rfl rfl
  | ending result =>
    simp only [step, phase]
    exact .ends phase
  | ended result =>
    simp only [step, phase]
    exact .rests (phase ▸ rfl)
  | abandoned =>
    simp only [step, phase]
    exact .rests (phase ▸ rfl)

/-- An invocation stays with its target. -/
theorem step_target_id (r : Remover) (s : RemovalState) (honest : i.Honest) :
    (i.step r s).2.target.id = i.target.id := by
  have stride := step_stride r s honest
  generalize i.step r s = stepped at stride
  cases stride with
  | works had has same own honest => exact own
  | begins | refused | ends | rests => rfl

theorem abandon_target_id (s : RemovalState) (i : Invocation) :
    (abandon s i).2.target.id = i.target.id := by
  unfold abandon
  split
  · rfl
  · split <;> rfl

/-- Nothing more happens to an invocation that is over. -/
theorem step_over (r : Remover) (s : RemovalState) (gone : i.phase.isOver = true) :
    i.step r s = (s, i) := by
  cases phase : i.phase <;> rw [phase] at gone <;> cases gone
  · unfold step
    rw [phase]
  · unfold step
    rw [phase]

theorem abandon_over (s : RemovalState) (gone : i.phase.isOver = true) : abandon s i = (s, i) := by
  unfold abandon
  rw [if_pos gone]

private theorem Honest.not_closing (honest : i.Honest)
    (closing : i.phase = .ending (.error (.alreadyProcessing t))) : False := by
  have other := honest (.alreadyProcessing t) (by rw [closing]; rfl)
  cases other

private theorem holds_of_held (held : i.phase.holdsFlag = true) (t : TargetId) :
    i.holds t = decide (i.target.id = t) := by
  rw [holds, held, Bool.and_true]

private theorem holds_of_free (free : i.phase.holdsFlag = false) (t : TargetId) :
    i.holds t = false := by
  rw [holds, free, Bool.and_false]

private theorem holders_release (f : BusyFlags) (own t : TargetId) :
    (f.release own).holders t = if own = t then 0 else f.holders t := by
  unfold BusyFlags.holders BusyFlags.release
  by_cases same : own = t
  · simp [same]
  · simp [same, Ne.symm same]

private theorem holders_acquire {f taken : BusyFlags} (acquired : f.acquire own = .ok taken)
    (t : TargetId) : taken.holders t = f.holders t + (decide (own = t)).toNat := by
  unfold BusyFlags.acquire at acquired
  split at acquired
  · cases acquired
  · rename_i free
    cases acquired
    unfold BusyFlags.holders
    by_cases same : own = t
    · subst same
      simp [free]
    · simp [same, Ne.symm same]

private theorem release_balanced (held : i.phase.holdsFlag = true)
    (freed : i'.phase.holdsFlag = false)
    (owned : ∀ t, i.holds t = true → s.busy.holders t = 1) (t : TargetId) :
    (s.busy.release i.target.id).holders t + (i.holds t).toNat =
      s.busy.holders t + (i'.holds t).toNat := by
  have own := owned t
  rw [holds_of_held held] at own
  rw [holders_release, holds_of_held held, holds_of_free freed]
  by_cases same : i.target.id = t
  · simp [same, own (decide_eq_true same)]
  · simp [same]

/-- A step changes the holders of a flag and what the invocation holds by the same amount. -/
theorem step_balanced (r : Remover) (honest : i.Honest)
    (owned : ∀ t, i.holds t = true → s.busy.holders t = 1) (t : TargetId) :
    (i.step r s).1.busy.holders t + (i.holds t).toNat =
      s.busy.holders t + ((i.step r s).2.holds t).toNat := by
  have stride := step_stride r s honest
  generalize i.step r s = stepped at stride
  cases stride with
  | begins waiting acquired =>
    rw [holds_of_free (waiting ▸ rfl), holds_of_held rfl, holders_acquire acquired]
    rfl
  | refused waiting busy => rw [holds_of_free (waiting ▸ rfl), holds_of_free rfl]
  | works had has same own honest =>
    rw [holds_of_held had, holds_of_held has, same, own]
  | ends closing => exact release_balanced (closing ▸ rfl) rfl owned t
  | rests gone => rfl

/-- So does a stop. -/
theorem abandon_balanced (owned : ∀ t, i.holds t = true → s.busy.holders t = 1) (t : TargetId) :
    (abandon s i).1.busy.holders t + (i.holds t).toNat =
      s.busy.holders t + ((abandon s i).2.holds t).toNat := by
  unfold abandon
  split
  · rfl
  · split
    · rename_i held
      exact release_balanced held rfl owned t
    · rename_i free
      rw [holds_of_free (Bool.eq_false_iff.mpr free), holds_of_free rfl]

/-- An invocation that has not touched what is shared: it waits, or it was refused. -/
def Untouched (i : Invocation) : Prop :=
  i.phase = .ready ∨ ∃ t, i.phase = .ended (.error (.alreadyProcessing t))

private theorem not_untouched (held : i.phase.holdsFlag = true) : ¬ i.Untouched := by
  rintro (waiting | ⟨t, refused⟩)
  · rw [waiting] at held
    cases held
  · rw [refused] at held
    cases held

/-- Who is untouched after a step was so before it, and the step did nothing to what is shared. -/
theorem step_untouched (r : Remover) (s : RemovalState) (honest : i.Honest)
    (untouched : (i.step r s).2.Untouched) :
    (i.step r s).1 = s ∧ (i = (i.step r s).2 ∨ i = (i.step r s).2.enter .ready) := by
  have stride := step_stride r s honest
  generalize i.step r s = stepped at stride untouched ⊢
  cases stride with
  | begins waiting acquired => exact absurd untouched (not_untouched rfl)
  | refused waiting busy =>
    refine ⟨rfl, .inr ?_⟩
    cases i
    cases waiting
    rfl
  | works had has same own honest => exact absurd untouched (not_untouched has)
  | ends closing =>
    rcases untouched with waiting | ⟨t, refused⟩
    · cases waiting
    · cases refused
      exact (honest.not_closing closing).elim
  | rests gone => exact ⟨rfl, .inl rfl⟩

theorem abandon_untouched (s : RemovalState) (untouched : (abandon s i).2.Untouched) :
    abandon s i = (s, i) := by
  unfold abandon at untouched ⊢
  split
  · rfl
  · rename_i going
    rw [if_neg going] at untouched
    split at untouched <;> rcases untouched with waiting | ⟨t, refused⟩
    · cases waiting
    · cases refused
    · cases waiting
    · cases refused

/-- The failure of a busy target names the invocation's own target. -/
def Named (i : Invocation) : Prop :=
  ∀ t, i.phase = .ended (.error (.alreadyProcessing t)) → t = i.target.id

theorem step_named (r : Remover) (s : RemovalState) (honest : i.Honest) (named : i.Named) :
    (i.step r s).2.Named := by
  have stride := step_stride r s honest
  generalize i.step r s = stepped at stride
  intro t ended
  cases stride with
  | begins waiting acquired => cases ended
  | refused waiting busy =>
    cases ended
    cases BusyFlags.acquire_error busy
    rfl
  | works had has same own honest => exact absurd (.inr ⟨t, ended⟩) (not_untouched has)
  | ends closing =>
    cases ended
    exact (honest.not_closing closing).elim
  | rests gone => exact named t ended

theorem step_honest (r : Remover) (s : RemovalState) (honest : i.Honest) :
    (i.step r s).2.Honest := by
  have stride := step_stride r s honest
  generalize i.step r s = stepped at stride
  cases stride with
  | works had has same own honest => exact honest
  | rests gone => exact honest
  | begins | refused | ends => intro e failing; cases failing

theorem abandon_honest (s : RemovalState) (honest : i.Honest) : (abandon s i).2.Honest := by
  unfold abandon
  split
  · exact honest
  · split <;> intro e failing <;> cases failing

theorem abandon_named (s : RemovalState) (named : i.Named) : (abandon s i).2.Named := by
  unfold abandon
  split
  · exact named
  · split <;> intro t ended <;> cases ended

/-- What a step and a stop have in common: flags and invocation gain or lose the same, the invocation
keeps its target and stays honest, and if it is untouched afterwards it was so before, and nothing that
is shared has changed. -/
structure Orderly (s : RemovalState) (i : Invocation) (after : RemovalState × Invocation) :
    Prop where
  balanced : ∀ t, after.1.busy.holders t + (i.holds t).toNat =
    s.busy.holders t + (after.2.holds t).toNat
  own : after.2.target.id = i.target.id
  honest : after.2.Honest
  named : after.2.Named
  untouched : after.2.Untouched → after.1 = s ∧ (i = after.2 ∨ i = after.2.enter .ready)

theorem step_orderly (r : Remover) (honest : i.Honest) (named : i.Named)
    (owned : ∀ t, i.holds t = true → s.busy.holders t = 1) : Orderly s i (i.step r s) where
  balanced := step_balanced r honest owned
  own := step_target_id r s honest
  honest := step_honest r s honest
  named := step_named r s honest named
  untouched := step_untouched r s honest

theorem abandon_orderly (honest : i.Honest) (named : i.Named)
    (owned : ∀ t, i.holds t = true → s.busy.holders t = 1) : Orderly s i (abandon s i) where
  balanced := abandon_balanced owned
  own := abandon_target_id s i
  honest := abandon_honest s honest
  named := abandon_named s named
  untouched kept := by
    rw [abandon_untouched s kept]
    exact ⟨rfl, .inl rfl⟩

end Invocation

end Silhouette
