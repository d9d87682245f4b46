import Mathlib.Data.List.Induction
import Silhouette.Proofs.Invocation

/-! Many invocations of one remover at once, their steps in any order. The flags and the invocations
that hold them are counted together: every move changes both counts of a target by the same amount,
so a flag is set exactly while one invocation holds it. An invocation that was refused has taken no
other step, and a crowd without its moves comes to the same. -/
namespace Silhouette

/-- Invocations of one remover and what they share. -/
structure Crowd where
  shared : RemovalState
  invocations : List Invocation

/-- What can happen next: an invocation takes a step; it stops where it is, by a panic or because it
was dropped; or the host changes, through the part of a stage that was done before a stop or through
anyone else who uses it. -/
inductive Move where
  | step (place : Nat)
  | stop (place : Nat)
  | disturb (host : Host)

/-- The place of the invocation that moves. -/
def Move.place? : Move → Option Nat
  | step place | stop place => some place
  | disturb _ => none

namespace Crowd

/-- A crowd of invocations that have not begun. -/
def start (host : Host) (jobs : List (Target × CostumeId)) : Crowd :=
  ⟨⟨host, .empty, []⟩, jobs.map fun job => .ready job.1 job.2⟩

/-- The crowd with another invocation at some place. -/
def put (c : Crowd) (place : Nat) (i : Invocation) : Crowd :=
  { c with invocations := c.invocations.set place i }

/-- Lets the invocation at some place act. -/
def act (c : Crowd) (place : Nat)
    (deed : RemovalState → Invocation → RemovalState × Invocation) : Crowd :=
  match c.invocations[place]? with
  | none => c
  | some i => { c with shared := (deed c.shared i).1 }.put place (deed c.shared i).2

/-- What a move makes of a crowd. -/
def move (r : Remover) (c : Crowd) : Move → Crowd
  | .step place => c.act place (Invocation.step r)
  | .stop place => c.act place Invocation.abandon
  | .disturb host => { c with shared := c.shared.withHost host }

/-- What moves make of a crowd, one after the other. -/
def run (r : Remover) (c : Crowd) (moves : List Move) : Crowd := moves.foldl (move r) c

/-- The moves of all others. -/
def without (place : Nat) (moves : List Move) : List Move :=
  moves.filter fun m => m.place? ≠ some place

/-- How many invocations hold the flag of a target. -/
def live (c : Crowd) (t : TargetId) : Nat := c.invocations.countP fun i => i.holds t

variable {r : Remover} {c : Crowd} {m : Move} {place : Nat} {i j : Invocation}

theorem act_of_present (present : c.invocations[place]? = some i)
    (deed : RemovalState → Invocation → RemovalState × Invocation) :
    c.act place deed = { c with shared := (deed c.shared i).1 }.put place (deed c.shared i).2 := by
  unfold act
  rw [present]

theorem act_of_absent (absent : c.invocations[place]? = none)
    (deed : RemovalState → Invocation → RemovalState × Invocation) : c.act place deed = c := by
  unfold act
  rw [absent]

theorem act_present (present : c.invocations[place]? = some i)
    (deed : RemovalState → Invocation → RemovalState × Invocation) :
    (c.act place deed).invocations[place]? = some (deed c.shared i).2 := by
  have inside := (List.getElem?_eq_some_iff.mp present).1
  rw [act_of_present present]
  exact List.getElem?_set_self inside

/-- Exchanging one invocation for another moves a count by what the two count for. -/
theorem countP_put (present : c.invocations[place]? = some i) (j : Invocation)
    (p : Invocation → Bool) :
    (c.put place j).invocations.countP p + (p i).toNat =
      c.invocations.countP p + (p j).toNat := by
  obtain ⟨inside, rfl⟩ := List.getElem?_eq_some_iff.mp present
  have counted : (p c.invocations[place]).toNat ≤ c.invocations.countP p := by
    cases held : p c.invocations[place] with
    | false => exact Nat.zero_le _
    | true => exact List.countP_pos_iff.mpr ⟨_, List.getElem_mem inside, held⟩
  unfold put at *
  rw [List.countP_set inside]
  cases held : p c.invocations[place] <;> cases p j <;>
    simp only [held, Bool.toNat_true, Bool.toNat_false, if_true, if_false, Bool.false_eq_true]
      at counted ⊢ <;>
    omega

theorem live_put (present : c.invocations[place]? = some i) (j : Invocation) (t : TargetId) :
    (c.put place j).live t + (i.holds t).toNat = c.live t + (j.holds t).toNat :=
  countP_put present j fun i => i.holds t

/-- What is kept from move to move: flags and invocations count the same holders, and the invocations
are honest. -/
structure Ordered (c : Crowd) : Prop where
  counted : ∀ t, c.live t = c.shared.busy.holders t
  honest : ∀ i ∈ c.invocations, i.Honest
  named : ∀ i ∈ c.invocations, i.Named

/-- Whoever holds a flag finds it set. -/
theorem Ordered.owned (ordered : c.Ordered) (present : c.invocations[place]? = some i) (t : TargetId)
    (held : i.holds t = true) : c.shared.busy.holders t = 1 := by
  have some_live : 0 < c.live t :=
    List.countP_pos_iff.mpr ⟨i, List.mem_of_getElem? present, held⟩
  rw [ordered.counted] at some_live
  unfold BusyFlags.holders at some_live ⊢
  split at some_live
  · rw [if_pos ‹_›]
  · cases some_live

/-- An orderly act keeps a crowd in order. -/
theorem Ordered.act (ordered : c.Ordered)
    {deed : RemovalState → Invocation → RemovalState × Invocation}
    (orderly : ∀ i, c.invocations[place]? = some i → i.Orderly c.shared (deed c.shared i)) :
    (c.act place deed).Ordered := by
  cases present : c.invocations[place]? with
  | none =>
    rw [act_of_absent present]
    exact ordered
  | some i =>
    rw [act_of_present present]
    have fair := orderly i present
    refine ⟨?_, ?_, ?_⟩
    · intro t
      have lives := live_put present (deed c.shared i).2 t
      have flags := fair.balanced t
      have counted := ordered.counted t
      show (c.put place (deed c.shared i).2).live t = (deed c.shared i).1.busy.holders t
      omega
    · intro j among
      rcases List.mem_or_eq_of_mem_set among with old | rfl
      · exact ordered.honest j old
      · exact fair.honest
    · intro j among
      rcases List.mem_or_eq_of_mem_set among with old | rfl
      · exact ordered.named j old
      · exact fair.named

/-- A move disturbs the host, or is an orderly act of the invocation at some place. -/
inductive Moved (r : Remover) (c : Crowd) : Move → Prop where
  | acts {m : Move} {place : Nat} {deed : RemovalState → Invocation → RemovalState × Invocation}
      (own : m.place? = some place) (same : ∀ c' : Crowd, c'.move r m = c'.act place deed)
      (orderly : ∀ i, c.invocations[place]? = some i → i.Orderly c.shared (deed c.shared i)) :
      Moved r c m
  | disturbs (host : Host) : Moved r c (.disturb host)

theorem Ordered.moved (ordered : c.Ordered) (r : Remover) (m : Move) : Moved r c m := by
  cases m with
  | step place =>
    refine .acts rfl (fun _ => rfl) fun i present => ?_
    have member := List.mem_of_getElem? present
    exact Invocation.step_orderly r (ordered.honest i member) (ordered.named i member)
      (ordered.owned present)
  | stop place =>
    refine .acts rfl (fun _ => rfl) fun i present => ?_
    have member := List.mem_of_getElem? present
    exact Invocation.abandon_orderly (ordered.honest i member) (ordered.named i member)
      (ordered.owned present)
  | disturb host => exact .disturbs host

/-- Every move keeps a crowd in order. -/
theorem Ordered.move (ordered : c.Ordered) (r : Remover) (m : Move) : (c.move r m).Ordered := by
  cases ordered.moved r m with
  | acts own same orderly =>
    rw [same]
    exact ordered.act orderly
  | disturbs host => exact ⟨ordered.counted, ordered.honest, ordered.named⟩

theorem Ordered.run (ordered : c.Ordered) (r : Remover) (moves : List Move) :
    (c.run r moves).Ordered :=
  List.foldlRecOn moves (Crowd.move r) ordered fun _ kept m _ => kept.move r m

/-- What a schedule has, without the ticks. -/
def ofSchedule (state : RemovalState × List Scheduled) : Crowd :=
  ⟨state.1, state.2.map Scheduled.invocation⟩

/-- A schedule runs its invocations in one of the orders that a crowd can take. -/
theorem schedule_is_run (r : Remover) (limit : Option Nat) (fuel : Nat) (s : RemovalState)
    (all : List Scheduled) :
    ∃ moves, ofSchedule (Schedule.run r limit fuel s all) = (ofSchedule (s, all)).run r moves := by
  induction fuel generalizing s all with
  | zero => exact ⟨[], rfl⟩
  | succ fuel ih =>
    unfold Schedule.run
    split
    · exact ⟨[], rfl⟩
    · rename_i place due
      split
      · exact ⟨[], rfl⟩
      · rename_i x present
        obtain ⟨moves, same⟩ := ih (x.invocation.step r s).1 (all.set place
          ⟨x.due + (x.invocation.step r s).2.wait r (x.invocation.step r s).1,
            (x.invocation.step r s).2⟩)
        refine ⟨.step place :: moves, same.trans ?_⟩
        have there : (ofSchedule (s, all)).invocations[place]? = some x.invocation := by
          simp [ofSchedule, present]
        have first : (ofSchedule (s, all)).move r (.step place) = ofSchedule
            ((x.invocation.step r s).1, all.set place
              ⟨x.due + (x.invocation.step r s).2.wait r (x.invocation.step r s).1,
                (x.invocation.step r s).2⟩) := by
          rw [Crowd.move, act_of_present there]
          simp [ofSchedule, put, List.map_set]
        rw [← first]
        rfl

theorem start_ordered (host : Host) (jobs : List (Target × CostumeId)) :
    (start host jobs).Ordered := by
  have waiting : ∀ i ∈ (start host jobs).invocations, i.phase = .ready := by
    intro i member
    obtain ⟨job, _, rfl⟩ := List.mem_map.mp member
    rfl
  refine ⟨?_, ?_, ?_⟩
  · intro t
    apply List.countP_eq_zero.mpr
    intro i member held
    rw [Invocation.holds, waiting i member] at held
    simp [Phase.holdsFlag] at held
  · intro i member e failing
    rw [waiting i member] at failing
    cases failing
  · intro i member t ended
    rw [waiting i member] at ended
    cases ended

theorem run_append (r : Remover) (c : Crowd) (moves : List Move) (m : Move) :
    c.run r (moves ++ [m]) = (c.run r moves).move r m := by
  simp [run, List.foldl_append]

private theorem act_elsewhere {deed : RemovalState → Invocation → RemovalState × Invocation}
    (apart : other ≠ place) (c : Crowd) :
    (c.act other deed).invocations[place]? = c.invocations[place]? ∧
      ∀ j, (c.put place j).act other deed = (c.act other deed).put place j := by
  have seen : ∀ j, (c.put place j).invocations[other]? = c.invocations[other]? := fun j =>
    List.getElem?_set_ne (Ne.symm apart)
  cases present : c.invocations[other]? with
  | none =>
    rw [act_of_absent present]
    refine ⟨rfl, fun j => ?_⟩
    rw [act_of_absent ((seen j).trans present)]
  | some i =>
    rw [act_of_present present]
    refine ⟨List.getElem?_set_ne apart, fun j => ?_⟩
    rw [act_of_present ((seen j).trans present)]
    simp only [put, List.set_comm _ _ apart]

/-- A move of someone else leaves an invocation where it is, and goes the same way whatever that
invocation has come to. -/
theorem move_elsewhere (other : m.place? ≠ some place) (r : Remover) (c : Crowd) :
    (c.move r m).invocations[place]? = c.invocations[place]? ∧
      ∀ j, (c.put place j).move r m = (c.move r m).put place j := by
  cases m with
  | step there => exact act_elsewhere (fun same => other (congrArg some same)) c
  | stop there => exact act_elsewhere (fun same => other (congrArg some same)) c
  | disturb host => exact ⟨rfl, fun j => rfl⟩

/-- An invocation that is untouched after a move of its own was so before, and the move changed nothing
but how far it has come. -/
theorem move_untouched (ordered : c.Ordered) (own : m.place? = some place)
    (present : (c.move r m).invocations[place]? = some i) (untouched : i.Untouched) :
    ∃ was, c.invocations[place]? = some was ∧ (was = i ∨ was = i.enter .ready) ∧
      c.move r m = c.put place i := by
  cases ordered.moved r m with
  | acts here same orderly =>
    obtain rfl := Option.some.inj (own.symm.trans here)
    rw [same] at present ⊢
    cases before : c.invocations[place]? with
    | none =>
      rw [act_of_absent before, before] at present
      cases present
    | some was =>
      rw [act_present before] at present
      cases present
      obtain ⟨unchanged, waited⟩ := (orderly was before).untouched untouched
      refine ⟨was, rfl, waited, ?_⟩
      rw [act_of_present before, unchanged]
  | disturbs host => cases own

/-- An invocation that is untouched in the end was so all the time, and without its moves the crowd comes
to the same. -/
theorem run_untouched (ordered : c.Ordered) (moves : List Move) :
    ∀ i, (c.run r moves).invocations[place]? = some i → i.Untouched →
      ∃ was, c.invocations[place]? = some was ∧ (was = i ∨ was = i.enter .ready) ∧
        c.run r (without place moves) = (c.run r moves).put place was := by
  -- The last move is looked at first: only it tells how far the invocation came.
  induction moves using List.reverseRecOn with
  | nil =>
    intro i present _
    refine ⟨i, present, .inl rfl, ?_⟩
    obtain ⟨inside, rfl⟩ := List.getElem?_eq_some_iff.mp present
    simp only [run, without, List.filter_nil, List.foldl_nil, put, List.set_getElem_self]
  | append_singleton moves m ih =>
    intro i present untouched
    rw [run_append] at present ⊢
    by_cases own : m.place? = some place
    · obtain ⟨last, before, waits, moved⟩ :=
        move_untouched (ordered.run r moves) own present untouched
      have last_untouched : last.Untouched := by
        rcases waits with rfl | rfl
        · exact untouched
        · exact .inl rfl
      obtain ⟨was, first, waited, same⟩ := ih last before last_untouched
      refine ⟨was, first, ?_, ?_⟩
      · rcases waited with rfl | rfl
        · exact waits
        · rcases waits with rfl | rfl
          · exact .inr rfl
          · exact .inr rfl
      · have dropped : without place (moves ++ [m]) = without place moves := by
          simp [without, own]
        rw [dropped, same, moved]
        simp only [put, List.set_set]
    · obtain ⟨stays, commutes⟩ := move_elsewhere own r (c.run r moves)
      rw [stays] at present
      obtain ⟨was, first, waited, same⟩ := ih i present untouched
      refine ⟨was, first, waited, ?_⟩
      have kept : without place (moves ++ [m]) = without place moves ++ [m] := by
        simp [without, own]
      rw [kept, run_append, same, commutes]

/-- What is over stays as it is. -/
theorem run_over (r : Remover) (gone : i.phase.isOver = true)
    (present : c.invocations[place]? = some i) (moves : List Move) :
    (c.run r moves).invocations[place]? = some i := by
  refine List.foldlRecOn (motive := fun c => c.invocations[place]? = some i) moves (Crowd.move r)
    present fun c present m _ => ?_
  by_cases own : m.place? = some place
  · cases m with
    | step there =>
      cases own
      exact (act_present present _).trans (by rw [Invocation.step_over r c.shared gone])
    | stop there =>
      cases own
      exact (act_present present _).trans (by rw [Invocation.abandon_over c.shared gone])
    | disturb host => cases own
  · rw [(move_elsewhere own r c).1]
    exact present

/-- A move changes no flag but that of the invocation that moves. -/
theorem move_other_flags (ordered : c.Ordered) (r : Remover)
    (other : ∀ place i, m.place? = some place → c.invocations[place]? = some i → i.target.id ≠ t) :
    (c.move r m).shared.busy.holders t = c.shared.busy.holders t := by
  have unheld : ∀ {j : Invocation}, j.target.id ≠ t → j.holds t = false := fun apart => by
    rw [Invocation.holds, decide_eq_false apart, Bool.false_and]
  cases ordered.moved r m with
  | acts own same orderly =>
    rw [same]
    rename_i place deed
    cases present : c.invocations[place]? with
    | none => rw [act_of_absent present]
    | some i =>
      have apart := other place i own present
      have fair := orderly i present
      have balanced := fair.balanced t
      rw [unheld apart, unheld (fair.own ▸ apart)] at balanced
      rw [act_of_present present]
      exact balanced
  | disturbs host => rfl

/-- An invocation that begins on an idle target has its flag. -/
theorem step_idle (r : Remover) (present : c.invocations[place]? = some i) (waiting : i.phase = .ready)
    (idle : c.shared.busy.state i.target.id = .idle) :
    (c.move r (.step place)).invocations[place]? = some (i.enter .acquired) ∧
      (c.move r (.step place)).shared.busy.state i.target.id = .processing := by
  have free : i.target.id ∉ c.shared.busy.held := by
    intro held
    rw [BusyFlags.state, if_pos held] at idle
    cases idle
  have stepped : i.step r c.shared =
      ({ c.shared with busy := ⟨i.target.id :: c.shared.busy.held⟩ }, i.enter .acquired) := by
    simp [Invocation.step, waiting, BusyFlags.acquire, free]
  refine ⟨(act_present present _).trans (by rw [stepped]), ?_⟩
  rw [Crowd.move, act_of_present present, stepped]
  simp [put, BusyFlags.state]

/-- An invocation that begins on a busy target is refused. -/
theorem step_busy (r : Remover) (present : c.invocations[place]? = some i) (waiting : i.phase = .ready)
    (busy : c.shared.busy.state i.target.id = .processing) :
    c.move r (.step place) =
      c.put place (i.enter (.ended (.error (.alreadyProcessing i.target.id)))) := by
  have held : i.target.id ∈ c.shared.busy.held := by
    unfold BusyFlags.state at busy
    split at busy
    · assumption
    · cases busy
  have stepped : i.step r c.shared =
      (c.shared, i.enter (.ended (.error (.alreadyProcessing i.target.id)))) := by
    simp [Invocation.step, waiting, BusyFlags.acquire, held]
  rw [Crowd.move, act_of_present present, stepped]

/-- What holds in a crowd at every moment: no flag has two holders, a flag is set exactly while it has
one, a move changes no flag but its own, and an invocation that begins gets the flag of an idle target
and is refused at once, for good and without a trace, on a busy one. -/
structure Exclusive (r : Remover) (c : Crowd) : Prop where
  single : ∀ t, c.live t ≤ 1
  processing : ∀ t, c.shared.busy.state t = .processing ↔ c.live t = 1
  idle : (∀ i ∈ c.invocations, i.phase.holdsFlag = false) → ∀ t, c.shared.busy.state t = .idle
  others : ∀ m t,
    (∀ place i, m.place? = some place → c.invocations[place]? = some i → i.target.id ≠ t) →
      (c.move r m).shared.busy.state t = c.shared.busy.state t
  admits : ∀ place i, c.invocations[place]? = some i → i.phase = .ready →
    c.shared.busy.state i.target.id = .idle →
      (c.move r (.step place)).invocations[place]? = some (i.enter .acquired) ∧
        (c.move r (.step place)).shared.busy.state i.target.id = .processing
  rejects : ∀ place i, c.invocations[place]? = some i → i.phase = .ready →
    c.shared.busy.state i.target.id = .processing →
      c.move r (.step place) =
        c.put place (i.enter (.ended (.error (.alreadyProcessing i.target.id)))) ∧
      ∀ later, ((c.move r (.step place)).run r later).invocations[place]? =
        some (i.enter (.ended (.error (.alreadyProcessing i.target.id))))

theorem Ordered.exclusive (ordered : c.Ordered) (r : Remover) : c.Exclusive r where
  single t := by
    rw [ordered.counted]
    unfold BusyFlags.holders
    split <;> decide
  processing t := by rw [ordered.counted, BusyFlags.state_eq_processing]
  idle none_holds t := by
    rw [BusyFlags.state_eq_idle, ← ordered.counted]
    refine List.countP_eq_zero.mpr fun i member => ?_
    rw [Invocation.holds, none_holds i member, Bool.and_false]
    exact Bool.false_ne_true
  others m t other := by
    have same := move_other_flags ordered r other
    cases flag : c.shared.busy.state t with
    | idle => rw [BusyFlags.state_eq_idle] at flag ⊢; rw [same, flag]
    | processing => rw [BusyFlags.state_eq_processing] at flag ⊢; rw [same, flag]
  admits place i present waiting idle := step_idle r present waiting idle
  rejects place i present waiting busy := by
    have refused := step_busy r present waiting busy
    refine ⟨refused, fun later => run_over r rfl ?_ later⟩
    rw [refused]
    exact List.getElem?_set_self (List.getElem?_eq_some_iff.mp present).1

/-- **One holder for each target, in every order of steps.** Whatever invocations there are, and in
whatever order they step, stop and are disturbed, the crowd they have come to is `Exclusive`. And an
invocation that came back with a busy target names its own target, has at no earlier moment been
anything but waiting or already back, and could have been left out from there: without its moves the
others and all that is shared come to the same. -/
theorem one_holder_per_target (r : Remover) (host : Host) (jobs : List (Target × CostumeId))
    (moves : List Move) :
    ((start host jobs).run r moves).Exclusive r ∧
    ∀ place i t, ((start host jobs).run r moves).invocations[place]? = some i →
      i.result? = some (.error (.alreadyProcessing t)) →
        t = i.target.id ∧
        ∀ earlier later, moves = earlier ++ later →
          ∃ was, ((start host jobs).run r earlier).invocations[place]? = some was ∧
            (was = i ∨ was = i.enter .ready) ∧
            ((start host jobs).run r earlier).run r (without place later) =
              ((start host jobs).run r moves).put place was := by
  have ordered := start_ordered host jobs
  refine ⟨(ordered.run r moves).exclusive r, ?_⟩
  intro place i t present back
  have ended : i.phase = .ended (.error (.alreadyProcessing t)) := by
    unfold Invocation.result? at back
    split at back
    · rw [← Option.some.inj back]
      assumption
    · cases back
  refine ⟨(ordered.run r moves).named i (List.mem_of_getElem? present) t ended, ?_⟩
  rintro earlier later rfl
  have split_run : (start host jobs).run r (earlier ++ later) =
      ((start host jobs).run r earlier).run r later := List.foldl_append
  rw [split_run] at present ⊢
  exact run_untouched (ordered.run r earlier) later i present (.inr ⟨t, ended⟩)

open Sample

/-- Two invocations on one target. -/
def pair : Crowd :=
  start (.inMemory default unlocked) [(sprite, ⟨.ofNat 2⟩), (sprite, ⟨.ofNat 3⟩)]

/-- Of two invocations on one target the second is refused, the first keeps the flag meanwhile, and when
it is dropped the target is idle again. -/
theorem second_on_one_target_is_refused :
    ∃ i, (pair.run remover [.step 0, .step 1]).invocations[1]? = some i ∧
      i.result? = some (.error (.alreadyProcessing sprite.id)) ∧
      (pair.run remover [.step 0, .step 1]).shared.busy.state sprite.id = .processing ∧
      pair.run remover [.step 0] = (pair.run remover [.step 0, .step 1]).put 1 (i.enter .ready) ∧
      (pair.run remover [.step 0, .step 1, .stop 0]).shared.busy.state sprite.id = .idle := by
  obtain ⟨exclusive, refused⟩ := one_holder_per_target remover (.inMemory default unlocked)
    [(sprite, ⟨.ofNat 2⟩), (sprite, ⟨.ofNat 3⟩)] [.step 0, .step 1]
  have live : (pair.run remover [.step 0, .step 1]).live sprite.id = 1 := by decide +kernel
  obtain ⟨_, alone⟩ := refused 1 _ sprite.id rfl rfl
  obtain ⟨was, present, _, same⟩ := alone [] [.step 0, .step 1] rfl
  cases present
  refine ⟨_, rfl, rfl, (exclusive.processing sprite.id).mpr live, same, ?_⟩
  refine (one_holder_per_target remover (.inMemory default unlocked)
    [(sprite, ⟨.ofNat 2⟩), (sprite, ⟨.ofNat 3⟩)] [.step 0, .step 1, .stop 0]).1.idle ?_ sprite.id
  intro i member
  rcases member with _ | ⟨_, _ | ⟨_, member⟩⟩
  · rfl
  · rfl
  · cases member

end Crowd

end Silhouette
