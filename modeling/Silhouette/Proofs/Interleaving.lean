import Mathlib.Data.List.Induction
import Silhouette.Proofs.Footprint

/-! Jobs on different targets, their steps in any order. `Merged` says what every step keeps: each
invocation is on the course that it would take alone and has its own part of the host, and the rest of
the host is as it was in the beginning. -/
namespace Silhouette.Crowd

open Invocation (Course Deed)

/-- The crowd that some jobs come to when their invocations step in some order. -/
def interleaved (r : Remover) (host : Host) (jobs : List (Target × CostumeId))
    (schedule : List Nat) : Crowd :=
  (start host jobs).run r (schedule.map .step)

/-- Jobs that have nothing to do with each other: each has a target and a drawable of its own and brings
the data of its costume along. The host is in memory, and the service answers every request by itself. -/
structure Separate (r : Remover) (host : Host) (jobs : List (Target × CostumeId)) : Prop where
  memory : host.registry = .storage
  reachable : host.renderer.Reachable
  impartial : r.Impartial
  targets : (jobs.map fun job => job.1.id).Nodup
  drawables : (jobs.map fun job => job.1.drawable).Nodup
  resident : ∀ job ∈ jobs, ∃ bytes, job.1.current.asset.bytes = .ok (some bytes)

/-- What the steps of separate jobs keep, in whatever order they come: everyone is on the course of its
own and has what it would have alone, and of the host the rest is as it was. -/
structure Merged (r : Remover) (host : Host) (jobs : List (Target × CostumeId)) (c : Crowd) :
    Prop where
  rules : host.SameRules c.shared.host
  later : host.renderer.issued ≤ c.shared.host.renderer.issued
  issued : c.shared.host.renderer.Issued
  old : ∀ skin : SkinId, skin.number ≤ host.renderer.issued →
    c.shared.host.renderer.skin? skin = host.renderer.skin? skin
  storage : Enlarged r host jobs host.storage c.shared.host.storage
  length : c.invocations.length = jobs.length
  course : ∀ {place : Nat} {job : Target × CostumeId} {i : Invocation},
    jobs[place]? = some job → c.invocations[place]? = some i → Course r host job.1 job.2 i
  stake : ∀ {place : Nat} {job : Target × CostumeId} {i : Invocation},
    jobs[place]? = some job → c.invocations[place]? = some i →
      Stake r host jobs c.shared.host job.1 i.phase
  apart : ∀ {place place' : Nat} {i i' : Invocation} {skin : SkinId},
    c.invocations[place]? = some i → c.invocations[place']? = some i' →
      i.phase.skin? = some skin → i'.phase.skin? = some skin → place = place'
  count : c.shared.host.renderer.skinCount = host.renderer.skinCount +
    c.invocations.countP fun i => i.phase.skin?.isSome

variable {r : Remover} {host : Host} {jobs : List (Target × CostumeId)} {c : Crowd}
  {place : Nat} {job : Target × CostumeId} {i j : Invocation}

/-- In a list without repetitions one value is at one place. -/
private theorem place_eq {l : List α} {f : α → β} (nodup : (l.map f).Nodup)
    (first : l[place]? = some a) (second : l[place']? = some b) (same : f a = f b) :
    place = place' := by
  have inside : place < (l.map f).length := by
    rw [List.length_map]
    exact (List.getElem?_eq_some_iff.mp first).1
  refine (List.getElem?_inj inside nodup).mp ?_
  simp [first, second, same]

theorem start_merged (separate : Separate r host jobs) : Merged r host jobs (start host jobs) := by
  have waiting : ∀ {place : Nat} {i : Invocation}, (start host jobs).invocations[place]? = some i →
      i.phase = .ready := by
    intro place i present
    obtain ⟨job, _, rfl⟩ := List.mem_map.mp (List.mem_of_getElem? present)
    rfl
  refine {
    rules := .refl _
    later := Nat.le_refl _
    issued := separate.reachable.issued
    old := fun _ _ => rfl
    storage := .refl _
    length := List.length_map _
    course := ?_
    stake := ?_
    apart := ?_
    count := ?_ }
  · intro place job i known present
    have same : i = .ready job.1 job.2 := by
      simpa [start, known] using present.symm
    rw [same]
    exact .waits
  · intro place job i known present
    rw [waiting present]
    exact ⟨nofun, rfl, nofun⟩
  · intro place place' i i' skin present _ own _
    rw [waiting present] at own
    cases own
  · have none_has : (start host jobs).invocations.countP (fun i => i.phase.skin?.isSome) = 0 := by
      refine List.countP_eq_zero.mpr fun i member => ?_
      obtain ⟨job, _, rfl⟩ := List.mem_map.mp member
      exact Bool.false_ne_true
    rw [none_has]
    rfl

theorem Merged.job_of_present (merged : Merged r host jobs c)
    (present : c.invocations[place]? = some i) : ∃ job, jobs[place]? = some job := by
  have inside : place < jobs.length :=
    merged.length ▸ (List.getElem?_eq_some_iff.mp present).1
  exact ⟨_, List.getElem?_eq_getElem inside⟩

/-- An invocation that begins finds its flag free: whoever holds it would have to be itself. -/
theorem Merged.free (merged : Merged r host jobs c) (separate : Separate r host jobs)
    (ordered : c.Ordered) (known : jobs[place]? = some job)
    (present : c.invocations[place]? = some i) (waiting : i.phase = .ready) :
    job.1.id ∉ c.shared.busy.held := by
  intro held
  have one : c.live job.1.id = 1 := by
    rw [ordered.counted, BusyFlags.holders, if_pos held]
  have some_live : 0 < c.live job.1.id := one ▸ Nat.one_pos
  obtain ⟨holder, member, holds⟩ := List.countP_pos_iff.mp some_live
  obtain ⟨place', present'⟩ := List.mem_iff_getElem?.mp member
  obtain ⟨job', known'⟩ := merged.job_of_present present'
  have named := (merged.course known' present').target_id
  simp only [Invocation.holds, Bool.and_eq_true, decide_eq_true_eq] at holds
  have same := place_eq separate.targets known known' (holds.1.symm.trans named)
  subst same
  cases present.symm.trans present'
  rw [waiting] at holds
  cases holds.2

/-- So every step goes as it would go alone. -/
theorem Merged.advance (merged : Merged r host jobs c) (separate : Separate r host jobs)
    (ordered : c.Ordered) (known : jobs[place]? = some job)
    (present : c.invocations[place]? = some i) :
    Invocation.Advance r host job.1 job.2 c.shared i (i.step r c.shared) := by
  obtain ⟨bytes, resident⟩ := separate.resident job (List.mem_of_getElem? known)
  exact (merged.course known present).advance separate.memory separate.impartial resident
    merged.rules merged.later (merged.free separate ordered known present)
    fun _ own => (merged.stake known present).lives own

private theorem put_cases (present : (c.put place j).invocations[place']? = some i) :
    (place' = place ∧ i = j) ∨ (place' ≠ place ∧ c.invocations[place']? = some i) := by
  simp only [put, List.getElem?_set] at present
  split at present
  · rename_i same
    split at present
    · cases present
      exact .inl ⟨same.symm, rfl⟩
    · cases present
  · rename_i other
    exact .inr ⟨fun same => other same.symm, present⟩

/-- A step comes to no skin that is another's: if it makes one, the number is new. -/
private theorem Merged.distinct {after : Host} {phase : Phase} {skin : SkinId}
    (merged : Merged r host jobs c) (present : c.invocations[place]? = some i)
    (deed : Deed r host job.1 c.shared.host i.phase after phase) (elsewhere : place' ≠ place)
    (present' : c.invocations[place']? = some j) (own : j.phase.skin? = some skin) :
    phase.skin? ≠ some skin := by
  intro same
  rcases deed.numbered same with held | ⟨rfl, _⟩
  · exact elsewhere (merged.apart present' present own held)
  · obtain ⟨job', known'⟩ := merged.job_of_present present'
    exact absurd ((merged.stake known' present').skin _ own).1 (Nat.not_succ_le_self _)

/-- One step keeps it all. -/
theorem Merged.step (merged : Merged r host jobs c) (separate : Separate r host jobs)
    (ordered : c.Ordered) (place : Nat) : Merged r host jobs (c.move r (.step place)) := by
  cases present : c.invocations[place]? with
  | none =>
    rw [move, act_of_absent present]
    exact merged
  | some i =>
    obtain ⟨job, known⟩ := merged.job_of_present present
    have among := List.mem_of_getElem? known
    have advance := merged.advance separate ordered known present
    have course := merged.course known present
    have stake := merged.stake known present
    rw [move, act_of_present present]
    generalize i.step r c.shared = after at advance ⊢
    obtain ⟨course', deed, _⟩ := advance
    -- The skins of the beginning are nobody's, so no step changes them.
    have foreign : ∀ skin : SkinId, skin.number ≤ host.renderer.issued →
        i.phase.skin? ≠ some skin := fun skin old own =>
      absurd (course.skin_new own) (Nat.not_lt.mpr old)
    refine {
      rules := merged.rules.trans deed.rules
      later := Nat.le_trans merged.later deed.issued_le
      issued := deed.issued merged.issued
      old := fun skin old => (deed.skin_elsewhere (Nat.le_trans old merged.later)
        (foreign skin old)).trans (merged.old skin old)
      storage := merged.storage.trans (enlarged_of_deed deed among)
      length := (List.length_set ..).trans merged.length
      course := ?_
      stake := ?_
      apart := ?_
      count := ?_ }
    · intro place' job' j known' present'
      rcases put_cases present' with ⟨rfl, rfl⟩ | ⟨elsewhere, before⟩
      · cases known.symm.trans known'
        exact course'
      · exact merged.course known' before
    · intro place' job' j known' present'
      rcases put_cases present' with ⟨rfl, rfl⟩ | ⟨elsewhere, before⟩
      · cases known.symm.trans known'
        exact stake.own deed among
      · refine (merged.stake known' before).elsewhere deed among ?_ ?_
        · exact fun same => elsewhere (place_eq separate.drawables known' known same)
        · exact fun skin own same => elsewhere (merged.apart before present own same)
    -- Only the one that stepped may have come to a skin, so the four cases are: both, either, neither.
    · intro place₁ place₂ i₁ i₂ skin present₁ present₂ own₁ own₂
      rcases put_cases present₁ with ⟨rfl, rfl⟩ | ⟨elsewhere₁, before₁⟩ <;>
        rcases put_cases present₂ with ⟨rfl, rfl⟩ | ⟨elsewhere₂, before₂⟩
      · rfl
      · exact absurd own₁ (merged.distinct present deed elsewhere₂ before₂ own₂)
      · exact absurd own₂ (merged.distinct present deed elsewhere₁ before₁ own₁)
      · exact merged.apart before₁ before₂ own₁ own₂
    · have hosted := deed.count merged.issued fun _ own => stake.lives own
      have counted := countP_put present after.2 fun i => i.phase.skin?.isSome
      have before := merged.count
      show after.1.host.renderer.skinCount = host.renderer.skinCount +
        (c.put place after.2).invocations.countP fun i => i.phase.skin?.isSome
      omega

theorem interleaved_append (r : Remover) (host : Host) (jobs : List (Target × CostumeId))
    (schedule : List Nat) (place : Nat) :
    interleaved r host jobs (schedule ++ [place]) =
      (interleaved r host jobs schedule).move r (.step place) := by
  simp [interleaved, run_append]

theorem interleaved_ordered (r : Remover) (host : Host) (jobs : List (Target × CostumeId))
    (schedule : List Nat) : (interleaved r host jobs schedule).Ordered :=
  (start_ordered host jobs).run r _

/-- All steps keep it, in whatever order they come. -/
theorem interleaved_merged (separate : Separate r host jobs) (schedule : List Nat) :
    Merged r host jobs (interleaved r host jobs schedule) := by
  induction schedule using List.reverseRecOn with
  | nil => exact start_merged separate
  | append_singleton schedule place ih =>
    rw [interleaved_append]
    exact ih.step separate (interleaved_ordered r host jobs schedule) place

/-- With every step of its own an invocation is closer to its end. -/
theorem interleaved_left (separate : Separate r host jobs) (schedule : List Nat) :
    ∀ i, (interleaved r host jobs schedule).invocations[place]? = some i →
      i.phase.left ≤ 12 - schedule.count place := by
  induction schedule using List.reverseRecOn with
  | nil =>
    intro i present
    obtain ⟨job, _, rfl⟩ := List.mem_map.mp (List.mem_of_getElem? present)
    exact Nat.le_refl _
  | append_singleton schedule stepping ih =>
    intro i present
    rw [interleaved_append] at present
    by_cases own : stepping = place
    · subst own
      cases before : (interleaved r host jobs schedule).invocations[stepping]? with
      | none =>
        rw [move, act_of_absent before, before] at present
        cases present
      | some was =>
        have merged := interleaved_merged separate schedule
        obtain ⟨job, known⟩ := merged.job_of_present before
        have advance := merged.advance separate (interleaved_ordered r host jobs schedule) known before
        rw [move, act_present before] at present
        cases present
        have sooner := advance.sooner
        have enough := ih was before
        simp only [List.count_append, List.count_singleton_self]
        omega
    · have other : (Move.step stepping).place? ≠ some place := fun same => own (Option.some.inj same)
      rw [(move_elsewhere other r _).1] at present
      have enough := ih i present
      simpa [List.count_append, List.count_singleton, own] using enough

end Silhouette.Crowd
