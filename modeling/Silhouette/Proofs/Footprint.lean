import Silhouette.Proofs.Course
import Silhouette.Proofs.Exclusion

/-! What the steps of one invocation touch of a host that it shares with others: its own skin, its own
drawable, and the storage, where things are only ever added. So what an invocation has of the host is
left to it by all others, and the host is at every moment what it was in the beginning together with
what the invocations have of it. -/
namespace Silhouette

open Invocation (Course Deed)

theorem Host.SameRules.refl (h : Host) : h.SameRules h := ⟨rfl, rfl, rfl, fun _ => rfl⟩

theorem Host.SameRules.trans {before middle after : Host} (first : before.SameRules middle)
    (second : middle.SameRules after) : before.SameRules after :=
  ⟨second.registry.trans first.registry, second.skins.trans first.skins,
    second.bindings.trans first.bindings, fun d => (second.drawables d).trans (first.drawables d)⟩

namespace Invocation.Deed

variable {r : Remover} {host before after : Host} {target : Target} {phase phase' : Phase}
  {skin : SkinId}

/-- A step does not change what the host refuses. -/
theorem rules (deed : Deed r host target before phase after phase') : before.SameRules after := by
  cases deed with
  | aside same skin bound past => rcases same with rfl | rfl <;> exact ⟨rfl, rfl, rfl, fun _ => rfl⟩
  | creates | registers | destroys => exact ⟨rfl, rfl, rfl, fun _ => rfl⟩
  | shows own worn known =>
    refine ⟨rfl, rfl, rfl, fun d => ?_⟩
    by_cases same : d = target.drawable
    · simp [Host.withRenderer, Renderer.showing, same, known]
    · simp [Host.withRenderer, Renderer.showing, same]

theorem issued_le (deed : Deed r host target before phase after phase') :
    before.renderer.issued ≤ after.renderer.issued := by
  cases deed with
  | aside same skin bound past => rcases same with rfl | rfl <;> exact Nat.le_refl _
  | creates => exact Nat.le_succ _
  | registers | destroys | shows => exact Nat.le_refl _

theorem issued (deed : Deed r host target before phase after phase')
    (issued : before.renderer.Issued) : after.renderer.Issued := by
  cases deed with
  | aside same skin bound past => rcases same with rfl | rfl <;> exact issued
  | creates => exact issued.withNewSkin
  | destroys => exact issued.destroySkin
  | registers | shows => exact issued

/-- Other skins that were there stay as they are. -/
theorem skin_elsewhere (deed : Deed r host target before phase after phase')
    (old : skin.number ≤ before.renderer.issued) (other : phase.skin? ≠ some skin) :
    after.renderer.skin? skin = before.renderer.skin? skin := by
  cases deed with
  | aside same skin bound past => rcases same with rfl | rfl <;> rfl
  | creates =>
    have apart : skin ≠ ⟨before.renderer.issued + 1⟩ := by
      rintro rfl
      exact absurd old (Nat.not_succ_le_self _)
    simp [Host.withRenderer, Renderer.skin?, Renderer.withNewSkin, apart]
  | destroys own unbound past =>
    have apart : skin ≠ _ := fun same => other (own.trans (congrArg some same.symm))
    simp [Host.withRenderer, Renderer.skin?, Renderer.destroySkin, apart]
  | registers | shows => rfl

/-- Other drawables go on showing what they show. -/
theorem shown_elsewhere (deed : Deed r host target before phase after phase')
    (other : d ≠ target.drawable) : after.renderer.shown d = before.renderer.shown d := by
  cases deed with
  | aside same skin bound past => rcases same with rfl | rfl <;> rfl
  | creates | registers | destroys => rfl
  | shows => simp [Host.withRenderer, Renderer.shown, Renderer.showing, other]

/-- A skin that an invocation has after a step it had before, or it is new and has the next number. -/
theorem numbered (deed : Deed r host target before phase after phase')
    (own : phase'.skin? = some skin) :
    phase.skin? = some skin ∨
      (skin = ⟨before.renderer.issued + 1⟩ ∧
        after.renderer.issued = before.renderer.issued + 1) := by
  cases deed with
  | aside same skin bound past => exact .inl (skin ▸ own)
  | creates =>
    cases own
    exact .inr ⟨rfl, rfl⟩
  | registers held =>
    subst held
    exact .inl own
  | destroys => cases own
  | shows held worn =>
    subst held worn
    exact .inl own

/-- The host and the invocation gain or lose the same skins. -/
theorem count (deed : Deed r host target before phase after phase')
    (issued : before.renderer.Issued)
    (lives : ∀ skin, phase.skin? = some skin → before.renderer.skins.contains skin = true) :
    after.renderer.skinCount + phase.skin?.isSome.toNat =
      before.renderer.skinCount + phase'.skin?.isSome.toNat := by
  cases deed with
  | aside same skin bound past =>
    rw [skin]
    rcases same with rfl | rfl <;> rfl
  | creates own =>
    subst own
    exact Table.size_put_of_new issued.next_new
  | registers own =>
    subst own
    rfl
  | destroys own unbound past =>
    rw [own]
    exact Table.size_erase_of_contains (lives _ own)
  | shows own =>
    subst own
    rfl

/-- The storage gains the invocation's own asset or nothing. -/
theorem storage (deed : Deed r host target before phase after phase') :
    after.storage = before.storage ∨ ∃ output, r.intake host target = .ok output ∧
      before.storage.Gained after.storage (Remover.assetOf output) output.bytes := by
  cases deed with
  | aside same skin bound past => rcases same with rfl | rfl <;> exact .inl rfl
  | creates | destroys | shows => exact .inl rfl
  | registers own taken gained => exact .inr ⟨_, taken, gained⟩

end Invocation.Deed

namespace Crowd

/-- The answer to one of some jobs is what a storage keeps under a key. -/
def Written (r : Remover) (host : Host) (jobs : List (Target × CostumeId)) (now : Storage)
    (key : StorageKey) : Prop :=
  ∃ job ∈ jobs, ∃ output, r.intake host job.1 = .ok output ∧
    key = (Remover.assetOf output).storageKey ∧ now.storedBytes key = some output.bytes

/-- Storage to which nothing but answers to some jobs was added. -/
structure Enlarged (r : Remover) (host : Host) (jobs : List (Target × CostumeId))
    (before after : Storage) : Prop where
  kept : ∀ id, before.contains id = true → after.contains id = true
  cached : ∀ id, after.contains id = true → before.contains id = true ∨
    ∃ job ∈ jobs, ∃ output, r.intake host job.1 = .ok output ∧ id = (Remover.assetOf output).id
  stored : ∀ key, after.storedBytes key = before.storedBytes key ∨
    Written r host jobs after key

/-- What an invocation has of a host that it shares with others: its skin, which has the size of its own
picture, what its drawable shows, and its answer in storage. If another answer had to be kept under the
same key, it may be there instead. -/
structure Stake (r : Remover) (host : Host) (jobs : List (Target × CostumeId)) (now : Host)
    (target : Target) (phase : Phase) : Prop where
  skin : ∀ skin, phase.skin? = some skin → skin.number ≤ now.renderer.issued ∧
    ∃ output bitmap, r.picture host target = .ok (output, bitmap) ∧
      now.renderer.skin? skin = some (Renderer.infoOf bitmap target.current.resolution)
  shown : now.renderer.shown target.drawable =
    phase.bound?.or (host.renderer.shown target.drawable)
  kept : phase.isPastIntake = true → ∀ output, r.intake host target = .ok output →
    now.storage.contains (Remover.assetOf output).id = true ∧
      Written r host jobs now.storage (Remover.assetOf output).storageKey

variable {r : Remover} {host before after : Host} {jobs : List (Target × CostumeId)}
  {job other : Target × CostumeId} {phase phase' resting : Phase} {key : StorageKey}
  {first second third : Storage} {skin : SkinId}

theorem Enlarged.refl (s : Storage) : Enlarged r host jobs s s :=
  ⟨fun _ held => held, fun _ held => .inl held, fun _ => .inl rfl⟩

/-- What is written stays written, if perhaps by another answer. -/
theorem Written.enlarged (written : Written r host jobs first key)
    (more : Enlarged r host jobs first second) : Written r host jobs second key := by
  rcases more.stored key with same | now
  · obtain ⟨writer, member, output, taken, own, there⟩ := written
    exact ⟨writer, member, output, taken, own, same.trans there⟩
  · exact now

theorem Enlarged.trans (one : Enlarged r host jobs first second)
    (two : Enlarged r host jobs second third) : Enlarged r host jobs first third where
  kept id held := two.kept id (one.kept id held)
  cached id held := by
    rcases two.cached id held with before | new
    · exact one.cached id before
    · exact .inr new
  stored key := by
    rcases two.stored key with same | now
    · rcases one.stored key with untouched | written
      · exact .inl (same.trans untouched)
      · exact .inr (written.enlarged two)
    · exact .inr now

/-- A step adds its own answer to the storage, or nothing. -/
theorem enlarged_of_deed (deed : Deed r host job.1 before phase after phase') (among : job ∈ jobs) :
    Enlarged r host jobs before.storage after.storage := by
  rcases deed.storage with same | ⟨output, taken, gained⟩
  · rw [same]
    exact .refl _
  · refine ⟨?_, ?_, ?_⟩
    · intro id held
      rw [Storage.contains] at held ⊢
      rw [gained.cache, Table.contains_put, held, Bool.or_true]
    · intro id held
      rw [Storage.contains, gained.cache, Table.contains_put, Bool.or_eq_true,
        decide_eq_true_eq] at held
      rcases held with own | old
      · exact .inr ⟨job, among, output, taken, own⟩
      · exact .inl old
    · intro key
      by_cases own : key = (Remover.assetOf output).storageKey
      · refine .inr ⟨job, among, output, taken, own, ?_⟩
        simp [Storage.storedBytes, gained.stored, own]
      · exact .inl (by simp [Storage.storedBytes, gained.stored, own])

/-- The skin that an invocation has lives. -/
theorem Stake.lives (stake : Stake r host jobs before job.1 phase) (own : phase.skin? = some skin) :
    before.renderer.skins.contains skin = true := by
  obtain ⟨_, output, bitmap, _, info⟩ := stake.skin skin own
  rw [Renderer.skin?] at info
  rw [Table.contains, info]
  rfl

/-- The steps of another leave an invocation what it has. -/
theorem Stake.elsewhere (stake : Stake r host jobs before job.1 resting)
    (deed : Deed r host other.1 before phase after phase') (among : other ∈ jobs)
    (drawables : job.1.drawable ≠ other.1.drawable)
    (skins : ∀ skin, resting.skin? = some skin → phase.skin? ≠ some skin) :
    Stake r host jobs after job.1 resting where
  skin skin own := by
    obtain ⟨old, output, bitmap, picture, info⟩ := stake.skin skin own
    have same := deed.skin_elsewhere old (skins skin own)
    exact ⟨Nat.le_trans old deed.issued_le, output, bitmap, picture, same.trans info⟩
  shown := (deed.shown_elsewhere drawables).trans stake.shown
  kept past output taken := by
    have more := enlarged_of_deed deed among
    obtain ⟨cached, written⟩ := stake.kept past output taken
    exact ⟨more.kept _ cached, written.enlarged more⟩

private theorem Stake.own_skin (stake : Stake r host jobs before job.1 phase)
    (deed : Deed r host job.1 before phase after phase') (own : phase'.skin? = some skin) :
    skin.number ≤ after.renderer.issued ∧
      ∃ output bitmap, r.picture host job.1 = .ok (output, bitmap) ∧
        after.renderer.skin? skin = some (Renderer.infoOf bitmap job.1.current.resolution) := by
  cases deed with
  | aside same kept bound past =>
    have known := stake.skin skin (kept.symm.trans own)
    rcases same with rfl | rfl <;> exact known
  | creates held picture =>
    cases own
    refine ⟨Nat.le_refl _, _, _, picture, ?_⟩
    simp [Host.withRenderer, Renderer.skin?, Renderer.withNewSkin]
  | registers held =>
    subst held
    exact stake.skin skin own
  | destroys => cases own
  | shows held worn =>
    subst held worn
    exact stake.skin skin own

private theorem Stake.own_shown (stake : Stake r host jobs before job.1 phase)
    (deed : Deed r host job.1 before phase after phase') :
    after.renderer.shown job.1.drawable =
      phase'.bound?.or (host.renderer.shown job.1.drawable) := by
  have shown := stake.shown
  cases deed with
  | aside same skin bound past =>
    rw [bound]
    rcases same with rfl | rfl <;> exact shown
  | creates held | registers held =>
    subst held
    exact shown
  | destroys held unbound past =>
    rw [unbound] at shown
    exact shown
  | shows held worn known =>
    simp [Host.withRenderer, Renderer.shown, Renderer.showing, Phase.bound?, worn]

private theorem Stake.own_kept (stake : Stake r host jobs before job.1 phase)
    (deed : Deed r host job.1 before phase after phase') (among : job ∈ jobs)
    (past : phase'.isPastIntake = true) (taken : r.intake host job.1 = .ok output) :
    after.storage.contains (Remover.assetOf output).id = true ∧
      Written r host jobs after.storage (Remover.assetOf output).storageKey := by
  have more := enlarged_of_deed deed among
  have before_now : (phase.isPastIntake = true ∨ ∃ e, r.intake host job.1 = .error e) →
      after.storage.contains (Remover.assetOf output).id = true ∧
        Written r host jobs after.storage (Remover.assetOf output).storageKey := by
    rintro (earlier | ⟨e, failed⟩)
    · obtain ⟨cached, written⟩ := stake.kept earlier output taken
      exact ⟨more.kept _ cached, written.enlarged more⟩
    · rw [taken] at failed
      cases failed
  cases deed with
  | aside same skin bound earlier => exact before_now (earlier past)
  | creates => cases past
  | destroys held unbound earlier => exact before_now earlier
  | shows held => exact before_now (.inl (held ▸ rfl))
  | registers held own gained =>
    cases taken.symm.trans own
    refine ⟨?_, job, among, output, taken, rfl, ?_⟩
    · simp [Storage.contains, gained.cache]
    · simp [Storage.storedBytes, gained.stored]

/-- An invocation's own step gives it what belongs to its next phase. -/
theorem Stake.own (stake : Stake r host jobs before job.1 phase)
    (deed : Deed r host job.1 before phase after phase') (among : job ∈ jobs) :
    Stake r host jobs after job.1 phase' where
  skin _ own := stake.own_skin deed own
  shown := stake.own_shown deed
  kept past _ taken := stake.own_kept deed among past taken

end Crowd

end Silhouette
