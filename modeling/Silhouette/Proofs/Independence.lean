import Silhouette.Proofs.Interleaving
import Silhouette.Proofs.Renaming
import Silhouette.Proofs.StorageKey

/-! Removals on different targets do not disturb each other. Their steps may come in any order: each comes
to what it comes to when it has the host for itself, but for the numbers and names that are given out on
the way, and the host is left with the same assets, the same data and as many skins. -/
namespace Silhouette.Crowd

/-- Everyone has come back with a result. -/
def Finished (c : Crowd) : Prop := ∀ i ∈ c.invocations, i.result?.isSome = true

/-- What a drawable looks like: what is known of the skin that it shows. -/
def look (now : Host) (d : DrawableId) : Option SkinInfo :=
  (now.renderer.shown d).bind now.renderer.skin?

/-- What has become of a job, as it would have become with the host for itself and some name for its
costume: result and target are the same but for that name and the number of the skin, and skins that were
there before keep their numbers. The drawable is bound to the skin of the result, or to what it was bound
to when there is none, and it looks the same. Only the look of one that named a skin before there was any
skin of that number is left open: it shows whichever comes to have that number. -/
structure LikeAlone (r : Remover) (host : Host) (job : Target × CostumeId) (fresh : CostumeId)
    (now : Host) (target' : Target) (result : Except RemovalError Installation) : Prop where
  names : ∃ ρ : Renaming, ρ.was = fresh ∧ ρ.now = job.2 ∧
    (∀ skin : SkinId, skin.number ≤ host.renderer.issued → ρ.skin skin = skin) ∧
    ρ.Relates (r.removeBackground fresh ⟨host, .empty, []⟩ job.1).1 result ∧
    target' = (r.removeBackground fresh ⟨host, .empty, []⟩ job.1).2.2.renamed ρ
  binds : now.renderer.shown job.1.drawable =
    (result.toOption.map (·.skin)).or (host.renderer.shown job.1.drawable)
  looks : (∀ skin, host.renderer.shown job.1.drawable = some skin →
      skin.number ≤ host.renderer.issued) →
    look now job.1.drawable =
      look (r.removeBackground fresh ⟨host, .empty, []⟩ job.1).2.1.host job.1.drawable

/-- Two answers that come to be registered have different data and one id. -/
def Collide (r : Remover) (host : Host) (jobs : List (Target × CostumeId)) : Prop :=
  ∃ job ∈ jobs, ∃ job' ∈ jobs, ∃ output output',
    r.intake host job.1 = .ok output ∧ r.intake host job'.1 = .ok output' ∧
      AssetId.compute output.bytes = .compute output'.bytes ∧ output.bytes ≠ output'.bytes

/-- Two hosts that hold the same: the same assets in the cache, the same data in the store, and as many
skins. -/
structure SameRemains (r : Remover) (host : Host) (jobs : List (Target × CostumeId))
    (one two : Host) : Prop where
  stored : ¬ Collide r host jobs → ∀ key, one.storage.storedBytes key = two.storage.storedBytes key
  cached : ∀ id, one.storage.contains id = two.storage.contains id
  skins : one.renderer.skinCount = two.renderer.skinCount

variable {r : Remover} {host : Host} {jobs : List (Target × CostumeId)} {c c' : Crowd}
  {place : Nat} {job : Target × CostumeId} {i : Invocation} {made : Installation}
  {result : Except RemovalError Installation}

/-- Who came back has come to what was to be expected. -/
theorem Merged.came_back (merged : Merged r host jobs c) (known : jobs[place]? = some job)
    (present : c.invocations[place]? = some i) (back : i.result? = some result) :
    ∃ skin, host.renderer.issued < skin.number ∧ result = r.prospect host job.1 job.2 skin ∧
      i.phase = .ended result ∧ i.target = job.1.after result := by
  have ended : i.phase = .ended result := by
    unfold Invocation.result? at back
    split at back
    · cases back
      assumption
    · cases back
  obtain ⟨skin, new, phase, target⟩ := (merged.course known present).ended_of_over (ended ▸ rfl)
  cases ended.symm.trans phase
  exact ⟨skin, new, rfl, ended, target⟩

/-- A drawable is bound to the skin of the result, or still to what it was bound to. -/
theorem Merged.binds (merged : Merged r host jobs c) (known : jobs[place]? = some job)
    (present : c.invocations[place]? = some i) (ended : i.phase = .ended result) :
    c.shared.host.renderer.shown job.1.drawable =
      (result.toOption.map (·.skin)).or (host.renderer.shown job.1.drawable) := by
  have stake := merged.stake known present
  rw [ended] at stake
  cases result with
  | ok made => exact stake.shown
  | error e => exact stake.shown

/-- The drawable of a finished job shows its picture. -/
theorem Merged.look_finished (merged : Merged r host jobs c) (known : jobs[place]? = some job)
    (present : c.invocations[place]? = some i) (ended : i.phase = .ended (.ok made)) :
    ∃ output bitmap, r.picture host job.1 = .ok (output, bitmap) ∧
      look c.shared.host job.1.drawable =
        some (Renderer.infoOf bitmap job.1.current.resolution) := by
  have stake := merged.stake known present
  rw [ended] at stake
  obtain ⟨_, output, bitmap, picture, info⟩ := stake.skin made.skin rfl
  refine ⟨output, bitmap, picture, ?_⟩
  rw [look, merged.binds known present ended]
  exact info

/-- The drawable of a failed job shows what it showed. -/
theorem Merged.look_failed (merged : Merged r host jobs c) (known : jobs[place]? = some job)
    (present : c.invocations[place]? = some i) (ended : i.phase = .ended (.error e))
    (there : ∀ skin, host.renderer.shown job.1.drawable = some skin →
      skin.number ≤ host.renderer.issued) :
    look c.shared.host job.1.drawable = look host job.1.drawable := by
  have shown : c.shared.host.renderer.shown job.1.drawable =
      host.renderer.shown job.1.drawable := merged.binds known present ended
  rw [look, look, shown]
  cases first : host.renderer.shown job.1.drawable with
  | none => rfl
  | some skin => exact merged.old skin (there skin first)

/-- A removal that has the host for itself is a crowd of one. -/
theorem interleaved_alone (r : Remover) (host : Host) (target : Target) (fresh : CostumeId) :
    ∃ schedule, interleaved r host [(target, fresh)] schedule =
      ⟨(r.removeBackground fresh ⟨host, .empty, []⟩ target).2.1,
        [⟨(r.removeBackground fresh ⟨host, .empty, []⟩ target).2.2, fresh,
          .ended (r.removeBackground fresh ⟨host, .empty, []⟩ target).1⟩]⟩ := by
  have steps := Invocation.uninterrupted_is_removal r fresh ⟨host, .empty, []⟩ target
  have run_of_steps : ∀ {first last : RemovalState × Invocation}, Invocation.Steps r first last →
      ∃ schedule : List Nat, (⟨first.1, [first.2]⟩ : Crowd).run r (schedule.map .step) =
        ⟨last.1, [last.2]⟩ := by
    intro first last steps
    induction steps with
    | none here => exact ⟨[], rfl⟩
    | next stepped more ih =>
      obtain ⟨schedule, same⟩ := ih
      refine ⟨0 :: schedule, ?_⟩
      rw [← same, ← stepped]
      rfl
  exact run_of_steps steps

theorem Separate.alone (separate : Separate r host jobs) (among : job ∈ jobs) (fresh : CostumeId) :
    Separate r host [(job.1, fresh)] where
  memory := separate.memory
  reachable := separate.reachable
  impartial := separate.impartial
  targets := List.nodup_singleton _
  drawables := List.nodup_singleton _
  resident := by
    intro job' member
    cases List.mem_singleton.mp member
    exact separate.resident job among

/-- Exchanging two new skins keeps the numbers of the old ones. -/
private theorem exchange_old {skin other old : SkinId} {was now : CostumeId}
    (first : host.renderer.issued < skin.number) (second : host.renderer.issued < other.number)
    (there : old.number ≤ host.renderer.issued) :
    (Remover.exchange was now skin other).skin old = old := by
  refine Equiv.swap_apply_of_ne_of_ne ?_ ?_
  · rintro rfl
    exact absurd there (Nat.not_le.mpr first)
  · rintro rfl
    exact absurd there (Nat.not_le.mpr second)

/-- Whoever came back has come to what it comes to alone. -/
theorem Merged.likeAlone (merged : Merged r host jobs c) (separate : Separate r host jobs)
    (known : jobs[place]? = some job) (present : c.invocations[place]? = some i)
    (back : i.result? = some result) (new : job.2.NewTo job.1) (fresh : CostumeId)
    (other : fresh.NewTo job.1) :
    LikeAlone r host job fresh c.shared.host i.target result := by
  obtain ⟨skin, later, expected, ended, target⟩ := merged.came_back known present back
  obtain ⟨schedule, solo⟩ := interleaved_alone r host job.1 fresh
  have alone := interleaved_merged (separate.alone (List.mem_of_getElem? known) fresh) schedule
  rw [solo] at alone
  cases removal : r.removeBackground fresh ⟨host, .empty, []⟩ job.1 with
  | mk first rest =>
    obtain ⟨s, left⟩ := rest
    rw [removal] at alone
    have known' : [(job.1, fresh)][0]? = some (job.1, fresh) := rfl
    have present' : (⟨s, [⟨left, fresh, .ended first⟩]⟩ : Crowd).invocations[0]? =
        some ⟨left, fresh, .ended first⟩ := rfl
    obtain ⟨skin', later', expected', ended', target'⟩ := alone.came_back known' present' rfl
    -- Both runs come to what is expected, each with a number of its own: exchange the two.
    obtain ⟨related, moved⟩ := r.prospect_renamed host skin' skin other new
    rw [← expected, ← expected'] at related moved
    refine ⟨⟨Remover.exchange fresh job.2 skin' skin, rfl, rfl,
      fun _ there => exchange_old later' later there, ?_, ?_⟩, merged.binds known present ended,
      fun there => ?_⟩
    · rw [removal]
      exact related
    · rw [removal]
      have same : left = job.1.after first := target'
      rw [target, moved, same]
    · rw [removal]
      cases result with
      | error e =>
        cases first with
        | error e' =>
          exact (merged.look_failed known present ended there).trans
            (alone.look_failed known' present' ended' there).symm
        | ok made => cases related
      | ok made =>
        cases first with
        | error e => cases related
        | ok made' =>
          obtain ⟨output, bitmap, picture, looks⟩ := merged.look_finished known present ended
          obtain ⟨output', bitmap', picture', looks'⟩ := alone.look_finished known' present' ended'
          cases picture.symm.trans picture'
          exact looks.trans looks'.symm

/-- Among those that have all come back, each has a phase that tells it. -/
theorem Merged.result_of_place (merged : Merged r host jobs c) (finished : c.Finished)
    (known : jobs[place]? = some job) :
    ∃ i skin, c.invocations[place]? = some i ∧
      i.phase = .ended (r.prospect host job.1 job.2 skin) := by
  have inside : place < c.invocations.length :=
    merged.length.symm ▸ (List.getElem?_eq_some_iff.mp known).1
  have present := List.getElem?_eq_getElem inside
  obtain ⟨result, back⟩ := Option.isSome_iff_exists.mp (finished _ (List.getElem_mem inside))
  obtain ⟨skin, _, expected, ended, _⟩ := merged.came_back known present back
  exact ⟨_, skin, present, expected ▸ ended⟩

/-- Every answer that comes to be registered is kept in the end. -/
theorem Merged.kept (merged : Merged r host jobs c) (finished : c.Finished) (among : job ∈ jobs)
    (taken : r.intake host job.1 = .ok output) :
    c.shared.host.storage.contains (Remover.assetOf output).id = true ∧
      Written r host jobs c.shared.host.storage (Remover.assetOf output).storageKey := by
  obtain ⟨place, known⟩ := List.mem_iff_getElem?.mp among
  obtain ⟨i, skin, present, ended⟩ := merged.result_of_place finished known
  exact (merged.stake known present).kept (ended ▸ rfl) output taken

/-- What is cached in the end does not depend on the order of the steps. -/
theorem Merged.contains_iff (merged : Merged r host jobs c) (finished : c.Finished) (id : AssetId) :
    c.shared.host.storage.contains id = true ↔ host.storage.contains id = true ∨
      ∃ job ∈ jobs, ∃ output, r.intake host job.1 = .ok output ∧
        id = (Remover.assetOf output).id := by
  constructor
  · exact merged.storage.cached id
  · rintro (old | ⟨job, among, output, taken, rfl⟩)
    · exact merged.storage.kept id old
    · exact (merged.kept finished among taken).1

/-- Nor does what is stored, unless two answers are told apart by their data only. -/
theorem Merged.stored_eq (merged : Merged r host jobs c) (merged' : Merged r host jobs c')
    (finished : c.Finished) (finished' : c'.Finished) (apart : ¬ Collide r host jobs)
    (key : StorageKey) :
    c.shared.host.storage.storedBytes key = c'.shared.host.storage.storedBytes key := by
  by_cases written : ∃ job ∈ jobs, ∃ output, r.intake host job.1 = .ok output ∧
      key = (Remover.assetOf output).storageKey
  · -- Different jobs may have written it last, but with one key, so one id, so the same data.
    obtain ⟨job, among, output, taken, rfl⟩ := written
    obtain ⟨one, member, first, took, own, there⟩ := (merged.kept finished among taken).2
    obtain ⟨two, member', second, took', own', there'⟩ := (merged'.kept finished' among taken).2
    have ids : AssetId.compute first.bytes = .compute second.bytes :=
      StorageKey.id_eq_of_of_eq (own.symm.trans own')
    have bytes : first.bytes = second.bytes := by
      by_contra different
      exact apart ⟨one, member, two, member', first, second, took, took', ids, different⟩
    rw [there, there', bytes]
  · have unwritten : ∀ {now : Storage}, ¬ Written r host jobs now key :=
      fun ⟨job, among, output, taken, own, _⟩ => written ⟨job, among, output, taken, own⟩
    have one := (merged.storage.stored key).resolve_right unwritten
    have two := (merged'.storage.stored key).resolve_right unwritten
    rw [one, two]

/-- Nor does the number of skins: it depends on who succeeds. -/
theorem Merged.skins_eq (merged : Merged r host jobs c) (merged' : Merged r host jobs c')
    (finished : c.Finished) (finished' : c'.Finished) (new : ∀ job ∈ jobs, job.2.NewTo job.1) :
    c.shared.host.renderer.skinCount = c'.shared.host.renderer.skinCount := by
  have same : c.invocations.map (fun i => i.phase.skin?.isSome) =
      c'.invocations.map fun i => i.phase.skin?.isSome := by
    refine List.ext_getElem? fun place => ?_
    cases known : jobs[place]? with
    | none =>
      have outside := List.getElem?_eq_none_iff.mp known
      rw [List.getElem?_eq_none (by rw [List.length_map, merged.length]; exact outside),
        List.getElem?_eq_none (by rw [List.length_map, merged'.length]; exact outside)]
    | some job =>
      obtain ⟨i, skin, present, ended⟩ := merged.result_of_place finished known
      obtain ⟨j, skin', present', ended'⟩ := merged'.result_of_place finished' known
      have fresh := new job (List.mem_of_getElem? known)
      have related := (r.prospect_renamed host skin skin' fresh fresh).1
      simp only [List.getElem?_map, present, present', Option.map_some, ended, ended']
      generalize r.prospect host job.1 job.2 skin = one at related ⊢
      generalize r.prospect host job.1 job.2 skin' = two at related ⊢
      cases one <;> cases two <;> first | rfl | cases related
  have counts := congrArg (List.countP id) same
  rw [List.countP_map, List.countP_map] at counts
  have one := merged.count
  have two := merged'.count
  rw [one, two]
  exact congrArg _ counts

open Sample

/-- A renderer whose one skin is shown by three drawables. -/
def stage : Renderer :=
  ((unlocked.perform (.addDrawable (some ⟨1⟩))).2.perform (.addDrawable (some ⟨1⟩))).2

/-- Three targets. The first two get the same answer, and the third has that answer already. -/
def trio : List (Target × CostumeId) :=
  [(sprite, ⟨.ofNat 2⟩),
    (⟨⟨.ofNat 10⟩, "Sprite2", ⟨3⟩, .list (.singleton cat)⟩, ⟨.ofNat 3⟩),
    (⟨⟨.ofNat 11⟩, "Sprite3", ⟨4⟩, .list (.singleton
      (cat.derive ⟨.ofNat 1⟩ "" (.ofBytes .png cutout.bytes) ⟨1⟩))⟩, ⟨.ofNat 4⟩)]

/-- Sixteen steps for each, one after the other in turn. -/
def turns : List Nat := (List.range 48).map (· % 3)

theorem trio_separate : Separate remover (.inMemory default stage) trio where
  memory := rfl
  reachable := .perform _ (.perform _ unlocked_reachable)
  impartial := fun _ _ => rfl
  targets := by decide
  drawables := by decide
  resident := by
    intro job among
    rcases among with _ | ⟨_, _ | ⟨_, _ | ⟨_, ⟨⟩⟩⟩⟩ <;> exact ⟨_, rfl⟩

end Silhouette.Crowd
