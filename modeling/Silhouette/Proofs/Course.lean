import Silhouette.Proofs.Holdings
import Silhouette.Proofs.Requirements
import Silhouette.Proofs.Uninterrupted

/-! What a removal comes to can be told from the host that it begins on, whatever others do to that host
meanwhile: its data comes with the costume, the service answers every request by itself, and a host
does not change its mind about what it refuses. Only the number of the skin is open. `Course` says for
every phase what is known by then, and `Deed` what one step does to the host. -/
namespace Silhouette

/-- A host that refuses what another refuses, and knows the same drawables. -/
structure Host.SameRules (before after : Host) : Prop where
  registry : after.registry = before.registry
  skins : after.renderer.rejectsSkins = before.renderer.rejectsSkins
  bindings : after.renderer.rejectsBindings = before.renderer.rejectsBindings
  drawables : ∀ d, after.renderer.drawables.contains d = before.renderer.drawables.contains d

/-- The target after a removal. -/
def Target.after (t : Target) : Except RemovalError Installation → Target
  | .ok made => t.given made.costume
  | .error _ => t

theorem Target.given_id (t : Target) (c : Costume) : (t.given c).id = t.id := by
  unfold given
  split <;> rfl

theorem Target.after_id (t : Target) (result : Except RemovalError Installation) :
    (t.after result).id = t.id := by
  cases result with
  | error e => rfl
  | ok made => exact t.given_id made.costume

namespace Resolve

/-- Data that a costume brings along is there at once, and the host is not asked for it. -/
theorem resolve_resident {costume : Costume} (resident : costume.asset.bytes = .ok (some bytes))
    (timeout : Duration) (h : Host) :
    resolve timeout h costume =
      (if costume.format.isRaster then .ok (source costume .resident bytes)
        else .error (.unsupportedFormat costume.format), h) := by
  unfold resolve
  cases costume.format.isRaster with
  | false => rfl
  | true => simp [atHand, fromAsset, resident]

end Resolve

namespace Install

variable {h : Host} {r : Renderer} {target : Target} {costume : Costume} {skin : SkinId}

theorem contains_of_no_refusal (accepted : refusal? r target costume skin = none) :
    r.drawables.contains target.drawable = true := by
  unfold refusal? at accepted
  split at accepted
  · cases accepted
  · split at accepted
    · cases accepted
    · rename_i known
      simpa using known

theorem refusal?_congr {after : Host} (rules : h.SameRules after) (target : Target) (costume : Costume)
    (skin : SkinId) :
    refusal? after.renderer target costume skin = refusal? h.renderer target costume skin := by
  unfold refusal?
  rw [rules.drawables, rules.bindings]

end Install

namespace Remover

/-- The service answers a request the same, whatever it was asked before. -/
def Impartial (r : Remover) : Prop :=
  ∀ sent request, r.service sent request = r.service [] request

variable (r : Remover) (host : Host) (target : Target) (fresh : CostumeId) (skin : SkinId)

/-- The answer to the data of a target's current costume, resolved on some host. -/
def answer : Except RemovalError ServiceOutput :=
  match (Resolve.resolve r.settings.loadTimeout host target.current).1 with
  | .error e => .error e
  | .ok source => (r.ask ⟨host, .empty, []⟩ source).1

/-- That answer, with the picture that it decodes to. -/
def picture : Except RemovalError (ServiceOutput × Bitmap) :=
  match r.answer host target with
  | .error e => .error e
  | .ok output =>
    match Install.decodeOutput r.decode r.settings.decodeTimeout output.bytes with
    | .error e => .error e
    | .ok bitmap => .ok (output, bitmap)

/-- The answer that comes to be registered. -/
def intake : Except RemovalError ServiceOutput :=
  match r.picture host target with
  | .error e => .error e
  | .ok (output, bitmap) =>
    match Install.makeSkin host target.current bitmap with
    | .error e => .error e
    | .ok (_, host) =>
      match Install.register host output with
      | .error e => .error e
      | .ok _ => .ok output

/-- The asset that an answer is registered as. -/
def assetOf (output : ServiceOutput) : Asset :=
  .ofBytes (Install.keptFormat output.format) output.bytes

/-- The costume that comes of an answer. -/
def costumeOf (output : ServiceOutput) : Costume :=
  target.current.derive fresh r.settings.nameSuffix (assetOf output) skin

/-- What a removal comes to that begins on some host, if its skin gets some number. -/
def prospect : Except RemovalError Installation :=
  match r.intake host target with
  | .error e => .error e
  | .ok output =>
    match Install.refusal? host.renderer target (r.costumeOf target fresh skin output) skin with
    | some e => .error e
    | none => .ok ⟨r.costumeOf target fresh skin output, skin, target.modeOfNew⟩

variable {r : Remover} {host : Host} {target : Target} {fresh : CostumeId} {skin : SkinId}
  {output : ServiceOutput} {bitmap : Bitmap}

theorem answer_eq (impartial : r.Impartial)
    (found : (Resolve.resolve r.settings.loadTimeout host target.current).1 = .ok source)
    (s : RemovalState) : (r.ask s source).1 = r.answer host target := by
  unfold answer ask
  rw [found]
  simp only [impartial s.sent]

theorem picture_pixels (picture : r.picture host target = .ok (output, bitmap)) :
    bitmap.width ≠ 0 ∧ bitmap.height ≠ 0 := by
  unfold Remover.picture at picture
  split at picture
  · cases picture
  · split at picture
    · cases picture
    · rename_i decoded
      cases picture
      exact (Install.decodeOutput_eq_ok.mp decoded).2

theorem intake_of_no_picture (failed : r.picture host target = .error e) :
    r.intake host target = .error e := by
  unfold intake
  rw [failed]

/-- In memory an answer with a picture comes to be registered unless the renderer takes no skins or the
answer is empty. -/
theorem intake_of_picture (memory : host.registry = .storage)
    (picture : r.picture host target = .ok (output, bitmap)) :
    r.intake host target =
      if host.renderer.rejectsSkins then
        .error (.installFailed "create skin: skin creation failed: renderer refused skin")
      else if output.bytes.size = 0 then
        .error (.installFailed "register asset: registry rejected asset: empty asset")
      else .ok output := by
  obtain ⟨wide, high⟩ := picture_pixels picture
  unfold intake
  rw [picture]
  simp only [Install.makeSkin_of_pixels wide high]
  cases host.renderer.rejectsSkins with
  | true => rfl
  | false =>
    simp only [Bool.false_eq_true, if_false]
    rcases Install.register_inMemory
        (host.withRenderer (host.renderer.withNewSkin bitmap target.current.resolution)) memory output with
      ⟨empty, refused⟩ | ⟨filled, storage, taken, _⟩
    · rw [refused, if_pos empty]
    · rw [taken, if_neg filled]

theorem prospect_of_no_intake (failed : r.intake host target = .error e) :
    r.prospect host target fresh skin = .error e := by
  unfold prospect
  rw [failed]

theorem prospect_skin (known : r.prospect host target fresh skin = .ok made) : made.skin = skin := by
  unfold prospect at known
  split at known
  · cases known
  · split at known
    · cases known
    · cases known
      rfl

end Remover

namespace Phase

/-- The skin that an invocation has made and not destroyed. -/
def skin? : Phase → Option SkinId
  | skinned _ skin | registered _ skin => some skin
  | attached made | ending (.ok made) | ended (.ok made) => some made.skin
  | _ => none

/-- The skin that an invocation has made its drawable show. -/
def bound? : Phase → Option SkinId
  | attached made | ending (.ok made) | ended (.ok made) => some made.skin
  | _ => none

/-- Whether an invocation has registered what it ever will. -/
def isPastIntake : Phase → Bool
  | registered _ _ | attached _ | ending _ | ended _ => true
  | _ => false

/-- How many steps an invocation still takes at most. -/
def left : Phase → Nat
  | ready => 12
  | acquired => 11
  | loading _ => 10
  | resolved _ => 9
  | asked _ => 8
  | answered _ => 7
  | decoded _ _ => 6
  | skinned _ _ => 5
  | registered _ _ => 4
  | attached _ => 3
  | ending _ => 2
  | ended _ | abandoned => 0

theorem isOver_of_left {phase : Phase} (none_left : phase.left = 0) : phase.isOver = true := by
  cases phase <;> first | rfl | cases none_left

end Phase

namespace Invocation

/-- The courses of an invocation whose data is resident, and what is known at each phase. All of it is
said of the host at the beginning, which is shared with others but in these respects stays. -/
inductive Course (r : Remover) (host : Host) (target : Target) (fresh : CostumeId) :
    Invocation → Prop where
  | waits : Course r host target fresh (.ready target fresh)
  | begun : Course r host target fresh ⟨target, fresh, .acquired⟩
  | resolved
      (found : (Resolve.resolve r.settings.loadTimeout host target.current).1 = .ok source) :
      Course r host target fresh ⟨target, fresh, .resolved source⟩
  | asked : Course r host target fresh ⟨target, fresh, .asked (r.answer host target)⟩
  | answered (answer : r.answer host target = .ok output) :
      Course r host target fresh ⟨target, fresh, .answered output⟩
  | decoded (picture : r.picture host target = .ok (output, bitmap)) :
      Course r host target fresh ⟨target, fresh, .decoded output bitmap⟩
  | skinned (picture : r.picture host target = .ok (output, bitmap))
      (accepting : host.renderer.rejectsSkins = false) (new : host.renderer.issued < skin.number) :
      Course r host target fresh ⟨target, fresh, .skinned output skin⟩
  | registered (taken : r.intake host target = .ok output)
      (new : host.renderer.issued < skin.number) :
      Course r host target fresh ⟨target, fresh, .registered (Remover.assetOf output) skin⟩
  | attached (known : r.prospect host target fresh skin = .ok made)
      (new : host.renderer.issued < skin.number) :
      Course r host target fresh ⟨target.given made.costume, fresh, .attached made⟩
  | ending (known : r.prospect host target fresh skin = result)
      (new : host.renderer.issued < skin.number) :
      Course r host target fresh ⟨target.after result, fresh, .ending result⟩
  | ended (known : r.prospect host target fresh skin = result)
      (new : host.renderer.issued < skin.number) :
      Course r host target fresh ⟨target.after result, fresh, .ended result⟩

/-- What one step of an invocation does to the host and to what the invocation has of it: nothing but
a call for a redraw, or one of the four changes, each to something of its own. -/
inductive Deed (r : Remover) (host : Host) (target : Target) (before : Host) (phase : Phase) :
    Host → Phase → Prop where
  | aside {after : Host} {phase' : Phase}
      (same : after = before ∨ after = before.withRenderer before.renderer.redraw)
      (skin : phase'.skin? = phase.skin?) (bound : phase'.bound? = phase.bound?)
      (past : phase'.isPastIntake = true →
        phase.isPastIntake = true ∨ ∃ e, r.intake host target = .error e) :
      Deed r host target before phase after phase'
  | creates (own : phase = .decoded output bitmap)
      (picture : r.picture host target = .ok (output, bitmap)) :
      Deed r host target before phase
        (before.withRenderer (before.renderer.withNewSkin bitmap target.current.resolution))
        (.skinned output ⟨before.renderer.issued + 1⟩)
  | registers {storage : Storage} (own : phase = .skinned output skin)
      (taken : r.intake host target = .ok output)
      (gained : before.storage.Gained storage (Remover.assetOf output) output.bytes) :
      Deed r host target before phase { before with storage }
        (.registered (Remover.assetOf output) skin)
  | destroys (own : phase.skin? = some skin) (unbound : phase.bound? = none)
      (past : phase.isPastIntake = true ∨ ∃ e, r.intake host target = .error e) :
      Deed r host target before phase
        (before.withRenderer (before.renderer.destroySkin skin)) (.ending (.error e))
  | shows {asset : Asset} (own : phase = .registered asset skin) (worn : made.skin = skin)
      (known : before.renderer.drawables.contains target.drawable = true) :
      Deed r host target before phase
        (before.withRenderer (before.renderer.showing target.drawable skin)) (.attached made)

/-- What a step comes to: the course is kept, the deed was one of the five, and fewer steps are left. -/
structure Advance (r : Remover) (host : Host) (target : Target) (fresh : CostumeId)
    (s : RemovalState) (i : Invocation) (after : RemovalState × Invocation) : Prop where
  course : Course r host target fresh after.2
  deed : Deed r host target s.host i.phase after.1.host after.2.phase
  sooner : after.2.phase.left ≤ i.phase.left - 1

variable {r : Remover} {host : Host} {target : Target} {fresh : CostumeId} {s : RemovalState}
  {i : Invocation} {output : ServiceOutput} {bitmap : Bitmap} {skin : SkinId}

/-- An invocation that fails before anything is registered is on its course. -/
private theorem Course.early (failed : r.intake host target = .error e) (phase : Phase) :
    Course r host target fresh ((⟨target, fresh, phase⟩ : Invocation).fail e) :=
  .ending (Remover.prospect_of_no_intake failed) (Nat.lt_succ_self _)

/-- A step that only fails, with nothing made so far. -/
private theorem early_advance {phase : Phase} (failed : r.intake host target = .error e)
    (bare : phase.skin? = none) (unbound : phase.bound? = none) (going : 2 < phase.left)
    (stepped : step r s ⟨target, fresh, phase⟩ =
      (s, (⟨target, fresh, phase⟩ : Invocation).fail e)) :
    Advance r host target fresh s ⟨target, fresh, phase⟩ (step r s ⟨target, fresh, phase⟩) := by
  rw [stepped]
  exact ⟨.early failed phase, .aside (.inl rfl) bare.symm unbound.symm fun _ => .inr ⟨_, failed⟩,
    Nat.le_sub_one_of_lt going⟩

/-- A step that does nothing to the host and registers nothing is only a step aside. -/
private theorem aside_early {before : Host} {phase phase' : Phase} (skin : phase'.skin? = phase.skin?)
    (bound : phase'.bound? = phase.bound?) (early : phase'.isPastIntake = false) :
    Deed r host target before phase before phase' :=
  .aside (.inl rfl) skin bound fun past => absurd (past.symm.trans early) (by decide)

private theorem begun_advance (resident : target.current.asset.bytes = .ok (some bytes)) :
    Advance r host target fresh s ⟨target, fresh, .acquired⟩
      (step r s ⟨target, fresh, .acquired⟩) := by
  have found := Resolve.resolve_resident resident r.settings.loadTimeout host
  cases raster : target.current.format.isRaster with
  | false =>
    have failed : r.intake host target = .error (.unsupportedFormat target.current.format) := by
      refine Remover.intake_of_no_picture ?_
      simp [Remover.picture, Remover.answer, found, raster]
    exact early_advance failed rfl rfl (by decide) (by simp [step, resolveStep, raster])
  | true =>
    have stepped : step r s ⟨target, fresh, .acquired⟩ = (s, ⟨target, fresh, .resolved
        (Resolve.source target.current .resident bytes)⟩) := by
      simp [step, resolveStep, raster, Resolve.atHand, Resolve.fromAsset, resident, enter,
        RemovalState.withHost]
    rw [stepped]
    exact ⟨.resolved (by rw [found]; simp [raster]), aside_early rfl rfl rfl,
      by simp [Phase.left]⟩

private theorem asked_advance (answer : Except RemovalError ServiceOutput)
    (asked : r.answer host target = answer) :
    Advance r host target fresh s ⟨target, fresh, .asked answer⟩
      (step r s ⟨target, fresh, .asked answer⟩) := by
  cases answer with
  | error e =>
    have failed : r.intake host target = .error e := by
      refine Remover.intake_of_no_picture ?_
      simp [Remover.picture, asked]
    exact early_advance failed rfl rfl (by simp [Phase.left]) rfl
  | ok output =>
    exact ⟨.answered asked, aside_early rfl rfl rfl, by simp [step, Phase.left, enter]⟩

private theorem answered_advance (asked : r.answer host target = .ok output) :
    Advance r host target fresh s ⟨target, fresh, .answered output⟩
      (step r s ⟨target, fresh, .answered output⟩) := by
  cases decoded : Install.decodeOutput r.decode r.settings.decodeTimeout output.bytes with
  | error e =>
    have failed : r.intake host target = .error e := by
      refine Remover.intake_of_no_picture ?_
      simp [Remover.picture, asked, decoded]
    exact early_advance failed rfl rfl (by simp [Phase.left]) (by simp only [step, decoded])
  | ok bitmap =>
    have picture : r.picture host target = .ok (output, bitmap) := by
      simp [Remover.picture, asked, decoded]
    rw [decoded_step decoded]
    exact ⟨.decoded picture, aside_early rfl rfl rfl, by simp [Phase.left]⟩

private theorem decoded_advance (memory : host.registry = .storage) (rules : host.SameRules s.host)
    (later : host.renderer.issued ≤ s.host.renderer.issued)
    (picture : r.picture host target = .ok (output, bitmap)) :
    Advance r host target fresh s ⟨target, fresh, .decoded output bitmap⟩
      (step r s ⟨target, fresh, .decoded output bitmap⟩) := by
  obtain ⟨wide, high⟩ := Remover.picture_pixels picture
  have made := Install.makeSkin_of_pixels wide high s.host target.current
  have taken := Remover.intake_of_picture memory picture
  rw [rules.skins] at made
  cases refuses : host.renderer.rejectsSkins with
  | true =>
    rw [refuses, if_pos rfl] at made taken
    exact early_advance taken rfl rfl (by simp [Phase.left]) (by simp only [step, made])
  | false =>
    rw [refuses, if_neg Bool.false_ne_true] at made
    rw [skinned_step made]
    exact ⟨.skinned picture refuses (Nat.lt_succ_of_le later), .creates rfl picture,
      by simp [Phase.left]⟩

private theorem skinned_advance (memory : host.registry = .storage) (rules : host.SameRules s.host)
    (picture : r.picture host target = .ok (output, bitmap))
    (accepting : host.renderer.rejectsSkins = false) (new : host.renderer.issued < skin.number) :
    Advance r host target fresh s ⟨target, fresh, .skinned output skin⟩
      (step r s ⟨target, fresh, .skinned output skin⟩) := by
  have taken := Remover.intake_of_picture memory picture
  rw [accepting, if_neg Bool.false_ne_true] at taken
  rcases Install.register_inMemory s.host (rules.registry.trans memory) output with
    ⟨empty, refused⟩ | ⟨filled, storage, registered, created⟩
  · rw [if_pos empty] at taken
    have stepped : step r s ⟨target, fresh, .skinned output skin⟩ =
        (⟨target, fresh, .skinned output skin⟩ : Invocation).undo s skin (.installFailed
          "register asset: registry rejected asset: empty asset") := by
      simp only [step, refused]
    rw [stepped]
    exact ⟨.early taken _, .destroys rfl rfl (.inr ⟨_, taken⟩),
      by simp [Phase.left, undo, fail, enter]⟩
  · rw [if_neg filled] at taken
    rw [registered_step registered]
    exact ⟨.registered taken new, .registers rfl taken (Storage.createAsset_gained created).2,
      by simp [Phase.left]⟩

private theorem registered_advance (rules : host.SameRules s.host)
    (taken : r.intake host target = .ok output) (new : host.renderer.issued < skin.number)
    (lives : s.host.renderer.skins.contains skin = true) :
    Advance r host target fresh s ⟨target, fresh, .registered (Remover.assetOf output) skin⟩
      (step r s ⟨target, fresh, .registered (Remover.assetOf output) skin⟩) := by
  have settled := Install.settle_of_live lives target (r.costumeOf target fresh skin output)
  rw [Install.refusal?_congr rules] at settled
  cases refused : Install.refusal? host.renderer target (r.costumeOf target fresh skin output)
      skin with
  | some e =>
    have known : r.prospect host target fresh skin = .error e := by
      simp only [Remover.prospect, taken, refused]
    have stepped : step r s ⟨target, fresh, .registered (Remover.assetOf output) skin⟩ =
        (s.withHost (s.host.withRenderer (s.host.renderer.destroySkin skin)),
          ⟨target, fresh, .ending (.error e)⟩) := by
      simp only [refused] at settled
      unfold Remover.costumeOf at settled
      simp only [step, settled]
      rfl
    rw [stepped]
    exact ⟨.ending known new, .destroys rfl rfl (.inl rfl), by simp [Phase.left]⟩
  | none =>
    have known : r.prospect host target fresh skin =
        .ok ⟨r.costumeOf target fresh skin output, skin, target.modeOfNew⟩ := by
      simp only [Remover.prospect, taken, refused]
    have stepped : step r s ⟨target, fresh, .registered (Remover.assetOf output) skin⟩ =
        (s.withHost (s.host.withRenderer (s.host.renderer.showing target.drawable skin)),
          ⟨target.given (r.costumeOf target fresh skin output), fresh, .attached
            ⟨r.costumeOf target fresh skin output, skin, target.modeOfNew⟩⟩) := by
      simp only [refused] at settled
      unfold Remover.costumeOf at settled
      simp only [step, settled]
      rfl
    have drawable : s.host.renderer.drawables.contains target.drawable = true := by
      rw [rules.drawables]
      exact Install.contains_of_no_refusal refused
    rw [stepped]
    exact ⟨.attached known new, .shows rfl rfl drawable, by simp [Phase.left]⟩

/-- **One step on the course.** An invocation that finds the host with its old rules, its flag free and its
own skin alive goes on as it would have done with the host for itself. -/
theorem Course.advance (memory : host.registry = .storage) (impartial : r.Impartial)
    (resident : target.current.asset.bytes = .ok (some bytes)) (rules : host.SameRules s.host)
    (later : host.renderer.issued ≤ s.host.renderer.issued)
    (free : i.phase = .ready → target.id ∉ s.busy.held)
    (lives : ∀ skin, i.phase.skin? = some skin → s.host.renderer.skins.contains skin = true)
    (course : Course r host target fresh i) : Advance r host target fresh s i (i.step r s) := by
  cases course with
  | waits =>
    have acquired : s.busy.acquire target.id = .ok ⟨target.id :: s.busy.held⟩ := by
      rw [BusyFlags.acquire, if_neg (free rfl)]
    rw [acquired_step acquired]
    exact ⟨.begun, aside_early rfl rfl rfl, by simp [Phase.left, ready]⟩
  | begun => exact begun_advance resident
  | resolved found =>
    refine ⟨?_, aside_early rfl rfl rfl, by simp [step, Phase.left, enter]⟩
    show Course r host target fresh ⟨target, fresh, .asked (r.ask s _).1⟩
    rw [Remover.answer_eq impartial found]
    exact .asked
  | asked => exact asked_advance _ rfl
  | answered answer => exact answered_advance answer
  | decoded picture => exact decoded_advance memory rules later picture
  | skinned picture accepting new => exact skinned_advance memory rules picture accepting new
  | registered taken new => exact registered_advance rules taken new (lives _ rfl)
  | attached known new =>
    exact ⟨.ending known new, .aside (.inr rfl) rfl rfl fun _ => .inl rfl,
      by simp [step, Phase.left, enter]⟩
  | ending known new =>
    rename_i skin result
    cases result <;>
      exact ⟨.ended known new, .aside (.inl rfl) rfl rfl fun _ => .inl rfl,
        by simp [step, Phase.left, enter]⟩
  | ended known new =>
    rw [step_over r s rfl]
    exact ⟨.ended known new, .aside (.inl rfl) rfl rfl .inl, Nat.zero_le _⟩

/-- On its course an invocation keeps to its target. -/
theorem Course.target_id (course : Course r host target fresh i) : i.target.id = target.id := by
  cases course with
  | attached known new => exact target.given_id _
  | ending known new | ended known new => exact target.after_id _
  | waits | begun | resolved | asked | answered | decoded | skinned | registered => rfl

/-- Its skin is none of those that were there in the beginning. -/
theorem Course.skin_new (course : Course r host target fresh i) (own : i.phase.skin? = some skin) :
    host.renderer.issued < skin.number := by
  cases course with
  | waits | begun | resolved | asked | answered | decoded => cases own
  | skinned picture accepting new | registered taken new =>
    cases own
    exact new
  | attached known new =>
    cases own
    rw [Remover.prospect_skin known]
    exact new
  | ending known new | ended known new =>
    rename_i number result
    cases result with
    | error e => cases own
    | ok made =>
      cases own
      rw [Remover.prospect_skin known]
      exact new

/-- On its course an invocation is over when it has come to what was to be expected. -/
theorem Course.ended_of_over (course : Course r host target fresh i)
    (gone : i.phase.isOver = true) :
    ∃ skin, host.renderer.issued < skin.number ∧
      i.phase = .ended (r.prospect host target fresh skin) ∧
      i.target = target.after (r.prospect host target fresh skin) := by
  cases course with
  | ended known new => exact ⟨_, new, known ▸ rfl, known ▸ rfl⟩
  | waits | begun | resolved | asked | answered | decoded | skinned | registered | attached | ending =>
    cases gone

end Invocation

end Silhouette
