import Silhouette.Removal.Install
import Silhouette.Proofs.Renderer
import Silhouette.Proofs.Variants

/-! Installing a result either happens as a whole or shows no trace. The ways in which an installation
can end are listed once, as `Exit`; everything said about installations is read off that list. The
skin that a failed installation destroys is the one that it made itself, because its number was new,
and no step after the binding of the drawable can fail. -/
namespace Silhouette

namespace Sample

/-- The costume that the drawable shows. -/
def cat : Costume := ⟨⟨.ofNat 1⟩, "cat", .ofBytes .png ⟨#[7]⟩, 2, none, some ⟨1⟩⟩

/-- Another costume, with an asset of its own. -/
def dog : Costume := cat.derive ⟨.ofNat 2⟩ " (bg)" (.ofBytes .png ⟨#[1]⟩) ⟨1⟩

/-- A target that keeps a list of this one costume. -/
def sprite : Target := ⟨⟨.ofNat 9⟩, "Sprite1", ⟨2⟩, .list (.singleton cat)⟩

/-- A result of the service. -/
def cutout : ServiceOutput := ⟨⟨#[1, 2, 3]⟩, .png, "image/png"⟩

/-- A decoder that takes everything for a picture of four by four. -/
def fourByFour (_ : ByteArray) : Decoding := .bitmap ⟨4, 4⟩

end Sample

namespace Install

/-- How an installation can end: in one of four refusals, each after all steps before it went well,
or done. -/
inductive Exit (settings : RemovalSettings) (decode : ByteArray → Decoding) (h : Host)
    (target : Target) (source : Costume) (output : ServiceOutput) (fresh : CostumeId) :
    Except RemovalError Installation × Host × Target → Prop where
  | undecoded
      (refused : decodeOutput decode settings.decodeTimeout output.bytes = .error e) :
      Exit settings decode h target source output fresh (.error e, h, target)
  | skinless
      (decoded : decodeOutput decode settings.decodeTimeout output.bytes = .ok bitmap)
      (refused : makeSkin h source bitmap = .error e) :
      Exit settings decode h target source output fresh (.error e, h, target)
  | unregistered
      (decoded : decodeOutput decode settings.decodeTimeout output.bytes = .ok bitmap)
      (skinned : makeSkin h source bitmap = .ok (skin, made))
      (refused : register made output = .error e) :
      Exit settings decode h target source output fresh
        (.error e, made.withRenderer (made.renderer.destroySkin skin), target)
  | unattached
      (decoded : decodeOutput decode settings.decodeTimeout output.bytes = .ok bitmap)
      (skinned : makeSkin h source bitmap = .ok (skin, made))
      (registered : register made output = .ok (asset, kept))
      (refused : attach kept.renderer target
        (source.derive fresh settings.nameSuffix asset skin) skin = (.error e, r, target')) :
      Exit settings decode h target source output fresh
        (.error e, kept.withRenderer (r.destroySkin skin), target')
  | installed
      (decoded : decodeOutput decode settings.decodeTimeout output.bytes = .ok bitmap)
      (skinned : makeSkin h source bitmap = .ok (skin, made))
      (registered : register made output = .ok (asset, kept))
      (attached : attach kept.renderer target
        (source.derive fresh settings.nameSuffix asset skin) skin = (.ok mode, r, target')) :
      Exit settings decode h target source output fresh
        (.ok ⟨source.derive fresh settings.nameSuffix asset skin, skin, mode⟩,
          kept.withRenderer r.redraw, target')

variable {settings : RemovalSettings} {decode : ByteArray → Decoding} {h after : Host}
  {target target' : Target} {source costume : Costume} {output : ServiceOutput}
  {fresh : CostumeId} {skin : SkinId} {asset : Asset} {r r' : Renderer} {bitmap : Bitmap}

theorem makeSkin_eq_ok :
    makeSkin h source bitmap = .ok (skin, after) ↔
      ∃ r, h.renderer.createSkin bitmap source.resolution = .ok (skin, r) ∧
        after = h.withRenderer r := by
  unfold makeSkin
  cases h.renderer.createSkin bitmap source.resolution with
  | error e => simp
  | ok made =>
    obtain ⟨made, r⟩ := made
    simp only [Except.ok.injEq, Prod.mk.injEq]
    constructor
    · rintro ⟨rfl, rfl⟩
      exact ⟨r, ⟨rfl, rfl⟩, rfl⟩
    · rintro ⟨_, ⟨rfl, rfl⟩, rfl⟩
      exact ⟨rfl, rfl⟩

theorem decodeOutput_error
    (refused : decodeOutput decode timeout bytes = .error e) : ∃ reason, e = .decodeFailed reason := by
  unfold decodeOutput at refused
  split at refused
  · cases refused
    exact ⟨_, rfl⟩
  · cases refused
    exact ⟨_, rfl⟩
  · split at refused
    · cases refused
      exact ⟨_, rfl⟩
    · cases refused

theorem makeSkin_error (refused : makeSkin h source bitmap = .error e) :
    ∃ cause : HostError, e = .installFailed ("create skin: " ++ cause.message) := by
  unfold makeSkin at refused
  split at refused <;> cases refused
  exact ⟨_, rfl⟩

theorem register_error (refused : register h output = .error e) :
    ∃ cause : HostError, e = .installFailed ("register asset: " ++ cause.message) := by
  unfold register at refused
  split at refused <;> cases refused
  exact ⟨_, rfl⟩

/-- Taking an asset in changes the storage and nothing else of the host. -/
theorem register_eq_ok (registered : register h output = .ok (asset, after)) :
    ∃ storage,
      h.storage.createAsset (keptFormat output.format) output.bytes = .ok (asset, storage) ∧
        after = { h with storage } := by
  unfold register Host.createAsset at registered
  cases taken : h.registry with
  | refusing cause => simp [taken] at registered
  | storage =>
    simp only [taken] at registered
    cases created : h.storage.createAsset (keptFormat output.format) output.bytes with
    | error e => simp [created] at registered
    | ok made =>
      obtain ⟨made, storage⟩ := made
      simp only [created, Except.ok.injEq, Prod.mk.injEq] at registered
      obtain ⟨rfl, rfl⟩ := registered
      exact ⟨storage, rfl, rfl⟩

theorem bindSkin_eq_ok :
    bindSkin r target skin = .ok r' ↔ r.bind target.drawable skin = .ok r' := by
  unfold bindSkin
  cases r.bind target.drawable skin <;> simp

/-- A list that takes the costume takes it and selects it. -/
theorem appendSelected_of_checkAppend {list : VariantList}
    (takes : list.checkAppend costume = .ok ()) :
    appendSelected list costume = .ok (list.size, list.withNewest costume) := by
  unfold appendSelected
  rw [VariantList.push_of_checkAppend takes]
  simp only [VariantList.select_append]
  rfl

/-- What attaching a costume does to a target that keeps a list: the list and the renderer are asked
in this order, and once both agree nothing refuses. -/
theorem attach_list {list : VariantList} (keeps : target.wardrobe = .list list) :
    attach r target costume skin =
      match list.checkAppend costume with
      | .error e => (.error (.installFailed e.message), r, target)
      | .ok () =>
        match bindSkin r target skin with
        | .error e => (.error e, r, target)
        | .ok r =>
          (.ok (.appended list.size), r, target.withVariants (list.withNewest costume)) := by
  unfold attach
  simp only [keeps]
  cases takes : list.checkAppend costume with
  | error e => rfl
  | ok agreed =>
    cases bindSkin r target skin with
    | error e => rfl
    | ok bound => simp only [appendSelected_of_checkAppend takes]

theorem bindSkin_error (refused : bindSkin r target skin = .error e) :
    ∃ cause : HostError, e = .installFailed ("bind drawable: " ++ cause.message) := by
  unfold bindSkin at refused
  split at refused <;> cases refused
  exact ⟨_, rfl⟩

/-- How attaching a costume fails: the list of variants objects, or the drawable cannot be bound. -/
inductive AttachRefusal : RemovalError → Prop where
  | objection (cause : VariantError) : AttachRefusal (.installFailed cause.message)
  | binding (cause : HostError) :
      AttachRefusal (.installFailed ("bind drawable: " ++ cause.message))

/-- A costume that could not be attached has changed nothing. -/
theorem attach_error (refused : attach r target costume skin = (.error e, r', target')) :
    r' = r ∧ target' = target ∧ AttachRefusal e := by
  have unbound : ∀ cause, bindSkin r target skin = .error cause → AttachRefusal cause := by
    intro cause failed
    obtain ⟨why, rfl⟩ := bindSkin_error failed
    exact .binding why
  cases shape : target.wardrobe with
  | single current =>
    unfold attach at refused
    simp only [shape] at refused
    cases bindable : bindSkin r target skin with
    | error cause =>
      simp only [bindable, Prod.mk.injEq, Except.error.injEq] at refused
      obtain ⟨rfl, rfl, rfl⟩ := refused
      exact ⟨rfl, rfl, unbound _ bindable⟩
    | ok bound => simp [bindable] at refused
  | list list =>
    rw [attach_list shape] at refused
    cases takes : list.checkAppend costume with
    | error cause =>
      simp only [takes, Prod.mk.injEq, Except.error.injEq] at refused
      obtain ⟨rfl, rfl, rfl⟩ := refused
      exact ⟨rfl, rfl, .objection cause⟩
    | ok agreed =>
      cases bindable : bindSkin r target skin with
      | error cause =>
        simp only [takes, bindable, Prod.mk.injEq, Except.error.injEq] at refused
        obtain ⟨rfl, rfl, rfl⟩ := refused
        exact ⟨rfl, rfl, unbound _ bindable⟩
      | ok bound => simp [takes, bindable] at refused

/-- An attached costume is shown by the drawable, and a target that keeps a list has it as its newest
and selected entry. -/
theorem attach_ok (attached : attach r target costume skin = (.ok mode, r', target')) :
    r.bind target.drawable skin = .ok r' ∧
      ((∃ list, target.wardrobe = .list list ∧ mode = .appended list.size ∧
          target' = target.withVariants (list.withNewest costume)) ∨
        ∃ current, target.wardrobe = .single current ∧ mode = .rebound ∧ target' = target) := by
  cases shape : target.wardrobe with
  | single current =>
    unfold attach at attached
    simp only [shape] at attached
    cases bindable : bindSkin r target skin with
    | error e => simp [bindable] at attached
    | ok bound =>
      simp only [bindable, Prod.mk.injEq, Except.ok.injEq] at attached
      obtain ⟨rfl, rfl, rfl⟩ := attached
      exact ⟨bindSkin_eq_ok.mp bindable, .inr ⟨current, rfl, rfl, rfl⟩⟩
  | list list =>
    rw [attach_list shape] at attached
    cases takes : list.checkAppend costume with
    | error e => simp [takes] at attached
    | ok agreed =>
      cases bindable : bindSkin r target skin with
      | error e => simp [takes, bindable] at attached
      | ok bound =>
        simp only [takes, bindable, Prod.mk.injEq, Except.ok.injEq] at attached
        obtain ⟨rfl, rfl, rfl⟩ := attached
        exact ⟨bindSkin_eq_ok.mp bindable, .inl ⟨list, rfl, rfl, rfl⟩⟩

/-- Every installation ends in one of these ways. -/
theorem install_exit (settings : RemovalSettings) (decode : ByteArray → Decoding) (h : Host)
    (target : Target) (source : Costume) (output : ServiceOutput) (fresh : CostumeId) :
    Exit settings decode h target source output fresh
      (install settings decode h target source output fresh) := by
  unfold install
  cases decoded : decodeOutput decode settings.decodeTimeout output.bytes with
  | error e => exact .undecoded decoded
  | ok bitmap =>
    dsimp only
    cases skinned : makeSkin h source bitmap with
    | error e => exact .skinless decoded skinned
    | ok made =>
      obtain ⟨skin, made⟩ := made
      dsimp only
      cases registered : register made output with
      | error e => exact .unregistered decoded skinned registered
      | ok kept =>
        obtain ⟨asset, kept⟩ := kept
        dsimp only [settle]
        cases attached : attach kept.renderer target
            (source.derive fresh settings.nameSuffix asset skin) skin with
        | mk result rest =>
          obtain ⟨r, target'⟩ := rest
          cases result with
          | error e => exact .unattached decoded skinned registered attached
          | ok mode =>
            show Exit settings decode h target source output fresh
              (_, kept.withRenderer r.redraw, target')
            exact .installed decoded skinned registered attached

/-- A failed installation leaves the target alone, and of the renderer it has at most taken a
number. -/
theorem failed_renderer (issued : h.renderer.Issued)
    (failed : install settings decode h target source output fresh = (.error e, after, target')) :
    target' = target ∧ h.renderer.OnlyIssued after.renderer := by
  have ended := install_exit settings decode h target source output fresh
  rw [failed] at ended
  cases ended with
  | undecoded refused => exact ⟨rfl, .refl _⟩
  | skinless decoded refused => exact ⟨rfl, .refl _⟩
  | unregistered decoded skinned refused =>
    obtain ⟨r, made, rfl⟩ := makeSkin_eq_ok.mp skinned
    obtain ⟨_, _, _, rfl, rfl⟩ := Renderer.createSkin_eq_ok.mp made
    exact ⟨rfl, Renderer.destroySkin_withNewSkin issued⟩
  | unattached decoded skinned registered refused =>
    obtain ⟨r, made, rfl⟩ := makeSkin_eq_ok.mp skinned
    obtain ⟨_, _, _, rfl, rfl⟩ := Renderer.createSkin_eq_ok.mp made
    obtain ⟨storage, _, rfl⟩ := register_eq_ok registered
    obtain ⟨rfl, rfl, _⟩ := attach_error refused
    exact ⟨rfl, Renderer.destroySkin_withNewSkin issued⟩

/-- The renderer that a finished installation leaves: it has one skin more, under the next number, the
drawable of the target shows it, and one more redraw was asked for. -/
theorem installed_renderer
    (done : install settings decode h target source output fresh = (.ok made, after, target')) :
    h.renderer.drawables.contains target.drawable = true ∧
      made.skin = ⟨h.renderer.issued + 1⟩ ∧
      (∃ asset, made.costume = source.derive fresh settings.nameSuffix asset made.skin) ∧
      (∃ bitmap, after.renderer =
        ((h.renderer.withNewSkin bitmap source.resolution).showing target.drawable
          made.skin).redraw) ∧
      ((∃ list, target.wardrobe = .list list ∧ made.mode = .appended list.size ∧
          target' = target.withVariants (list.withNewest made.costume)) ∨
        ∃ current, target.wardrobe = .single current ∧ made.mode = .rebound ∧
          target' = target) := by
  have ended := install_exit settings decode h target source output fresh
  rw [done] at ended
  cases ended with
  | installed decoded skinned registered attached =>
    obtain ⟨r, created, rfl⟩ := makeSkin_eq_ok.mp skinned
    obtain ⟨_, _, _, rfl, rfl⟩ := Renderer.createSkin_eq_ok.mp created
    obtain ⟨storage, _, rfl⟩ := register_eq_ok registered
    obtain ⟨bound, kind⟩ := attach_ok attached
    obtain ⟨_, known, _, rfl⟩ := Renderer.bind_eq_ok.mp bound
    exact ⟨known, rfl, ⟨_, rfl⟩, ⟨_, rfl⟩, kind⟩

/-- What an installation or a removal failed with, if it did. -/
def failure? : Except RemovalError α → Option RemovalError
  | .error e => some e
  | .ok _ => none

theorem eq_of_failure? {x : Except RemovalError α × β × γ}
    (failed : failure? x.1 = some e) : ∃ b c, x = (.error e, b, c) := by
  obtain ⟨result, b, c⟩ := x
  cases result with
  | error cause =>
    cases failed
    exact ⟨b, c, rfl⟩
  | ok done => cases failed

/-- **A failed installation leaves no trace.** Whatever refuses, the target is the very target it was,
and the renderer shows the same scene: the same skins live, every drawable shows what it showed, and
no redraw was asked for. Once a list has agreed to a costume and its drawable is bound, the costume is
appended and selected without fail, so no error comes after the binding. -/
theorem failed_install_leaves_no_trace (settings : RemovalSettings)
    (decode : ByteArray → Decoding) (h : Host) (target : Target) (source : Costume)
    (output : ServiceOutput) (fresh : CostumeId) (reachable : h.renderer.Reachable) :
    (∀ e after target',
      install settings decode h target source output fresh = (.error e, after, target') →
        target' = target ∧ h.renderer.SameScene after.renderer) ∧
    (∀ list costume r skin bound, target.wardrobe = .list list →
      list.checkAppend costume = .ok () → bindSkin r target skin = .ok bound →
        list.push costume = .ok (list.append costume) ∧
        (list.append costume).select ((list.append costume).size - 1) =
          .ok (list.withNewest costume) ∧
        attach r target costume skin =
          (.ok (.appended list.size), bound, target.withVariants (list.withNewest costume))) ∧
    (∀ r costume skin e after target',
      attach r target costume skin = (.error e, after, target') → after = r ∧ target' = target) := by
  refine ⟨?_, ?_, ?_⟩
  · intro e after target' failed
    obtain ⟨kept, only⟩ := failed_renderer reachable.issued failed
    exact ⟨kept, only.sameScene⟩
  · intro list costume r skin bound keeps takes binds
    refine ⟨VariantList.push_of_checkAppend takes, VariantList.select_append, ?_⟩
    rw [attach_list keeps]
    simp only [takes, binds]
  · intro r costume skin e after target' refused
    obtain ⟨same, kept, _⟩ := attach_error refused
    exact ⟨same, kept⟩

open Sample

/-- The last refusal there is: the result is decoded, has its skin and is registered, the list takes
it, and the drawable is locked. With the drawable unlocked the same costume is attached. -/
theorem locked_drawable_leaves_no_trace :
    (∃ after target',
      install default fourByFour (.inMemory default locked) sprite cat cutout ⟨.ofNat 2⟩ =
        (.error (.installFailed
          "bind drawable: binding skin#3 to drawable#2 rejected: drawable is locked"),
          after, target') ∧
      target' = sprite ∧ locked.SameScene after.renderer) ∧
    (∃ bound, attach unlocked sprite dog ⟨1⟩ =
      (.ok (.appended 1), bound, sprite.withVariants ((VariantList.singleton cat).withNewest dog))) ∧
    (attach locked sprite dog ⟨1⟩).2 = (locked, sprite) := by
  have atomic := failed_install_leaves_no_trace default fourByFour (.inMemory default locked) sprite
    cat cutout ⟨.ofNat 2⟩ locked_reachable
  refine ⟨?_, ?_, ?_⟩
  · have refused : failure? (install default fourByFour (.inMemory default locked) sprite cat cutout
        ⟨.ofNat 2⟩).1 = some (.installFailed
          "bind drawable: binding skin#3 to drawable#2 rejected: drawable is locked") := by
      decide +kernel
    obtain ⟨after, target', failed⟩ := eq_of_failure? refused
    exact ⟨after, target', failed, atomic.1 _ _ _ failed⟩
  · have takes : (VariantList.singleton cat).checkAppend dog = .ok () :=
      VariantList.checkAppend_eq_ok.mpr (by decide +kernel)
    exact ⟨_, (atomic.2.1 (.singleton cat) dog unlocked ⟨1⟩ _ rfl takes rfl).2.2⟩
  · have refused : failure? (attach locked sprite dog ⟨1⟩).1 = some (.installFailed
        "bind drawable: binding skin#1 to drawable#2 rejected: drawable is locked") := by
      decide +kernel
    obtain ⟨after, target', failed⟩ := eq_of_failure? refused
    obtain ⟨kept, same⟩ := atomic.2.2 locked dog ⟨1⟩ _ _ _ failed
    rw [failed]
    exact Prod.ext kept same

end Install

end Silhouette
