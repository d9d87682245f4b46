import Silhouette.Proofs.Installation

/-! What an installation on a host in memory requires: a picture, a renderer that takes skins, content,
a list that does not hold the asset yet, and a drawable that can be bound. They are asked for in this
order. An installation succeeds exactly if all five are met; otherwise its failure names the first that
is not met, and there is no sixth way to fail. -/
namespace Silhouette

/-- A name that no costume in the target's list has. -/
def CostumeId.NewTo (fresh : CostumeId) (target : Target) : Prop :=
  ∀ list, target.wardrobe = .list list → ∀ entry ∈ list.entries, entry.id ≠ fresh

/-- The target's list has a costume with some asset. A single costume is no list. -/
def Target.Holds (t : Target) (asset : AssetId) : Prop :=
  ∃ list, t.wardrobe = .list list ∧ ∃ entry ∈ list.entries, entry.asset.id = asset

namespace VariantList

/-- If the name of a costume is new, a list can only object to its asset. -/
theorem objection_of_new {c : Costume} {entries : List Costume}
    (new : ∀ entry ∈ entries, entry.id ≠ c.id) :
    ((∀ entry ∈ entries, entry.asset.id ≠ c.asset.id) ∧ objection c entries = none) ∨
      ((∃ entry ∈ entries, entry.asset.id = c.asset.id) ∧
        objection c entries = some (.duplicateAsset c.asset.id)) := by
  induction entries with
  | nil => exact .inl ⟨nofun, rfl⟩
  | cons entry rest ih =>
    obtain ⟨unnamed, others⟩ := List.forall_mem_cons.mp new
    by_cases held : entry.asset.id = c.asset.id
    · refine .inr ⟨⟨entry, List.mem_cons_self, held⟩, ?_⟩
      simp [objection, unnamed, held]
    · have skipped : objection c (entry :: rest) = objection c rest := by
        simp [objection, unnamed, held]
      rw [skipped]
      rcases ih others with ⟨absent, silent⟩ | ⟨⟨holder, member, same⟩, objects⟩
      · exact .inl ⟨List.forall_mem_cons.mpr ⟨held, absent⟩, silent⟩
      · exact .inr ⟨⟨holder, List.mem_cons_of_mem _ member, same⟩, objects⟩

end VariantList

/-- What an installation requires, in the order in which it is asked for. -/
inductive Requirement where
  | picture
  | skin
  | content
  | novelty
  | binding
  deriving DecidableEq, Repr

namespace Requirement

/-- The place of a requirement in the order. -/
def rank : Requirement → Nat
  | .picture => 0
  | .skin => 1
  | .content => 2
  | .novelty => 3
  | .binding => 4

/-- What has to be so for a requirement to be met. -/
def Met (decode : ByteArray → Decoding) (renderer : Renderer) (target : Target)
    (output : ServiceOutput) : Requirement → Prop
  | .picture => ∃ bitmap,
      decode output.bytes = .bitmap bitmap ∧ bitmap.width ≠ 0 ∧ bitmap.height ≠ 0
  | .skin => renderer.rejectsSkins = false
  | .content => output.bytes.size ≠ 0
  | .novelty => ¬ target.Holds (.compute output.bytes)
  | .binding =>
      renderer.drawables.contains target.drawable = true ∧ renderer.rejectsBindings = false

/-- A requirement is not met, and all before it are. -/
structure FirstUnmet (decode : ByteArray → Decoding) (renderer : Renderer) (target : Target)
    (output : ServiceOutput) (need : Requirement) : Prop where
  unmet : ¬ need.Met decode renderer target output
  before : ∀ earlier : Requirement, earlier.rank < need.rank →
    earlier.Met decode renderer target output

/-- Which failures name a requirement. Only that of a locked drawable tells the number of the new
skin. -/
inductive Blames (renderer : Renderer) (target : Target) (output : ServiceOutput) :
    Requirement → RemovalError → Prop where
  | picture (reason : String) : Blames renderer target output .picture (.decodeFailed reason)
  | skin : Blames renderer target output .skin
      (.installFailed "create skin: skin creation failed: renderer refused skin")
  | content : Blames renderer target output .content
      (.installFailed "register asset: registry rejected asset: empty asset")
  | novelty : Blames renderer target output .novelty (.installFailed
      (VariantError.duplicateAsset (.compute output.bytes)).message)
  | unknown (absent : renderer.drawables.contains target.drawable = false) :
      Blames renderer target output .binding (.installFailed
        ("bind drawable: " ++ (HostError.unknownDrawable target.drawable).message))
  | locked (known : renderer.drawables.contains target.drawable = true)
      (refusing : renderer.rejectsBindings = true) :
      Blames renderer target output .binding (.installFailed
        ("bind drawable: " ++ (HostError.bindingRejected target.drawable ⟨renderer.issued + 1⟩
          "drawable is locked").message))

variable {decode : ByteArray → Decoding} {renderer : Renderer} {target : Target}
  {output : ServiceOutput} {need other : Requirement}

/-- There is at most one first requirement that is not met. -/
theorem FirstUnmet.unique (first : FirstUnmet decode renderer target output need)
    (second : FirstUnmet decode renderer target output other) : need = other := by
  rcases Nat.lt_trichotomy need.rank other.rank with earlier | same | later
  · exact absurd (second.before need earlier) first.unmet
  · cases need <;> cases other <;> first | rfl | cases same
  · exact absurd (first.before other later) second.unmet

end Requirement

namespace Target

/-- What the target's list of variants has against a costume; a single costume has nothing. -/
def objection? (t : Target) (c : Costume) : Option VariantError :=
  match t.wardrobe with
  | .list list => VariantList.objection c list.entries
  | .single _ => none

/-- The target after it was given a costume: a list has it as its newest entry, a single costume
stays. -/
def given (t : Target) (c : Costume) : Target :=
  match t.wardrobe with
  | .list list => t.withVariants (list.withNewest c)
  | .single _ => t

/-- How the target takes a costume. -/
def modeOfNew (t : Target) : InstallMode :=
  match t.wardrobe with
  | .list list => .appended list.size
  | .single _ => .rebound

end Target

namespace Install

variable {decode : ByteArray → Decoding} {storage : Storage} {renderer r r' : Renderer} {h after : Host}
  {target target' : Target} {source costume : Costume} {output : ServiceOutput} {fresh : CostumeId}
  {skin : SkinId} {asset : Asset} {bitmap : Bitmap}

theorem decodeOutput_eq_ok :
    decodeOutput decode timeout bytes = .ok bitmap ↔
      decode bytes = .bitmap bitmap ∧ bitmap.width ≠ 0 ∧ bitmap.height ≠ 0 := by
  unfold decodeOutput
  split
  · rename_i unfinished
    simp [unfinished]
  · rename_i failed
    simp [failed]
  · rename_i found decoded
    by_cases blank : found.width = 0 ∨ found.height = 0
    · rw [if_pos blank, decoded]
      constructor
      · intro made
        cases made
      · rintro ⟨same, wide, high⟩
        cases same
        exact absurd blank (not_or.mpr ⟨wide, high⟩)
    · rw [if_neg blank, decoded]
      obtain ⟨wide, high⟩ := not_or.mp blank
      constructor
      · intro made
        cases made
        exact ⟨rfl, wide, high⟩
      · rintro ⟨same, _, _⟩
        cases same
        rfl

/-- The target is asked first and the renderer then; once both agree nothing refuses. -/
theorem attach_eq (r : Renderer) (target : Target) (costume : Costume) (skin : SkinId) :
    attach r target costume skin =
      match target.objection? costume with
      | some cause => (.error (.installFailed cause.message), r, target)
      | none =>
        match bindSkin r target skin with
        | .error e => (.error e, r, target)
        | .ok bound => (.ok target.modeOfNew, bound, target.given costume) := by
  cases shape : target.wardrobe with
  | single current =>
    unfold attach
    simp only [shape, Target.objection?]
    cases bindSkin r target skin with
    | error e => rfl
    | ok bound => simp only [Target.modeOfNew, Target.given, shape]
  | list list =>
    rw [attach_list shape]
    simp only [Target.objection?, shape, VariantList.checkAppend]
    cases VariantList.objection costume list.entries with
    | some cause => rfl
    | none =>
      cases bindSkin r target skin with
      | error e => rfl
      | ok bound => simp only [Target.modeOfNew, Target.given, shape]

/-- What speaks against giving a target a costume whose skin lives, if anything does: its list is heard
first, the renderer then. -/
def refusal? (r : Renderer) (target : Target) (costume : Costume) (skin : SkinId) :
    Option RemovalError :=
  match target.objection? costume with
  | some cause => some (.installFailed cause.message)
  | none =>
    if !r.drawables.contains target.drawable then
      some (.installFailed
        ("bind drawable: " ++ (HostError.unknownDrawable target.drawable).message))
    else if r.rejectsBindings then
      some (.installFailed ("bind drawable: " ++
        (HostError.bindingRejected target.drawable skin "drawable is locked").message))
    else none

/-- Attaching does what is to be done unless something speaks against it. -/
theorem attach_of_live (lives : r.skins.contains skin = true) (target : Target) (costume : Costume) :
    attach r target costume skin =
      match refusal? r target costume skin with
      | some e => (.error e, r, target)
      | none =>
        (.ok target.modeOfNew, r.showing target.drawable skin, target.given costume) := by
  rw [attach_eq]
  unfold refusal? bindSkin Renderer.bind
  cases target.objection? costume with
  | some cause => rfl
  | none =>
    cases r.drawables.contains target.drawable <;> cases refuses : r.rejectsBindings <;>
      simp [lives, refuses, Renderer.showing]

/-- So does settling, which destroys the skin if something speaks against it. -/
theorem settle_of_live (lives : h.renderer.skins.contains skin = true) (target : Target)
    (costume : Costume) :
    settle h target costume skin =
      match refusal? h.renderer target costume skin with
      | some e => (.error e, h.withRenderer (h.renderer.destroySkin skin), target)
      | none => (.ok ⟨costume, skin, target.modeOfNew⟩,
          h.withRenderer (h.renderer.showing target.drawable skin), target.given costume) := by
  unfold settle
  rw [attach_of_live lives]
  cases refusal? h.renderer target costume skin <;> rfl

theorem refusal?_withNewSkin (r : Renderer) (target : Target) (costume : Costume) (skin : SkinId) :
    refusal? (r.withNewSkin bitmap resolution) target costume skin =
      refusal? r target costume skin := rfl

/-- Of a picture with pixels a skin is made unless the renderer refuses all skins. -/
theorem makeSkin_of_pixels (wide : bitmap.width ≠ 0) (high : bitmap.height ≠ 0) (h : Host)
    (source : Costume) :
    makeSkin h source bitmap =
      if h.renderer.rejectsSkins then
        .error (.installFailed "create skin: skin creation failed: renderer refused skin")
      else .ok (⟨h.renderer.issued + 1⟩,
        h.withRenderer (h.renderer.withNewSkin bitmap source.resolution)) := by
  unfold makeSkin Renderer.createSkin
  cases refuses : h.renderer.rejectsSkins with
  | true => rfl
  | false => simp [wide, high, refuses, Renderer.withNewSkin, Renderer.infoOf]

/-- In memory an output is taken in unless it is empty. -/
theorem register_inMemory (h : Host) (kept : h.registry = .storage) (output : ServiceOutput) :
    (output.bytes.size = 0 ∧
      register h output = .error (.installFailed "register asset: registry rejected asset: empty asset")) ∨
    (output.bytes.size ≠ 0 ∧ ∃ storage,
      register h output =
        .ok (.ofBytes (keptFormat output.format) output.bytes, { h with storage }) ∧
      h.storage.createAsset (keptFormat output.format) output.bytes =
        .ok (.ofBytes (keptFormat output.format) output.bytes, storage)) := by
  unfold register Host.createAsset
  simp only [kept, Storage.createAsset]
  by_cases empty : output.bytes.size = 0
  · left
    simp only [empty, if_true, true_and]
    rfl
  · right
    simp only [empty, if_false]
    exact ⟨empty, _, rfl, rfl⟩

open Requirement (FirstUnmet Blames)

/-- If the name of a costume is new, the target objects exactly if it holds the costume's asset. -/
theorem objection?_of_new (new : costume.id.NewTo target) :
    (¬ target.Holds costume.asset.id ∧ target.objection? costume = none) ∨
      (target.Holds costume.asset.id ∧
        target.objection? costume = some (.duplicateAsset costume.asset.id)) := by
  unfold Target.Holds Target.objection?
  cases shape : target.wardrobe with
  | single current => exact .inl ⟨nofun, rfl⟩
  | list list =>
    rcases VariantList.objection_of_new (new list shape) with ⟨absent, silent⟩ | ⟨held, objects⟩
    · refine .inl ⟨?_, silent⟩
      rintro ⟨_, ⟨⟩, holder, member, same⟩
      exact absent holder member same
    · exact .inr ⟨⟨list, rfl, held⟩, objects⟩

/-- How an installation is decided: all requirements are met and it is done, or it fails with the first
that is not. -/
inductive Verdict (decode : ByteArray → Decoding) (renderer : Renderer) (target : Target)
    (output : ServiceOutput) : Except RemovalError α → Prop where
  | granted (met : ∀ need : Requirement, need.Met decode renderer target output) :
      Verdict decode renderer target output (.ok done)
  | refused (first : FirstUnmet decode renderer target output need)
      (blamed : Blames renderer target output need e) :
      Verdict decode renderer target output (.error e)

/-- What speaks against a new costume of some output decides the last two requirements. -/
theorem refusal?_verdict (costume : Costume) (new : costume.id.NewTo target)
    (own : costume.asset.id = .compute output.bytes)
    (before : ∀ earlier : Requirement, earlier.rank < 3 → earlier.Met decode renderer target output) :
    (refusal? renderer target costume ⟨renderer.issued + 1⟩ = none ∧
      ∀ need : Requirement, need.Met decode renderer target output) ∨
    ∃ e need, refusal? renderer target costume ⟨renderer.issued + 1⟩ = some e ∧
      FirstUnmet decode renderer target output need ∧ Blames renderer target output need e := by
  unfold refusal?
  rcases objection?_of_new new with ⟨novel, silent⟩ | ⟨held, objects⟩ <;>
    rw [own] at *
  · rw [silent]
    have most : ∀ earlier : Requirement, earlier.rank < 4 →
        earlier.Met decode renderer target output := by
      intro earlier below
      cases earlier with
      | novelty => exact novel
      | binding => exact absurd below (by decide)
      | picture | skin | content => exact before _ (by decide)
    cases known : renderer.drawables.contains target.drawable with
    | false =>
      have unmet : ¬ Requirement.binding.Met decode renderer target output :=
        fun met => Bool.false_ne_true (known.symm.trans met.1)
      exact .inr ⟨_, .binding, rfl, ⟨unmet, most⟩, .unknown known⟩
    | true =>
      cases refusing : renderer.rejectsBindings with
      | true =>
        have unmet : ¬ Requirement.binding.Met decode renderer target output :=
          fun met => Bool.false_ne_true (met.2.symm.trans refusing)
        exact .inr ⟨_, .binding, rfl, ⟨unmet, most⟩, .locked known refusing⟩
      | false =>
        refine .inl ⟨rfl, fun need => ?_⟩
        cases need with
        | binding => exact ⟨known, refusing⟩
        | picture | skin | content | novelty => exact most _ (by decide)
  · rw [objects]
    have unmet : ¬ Requirement.novelty.Met decode renderer target output := fun met => met held
    exact .inr ⟨_, .novelty, rfl, ⟨unmet, before⟩, .novelty⟩

private theorem before_skin (picture : Requirement.picture.Met decode renderer target output)
    (earlier : Requirement) (below : earlier.rank < 1) :
    earlier.Met decode renderer target output := by
  cases earlier with
  | picture => exact picture
  | skin | content | novelty | binding => exact absurd below (by decide)

private theorem before_content (picture : Requirement.picture.Met decode renderer target output)
    (accepting : renderer.rejectsSkins = false) (earlier : Requirement)
    (below : earlier.rank < 2) : earlier.Met decode renderer target output := by
  cases earlier with
  | skin => exact accepting
  | picture => exact picture
  | content | novelty | binding => exact absurd below (by decide)

private theorem before_novelty (picture : Requirement.picture.Met decode renderer target output)
    (accepting : renderer.rejectsSkins = false) (filled : output.bytes.size ≠ 0)
    (earlier : Requirement) (below : earlier.rank < 3) :
    earlier.Met decode renderer target output := by
  cases earlier with
  | content => exact filled
  | picture | skin => exact before_content picture accepting _ (by decide)
  | novelty | binding => exact absurd below (by decide)

/-- Every installation on a host in memory is decided in this way. -/
theorem install_verdict (settings : RemovalSettings) (decode : ByteArray → Decoding) (h : Host)
    (memory : h.registry = .storage) (target : Target) (source : Costume) (output : ServiceOutput)
    (fresh : CostumeId) (new : fresh.NewTo target) :
    Verdict decode h.renderer target output
      (install settings decode h target source output fresh).1 := by
  unfold install
  cases decoded : decodeOutput decode settings.decodeTimeout output.bytes with
  | error e =>
    obtain ⟨reason, rfl⟩ := decodeOutput_error decoded
    have first : FirstUnmet decode h.renderer target output .picture := by
      refine ⟨?_, fun _ below => absurd below (Nat.not_lt_zero _)⟩
      rintro ⟨bitmap, picture⟩
      rw [decodeOutput_eq_ok.mpr picture] at decoded
      cases decoded
    exact .refused first (.picture reason)
  | ok bitmap =>
    have picture := decodeOutput_eq_ok.mp decoded
    simp only [makeSkin_of_pixels picture.2.1 picture.2.2]
    cases refuses : h.renderer.rejectsSkins with
    | true =>
      have first : FirstUnmet decode h.renderer target output .skin :=
        ⟨fun met => Bool.false_ne_true (met.symm.trans refuses), before_skin ⟨bitmap, picture⟩⟩
      exact .refused first .skin
    | false =>
      simp only [Bool.false_eq_true, if_false]
      rcases register_inMemory (h.withRenderer (h.renderer.withNewSkin bitmap source.resolution))
          memory output with ⟨empty, refused⟩ | ⟨filled, kept, registered, _⟩
      · have first : FirstUnmet decode h.renderer target output .content :=
          ⟨fun met => met empty, before_content ⟨bitmap, picture⟩ refuses⟩
        rw [refused]
        exact .refused first .content
      · have lives : (h.renderer.withNewSkin bitmap source.resolution).skins.contains
            ⟨h.renderer.issued + 1⟩ = true := by
          simp [Renderer.withNewSkin]
        have before : ∀ earlier : Requirement, earlier.rank < 3 →
            earlier.Met decode h.renderer target output :=
          before_novelty ⟨bitmap, picture⟩ refuses filled
        have heard := refusal?_verdict (source.derive fresh settings.nameSuffix
          (.ofBytes (keptFormat output.format) output.bytes) ⟨h.renderer.issued + 1⟩) new rfl before
        rw [registered]
        dsimp only [Host.withRenderer]
        rw [settle_of_live lives, refusal?_withNewSkin]
        rcases heard with ⟨granted, met⟩ | ⟨e, need, refused, first, blamed⟩
        · rw [granted]
          exact .granted met
        · rw [refused]
          exact .refused first blamed

/-- **An installation succeeds exactly if every requirement is met.** If some are not, it fails, and the
failure names the first of them: the picture, the skin, the content, the asset that the list already
holds, or the drawable. There is no failure that names none of them. -/
theorem install_succeeds_iff_requirements_met (settings : RemovalSettings)
    (decode : ByteArray → Decoding) (storage : Storage) (renderer : Renderer) (target : Target)
    (source : Costume) (output : ServiceOutput) (fresh : CostumeId) (new : fresh.NewTo target) :
    ((∃ made,
        (install settings decode (.inMemory storage renderer) target source output fresh).1 =
          .ok made) ↔
      ∀ need : Requirement, need.Met decode renderer target output) ∧
    (∀ need, FirstUnmet decode renderer target output need → ∃ e,
      (install settings decode (.inMemory storage renderer) target source output fresh).1 = .error e ∧
        Blames renderer target output need e) ∧
    ∀ e, (install settings decode (.inMemory storage renderer) target source output fresh).1 =
        .error e →
      ∃ need, FirstUnmet decode renderer target output need ∧ Blames renderer target output need e := by
  have decided : Verdict decode renderer target output
      (install settings decode (.inMemory storage renderer) target source output fresh).1 :=
    install_verdict settings decode (.inMemory storage renderer) rfl target source output fresh new
  generalize (install settings decode (.inMemory storage renderer) target source output fresh).1 =
    result at decided ⊢
  cases decided with
  | granted met =>
    refine ⟨⟨fun _ => met, fun _ => ⟨_, rfl⟩⟩, ?_, nofun⟩
    intro need first
    exact absurd (met need) first.unmet
  | refused first blamed =>
    refine ⟨⟨nofun, fun met => absurd (met _) first.unmet⟩, ?_, ?_⟩
    · intro need other
      obtain rfl := other.unique first
      exact ⟨_, rfl, blamed⟩
    · rintro e ⟨⟩
      exact ⟨_, first, blamed⟩

open Sample

/-- With an unlocked drawable the result is installed; with a locked one everything else is in order, and
the failure names the drawable. -/
theorem locked_drawable_is_blamed :
    (∃ made, (install default fourByFour (.inMemory default unlocked) sprite cat cutout
      ⟨.ofNat 2⟩).1 = .ok made) ∧
    ∃ e, (install default fourByFour (.inMemory default locked) sprite cat cutout ⟨.ofNat 2⟩).1 =
      .error e ∧ Blames locked sprite cutout .binding e := by
  have new : (⟨.ofNat 2⟩ : CostumeId).NewTo sprite := by
    rintro list ⟨⟩ entry member
    cases List.mem_singleton.mp member
    decide +kernel
  have novel : ¬ sprite.Holds (.compute cutout.bytes) := by
    rintro ⟨list, ⟨⟩, entry, member, same⟩
    cases List.mem_singleton.mp member
    revert same
    decide +kernel
  have before : ∀ (renderer : Renderer), renderer.rejectsSkins = false → ∀ earlier : Requirement,
      earlier.rank < 4 → earlier.Met fourByFour renderer sprite cutout := by
    intro renderer accepting earlier below
    cases earlier with
    | picture => exact ⟨⟨4, 4⟩, rfl, by decide, by decide⟩
    | skin => exact accepting
    | content => exact (by decide : cutout.bytes.size ≠ 0)
    | novelty => exact novel
    | binding => exact absurd below (by decide)
  constructor
  · refine (install_succeeds_iff_requirements_met default fourByFour default unlocked sprite cat cutout
      ⟨.ofNat 2⟩ new).1.mpr fun need => ?_
    cases need with
    | binding => exact ⟨by decide +kernel, rfl⟩
    | picture | skin | content | novelty => exact before unlocked rfl _ (by decide)
  · refine (install_succeeds_iff_requirements_met default fourByFour default locked sprite cat cutout
      ⟨.ofNat 2⟩ new).2.1 .binding ⟨?_, before locked rfl⟩
    rintro ⟨_, accepting⟩
    cases accepting

end Install

end Silhouette
