import Silhouette.Proofs.Holdings
import Silhouette.Proofs.Requirements

/-! What a finished removal delivers, from the request that was sent to the costume that the target shows.
The pieces come from different stages and agree: the asset is the answer byte for byte, the skin has the
size of the decoded answer and the resolution of the costume, and the costume in the list is the one
that is handed back. -/
namespace Silhouette

/-- The costumes that can be made: from an asset, by setting what can be set, and from another costume. -/
inductive Costume.Made : Costume → Prop where
  | create (id : CostumeId) (name : String) (asset : Asset) : Made (.create id name asset)
  | withResolution (made : Made c) (resolution : Nat) : Made (c.withResolution resolution)
  | withCenter (made : Made c) (center : RotationCenter) : Made (c.withCenter center)
  | withSkin (made : Made c) (skin : SkinId) : Made (c.withSkin skin)
  | derive (made : Made c) (id : CostumeId) (suffix : String) (asset : Asset) (skin : SkinId) :
      Made (c.derive id suffix asset skin)

/-- The resolution of a costume is at least one, as that of a skin is. -/
theorem Costume.Made.resolution_pos {c : Costume} (made : c.Made) : 1 ≤ c.resolution := by
  induction made with
  | create id name asset => exact Nat.le_refl 1
  | withResolution _ resolution _ => exact Nat.le_max_right resolution 1
  | withCenter _ _ positive => exact positive
  | withSkin _ _ positive => exact positive
  | derive _ _ _ _ _ positive => exact positive

/-- The registry takes in nothing that is empty. -/
theorem Storage.createAsset_filled {s : Storage}
    (created : s.createAsset format bytes = .ok (asset, after)) : bytes.size ≠ 0 := by
  intro empty
  rw [createAsset, if_pos empty] at created
  cases created

/-- Content that is not empty comes back from its asset as it was. -/
theorem Asset.bytes_ofBytes {bytes : ByteArray} (filled : bytes.size ≠ 0) (format : Format) :
    (Asset.ofBytes format bytes).bytes = .ok (some bytes) := by
  simp [Asset.ofBytes, Asset.bytes, Buffer.normalize, Buffer.window, filled, Except.map]

namespace Resolve

private theorem atHand_ok (gave : atHand h costume = (.ok found, after)) :
    found = source costume found.strategy found.bytes := by
  unfold atHand at gave
  split at gave
  · cases gave
    rfl
  · dsimp only at gave
    split at gave
    · cases gave
      rfl
    · cases gave

private theorem finish_ok (gave : finish costume attempts outcome = .ok found) :
    found = source costume found.strategy found.bytes := by
  unfold finish at gave
  split at gave
  · cases gave
    rfl
  · cases gave

/-- Whatever strategy gave the data, format and name of the source are those of the costume. -/
theorem resolve_ok (resolved : resolve timeout h costume = (.ok found, after)) :
    found = source costume found.strategy found.bytes := by
  unfold resolve at resolved
  split at resolved
  · cases resolved
  · split at resolved
    · rename_i gave
      cases resolved
      exact atHand_ok gave
    · split at resolved <;> exact finish_ok (Prod.mk.inj resolved).1

end Resolve

namespace Remover

/-- What a removal has delivered that sent some request, got some answer and made a costume of it. -/
structure Delivered (r : Remover) (s : RemovalState) (target : Target) (output : ServiceOutput)
    (made : Installation) (s' : RemovalState) (target' : Target) : Prop where
  /-- The service was sent the resolved data and nothing else, and this is what it answered. -/
  asked : ∃ source host request,
    Resolve.resolve r.settings.loadTimeout s.host target.current = (.ok source, host) ∧
    request = ⟨source.bytes,
      if target.current.format.extension = "" then "costume.png"
        else "costume." ++ target.current.format.extension,
      some target.current.format, none⟩ ∧
    s'.sent = s.sent ++ [request] ∧ r.service s.sent request = .ok output
  id : made.assetId = .compute output.bytes
  content : made.costume.asset.bytes = .ok (some output.bytes)
  format : made.costume.format = if output.format = .jpeg then .jpeg else .png
  name : made.costume.name = target.current.name ++ r.settings.nameSuffix
  resolution : made.costume.resolution = target.current.resolution
  center : made.costume.center = target.current.center
  worn : made.costume.skin = some made.skin
  live : ∃ bitmap, r.decode output.bytes = .bitmap bitmap ∧
    s'.host.renderer.skin? made.skin =
      some ⟨bitmap.width, bitmap.height, made.costume.resolution⟩
  shown : s'.host.renderer.shown target.drawable = some made.skin
  place : (∃ list now, target.wardrobe = .list list ∧ target' = target.withVariants now ∧
      now.entries = list.entries ++ [made.costume] ∧ now.current = list.size ∧
      made.mode = .appended list.size) ∨
    ∃ current, target.wardrobe = .single current ∧ target' = target ∧ made.mode = .rebound

end Remover

namespace Install

variable {settings : RemovalSettings} {decode : ByteArray → Decoding} {h after : Host}
  {target target' : Target} {source : Costume} {output : ServiceOutput} {fresh : CostumeId}
  {made : Installation}

theorem keptFormat_eq (format : Format) :
    keptFormat format = if format = .jpeg then .jpeg else .png := by
  cases format <;> rfl

/-- What an installation has made of its output: the costume with the output as its asset, and the skin of
the decoded picture, which the drawable shows. -/
theorem installed_costume
    (done : install settings decode h target source output fresh = (.ok made, after, target')) :
    ∃ bitmap, decode output.bytes = .bitmap bitmap ∧ output.bytes.size ≠ 0 ∧
      made.costume = source.derive fresh settings.nameSuffix
        (.ofBytes (keptFormat output.format) output.bytes) made.skin ∧
      after.renderer.skin? made.skin =
        some (Renderer.infoOf bitmap source.resolution) ∧
      after.renderer.shown target.drawable = some made.skin ∧
      made.mode = target.modeOfNew ∧ target' = target.given made.costume := by
  have ended := install_exit settings decode h target source output fresh
  rw [done] at ended
  cases ended with
  | installed decoded skinned registered attached =>
    obtain ⟨picture, _, _⟩ := decodeOutput_eq_ok.mp decoded
    obtain ⟨r, created, rfl⟩ := makeSkin_eq_ok.mp skinned
    obtain ⟨_, _, _, rfl, rfl⟩ := Renderer.createSkin_eq_ok.mp created
    obtain ⟨storage, taken, rfl⟩ := register_eq_ok registered
    have filled := Storage.createAsset_filled taken
    obtain ⟨rfl, _⟩ := Storage.createAsset_gained taken
    rw [attach_eq] at attached
    split at attached
    · cases attached
    · split at attached
      · cases attached
      · rename_i bound binds
        cases attached
        obtain ⟨_, _, _, rfl⟩ := Renderer.bind_eq_ok.mp (bindSkin_eq_ok.mp binds)
        refine ⟨_, picture, filled, rfl, ?_, ?_, rfl, rfl⟩
        · simp [Host.withRenderer, Renderer.redraw, Renderer.showing, Renderer.withNewSkin, Renderer.skin?]
        · simp [Host.withRenderer, Renderer.redraw, Renderer.showing, Renderer.shown]

end Install

namespace Target

/-- Where a costume is that a target was given. -/
theorem given_place (t : Target) (c : Costume) :
    (∃ list now, t.wardrobe = .list list ∧ t.given c = t.withVariants now ∧
      now.entries = list.entries ++ [c] ∧ now.current = list.size ∧
      t.modeOfNew = .appended list.size) ∨
    ∃ current, t.wardrobe = .single current ∧ t.given c = t ∧ t.modeOfNew = .rebound := by
  cases shape : t.wardrobe with
  | list list =>
    refine .inl ⟨list, list.withNewest c, rfl, ?_, rfl, rfl, ?_⟩
    · simp only [given, shape]
    · simp only [modeOfNew, shape]
  | single current =>
    refine .inr ⟨current, rfl, ?_, ?_⟩
    · simp only [given, shape]
    · simp only [modeOfNew, shape]

end Target

namespace Remover

/-- The request for what was resolved. -/
theorem requestFor_resolved (resolved : Resolve.resolve timeout h costume = (.ok found, after)) :
    requestFor found = ⟨found.bytes,
      if costume.format.extension = "" then "costume.png"
        else "costume." ++ costume.format.extension,
      some costume.format, none⟩ := by
  rw [Resolve.resolve_ok resolved]
  rfl

/-- **A finished removal delivers.** The service was asked once, with the resolved data of the target's
current costume, and its answer, byte for byte, is the asset of a costume that has everything else from
the current one. Its skin has the size of the decoded answer, lives, and is shown. A list has this very
costume at its end, selected; a single costume stays as it is. -/
theorem finished_removal_delivers (r : Remover) (fresh : CostumeId) (s s' : RemovalState)
    (target target' : Target) (made : Installation) (source : target.current.Made)
    (done : r.removeBackground fresh s target = (.ok made, s', target')) :
    made.costume.id = fresh ∧ ∃ output, Delivered r s target output made s' target' := by
  have ended := removeBackground_ending r fresh s target
  rw [done] at ended
  cases ended with
  | answered acquired resolved answer installed =>
    rename_i flags host found output host'
    obtain ⟨bitmap, picture, filled, costume, live, shown, mode, given⟩ :=
      Install.installed_costume installed
    refine ⟨by rw [costume]; rfl, output, ?_⟩
    exact {
      asked := ⟨_, _, _, resolved, requestFor_resolved resolved, rfl, answer⟩
      id := by rw [Installation.assetId, costume]; rfl
      content := by
        rw [costume]
        exact Asset.bytes_ofBytes filled _
      format := by
        rw [costume]
        exact Install.keptFormat_eq _
      name := by rw [costume]; rfl
      resolution := by rw [costume]; rfl
      center := by rw [costume]; rfl
      worn := by rw [costume]; rfl
      live := by
        refine ⟨bitmap, picture, live.trans ?_⟩
        have clamp := Nat.max_eq_left source.resolution_pos
        rw [costume]
        simp only [Renderer.infoOf, clamp]
        rfl
      shown := shown
      place := by
        rw [mode, given]
        exact target.given_place made.costume }

open Sample

/-- A costume of resolution two, its background removed: the picture is four by four, and so is the skin,
in the costume's resolution. -/
theorem removal_on_sprite_delivers :
    sprite.current.Made ∧ ∃ made s' target',
      remover.removeBackground ⟨.ofNat 2⟩ (idle unlocked) sprite = (.ok made, s', target') ∧
      (∃ request, s'.sent = [request] ∧ request.filename = "costume.png") ∧
      s'.host.renderer.skin? made.skin = some ⟨4, 4, 2⟩ ∧ made.mode = .appended 1 := by
  have source : sprite.current.Made := .withSkin (.withResolution (.create ⟨.ofNat 1⟩ "cat" _) 2) ⟨1⟩
  refine ⟨source, ?_⟩
  cases ended : remover.removeBackground ⟨.ofNat 2⟩ (idle unlocked) sprite with
  | mk result rest =>
    obtain ⟨s', target'⟩ := rest
    have finished : (remover.removeBackground ⟨.ofNat 2⟩ (idle unlocked) sprite).1.isOk = true := by
      decide +kernel
    rw [ended] at finished
    cases result with
    | error e => cases finished
    | ok made =>
      obtain ⟨_, output, delivered⟩ := finished_removal_delivers remover ⟨.ofNat 2⟩ (idle unlocked) s'
        sprite target' made source ended
      obtain ⟨found, host, request, _, asked, sent, _⟩ := delivered.asked
      obtain ⟨bitmap, ⟨⟩, live⟩ := delivered.live
      have mode : made.mode = .appended 1 := by
        rcases delivered.place with ⟨list, now, ⟨⟩, _, _, _, mode⟩ | ⟨current, ⟨⟩, _⟩
        exact mode
      rw [delivered.resolution] at live
      exact ⟨made, s', target', rfl, ⟨request, sent, by rw [asked]; rfl⟩, live, mode⟩

end Remover

end Silhouette
