import Silhouette.Host.Renderer
import Silhouette.Proofs.Table

/-! The renderer as a machine with seven operations. Every renderer that these operations build has
handed out the number of each of its skins, so the next number is new; a skin that is made and then
destroyed has taken a number and left no other trace. -/
namespace Silhouette

/-- What a renderer can be asked to do. -/
inductive RendererCall where
  | addDrawable (skin : Option SkinId)
  | createSkin (bitmap : Bitmap) (resolution : Nat)
  | bind (drawable : DrawableId) (skin : SkinId)
  | destroySkin (skin : SkinId)
  | redraw
  | refuseSkins
  | refuseBindings

/-- What a renderer answers. -/
inductive RendererAnswer where
  | drawable (id : DrawableId)
  | skin (id : SkinId)
  | done
  | refused (cause : HostError)

namespace Renderer

/-- One operation. -/
def perform (r : Renderer) : RendererCall → RendererAnswer × Renderer
  | .addDrawable skin =>
    let (id, r) := r.addDrawable skin
    (.drawable id, r)
  | .createSkin bitmap resolution =>
    match r.createSkin bitmap resolution with
    | .error e => (.refused e, r)
    | .ok (id, r) => (.skin id, r)
  | .bind drawable skin =>
    match r.bind drawable skin with
    | .error e => (.refused e, r)
    | .ok r => (.done, r)
  | .destroySkin skin => (.done, r.destroySkin skin)
  | .redraw => (.done, r.redraw)
  | .refuseSkins => (.done, r.refusingSkins)
  | .refuseBindings => (.done, r.refusingBindings)

/-- The renderers that operations build, beginning with the empty one. -/
inductive Reachable : Renderer → Prop where
  | empty : Reachable Renderer.empty
  | perform (call : RendererCall) (before : Reachable r) : Reachable (r.perform call).2

/-- Every skin has a number that was handed out. -/
def Issued (r : Renderer) : Prop := ∀ skin ∈ r.skins.keys, skin.number ≤ r.issued

/-- What a renderer shows: which skins live, what every drawable shows, and how many redraws were
asked for. Numbers that were handed out in between do not show. -/
structure SameScene (before after : Renderer) : Prop where
  skins : after.skins = before.skins
  drawables : after.drawables = before.drawables
  redraws : after.redraws = before.redraws

/-- A renderer that has handed out numbers and done nothing else. -/
def OnlyIssued (before after : Renderer) : Prop :=
  ∃ number, before.issued ≤ number ∧ after = { before with issued := number }

variable {r r' : Renderer} {bitmap : Bitmap} {resolution : Nat} {skin : SkinId}
  {drawable : DrawableId}

/-- What a renderer knows of a skin that it makes of a picture. -/
def infoOf (bitmap : Bitmap) (resolution : Nat) : SkinInfo :=
  ⟨bitmap.width, bitmap.height, max resolution 1⟩

/-- The renderer after it has made a skin. -/
def withNewSkin (r : Renderer) (bitmap : Bitmap) (resolution : Nat) : Renderer :=
  { r with
    issued := r.issued + 1
    skins := r.skins.put ⟨r.issued + 1⟩ (infoOf bitmap resolution) }

/-- The renderer after a drawable was bound. -/
def showing (r : Renderer) (drawable : DrawableId) (skin : SkinId) : Renderer :=
  { r with drawables := r.drawables.put drawable (some skin) }

/-- A skin is made of a picture with pixels unless the renderer refuses, and takes the next number. -/
theorem createSkin_eq_ok :
    r.createSkin bitmap resolution = .ok (skin, r') ↔
      r.rejectsSkins = false ∧ bitmap.width ≠ 0 ∧ bitmap.height ≠ 0 ∧
        skin = ⟨r.issued + 1⟩ ∧ r' = r.withNewSkin bitmap resolution := by
  unfold createSkin
  split
  · rename_i refusing
    simp [refusing]
  · rename_i accepting
    split
    · rename_i empty
      constructor
      · intro made
        cases made
      · rintro ⟨_, wide, high, _⟩
        exact absurd empty (not_or.mpr ⟨wide, high⟩)
    · rename_i pixels
      simp [accepting, not_or.mp pixels, withNewSkin, infoOf, eq_comm]

/-- A drawable is bound if it is known, the skin lives, and the renderer does not refuse. -/
theorem bind_eq_ok :
    r.bind drawable skin = .ok r' ↔
      r.skins.contains skin = true ∧ r.drawables.contains drawable = true ∧
        r.rejectsBindings = false ∧ r' = r.showing drawable skin := by
  unfold bind
  cases lives : r.skins.contains skin with
  | false => simp
  | true =>
    cases known : r.drawables.contains drawable with
    | false => simp
    | true =>
      cases refusing : r.rejectsBindings with
      | true => simp
      | false => simp [showing, refusing, eq_comm]

theorem shown_showing (r : Renderer) (d : DrawableId) (skin : SkinId) (other : DrawableId) :
    (r.showing d skin).shown other = if other = d then some skin else r.shown other := by
  by_cases same : other = d <;> simp [shown, showing, same]

theorem skin?_withNewSkin (r : Renderer) (bitmap : Bitmap) (resolution : Nat) (other : SkinId) :
    (r.withNewSkin bitmap resolution).skin? other =
      if other = ⟨r.issued + 1⟩ then some (infoOf bitmap resolution) else r.skin? other := Table.get?_put

theorem skin?_destroySkin (r : Renderer) (skin other : SkinId) :
    (r.destroySkin skin).skin? other = if other = skin then none else r.skin? other := Table.get?_erase

/-- The number that comes next is not the number of a skin. -/
theorem Issued.next_new (issued : r.Issued) : ⟨r.issued + 1⟩ ∉ r.skins.keys := by
  intro member
  have bound := issued _ member
  simp only at bound
  omega

theorem Issued.withNewSkin (issued : r.Issued) : (r.withNewSkin bitmap resolution).Issued := by
  intro skin member
  rcases Table.mem_keys_put.mp member with rfl | old
  · exact Nat.le_refl _
  · exact Nat.le_succ_of_le (issued skin old)

theorem Issued.destroySkin (issued : r.Issued) : (r.destroySkin skin).Issued :=
  fun other kept => issued other (Table.mem_keys_of_mem_erase kept)

theorem Issued.perform (issued : r.Issued) (call : RendererCall) : (r.perform call).2.Issued := by
  cases call with
  | addDrawable shown => exact fun skin member => Nat.le_succ_of_le (issued skin member)
  | createSkin bitmap resolution =>
    simp only [Renderer.perform]
    split
    · exact issued
    · rename_i made
      obtain ⟨_, _, _, _, rfl⟩ := createSkin_eq_ok.mp made
      exact issued.withNewSkin
  | bind drawable skin =>
    simp only [Renderer.perform]
    split
    · exact issued
    · rename_i bound
      obtain ⟨_, _, _, rfl⟩ := bind_eq_ok.mp bound
      exact issued
  | destroySkin skin => exact issued.destroySkin
  | redraw => exact issued
  | refuseSkins => exact issued
  | refuseBindings => exact issued

theorem Reachable.issued (reachable : r.Reachable) : r.Issued := by
  induction reachable with
  | empty =>
    intro skin member
    cases member
  | perform call _ before => exact before.perform call

theorem OnlyIssued.refl (r : Renderer) : r.OnlyIssued r := ⟨r.issued, Nat.le_refl _, rfl⟩

theorem OnlyIssued.sameScene (only : r.OnlyIssued r') : r.SameScene r' := by
  obtain ⟨number, _, rfl⟩ := only
  exact ⟨rfl, rfl, rfl⟩

theorem OnlyIssued.issued (only : r.OnlyIssued r') (issued : r.Issued) : r'.Issued := by
  obtain ⟨number, later, rfl⟩ := only
  exact fun skin member => Nat.le_trans (issued skin member) later

/-- A skin that is destroyed right after it was made has taken a number, and that is all. -/
theorem destroySkin_withNewSkin (issued : r.Issued) :
    r.OnlyIssued ((r.withNewSkin bitmap resolution).destroySkin ⟨r.issued + 1⟩) := by
  refine ⟨r.issued + 1, Nat.le_succ _, ?_⟩
  simp only [destroySkin, withNewSkin, Table.erase_put_of_new issued.next_new]

end Renderer

namespace Sample

/-- A renderer with one skin, which its one drawable shows. -/
def unlocked : Renderer :=
  ((Renderer.empty.perform (.createSkin ⟨2, 2⟩ 2)).2.perform (.addDrawable (some ⟨1⟩))).2

/-- The same renderer, refusing to bind drawables. -/
def locked : Renderer := (unlocked.perform .refuseBindings).2

theorem unlocked_reachable : unlocked.Reachable := .perform _ (.perform _ .empty)

theorem locked_reachable : locked.Reachable := .perform _ unlocked_reachable

end Sample

end Silhouette
