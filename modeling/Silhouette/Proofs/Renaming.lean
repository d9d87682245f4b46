import Mathlib.Logic.Equiv.Basic
import Silhouette.Proofs.Course

/-! The same removal under other names. A removal takes the next number for its skin and a name for its
costume; which ones it gets depends on what else goes on, and shows in its result, in its target and in
the text of one of its failures. With other names it comes to the same in all other respects. -/
namespace Silhouette

/-- Other numbers for skins, and another name for one costume. -/
structure Renaming where
  skin : Equiv.Perm SkinId
  was : CostumeId
  now : CostumeId

/-- A costume with its new name, if it is the one that is renamed, and with its skin's new number. -/
def Costume.renamed (c : Costume) (ρ : Renaming) : Costume :=
  if c.id = ρ.was then { c with id := ρ.now, skin := c.skin.map ρ.skin } else c

/-- A list in which the costume has its new name. -/
def VariantList.renamed (l : VariantList) (ρ : Renaming) : VariantList :=
  ⟨l.entries.map fun c => c.renamed ρ, l.current, by simpa using l.current_lt⟩

/-- A target in whose list the costume has its new name. A single costume was there before. -/
def Target.renamed (t : Target) (ρ : Renaming) : Target :=
  match t.wardrobe with
  | .list list => t.withVariants (list.renamed ρ)
  | .single _ => t

/-- A result with the new names. -/
def Installation.renamed (i : Installation) (ρ : Renaming) : Installation :=
  ⟨i.costume.renamed ρ, ρ.skin i.skin, i.mode⟩

/-- A refusal of the host in which skins have other numbers. -/
def HostError.renamed (number : SkinId → SkinId) : HostError → HostError
  | unknownSkin skin => unknownSkin (number skin)
  | bindingRejected drawable skin reason => bindingRejected drawable (number skin) reason
  | other => other

/-- A failure, and the same failure where skins have other numbers. Only what a renderer says when it
does not bind a drawable tells such numbers. -/
inductive RemovalError.Renamed (number : SkinId → SkinId) : RemovalError → RemovalError → Prop where
  | binding (cause : HostError) :
      Renamed number (.installFailed ("bind drawable: " ++ cause.message))
        (.installFailed ("bind drawable: " ++ (cause.renamed number).message))
  | other (elsewhere : ∀ cause : HostError, e ≠ .installFailed ("bind drawable: " ++ cause.message)) :
      Renamed number e e

/-- Two results that differ in names only. -/
def Renaming.Relates (ρ : Renaming) :
    Except RemovalError Installation → Except RemovalError Installation → Prop
  | .ok made, .ok same => same = made.renamed ρ
  | .error e, .error same => e.Renamed ρ.skin same
  | _, _ => False

namespace VariantList

theorem eq_of_entries {l m : VariantList} (entries : l.entries = m.entries)
    (current : l.current = m.current) : l = m := by
  cases l
  cases m
  cases entries
  cases current
  rfl

end VariantList

variable {ρ : Renaming} {target : Target} {c : Costume}

theorem Costume.renamed_of_other (other : c.id ≠ ρ.was) : c.renamed ρ = c := if_neg other

theorem Target.renamed_of_new (new : ρ.was.NewTo target) : target.renamed ρ = target := by
  unfold Target.renamed
  cases shape : target.wardrobe with
  | single current => rfl
  | list list =>
    have same : list.renamed ρ = list := by
      refine VariantList.eq_of_entries ?_ rfl
      refine (List.map_congr_left fun entry member => ?_).trans (List.map_id _)
      exact Costume.renamed_of_other (new list shape entry member)
    simp only [same, Target.withVariants, ← shape]

theorem Target.given_renamed (new : ρ.was.NewTo target) (c : Costume) :
    (target.given c).renamed ρ = target.given (c.renamed ρ) := by
  unfold Target.given
  cases shape : target.wardrobe with
  | single current => simp only [Target.renamed, shape]
  | list list =>
    have same : (list.withNewest c).renamed ρ = list.withNewest (c.renamed ρ) := by
      refine VariantList.eq_of_entries ?_ rfl
      simp only [VariantList.renamed, VariantList.entries_withNewest, List.map_append,
        List.map_cons, List.map_nil, List.append_cancel_right_eq]
      refine (List.map_congr_left fun entry member => ?_).trans (List.map_id _)
      exact Costume.renamed_of_other (new list shape entry member)
    simp only [Target.renamed, Target.withVariants, same]

namespace Install

/-- What a list has against a costume is none of the reasons for which a drawable is not bound. -/
theorem objection_not_binding (cause : VariantError) (refused : HostError) :
    RemovalError.installFailed cause.message ≠
      .installFailed ("bind drawable: " ++ refused.message) := by
  intro same
  have letter : secondLetter cause.message = some 'i' := by
    rw [RemovalError.installFailed.inj same]
    exact secondLetter_append _ rfl
  rcases secondLetter_objection cause with other | other <;> rw [letter] at other <;> cases other

/-- A costume under another name and with another skin is refused for the same reason. -/
theorem refusal?_renamed (r : Renderer) {was now : Costume} (asset : now.asset = was.asset)
    (first : was.id.NewTo target) (second : now.id.NewTo target) (number : SkinId → SkinId)
    (skin : SkinId) :
    Option.Rel (RemovalError.Renamed number) (refusal? r target was skin)
      (refusal? r target now (number skin)) := by
  have objections : target.objection? now = target.objection? was := by
    rcases objection?_of_new first with ⟨novel, silent⟩ | ⟨held, objects⟩ <;>
      rcases objection?_of_new second with ⟨novel', silent'⟩ | ⟨held', objects'⟩ <;>
      rw [asset] at *
    · rw [silent, silent']
    · exact absurd held' novel
    · exact absurd held novel'
    · rw [objects, objects']
  unfold refusal?
  rw [objections]
  cases target.objection? was with
  | some cause => exact .some (.other (objection_not_binding cause))
  | none =>
    cases r.drawables.contains target.drawable with
    | false => exact .some (.binding (.unknownDrawable target.drawable))
    | true =>
      cases r.rejectsBindings with
      | true =>
        exact .some (.binding (.bindingRejected target.drawable skin "drawable is locked"))
      | false => exact .none

end Install

namespace Remover

variable {r : Remover} {host : Host} {skin other : SkinId} {was now : CostumeId}

theorem answer_error (failed : r.answer host target = .error e) : ¬ Install.AttachRefusal e := by
  unfold answer at failed
  split at failed
  · rename_i refused
    cases failed
    exact Resolve.resolve_error (Prod.ext refused rfl)
  · unfold ask at failed
    dsimp only at failed
    split at failed
    · cases failed
      exact not_attachRefusal_ofService _
    · cases failed

/-- Whatever fails before an answer is registered, fails for reasons of its own. -/
theorem intake_error (failed : r.intake host target = .error e) : ¬ Install.AttachRefusal e := by
  unfold intake at failed
  split at failed
  · rename_i unpictured
    cases failed
    unfold picture at unpictured
    split at unpictured
    · rename_i unanswered
      cases unpictured
      exact answer_error unanswered
    · split at unpictured
      · rename_i undecoded
        cases unpictured
        exact Install.decodeOutput_not_attachRefusal undecoded
      · cases unpictured
  · split at failed
    · rename_i refused
      cases failed
      exact Install.makeSkin_not_attachRefusal refused
    · split at failed
      · rename_i refused
        cases failed
        exact Install.register_not_attachRefusal refused
      · cases failed

/-- The numbers of two skins exchanged, and one costume renamed. -/
def exchange (was now : CostumeId) (skin other : SkinId) : Renaming :=
  ⟨Equiv.swap skin other, was, now⟩

/-- **With other names a removal comes to the same.** -/
theorem prospect_renamed (r : Remover) (host : Host) (skin other : SkinId)
    (first : was.NewTo target) (second : now.NewTo target) :
    (exchange was now skin other).Relates (r.prospect host target was skin)
        (r.prospect host target now other) ∧
      target.after (r.prospect host target now other) =
        (target.after (r.prospect host target was skin)).renamed (exchange was now skin other) := by
  have stays : target.renamed (exchange was now skin other) = target := Target.renamed_of_new first
  unfold prospect
  cases taken : r.intake host target with
  | error e =>
    have elsewhere := intake_error taken
    exact ⟨.other fun cause same => elsewhere (same ▸ .binding cause), stays.symm⟩
  | ok output =>
    dsimp only
    have costume : (r.costumeOf target was skin output).renamed (exchange was now skin other) =
        r.costumeOf target now other output := by
      simp [Costume.renamed, costumeOf, Costume.derive, exchange]
    have moved : (exchange was now skin other).skin skin = other := Equiv.swap_apply_left skin other
    have asset : (r.costumeOf target now other output).asset =
        (r.costumeOf target was skin output).asset := rfl
    have refusals := Install.refusal?_renamed host.renderer asset first second
      (exchange was now skin other).skin skin
    rw [moved] at refusals
    generalize Install.refusal? host.renderer target (r.costumeOf target was skin output) skin =
      refused at refusals ⊢
    generalize Install.refusal? host.renderer target (r.costumeOf target now other output) other =
      refused' at refusals ⊢
    cases refusals with
    | some renamed => exact ⟨renamed, stays.symm⟩
    | none =>
      have given : (target.given (r.costumeOf target was skin output)).renamed
          (exchange was now skin other) = target.given _ := Target.given_renamed first _
      rw [costume] at given
      refine ⟨?_, given.symm⟩
      simp only [Renaming.Relates, Installation.renamed, costume, moved]

end Remover

end Silhouette
