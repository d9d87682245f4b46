import Mathlib.Data.List.Induction
import Silhouette.Proofs.Renderer

/-! A renderer told from what it was asked and what it answered. Which skins live, which drawables there are and
whether bindings are refused stands in the history, so the answer to a binding is known beforehand. Numbers are
handed out one after the other, one for each success and none for a refusal, and a drawable shows what it was
last bound to. -/
namespace Silhouette

/-- The number that an answer hands out. -/
def RendererAnswer.number? : RendererAnswer → Option Nat
  | .drawable id => some id.number
  | .skin id => some id.number
  | .done | .refused _ => none

namespace Renderer

/-- What was asked and answered, oldest first. -/
abbrev History := List (RendererCall × RendererAnswer)

/-- The history of some calls to a renderer that was empty, and the renderer that they leave. -/
def after (calls : List RendererCall) : History × Renderer :=
  calls.foldl (fun before call => (before.1 ++ [(call, (before.2.perform call).1)],
    (before.2.perform call).2)) ([], empty)

namespace History

/-- The numbers that were handed out, to drawables and skins together. -/
def numbers (h : History) : List Nat := h.filterMap fun e => e.2.number?

/-- A skin that was made and not destroyed since. -/
def Lives (h : History) (skin : SkinId) : Prop :=
  ∃ before bitmap resolution since,
    h = before ++ (.createSkin bitmap resolution, .skin skin) :: since ∧
      ∀ e ∈ since, e.1 ≠ .destroySkin skin

/-- A drawable that was added. -/
def Added (h : History) (d : DrawableId) : Prop := ∃ shown, (.addDrawable shown, .drawable d) ∈ h

/-- Bindings were said to be refused. -/
def Locked (h : History) : Prop := ∃ e ∈ h, e.1 = .refuseBindings

/-- The answer to a binding: an unknown skin is told first, an unknown drawable next, and a refusal last. -/
inductive BindingAnswer (h : History) (d : DrawableId) (skin : SkinId) : RendererAnswer → Prop where
  | unknownSkin (dead : ¬ h.Lives skin) : BindingAnswer h d skin (.refused (.unknownSkin skin))
  | unknownDrawable (lives : h.Lives skin) (unknown : ¬ h.Added d) :
      BindingAnswer h d skin (.refused (.unknownDrawable d))
  | locked (lives : h.Lives skin) (added : h.Added d) (locked : h.Locked) :
      BindingAnswer h d skin (.refused (.bindingRejected d skin "drawable is locked"))
  | bound (lives : h.Lives skin) (added : h.Added d) (free : ¬ h.Locked) : BindingAnswer h d skin .done

variable {h : History} {e : RendererCall × RendererAnswer} {skin : SkinId} {d : DrawableId}

theorem numbers_append (h : History) (e : RendererCall × RendererAnswer) :
    numbers (h ++ [e]) = h.numbers ++ e.2.number?.toList := by
  cases number : e.2.number? <;> simp [numbers, number]

theorem lives_append : Lives (h ++ [e]) skin ↔
    (h.Lives skin ∧ e.1 ≠ .destroySkin skin) ∨
      ∃ bitmap resolution, e = (.createSkin bitmap resolution, .skin skin) := by
  constructor
  · rintro ⟨before, bitmap, resolution, since, events, kept⟩
    rcases since.eq_nil_or_concat' with rfl | ⟨middle, last, rfl⟩
    · obtain ⟨-, same⟩ := List.append_inj' events rfl
      exact .inr ⟨bitmap, resolution, List.singleton_inj.mp same⟩
    · rw [← List.cons_append, ← List.append_assoc] at events
      obtain ⟨rfl, same⟩ := List.append_inj' events rfl
      obtain rfl := List.singleton_inj.mp same
      exact .inl ⟨⟨before, bitmap, resolution, middle, rfl, fun x member => kept x (by simp [member])⟩,
        kept _ (by simp)⟩
  · rintro (⟨⟨before, bitmap, resolution, since, rfl, kept⟩, other⟩ | ⟨bitmap, resolution, rfl⟩)
    · refine ⟨before, bitmap, resolution, since ++ [e], by simp, fun x member => ?_⟩
      rcases List.mem_append.mp member with old | new
      · exact kept x old
      · rwa [List.mem_singleton.mp new]
    · exact ⟨h, bitmap, resolution, [], rfl, List.forall_mem_nil _⟩

theorem added_append : Added (h ++ [e]) d ↔ h.Added d ∨ ∃ shown, e = (.addDrawable shown, .drawable d) := by
  simp only [Added, List.mem_append, List.mem_singleton, exists_or, eq_comm]

theorem locked_append : Locked (h ++ [e]) ↔ h.Locked ∨ e.1 = .refuseBindings := by
  simp only [Locked, List.mem_append, List.mem_singleton, or_and_right, exists_or, exists_eq_left]

end History

variable {r r' : Renderer} {h : History} {call : RendererCall} {answer : RendererAnswer}
  {d : DrawableId} {skin : SkinId}

/-! ## One call -/

/-- All that a call can come to. -/
inductive Performed (r : Renderer) : RendererCall → RendererAnswer → Renderer → Prop where
  | added (shown : Option SkinId) :
      Performed r (.addDrawable shown) (.drawable ⟨r.issued + 1⟩) (r.addDrawable shown).2
  | made (bitmap : Bitmap) (resolution : Nat) :
      Performed r (.createSkin bitmap resolution) (.skin ⟨r.issued + 1⟩)
        (r.withNewSkin bitmap resolution)
  | notMade (bitmap : Bitmap) (resolution : Nat) (cause : HostError) :
      Performed r (.createSkin bitmap resolution) (.refused cause) r
  | bound (d : DrawableId) (skin : SkinId) (known : r.drawables.contains d = true) :
      Performed r (.bind d skin) .done (r.showing d skin)
  | notBound (d : DrawableId) (skin : SkinId) (cause : HostError) :
      Performed r (.bind d skin) (.refused cause) r
  | destroyed (skin : SkinId) : Performed r (.destroySkin skin) .done (r.destroySkin skin)
  | redrawn : Performed r .redraw .done r.redraw
  | closed : Performed r .refuseSkins .done r.refusingSkins
  | locked : Performed r .refuseBindings .done r.refusingBindings

theorem perform_performed (r : Renderer) (call : RendererCall) :
    Performed r call (r.perform call).1 (r.perform call).2 := by
  cases call with
  | addDrawable shown => exact .added shown
  | createSkin bitmap resolution =>
    simp only [perform]
    split
    · exact .notMade ..
    · rename_i made
      obtain ⟨_, _, _, rfl, rfl⟩ := createSkin_eq_ok.mp made
      exact .made bitmap resolution
  | bind d skin =>
    simp only [perform]
    split
    · exact .notBound ..
    · rename_i bound
      obtain ⟨_, known, _, rfl⟩ := bind_eq_ok.mp bound
      exact .bound d skin known
  | destroySkin skin => exact .destroyed skin
  | redraw => exact .redrawn
  | refuseSkins => exact .closed
  | refuseBindings => exact .locked

theorem perform_refused {cause : HostError} (refused : (r.perform call).1 = .refused cause) :
    (r.perform call).2 = r := by
  have performed := perform_performed r call
  rw [refused] at performed
  generalize (r.perform call).2 = left at performed
  cases performed <;> rfl

/-! ## All calls -/

/-- A history that tells a renderer. -/
structure Tells (h : History) (r : Renderer) : Prop where
  skins : ∀ skin, r.skins.contains skin = true ↔ h.Lives skin
  drawables : ∀ d, r.drawables.contains d = true ↔ h.Added d
  locked : r.rejectsBindings = true ↔ h.Locked
  numbers : h.numbers = List.range' 1 r.issued

theorem tells_empty : Tells [] empty where
  skins skin := by
    refine iff_of_false nofun ?_
    rintro ⟨before, _, _, since, none, -⟩
    simp at none
  drawables d := iff_of_false nofun nofun
  locked := iff_of_false nofun nofun
  numbers := rfl

/-- With every call the history tells the renderer that it leaves. -/
theorem Tells.perform (tells : Tells h r) (call : RendererCall) :
    Tells (h ++ [(call, (r.perform call).1)]) (r.perform call).2 := by
  have next : List.range' 1 (r.issued + 1) = h.numbers ++ [r.issued + 1] := by
    rw [List.range'_concat, tells.numbers]
    simp [Nat.add_comm]
  have performed := perform_performed r call
  generalize (r.perform call).1 = answer at performed ⊢
  generalize (r.perform call).2 = left at performed ⊢
  constructor
  · intro skin
    rw [History.lives_append, ← tells.skins]
    cases performed with
    | made bitmap resolution => simp [withNewSkin, or_comm, eq_comm (a := skin)]
    | destroyed gone => simp [Renderer.destroySkin, and_comm, eq_comm (a := skin)]
    | _ => simp [addDrawable, showing, Renderer.redraw, refusingSkins, refusingBindings]
  · intro d
    rw [History.added_append, ← tells.drawables]
    cases performed with
    | added shown => simp [addDrawable, or_comm, eq_comm (a := d)]
    | bound other skin known =>
      have still : other = d → r.drawables.contains d = true := fun same => same ▸ known
      simpa [showing, eq_comm (a := d)] using still
    | _ => simp [withNewSkin, Renderer.destroySkin, Renderer.redraw, refusingSkins, refusingBindings]
  · rw [History.locked_append, ← tells.locked]
    cases performed <;>
      simp [addDrawable, withNewSkin, showing, Renderer.destroySkin, Renderer.redraw, refusingSkins,
        refusingBindings]
  · rw [History.numbers_append]
    cases performed with
    | added | made => exact next.symm
    | _ => exact (List.append_nil _).trans tells.numbers

theorem after_append (calls : List RendererCall) (call : RendererCall) :
    after (calls ++ [call]) = ((after calls).1 ++ [(call, ((after calls).2.perform call).1)],
      ((after calls).2.perform call).2) := by
  simp only [after, List.foldl_append, List.foldl_cons, List.foldl_nil]

/-- The history tells the renderer after any calls. -/
theorem tells_after (calls : List RendererCall) : Tells (after calls).1 (after calls).2 := by
  induction calls using List.reverseRecOn with
  | nil => exact tells_empty
  | append_singleton calls call ih =>
    rw [after_append]
    exact ih.perform call

theorem reachable_after (calls : List RendererCall) : (after calls).2.Reachable := by
  induction calls using List.reverseRecOn with
  | nil => exact .empty
  | append_singleton calls call ih =>
    rw [after_append]
    exact .perform call ih

/-- Calls of some number hand out no more numbers than that. -/
theorem length_numbers_after_le (calls : List RendererCall) :
    (after calls).1.numbers.length ≤ calls.length := by
  have asked : (after calls).1.map Prod.fst = calls := by
    induction calls using List.reverseRecOn with
    | nil => rfl
    | append_singleton calls call ih => rw [after_append, List.map_append, ih]; rfl
  calc (after calls).1.numbers.length ≤ (after calls).1.length := List.length_filterMap_le ..
    _ = calls.length := by rw [← asked, List.length_map, asked]

/-! ## What can be relied on -/

/-- The answer to a binding stands in the history. -/
theorem Tells.binds (tells : Tells h r) :
    (r.perform (.bind d skin)).1 = answer ↔ h.BindingAnswer d skin answer := by
  have told : ∀ {answer}, h.BindingAnswer d skin answer → (r.perform (.bind d skin)).1 = answer := by
    intro answer told
    cases told with
    | unknownSkin dead =>
      have skins := mt (tells.skins skin).mp dead
      simp [Renderer.perform, Renderer.bind, skins]
    | unknownDrawable lives unknown =>
      have skins := (tells.skins skin).mpr lives
      have drawables := mt (tells.drawables d).mp unknown
      simp [Renderer.perform, Renderer.bind, skins, drawables]
    | locked lives added locked =>
      have skins := (tells.skins skin).mpr lives
      have drawables := (tells.drawables d).mpr added
      have rejects := tells.locked.mpr locked
      simp [Renderer.perform, Renderer.bind, skins, drawables, rejects]
    | bound lives added free =>
      have skins := (tells.skins skin).mpr lives
      have drawables := (tells.drawables d).mpr added
      have rejects := mt tells.locked.mp free
      simp [Renderer.perform, Renderer.bind, skins, drawables, rejects]
  constructor
  · rintro rfl
    obtain ⟨answer, known⟩ : ∃ answer, h.BindingAnswer d skin answer := by
      by_cases lives : h.Lives skin
      · by_cases added : h.Added d
        · by_cases locked : h.Locked
          · exact ⟨_, .locked lives added locked⟩
          · exact ⟨_, .bound lives added locked⟩
        · exact ⟨_, .unknownDrawable lives added⟩
      · exact ⟨_, .unknownSkin lives⟩
    rw [told known]
    exact known
  · exact told

/-- A number that comes next has no drawable yet. -/
theorem Tells.next_new (tells : Tells h r) : ¬ h.Added ⟨r.issued + 1⟩ := by
  rintro ⟨shown, member⟩
  have handed : r.issued + 1 ∈ h.numbers := List.mem_filterMap.mpr ⟨_, member, rfl⟩
  rw [tells.numbers, List.mem_range'_1] at handed
  omega

/-- What a drawable shows is changed by binding it and in no other way. -/
theorem Tells.keeps (tells : Tells h r) (added : h.Added d)
    (changed : (r.perform call).2.shown d ≠ r.shown d) :
    ∃ skin, call = .bind d skin ∧ (r.perform call).1 = .done := by
  have performed := perform_performed r call
  generalize (r.perform call).1 = answer at performed ⊢
  generalize (r.perform call).2 = left at performed changed
  cases performed with
  | bound other skin known =>
    have own : d = other := by
      by_contra apart
      rw [shown_showing, if_neg apart] at changed
      exact changed rfl
    exact ⟨skin, by rw [own], rfl⟩
  | added shown =>
    have old : d ≠ ⟨r.issued + 1⟩ := fun same => tells.next_new (same ▸ added)
    exact absurd (by simp [Renderer.shown, addDrawable, old]) changed
  | _ => exact absurd rfl changed

/-- What callers can rely on, whatever came before: numbers are handed out one after the other, the answer to a
binding stands in the history, only a binding changes what a drawable shows, a refusal changes nothing, and
only the skin that is to be destroyed is gone. -/
structure Disciplined (h : History) (r : Renderer) : Prop where
  numbers : h.numbers = List.range' 1 h.numbers.length
  lives : ∀ skin, (r.skin? skin).isSome = true ↔ h.Lives skin
  binds : ∀ d skin answer, (r.perform (.bind d skin)).1 = answer ↔ h.BindingAnswer d skin answer
  shows : ∀ d skin, (r.perform (.bind d skin)).1 = .done → ∀ other,
    (r.perform (.bind d skin)).2.shown other = if other = d then some skin else r.shown other
  keeps : ∀ call d, h.Added d → (r.perform call).2.shown d ≠ r.shown d →
    ∃ skin, call = .bind d skin ∧ (r.perform call).1 = .done
  refuses : ∀ call cause, (r.perform call).1 = .refused cause → (r.perform call).2 = r
  destroys : ∀ skin, (∀ other, (r.perform (.destroySkin skin)).2.skin? other =
      if other = skin then none else r.skin? other) ∧
    ∀ d, (r.perform (.destroySkin skin)).2.shown d = r.shown d

theorem Tells.disciplined (tells : Tells h r) : Disciplined h r where
  numbers := by
    have length : h.numbers.length = r.issued := by rw [tells.numbers, List.length_range']
    rw [length, tells.numbers]
  lives := tells.skins
  binds _ _ _ := tells.binds
  shows d skin bound other := by
    have performed := perform_performed r (.bind d skin)
    rw [bound] at performed
    generalize (r.perform (.bind d skin)).2 = left at performed ⊢
    cases performed with
    | bound _ _ known => exact r.shown_showing d skin other
  keeps _ _ := tells.keeps
  refuses _ _ := perform_refused
  destroys skin := ⟨r.skin?_destroySkin skin, fun d => rfl⟩

end Renderer

end Silhouette
