import Silhouette.Proofs.Installation
import Silhouette.Proofs.RendererHistory

/-! Installations that share a renderer, their steps in any order. From the time it makes its skin until its
drawable is bound or the skin is destroyed, an installation has that skin for itself: no other can have the same
number, and nobody binds it. So the skin that it destroys is shown nowhere, and drawables that showed skins that
live go on doing so. Unlike removals they hold no flags, so any number of them may be for one target. -/
namespace Silhouette

/-- How far an installation has come. -/
inductive InstallStage where
  | called
  | decoded (bitmap : Bitmap)
  | skinned (skin : SkinId)
  | registered (asset : Asset) (skin : SkinId)
  | refused (skin : SkinId) (cause : RemovalError)
  | attached (made : Installation)
  | returned (result : Except RemovalError Installation)

/-- The skin that an installation has made and neither bound nor destroyed. -/
def InstallStage.own? : InstallStage → Option SkinId
  | skinned skin | registered _ skin | refused skin _ => some skin
  | called | decoded _ | attached _ | returned _ => none

/-- An installation under way: what it was called with, its target, and how far it has come. -/
structure Installing where
  settings : RemovalSettings
  decode : ByteArray → Decoding
  source : Costume
  output : ServiceOutput
  fresh : CostumeId
  target : Target
  stage : InstallStage

namespace Installing

/-- The installation at another stage. -/
def enter (i : Installing) (stage : InstallStage) : Installing := { i with stage }

/-- One step. Each asks the host for one thing at most, so others may come before the next. -/
def step (h : Host) (i : Installing) : Host × Installing :=
  match i.stage with
  | .called =>
    match Install.decodeOutput i.decode i.settings.decodeTimeout i.output.bytes with
    | .error e => (h, i.enter (.returned (.error e)))
    | .ok bitmap => (h, i.enter (.decoded bitmap))
  | .decoded bitmap =>
    match Install.makeSkin h i.source bitmap with
    | .error e => (h, i.enter (.returned (.error e)))
    | .ok (skin, h) => (h, i.enter (.skinned skin))
  | .skinned skin =>
    match Install.register h i.output with
    | .error e => (h, i.enter (.refused skin e))
    | .ok (asset, h) => (h, i.enter (.registered asset skin))
  | .registered asset skin =>
    let costume := i.source.derive i.fresh i.settings.nameSuffix asset skin
    match Install.attach h.renderer i.target costume skin with
    | (.error e, r, target) => (h.withRenderer r, { i with target }.enter (.refused skin e))
    | (.ok mode, r, target) =>
      (h.withRenderer r, { i with target }.enter (.attached ⟨costume, skin, mode⟩))
  | .refused skin cause =>
    (h.withRenderer (h.renderer.destroySkin skin), i.enter (.returned (.error cause)))
  | .attached made => (h.withRenderer h.renderer.redraw, i.enter (.returned (.ok made)))
  | .returned _ => (h, i)

/-- The installation at some place takes its next step. -/
def move (s : Host × List Installing) (place : Nat) : Host × List Installing :=
  match s.2[place]? with
  | none => s
  | some i => ((i.step s.1).1, s.2.set place (i.step s.1).2)

/-- Steps of the installations at some places, one after the other. -/
def run (s : Host × List Installing) (places : List Nat) : Host × List Installing :=
  places.foldl move s

variable {h : Host} {i : Installing}

/-- Six steps with nothing in between do what installing does. -/
theorem run_alone (h : Host) (called : i.stage = .called) :
    run (h, [i]) (List.replicate 6 0) =
      match Install.install i.settings i.decode h i.target i.source i.output i.fresh with
      | (result, after, target) => (after, [{ i with target, stage := .returned result }]) := by
  obtain ⟨settings, decode, source, output, fresh, target, stage⟩ := i
  cases called
  have ended := Install.install_exit settings decode h target source output fresh
  generalize Install.install settings decode h target source output fresh = outcome at ended ⊢
  simp only [run, List.replicate, List.foldl_cons, List.foldl_nil]
  cases ended with
  | undecoded refused => simp [move, step, enter, refused]
  | skinless decoded refused => simp [move, step, enter, decoded, refused]
  | unregistered decoded skinned refused => simp [move, step, enter, decoded, skinned, refused]
  | unattached decoded skinned registered refused =>
    simp [move, step, enter, decoded, skinned, registered, refused, Host.withRenderer]
  | installed decoded skinned registered attached =>
    simp [move, step, enter, decoded, skinned, registered, attached, Host.withRenderer]

/-- All that a step can do to the renderer and to the installation's own skin. -/
inductive Touch (before : Renderer) : Option SkinId → Renderer → Option SkinId → Prop where
  | aside {after : Renderer} (same : after = before ∨ after = before.redraw) (own : Option SkinId) :
      Touch before own after own
  | makes (bitmap : Bitmap) (resolution : Nat) :
      Touch before none (before.withNewSkin bitmap resolution) (some ⟨before.issued + 1⟩)
  | binds (d : DrawableId) (skin : SkinId) (lives : before.skins.contains skin = true) :
      Touch before (some skin) (before.showing d skin) none
  | destroys (skin : SkinId) : Touch before (some skin) (before.destroySkin skin) none

theorem step_touches (h : Host) (i : Installing) :
    Touch h.renderer i.stage.own? (i.step h).1.renderer (i.step h).2.stage.own? := by
  unfold step
  cases stage : i.stage with
  | called =>
    dsimp only
    split <;> exact .aside (.inl rfl) none
  | decoded bitmap =>
    dsimp only
    split
    · exact .aside (.inl rfl) none
    · rename_i skinned
      obtain ⟨r, made, rfl⟩ := Install.makeSkin_eq_ok.mp skinned
      obtain ⟨_, _, _, rfl, rfl⟩ := Renderer.createSkin_eq_ok.mp made
      exact .makes ..
  | skinned skin =>
    dsimp only
    split
    · exact .aside (.inl rfl) (some skin)
    · rename_i registered
      obtain ⟨storage, _, rfl⟩ := Install.register_eq_ok registered
      exact .aside (.inl rfl) (some skin)
  | registered asset skin =>
    dsimp only
    split
    · rename_i refused
      obtain ⟨rfl, _, _⟩ := Install.attach_error refused
      exact .aside (.inl rfl) (some skin)
    · rename_i attached
      obtain ⟨lives, _, _, rfl⟩ := Renderer.bind_eq_ok.mp (Install.attach_ok attached).1
      exact .binds _ skin lives
  | refused skin cause => exact .destroys skin
  | attached made => exact .aside (.inr rfl) none
  | returned result =>
    dsimp only
    rw [stage]
    exact .aside (.inl rfl) none

end Installing

/-- Every drawable that shows a skin shows one that lives. -/
def Renderer.ShowsLive (r : Renderer) : Prop :=
  ∀ d skin, r.shown d = some skin → (r.skin? skin).isSome = true

namespace Installing

/-- What steps keep: drawables show skins that live, and every skin that an installation has for itself was handed
out, to it alone, and is shown nowhere. `owned` has these skins in the order of the installations. -/
structure Apart (r : Renderer) (owned : List (Option SkinId)) : Prop where
  issued : r.Issued
  shows : r.ShowsLive
  handed : ∀ skin, some skin ∈ owned → skin.number ≤ r.issued
  unshown : ∀ skin, some skin ∈ owned → ∀ d, r.shown d ≠ some skin
  single : ∀ skin, owned.count (some skin) ≤ 1

variable {r after : Renderer} {owned : List (Option SkinId)} {own own' : Option SkinId} {skin : SkinId}
  {place : Nat}

/-- A drawable shows no number that was not handed out. -/
theorem Apart.shown_le (apart : Apart r owned) {d : DrawableId} (shown : r.shown d = some skin) :
    skin.number ≤ r.issued :=
  apart.issued skin (Table.contains_iff_mem_keys.mp (apart.shows d skin shown))

private theorem count_set (present : owned[place]? = some own) (own' : Option SkinId) (skin : SkinId) :
    (owned.set place own').count (some skin) + (if own = some skin then 1 else 0) =
      owned.count (some skin) + if own' = some skin then 1 else 0 := by
  obtain ⟨inside, rfl⟩ := List.getElem?_eq_some_iff.mp present
  have held : owned[place] = some skin → 0 < owned.count (some skin) := fun same =>
    List.count_pos_iff.mpr (same ▸ List.getElem_mem inside)
  rw [List.count_set inside]
  simp only [beq_iff_eq]
  split <;> rename_i here
  · have some_there := held here
    omega
  · omega

/-- A skin that an installation gives away is nobody's afterwards. -/
theorem Apart.given_away (apart : Apart r owned) (present : owned[place]? = some (some skin)) :
    some skin ∉ owned.set place none := by
  have counted := count_set present none skin
  have once := apart.single skin
  rw [← List.count_eq_zero]
  simp only [if_true, reduceCtorEq, if_false] at counted
  omega

/-- With one skin less in the hands of installations, all is apart as before. -/
theorem Apart.release (apart : Apart r owned) (present : owned[place]? = some own) :
    Apart r (owned.set place none) := by
  have old : ∀ skin, some skin ∈ owned.set place none → some skin ∈ owned := fun skin there =>
    (List.mem_or_eq_of_mem_set there).resolve_right nofun
  refine ⟨apart.issued, apart.shows, fun skin there => apart.handed skin (old skin there),
    fun skin there => apart.unshown skin (old skin there), fun skin => ?_⟩
  have counted := count_set present none skin
  have once := apart.single skin
  simp only [reduceCtorEq, if_false] at counted
  omega

/-- A new skin is nobody else's, and no drawable can show it yet. -/
theorem Apart.making (apart : Apart r owned) (present : owned[place]? = some none) (bitmap : Bitmap)
    (resolution : Nat) :
    Apart (r.withNewSkin bitmap resolution) (owned.set place (some ⟨r.issued + 1⟩)) := by
  have unused : some ⟨r.issued + 1⟩ ∉ owned := fun there =>
    absurd (apart.handed _ there) (Nat.not_succ_le_self _)
  have member : ∀ skin, some skin ∈ owned.set place (some ⟨r.issued + 1⟩) →
      some skin ∈ owned ∨ skin = ⟨r.issued + 1⟩ := fun skin there =>
    (List.mem_or_eq_of_mem_set there).imp_right Option.some.inj
  refine ⟨apart.issued.withNewSkin, ?_, ?_, ?_, ?_⟩
  · intro d skin shown
    rw [Renderer.skin?_withNewSkin]
    split
    · rfl
    · exact apart.shows d skin shown
  · intro skin there
    rcases member skin there with old | rfl
    · exact Nat.le_succ_of_le (apart.handed skin old)
    · exact Nat.le_refl _
  · intro skin there d shown
    rcases member skin there with old | rfl
    · exact apart.unshown skin old d shown
    · exact absurd (apart.shown_le shown) (Nat.not_succ_le_self _)
  · intro skin
    have counted := count_set present (some ⟨r.issued + 1⟩) skin
    have once := apart.single skin
    by_cases new : (⟨r.issued + 1⟩ : SkinId) = skin
    · have none_before := List.count_eq_zero.mpr (new ▸ unused)
      simp only [new, if_true, reduceCtorEq, if_false] at counted ⊢
      omega
    · simp only [Option.some.injEq, new, reduceCtorEq, if_false] at counted
      omega

/-- A drawable may show any skin that lives and that no installation has for itself. -/
theorem Apart.showing (apart : Apart r owned) (lives : (r.skin? skin).isSome = true)
    (free : some skin ∉ owned) (d : DrawableId) : Apart (r.showing d skin) owned := by
  refine ⟨apart.issued, ?_, apart.handed, ?_, apart.single⟩
  · intro d' other shown
    rw [Renderer.shown_showing] at shown
    split at shown
    · cases shown
      exact lives
    · exact apart.shows d' other shown
  · intro other there d' shown
    rw [Renderer.shown_showing] at shown
    split at shown
    · cases shown
      exact free there
    · exact apart.unshown other there d' shown

/-- A skin that is shown nowhere may be destroyed. -/
theorem Apart.destroying (apart : Apart r owned) (unshown : ∀ d, r.shown d ≠ some skin) :
    Apart (r.destroySkin skin) owned := by
  refine ⟨apart.issued.destroySkin, ?_, apart.handed, apart.unshown, apart.single⟩
  intro d other shown
  have kept : other ≠ skin := by
    rintro rfl
    exact unshown d shown
  rw [Renderer.skin?_destroySkin, if_neg kept]
  exact apart.shows d other shown

/-- What one installation does to the renderer, and to the skin that it has for itself, keeps all apart. -/
theorem Apart.touched (apart : Apart r owned) (present : owned[place]? = some own)
    (touch : Touch r own after own') : Apart after (owned.set place own') := by
  cases touch with
  | aside same =>
    obtain ⟨inside, rfl⟩ := List.getElem?_eq_some_iff.mp present
    rw [List.set_getElem_self]
    rcases same with rfl | rfl
    · exact apart
    · exact ⟨apart.issued, apart.shows, apart.handed, apart.unshown, apart.single⟩
  | makes bitmap resolution => exact apart.making present bitmap resolution
  | binds d skin lives => exact (apart.release present).showing lives (apart.given_away present) d
  | destroys skin =>
    have mine : some skin ∈ owned := List.mem_of_getElem? present
    exact (apart.release present).destroying (apart.unshown skin mine)

/-- A skin that a step ends is the installation's own, and it is shown nowhere. -/
theorem Apart.ended_unshown (apart : Apart r owned) (present : owned[place]? = some own)
    (touch : Touch r own after own') (lived : (r.skin? skin).isSome = true)
    (gone : after.skin? skin = none) (d : DrawableId) : r.shown d ≠ some skin := by
  have not_same : after.skin? skin ≠ r.skin? skin := by
    intro same
    rw [← same, gone] at lived
    cases lived
  cases touch with
  | aside same => rcases same with rfl | rfl <;> exact absurd rfl not_same
  | makes bitmap resolution =>
    rw [Renderer.skin?_withNewSkin] at gone not_same
    split at gone
    · cases gone
    · rename_i other
      exact absurd (if_neg other) not_same
  | binds => exact absurd rfl not_same
  | destroys mine =>
    have own : skin = mine := by
      by_contra other
      exact not_same (by rw [Renderer.skin?_destroySkin, if_neg other])
    rw [own]
    exact apart.unshown mine (List.mem_of_getElem? present) d

/-! ## Runs -/

/-- The skins that installations have for themselves. -/
def ownSkins (all : List Installing) : List (Option SkinId) := all.map fun i => i.stage.own?

theorem Apart.move {s : Host × List Installing} (apart : Apart s.1.renderer (ownSkins s.2)) (place : Nat) :
    Apart (Installing.move s place).1.renderer (ownSkins (Installing.move s place).2) := by
  unfold Installing.move
  cases present : s.2[place]? with
  | none => exact apart
  | some i =>
    rw [ownSkins, List.map_set]
    exact apart.touched (by simp [ownSkins, present]) (step_touches s.1 i)

theorem Apart.run {s : Host × List Installing} (apart : Apart s.1.renderer (ownSkins s.2)) (places : List Nat) :
    Apart (Installing.run s places).1.renderer (ownSkins (Installing.run s places).2) :=
  List.foldlRecOn (motive := fun s => Apart s.1.renderer (ownSkins s.2)) places Installing.move apart
    fun _ kept place _ => kept.move place

/-- A skin that was there before a step and is not there after it is shown nowhere. -/
theorem Apart.move_ended {s : Host × List Installing} (apart : Apart s.1.renderer (ownSkins s.2)) (place : Nat)
    (lived : (s.1.renderer.skin? skin).isSome = true)
    (gone : (Installing.move s place).1.renderer.skin? skin = none) (d : DrawableId) :
    s.1.renderer.shown d ≠ some skin := by
  unfold Installing.move at gone
  cases present : s.2[place]? with
  | none =>
    simp only [present] at gone
    rw [gone] at lived
    cases lived
  | some i =>
    simp only [present] at gone
    have own : (ownSkins s.2)[place]? = some i.stage.own? := by simp [ownSkins, present]
    exact apart.ended_unshown own (step_touches s.1 i) lived gone d

/-- Installations that have not begun have no skins for themselves. -/
theorem Apart.start {all : List Installing} (issued : r.Issued) (shows : r.ShowsLive)
    (called : ∀ i ∈ all, i.stage = .called) : Apart r (ownSkins all) := by
  have nobody : ∀ skin, some skin ∉ ownSkins all := by
    intro skin owned
    obtain ⟨i, member, own⟩ := List.mem_map.mp owned
    rw [called i member] at own
    cases own
  exact ⟨issued, shows, fun skin owned => absurd owned (nobody skin),
    fun skin owned => absurd owned (nobody skin),
    fun skin => by rw [List.count_eq_zero.mpr (nobody skin)]; exact Nat.zero_le 1⟩

/-- **Drawables show skins that live.** Whatever a renderer was asked before, it hands out its numbers one after
the other, and what it answers stands in its history. Let any installations begin on it while its drawables
show skins that live. In whatever order they take their steps, six of which are an installation, every skin that
is ever ended is shown nowhere at that time, and drawables go on showing skins that live. -/
theorem drawables_show_live_skins (calls : List RendererCall) :
    (Renderer.Disciplined (Renderer.after calls).1 (Renderer.after calls).2 ∧
      (Renderer.after calls).1.numbers.length ≤ calls.length) ∧
    (∀ h i, i.stage = .called → run (h, [i]) (List.replicate 6 0) =
      match Install.install i.settings i.decode h i.target i.source i.output i.fresh with
      | (result, after, target) => (after, [{ i with target, stage := .returned result }])) ∧
    ∀ h all, h.renderer = (Renderer.after calls).2 → h.renderer.ShowsLive →
      (∀ i ∈ all, i.stage = .called) → ∀ places,
        (run (h, all) places).1.renderer.ShowsLive ∧
        ∀ place skin, ((run (h, all) places).1.renderer.skin? skin).isSome = true →
          (run (h, all) (places ++ [place])).1.renderer.skin? skin = none →
            ∀ d, (run (h, all) places).1.renderer.shown d ≠ some skin := by
  have tells := Renderer.tells_after calls
  refine ⟨⟨tells.disciplined, Renderer.length_numbers_after_le calls⟩,
    fun h i called => run_alone h called, ?_⟩
  intro h all began shows called places
  have issued : h.renderer.Issued := began ▸ (Renderer.reachable_after calls).issued
  have apart : Apart (run (h, all) places).1.renderer (ownSkins (run (h, all) places).2) :=
    (Apart.start issued shows called).run places
  refine ⟨apart.shows, fun place skin lived gone => apart.move_ended place lived ?_⟩
  rwa [run, List.foldl_append, List.foldl_cons, List.foldl_nil] at gone

end Installing

namespace Sample

/-- Calls that build the renderer with one skin and one drawable. -/
def unlockedCalls : List RendererCall := [.createSkin ⟨2, 2⟩ 2, .addDrawable (some ⟨1⟩)]

/-- An installation for the sprite that has not begun. -/
def installing (output : ServiceOutput) : Installing :=
  ⟨default, fourByFour, cat, output, ⟨.ofNat 2⟩, sprite, .called⟩

/-- Two installations for the sprite. The second has the picture that the sprite shows already. -/
def rivals : List Installing := [installing cutout, installing ⟨⟨#[7]⟩, .png, "image/png"⟩]

/-- A host with the renderer on which they begin. -/
def shared : Host := .inMemory default unlocked

/-- The places of the rivals as they take turns. -/
def turns : List Nat := [0, 1, 0, 1, 0, 1, 0, 1, 0]

theorem unlocked_showsLive : unlocked.ShowsLive := by
  intro d skin shown
  have only : unlocked.shown d = if d = ⟨2⟩ then some ⟨1⟩ else none := by
    have same : unlocked.drawables.get? d = if d = ⟨2⟩ then some (some ⟨1⟩) else none := Table.get?_put
    rw [Renderer.shown, same]
    split <;> rfl
  rw [only] at shown
  split at shown
  · cases shown
    rfl
  · cases shown

end Sample

namespace Installing

open Sample

/-- When their steps alternate, both have a skin before either is bound. The second is refused and ends its
own, which is shown nowhere. -/
theorem refused_rival_ends_its_own_skin :
    (run (shared, rivals) turns).1.renderer.shown ⟨2⟩ = some ⟨3⟩ ∧
      ((run (shared, rivals) turns).1.renderer.skin? ⟨4⟩).isSome = true ∧
      (run (shared, rivals) (turns ++ [1])).1.renderer.skin? ⟨4⟩ = none ∧
      (run (shared, rivals) turns).1.renderer.ShowsLive ∧
      ∀ d, (run (shared, rivals) turns).1.renderer.shown d ≠ some ⟨4⟩ := by
  have called : ∀ i ∈ rivals, i.stage = .called := by simp [rivals, installing]
  have lived : ((run (shared, rivals) turns).1.renderer.skin? ⟨4⟩).isSome = true := by decide +kernel
  have gone : (run (shared, rivals) (turns ++ [1])).1.renderer.skin? ⟨4⟩ = none := by decide +kernel
  obtain ⟨live, ended⟩ :=
    (drawables_show_live_skins unlockedCalls).2.2 shared rivals rfl unlocked_showsLive called turns
  exact ⟨by decide +kernel, lived, gone, live, ended 1 ⟨4⟩ lived gone⟩

end Installing

end Silhouette
