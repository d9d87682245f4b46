import Silhouette.Proofs.Removal

/-! Runs of removals on one target that keeps a list. Three stores change on their own: the list, the
skins of the renderer and what the drawables show. `Kept` ties them together for a run of any length:
one success adds one entry, one skin and one redraw, a failure adds nothing, and the drawable always
shows the selected entry. -/
namespace Silhouette

/-- What one removal of a run meets: the name for the new costume, how the service answers, and what
the decoder makes of the answer. -/
structure Occasion where
  fresh : CostumeId
  service : Service
  decode : ByteArray → Decoding

/-- An occasion on which the service answers and the new costume has a name with some number. -/
def Sample.answered (number : Nat) : Occasion :=
  ⟨⟨.ofNat number⟩, fun _ _ => .ok cutout, fourByFour⟩

/-- The remover as one occasion has it. -/
def Remover.on (r : Remover) (o : Occasion) : Remover :=
  { r with service := o.service, decode := o.decode }

/-- What a run of removals has come to. -/
structure RemovalRun where
  results : List (Except RemovalError Installation)
  state : RemovalState
  target : Target

namespace RemovalRun

/-- A run that has not begun. -/
def start (s : RemovalState) (target : Target) : RemovalRun := ⟨[], s, target⟩

/-- The run with one removal more, whose source is what the target shows by then. -/
def next (r : Remover) (run : RemovalRun) (o : Occasion) : RemovalRun :=
  let (result, s, target) := (r.on o).removeBackground o.fresh run.state run.target
  ⟨run.results ++ [result], s, target⟩

/-- The run over some occasions. -/
def after (r : Remover) (s : RemovalState) (target : Target) (occasions : List Occasion) :
    RemovalRun :=
  occasions.foldl (next r) (start s target)

/-- How many removals of a run came to their end. -/
def successes (run : RemovalRun) : Nat := run.results.countP fun result => result.isOk

/-- The renderer that a run has come to. -/
def renderer (run : RemovalRun) : Renderer := run.state.host.renderer

/-- A text several times over. -/
def repeated (suffix : String) : Nat → String
  | 0 => ""
  | n + 1 => repeated suffix n ++ suffix

/-- What a run has made of a target that kept the variants `list` when it began: the entries `added`
came to the end of its list and the skins `skins` to the renderer, one of each for every success, and
the drawable shows the selected entry. -/
structure Kept (suffix : String) (s : RemovalState) (target : Target) (list : VariantList)
    (run : RemovalRun) (now : VariantList) (added : List Costume)
    (skins : List (SkinId × SkinInfo)) : Prop where
  keeps : run.target = target.withVariants now
  entries : now.entries = list.entries ++ added
  grown : added.length = run.successes
  shows : run.renderer.shown target.drawable = now.selected.skin
  live : run.renderer.skins.entries = s.host.renderer.skins.entries ++ skins
  own : added.map Costume.skin = skins.map fun entry => some entry.1
  redraws : run.renderer.redraws = s.host.renderer.redraws + run.successes
  name : now.selected.name = list.selected.name ++ repeated suffix run.successes

/-- What carries `Kept` from one removal to the next: the numbers of skins are handed out, and the
drawable is known. -/
structure Ready (target : Target) (run : RemovalRun) : Prop where
  issued : run.renderer.Issued
  known : run.renderer.drawables.contains target.drawable = true

variable {r : Remover} {s : RemovalState} {target : Target} {list was : VariantList}
  {run : RemovalRun} {added : List Costume} {skins : List (SkinId × SkinInfo)} {o : Occasion}

private theorem next_eq
    (ended : (r.on o).removeBackground o.fresh run.state run.target = (result, s', target')) :
    run.next r o = ⟨run.results ++ [result], s', target'⟩ := by
  simp only [next, ended]

private theorem successes_append_ok :
    (⟨run.results ++ [.ok made], s', target'⟩ : RemovalRun).successes = run.successes + 1 := by
  simp [successes, Except.isOk, Except.toBool]

private theorem successes_append_error :
    (⟨run.results ++ [.error e], s', target'⟩ : RemovalRun).successes = run.successes := by
  simp [successes, Except.isOk, Except.toBool]

/-- A removal that fails adds nothing to what a run has made. -/
theorem Kept.next_error (kept : Kept suffix s target list run was added skins)
    (ready : Ready target run)
    (failed : (r.on o).removeBackground o.fresh run.state run.target = (.error e, s', target')) :
    Kept suffix s target list (run.next r o) was added skins ∧ Ready target (run.next r o) := by
  obtain ⟨rfl, only⟩ := Remover.failed_removal ready.issued failed
  have same := only.sameScene
  rw [next_eq failed]
  constructor
  · exact {
      keeps := kept.keeps
      entries := kept.entries
      grown := by rw [successes_append_error, kept.grown]
      shows := by
        rw [← kept.shows]
        simp only [renderer, Renderer.shown, same.drawables]
      live := by
        rw [← kept.live]
        exact congrArg Table.entries same.skins
      own := kept.own
      redraws := by
        rw [successes_append_error, ← kept.redraws]
        exact same.redraws
      name := by rw [successes_append_error, kept.name] }
  · exact {
      issued := only.issued ready.issued
      known := by
        rw [← ready.known]
        exact congrArg (Table.contains · _) same.drawables }

/-- A removal that comes to its end adds one entry, which is selected and shown, one skin and one
redraw. -/
theorem Kept.next_ok (kept : Kept r.settings.nameSuffix s target list run was added skins)
    (ready : Ready target run)
    (done : (r.on o).removeBackground o.fresh run.state run.target = (.ok made, s', target')) :
    (∃ info, Kept r.settings.nameSuffix s target list (run.next r o)
      (was.withNewest made.costume) (added ++ [made.costume]) (skins ++ [(made.skin, info)])) ∧
      Ready target (run.next r o) := by
  obtain ⟨host, output, consulted, installed⟩ := Remover.finished_removal done
  obtain ⟨_, skin, ⟨asset, costume⟩, ⟨bitmap, left⟩, kind⟩ := Install.installed_renderer installed
  have grownTarget : target' = target.withVariants (was.withNewest made.costume) := by
    rw [kept.keeps] at kind
    rcases kind with ⟨old, shape, _, rfl⟩ | ⟨current, shape, _⟩
    · cases shape
      rfl
    · cases shape
  have source : run.target.current = was.selected := by rw [kept.keeps]; rfl
  have drawn : run.target.drawable = target.drawable := by rw [kept.keeps]; rfl
  rw [source] at costume left
  rw [drawn] at left
  rw [consulted.renderer_eq] at skin left
  have shown : made.costume.skin = some made.skin := by rw [costume]; rfl
  have named : made.costume.name = was.selected.name ++ r.settings.nameSuffix := by rw [costume]; rfl
  have skinsNow : s'.host.renderer.skins.entries = run.renderer.skins.entries ++
      [(made.skin, Renderer.infoOf bitmap was.selected.resolution)] := by
    rw [left, skin]
    exact Table.entries_put_of_new ready.issued.next_new
  rw [next_eq done]
  refine ⟨⟨Renderer.infoOf bitmap was.selected.resolution, ?_⟩, ?_⟩
  · exact {
      keeps := grownTarget
      entries := by simp [kept.entries]
      grown := by simp [successes_append_ok, kept.grown]
      shows := by simp [renderer, Renderer.shown, left, Renderer.redraw, Renderer.showing, shown]
      live := by rw [← List.append_assoc, ← kept.live]; exact skinsNow
      own := by simp [kept.own, shown]
      redraws := by
        rw [successes_append_ok, ← Nat.add_assoc, ← kept.redraws]
        exact congrArg Renderer.redraws left
      name := by
        rw [successes_append_ok, repeated, ← String.append_assoc, ← kept.name,
          VariantList.selected_withNewest, named] }
  · exact {
      issued := by
        simp only [renderer, left]
        exact ready.issued.withNewSkin
      known := by simp [renderer, left, Renderer.redraw, Renderer.showing] }

/-- Every run on a target that keeps a list has made of it what `Kept` says. -/
theorem after_kept (keeps : target.wardrobe = .list list) (reachable : s.host.renderer.Reachable)
    (known : s.host.renderer.drawables.contains target.drawable = true)
    (shows : s.host.renderer.shown target.drawable = list.selected.skin)
    (occasions : List Occasion) :
    ∃ now added skins,
      Kept r.settings.nameSuffix s target list (after r s target occasions) now added skins ∧
        Ready target (after r s target occasions) := by
  -- The claim about the run so far is carried through the fold, one removal at a time.
  refine List.foldlRecOn (motive := fun run => ∃ now added skins,
    Kept r.settings.nameSuffix s target list run now added skins ∧ Ready target run)
    occasions (next r) ?_ ?_
  · refine ⟨list, [], [], ?_, reachable.issued, known⟩
    exact {
      keeps := by
        cases target
        cases keeps
        rfl
      entries := (List.append_nil _).symm
      grown := rfl
      shows := shows
      live := (List.append_nil _).symm
      own := rfl
      redraws := rfl
      name := String.append_empty.symm }
  · rintro run ⟨was, added, skins, kept, ready⟩ o _
    cases ended : (r.on o).removeBackground o.fresh run.state run.target with
    | mk result rest =>
      obtain ⟨s', target'⟩ := rest
      cases result with
      | error e => exact ⟨was, added, skins, kept.next_error ready ended⟩
      | ok made =>
        obtain ⟨⟨info, kept⟩, ready⟩ := kept.next_ok ready ended
        exact ⟨_, _, _, kept, ready⟩

/-- The skins of the entries that a run added are different from one another. -/
theorem Kept.distinct (kept : Kept suffix s target list run was added skins) :
    (added.map Costume.skin).Nodup := by
  have keys := run.renderer.skins.nodup_keys
  rw [kept.live, List.map_append] at keys
  have own := (List.nodup_append.mp keys).2.1
  have ids : (skins.map fun entry => some entry.1) = (skins.map Prod.fst).map some := by simp
  rw [kept.own, ids]
  exact List.Pairwise.map some (fun _ _ other same => other (Option.some.inj same)) own

/-- **A run keeps the list, the renderer and what is shown together.** Take any run on a target that
keeps a list and whose drawable shows the selected entry, and one removal more. Then `Kept` holds, each
success has a skin of its own, and the last removal has added its costume to the end of the list if it
succeeded, and else has left the list as it was. -/
theorem run_keeps_target_and_renderer (r : Remover) (s : RemovalState) (target : Target)
    (list : VariantList) (keeps : target.wardrobe = .list list)
    (reachable : s.host.renderer.Reachable)
    (known : s.host.renderer.drawables.contains target.drawable = true)
    (shows : s.host.renderer.shown target.drawable = list.selected.skin)
    (occasions : List Occasion) (o : Occasion) :
    ∃ was now added skins,
      (after r s target occasions).target = target.withVariants was ∧
      Kept r.settings.nameSuffix s target list (after r s target (occasions ++ [o])) now added
        skins ∧
      (added.map Costume.skin).Nodup ∧
      ((∃ made,
          (after r s target (occasions ++ [o])).results =
            (after r s target occasions).results ++ [.ok made] ∧
          now.entries = was.entries ++ [made.costume]) ∨
        ∃ e,
          (after r s target (occasions ++ [o])).results =
            (after r s target occasions).results ++ [.error e] ∧
          now = was) := by
  obtain ⟨was, added, skins, kept, ready⟩ :=
    after_kept (r := r) keeps reachable known shows occasions
  have last : after r s target (occasions ++ [o]) = (after r s target occasions).next r o := by
    simp [after, List.foldl_append]
  rw [last]
  cases ended : (r.on o).removeBackground o.fresh (after r s target occasions).state
      (after r s target occasions).target with
  | mk result rest =>
    obtain ⟨s', target'⟩ := rest
    cases result with
    | error e =>
      have now := (kept.next_error ready ended).1
      refine ⟨was, was, added, skins, kept.keeps, now, now.distinct, .inr ⟨e, ?_, rfl⟩⟩
      rw [next_eq ended]
    | ok made =>
      obtain ⟨⟨info, now⟩, _⟩ := kept.next_ok ready ended
      refine ⟨was, _, _, _, kept.keeps, now, now.distinct, .inl ⟨made, ?_, rfl⟩⟩
      rw [next_eq ended]

open Sample

/-- The same answer twice: the first time it becomes a variant, the second time the list refuses it. -/
theorem repeated_answer_keeps_target_and_renderer :
    (after remover (idle unlocked) sprite [answered 2, answered 3]).successes = 1 ∧
    ∃ now added skins,
      Kept " (bg)" (idle unlocked) sprite (.singleton cat)
        (after remover (idle unlocked) sprite [answered 2, answered 3]) now added skins ∧
      added.length = 1 := by
  have once : (after remover (idle unlocked) sprite [answered 2, answered 3]).successes = 1 := by
    decide +kernel
  obtain ⟨_, now, added, skins, _, kept, _⟩ :=
    run_keeps_target_and_renderer remover (idle unlocked) sprite (.singleton cat) rfl
      unlocked_reachable (by decide +kernel) (by decide +kernel) [answered 2] (answered 3)
  exact ⟨once, now, added, skins, kept, by rw [kept.grown]; exact once⟩

end RemovalRun

end Silhouette
