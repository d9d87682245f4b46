import Silhouette.Proofs.Invocation

/-! An invocation that nothing interrupts. Its steps, one after the other, do what a whole removal does:
they come to the same result, and leave the same target and the same shared state. So what is said of
removals holds of invocations that have the host for themselves. -/
namespace Silhouette.Invocation

/-- Steps of one invocation with nothing in between. -/
inductive Steps (r : Remover) : RemovalState × Invocation → RemovalState × Invocation → Prop where
  | none (here : RemovalState × Invocation) : Steps r here here
  | next (stepped : i.step r s = between) (more : Steps r between last) : Steps r (s, i) last

variable {r : Remover} {s : RemovalState} {target target' : Target} {fresh : CostumeId}
  {last : RemovalState × Invocation} {host : Host}

/-- From its end an invocation lets its flag go. -/
private theorem ending_steps (r : Remover) (s : RemovalState) (target : Target) (fresh : CostumeId)
    (result : Except RemovalError Installation) :
    Steps r (s, ⟨target, fresh, .ending result⟩)
      ({ s with busy := s.busy.release target.id }, ⟨target, fresh, .ended result⟩) :=
  .next rfl (.none _)

/-- What resolving gives as a whole, the steps give too. -/
private theorem resolve_steps
    (resolved : Resolve.resolve r.settings.loadTimeout s.host target.current = (outcome, host))
    (more : Steps r (s.withHost host, resolvedTo ⟨target, fresh, .acquired⟩ outcome) last) :
    Steps r (s, ⟨target, fresh, .acquired⟩) last := by
  unfold Resolve.resolve at resolved
  cases raster : target.current.format.isRaster with
  | false =>
    simp only [raster, Bool.not_false, if_true] at resolved
    cases resolved
    refine .next ?_ more
    simp only [step, resolveStep, raster, Bool.not_false, if_true]
    rfl
  | true =>
    simp only [raster, Bool.not_true, Bool.false_eq_true, if_false] at resolved
    cases tried : Resolve.atHand s.host target.current with
    | mk found after =>
      rw [tried] at resolved
      cases found with
      | ok source =>
        cases resolved
        refine .next ?_ more
        simp only [step, resolveStep, raster, tried, Bool.not_true, Bool.false_eq_true, if_false]
        rfl
      | error attempts =>
        cases loads : Resolve.canLoad target.current with
        | true =>
          simp only [loads, if_true, Prod.mk.injEq] at resolved
          obtain ⟨found, rfl⟩ := resolved
          have began : step r s ⟨target, fresh, .acquired⟩ =
              (s.withHost after.beginLoad, ⟨target, fresh, .loading attempts⟩) := by
            simp only [step, resolveStep, raster, tried, loads, Bool.not_true, Bool.false_eq_true,
              if_false, if_true]
            rfl
          refine .next began (.next ((step_loading rfl found).trans ?_) more)
          cases outcome <;> rfl
        | false =>
          simp only [loads, Bool.false_eq_true, if_false, Prod.mk.injEq] at resolved
          obtain ⟨found, rfl⟩ := resolved
          refine .next ?_ more
          simp only [step, resolveStep, raster, tried, loads, Bool.not_true, Bool.false_eq_true,
            if_false, found]
          cases outcome <;> rfl

theorem acquired_step (acquired : s.busy.acquire target.id = .ok flags) :
    step r s (.ready target fresh) = ({ s with busy := flags }, ⟨target, fresh, .acquired⟩) := by
  simp only [step, ready, acquired]
  rfl

theorem decoded_step
    (decoded : Install.decodeOutput r.decode r.settings.decodeTimeout output.bytes = .ok bitmap) :
    step r s ⟨target, fresh, .answered output⟩ = (s, ⟨target, fresh, .decoded output bitmap⟩) := by
  simp only [step, decoded]
  rfl

theorem skinned_step (skinned : Install.makeSkin s.host target.current bitmap = .ok (skin, host)) :
    step r s ⟨target, fresh, .decoded output bitmap⟩ =
      (s.withHost host, ⟨target, fresh, .skinned output skin⟩) := by
  simp only [step, skinned]
  rfl

theorem registered_step (registered : Install.register s.host output = .ok (asset, host)) :
    step r s ⟨target, fresh, .skinned output skin⟩ =
      (s.withHost host, ⟨target, fresh, .registered asset skin⟩) := by
  simp only [step, registered]
  rfl

private theorem attached_steps
    (attached : Install.attach s.host.renderer target
      (target.current.derive fresh r.settings.nameSuffix asset skin) skin =
        (.ok mode, bound, target'))
    (more : Steps r (s.withHost (s.host.withRenderer bound.redraw), ⟨target', fresh, .ending (.ok
      ⟨target.current.derive fresh r.settings.nameSuffix asset skin, skin, mode⟩)⟩) last) :
    Steps r (s, ⟨target, fresh, .registered asset skin⟩) last := by
  have stepped : step r s ⟨target, fresh, .registered asset skin⟩ =
      (s.withHost (s.host.withRenderer bound), ⟨target', fresh, .attached
        ⟨target.current.derive fresh r.settings.nameSuffix asset skin, skin, mode⟩⟩) := by
    simp only [step, Install.settle, attached]
    rfl
  exact .next stepped (.next rfl more)

/-- What installing an answer gives as a whole, the steps give too. -/
private theorem install_steps
    (installed : Install.install r.settings r.decode s.host target target.current output fresh =
      (result, host, target'))
    (more : Steps r (s.withHost host, ⟨target', fresh, .ending result⟩) last) :
    Steps r (s, ⟨target, fresh, .answered output⟩) last := by
  have ended :=
    Install.install_exit r.settings r.decode s.host target target.current output fresh
  rw [installed] at ended
  cases ended with
  | undecoded refused =>
    refine .next ?_ more
    simp only [step, refused]
    rfl
  | skinless decoded refused =>
    refine .next (decoded_step decoded) (.next ?_ more)
    simp only [step, refused]
    rfl
  | unregistered decoded skinned refused =>
    refine .next (decoded_step decoded) (.next (skinned_step skinned) (.next ?_ more))
    simp only [step, RemovalState.withHost, refused]
    rfl
  | unattached decoded skinned registered refused =>
    refine .next (decoded_step decoded) (.next (skinned_step skinned)
      (.next (registered_step registered) (.next ?_ more)))
    simp only [step, RemovalState.withHost, Install.settle, refused]
    rfl
  | installed decoded skinned registered attached =>
    exact .next (decoded_step decoded) (.next (skinned_step skinned)
      (.next (registered_step registered) (attached_steps attached more)))

private theorem refused_steps (refused : r.service s.sent (Remover.requestFor source) = .error e)
    (more : Steps r ({ s with sent := s.sent ++ [Remover.requestFor source] },
      ⟨target, fresh, .ending (.error (.ofService e))⟩) last) :
    Steps r (s, ⟨target, fresh, .resolved source⟩) last := by
  have stepped : step r s ⟨target, fresh, .resolved source⟩ =
      ({ s with sent := s.sent ++ [Remover.requestFor source] },
        ⟨target, fresh, .asked (.error (.ofService e))⟩) := by
    simp only [step, Remover.ask, refused]
    rfl
  exact .next stepped (.next rfl more)

private theorem answered_steps (answer : r.service s.sent (Remover.requestFor source) = .ok output)
    (more : Steps r ({ s with sent := s.sent ++ [Remover.requestFor source] },
      ⟨target, fresh, .answered output⟩) last) :
    Steps r (s, ⟨target, fresh, .resolved source⟩) last := by
  have stepped : step r s ⟨target, fresh, .resolved source⟩ =
      ({ s with sent := s.sent ++ [Remover.requestFor source] },
        ⟨target, fresh, .asked (.ok output)⟩) := by
    simp only [step, Remover.ask, answer]
    rfl
  exact .next stepped (.next rfl more)

/-- Installing never gives the target another name. -/
private theorem install_target_id
    (installed : Install.install settings decode h target source output fresh =
      (result, host, target')) : target'.id = target.id := by
  have ended := Install.install_exit settings decode h target source output fresh
  rw [installed] at ended
  cases ended with
  | undecoded | skinless | unregistered => rfl
  | unattached decoded skinned registered refused => exact Install.attach_target_id refused
  | installed decoded skinned registered attached => exact Install.attach_target_id attached

/-- **An invocation that nothing interrupts is a removal.** Its steps lead to its end with the result of
the removal, and to the target and the shared state that the removal leaves. -/
theorem uninterrupted_is_removal (r : Remover) (fresh : CostumeId) (s : RemovalState)
    (target : Target) :
    Steps r (s, .ready target fresh)
      ((r.removeBackground fresh s target).2.1,
        ⟨(r.removeBackground fresh s target).2.2, fresh,
          .ended (r.removeBackground fresh s target).1⟩) := by
  have ended := r.removeBackground_ending fresh s target
  generalize r.removeBackground fresh s target = removal at ended
  cases ended with
  | busy refused =>
    refine .next ?_ (.none _)
    simp only [step, ready, refused]
    rfl
  | unresolved acquired refused =>
    refine .next (acquired_step acquired) (resolve_steps refused ?_)
    exact ending_steps r _ target fresh _
  | unanswered acquired resolved refused =>
    refine .next (acquired_step acquired) (resolve_steps resolved (refused_steps refused ?_))
    exact ending_steps r _ target fresh _
  | answered acquired resolved answer installed =>
    refine .next (acquired_step acquired) (resolve_steps resolved (answered_steps answer
      (install_steps installed ?_)))
    rw [← install_target_id installed]
    exact ending_steps r _ _ fresh _

end Silhouette.Invocation
