import Silhouette.Proofs.Holdings

/-! The stage at which a removal stopped can be read off its failure. Up to resolving no request was sent;
a failed exchange has sent one, and its failure is that of the service; from decoding on the service has
answered. Only a failed installation may have moved anything of the host, and however a removal ends,
the busy flags are afterwards what they were. -/
namespace Silhouette

/-- The stages of a removal that can fail, in their order. -/
inductive Stage where
  | admission
  | format
  | source
  | exchange
  | decoding
  | installation
  deriving DecidableEq, Repr

/-- The stage that a failure comes from. -/
def RemovalError.stage : RemovalError → Stage
  | alreadyProcessing _ => .admission
  | unsupportedFormat _ => .format
  | resolutionFailed _ => .source
  | encodeFailed _ | networkError _ | timeout _ | httpError _ _ | notImage _ => .exchange
  | decodeFailed _ => .decoding
  | installFailed _ => .installation

theorem RemovalError.stage_ofService (cause : ServiceError) : (ofService cause).stage = .exchange := by
  cases cause <;> rfl

/-- A flag that is taken and let go leaves the flags as they were. -/
theorem BusyFlags.release_of_acquire {f taken : BusyFlags} (acquired : f.acquire t = .ok taken) :
    taken.release t = f := by
  unfold acquire at acquired
  split at acquired
  · cases acquired
  · rename_i free
    cases acquired
    have others : ∀ held ∈ f.held, held ≠ t := fun held member same => free (same ▸ member)
    cases f
    simpa [release] using others

/-- Resolving fails for the format, before it looks at the host, or when all that was tried gave
nothing. -/
theorem Resolve.resolve_error_cases (refused : resolve timeout h costume = (.error e, after)) :
    (costume.format.isRaster = false ∧ e = .unsupportedFormat costume.format) ∨
      ∃ tried, e = .resolutionFailed tried := by
  unfold resolve at refused
  split at refused
  · rename_i vector
    cases refused
    exact .inl ⟨by simpa using vector, rfl⟩
  · split at refused
    · cases refused
    · split at refused <;> exact .inr (finish_error (Prod.mk.inj refused).1)

namespace Install

/-- A result that cannot be decoded changes nothing; every later failure is one of installing. -/
theorem install_error_stage
    (failed : install settings decode h target source output fresh = (.error e, after, target')) :
    (e.stage = .decoding ∧ after = h ∧ target' = target) ∨ e.stage = .installation := by
  have ended := install_exit settings decode h target source output fresh
  rw [failed] at ended
  cases ended with
  | undecoded refused =>
    obtain ⟨reason, rfl⟩ := decodeOutput_error refused
    exact .inl ⟨rfl, rfl, rfl⟩
  | skinless decoded refused =>
    obtain ⟨cause, rfl⟩ := makeSkin_error refused
    exact .inr rfl
  | unregistered decoded skinned refused =>
    obtain ⟨cause, rfl⟩ := register_error refused
    exact .inr rfl
  | unattached decoded skinned registered refused =>
    obtain ⟨_, _, ⟨cause⟩ | ⟨cause⟩⟩ := attach_error refused
    · exact .inr rfl
    · exact .inr rfl

end Install

namespace Remover

variable {r : Remover} {fresh : CostumeId} {s s' : RemovalState} {target target' : Target}

/-- A removal on a busy target is refused, whatever the host. -/
theorem removeBackground_busy (busy : s.busy.acquire target.id = .error e) :
    r.removeBackground fresh s target = (.error e, s, target) := by
  unfold removeBackground
  rw [busy]

/-- A removal of a vector costume is refused, whatever the host. -/
theorem removeBackground_vector (acquired : s.busy.acquire target.id = .ok flags)
    (vector : target.current.format.isRaster = false) :
    r.removeBackground fresh s target =
      (.error (.unsupportedFormat target.current.format), s, target) := by
  have unresolved : Resolve.resolve r.settings.loadTimeout s.host target.current =
      (.error (.unsupportedFormat target.current.format), s.host) := by
    simp [Resolve.resolve, vector]
  unfold removeBackground
  simp only [acquired, run, unresolved, RemovalState.withHost,
    BusyFlags.release_of_acquire acquired]

/-- What a failure tells of the removal that failed with it: how far it came, and what it has left as it
was. -/
structure StoppedAt (r : Remover) (fresh : CostumeId) (s : RemovalState) (target : Target)
    (e : RemovalError) (s' : RemovalState) (target' : Target) : Prop where
  /-- A busy target and a vector costume are refused without a look at the host. -/
  unseen : e.stage = .admission ∨ e.stage = .format → ∀ host,
    r.removeBackground fresh (s.withHost host) target = (.error e, s.withHost host, target)
  unasked : e.stage = .admission ∨ e.stage = .format ∨ e.stage = .source → s'.sent = s.sent
  refused : e.stage = .exchange → ∃ request cause, s'.sent = s.sent ++ [request] ∧
    r.service s.sent request = .error cause ∧ e = .ofService cause
  answered : e.stage = .decoding ∨ e.stage = .installation → ∃ request output,
    s'.sent = s.sent ++ [request] ∧ r.service s.sent request = .ok output
  kept : e.stage ≠ .installation → s'.host.renderer = s.host.renderer ∧
    s.host.storage.SameHoldings s'.host.storage ∧ target' = target

variable {e : RemovalError}

/-- A removal that stopped before it asked. -/
private theorem StoppedAt.before_asking
    (early : e.stage = .admission ∨ e.stage = .format ∨ e.stage = .source)
    (unseen : e.stage = .admission ∨ e.stage = .format → ∀ host,
      r.removeBackground fresh (s.withHost host) target = (.error e, s.withHost host, target))
    (sent : s'.sent = s.sent) (scene : s'.host.renderer = s.host.renderer)
    (holdings : s.host.storage.SameHoldings s'.host.storage) :
    StoppedAt r fresh s target e s' target where
  unseen := unseen
  unasked := fun _ => sent
  refused := by rcases early with stage | stage | stage <;> simp [stage]
  answered := by rcases early with stage | stage | stage <;> simp [stage]
  kept := fun _ => ⟨scene, holdings, rfl⟩

/-- A removal whose request was refused. -/
private theorem StoppedAt.in_exchange (request : ServiceRequest) (cause : ServiceError)
    (sent : s'.sent = s.sent ++ [request]) (refused : r.service s.sent request = .error cause)
    (scene : s'.host.renderer = s.host.renderer)
    (holdings : s.host.storage.SameHoldings s'.host.storage) :
    StoppedAt r fresh s target (.ofService cause) s' target :=
  have stage := RemovalError.stage_ofService cause
  { unseen := by simp [stage]
    unasked := by simp [stage]
    refused := fun _ => ⟨request, cause, sent, refused, rfl⟩
    answered := by simp [stage]
    kept := fun _ => ⟨scene, holdings, rfl⟩ }

/-- A removal that had its answer. -/
private theorem StoppedAt.after_answer (request : ServiceRequest) (output : ServiceOutput)
    (late : e.stage = .decoding ∨ e.stage = .installation)
    (sent : s'.sent = s.sent ++ [request]) (answer : r.service s.sent request = .ok output)
    (kept : e.stage ≠ .installation → s'.host.renderer = s.host.renderer ∧
      s.host.storage.SameHoldings s'.host.storage ∧ target' = target) :
    StoppedAt r fresh s target e s' target' where
  unseen := by rcases late with stage | stage <;> simp [stage]
  unasked := by rcases late with stage | stage <;> simp [stage]
  refused := by rcases late with stage | stage <;> simp [stage]
  answered := fun _ => ⟨request, output, sent, answer⟩
  kept := kept

/-- **A failure tells the stage.** A removal asks the service at most once and leaves all busy flags as they
were. If it fails, the failure tells how far it came: not to the host, not to the service, to a service
that failed in this way, or to an answer. Only a failed installation may have changed the renderer, what
the storage holds, or the target. -/
theorem failure_tells_the_stage (r : Remover) (fresh : CostumeId) (s s' : RemovalState)
    (target target' : Target) (result : Except RemovalError Installation)
    (ended : r.removeBackground fresh s target = (result, s', target')) :
    (s'.sent = s.sent ∨ ∃ request, s'.sent = s.sent ++ [request]) ∧
    s'.busy = s.busy ∧
    ∀ e, result = .error e → StoppedAt r fresh s target e s' target' := by
  have ending := removeBackground_ending r fresh s target
  rw [ended] at ending
  cases ending with
  | busy refused =>
    refine ⟨.inl rfl, rfl, ?_⟩
    rintro e ⟨⟩
    obtain rfl := BusyFlags.acquire_error refused
    exact .before_asking (.inl rfl) (fun _ _ => removeBackground_busy refused) rfl rfl (.refl _)
  | unresolved acquired refused =>
    have consulted := Resolve.resolve_consults refused
    refine ⟨.inl rfl, BusyFlags.release_of_acquire acquired, ?_⟩
    rintro e ⟨⟩
    rcases Resolve.resolve_error_cases refused with ⟨vector, rfl⟩ | ⟨tried, rfl⟩
    · exact .before_asking (.inr (.inl rfl))
        (fun _ host => removeBackground_vector (s := s.withHost host) acquired vector)
        rfl consulted.renderer_eq consulted.sameHoldings
    · exact .before_asking (.inr (.inr rfl)) nofun rfl consulted.renderer_eq consulted.sameHoldings
  | unanswered acquired resolved refused =>
    have consulted := Resolve.resolve_consults resolved
    refine ⟨.inr ⟨_, rfl⟩, BusyFlags.release_of_acquire acquired, ?_⟩
    rintro e ⟨⟩
    exact .in_exchange _ _ rfl refused consulted.renderer_eq consulted.sameHoldings
  | answered acquired resolved answer installed =>
    have consulted := Resolve.resolve_consults resolved
    refine ⟨.inr ⟨_, rfl⟩, BusyFlags.release_of_acquire acquired, ?_⟩
    rintro e ⟨⟩
    rcases Install.install_error_stage installed with ⟨stage, rfl, rfl⟩ | stage
    · exact .after_answer _ _ (.inl stage) rfl answer
        fun _ => ⟨consulted.renderer_eq, consulted.sameHoldings, rfl⟩
    · exact .after_answer _ _ (.inr stage) rfl answer fun elsewhere => absurd stage elsewhere

open Sample

/-- A service that has no valid key fails in the words of an upload that cannot be framed: one request was
sent and nothing else has changed. With a locked drawable the service has answered. -/
theorem refused_key_tells_the_stage :
    (∃ s', removeBackground ⟨default, fourByFour, fun _ _ => .error (.invalidConfig "key"), ⟨0⟩⟩
        ⟨.ofNat 2⟩ (idle unlocked) sprite = (.error (.encodeFailed "key"), s', sprite) ∧
      (∃ request, s'.sent = [request]) ∧ s'.busy = .empty ∧ s'.host.renderer = unlocked) ∧
    ∃ reason s' target', remover.removeBackground ⟨.ofNat 2⟩ (idle locked) sprite =
        (.error (.installFailed reason), s', target') ∧
      ∃ request output, s'.sent = [request] ∧ remover.service [] request = .ok output := by
  constructor
  · have refused : Install.failure? (removeBackground
        ⟨default, fourByFour, fun _ _ => .error (.invalidConfig "key"), ⟨0⟩⟩ ⟨.ofNat 2⟩
        (idle unlocked) sprite).1 = some (.encodeFailed "key") := by
      decide +kernel
    obtain ⟨s', target', ended⟩ := Install.eq_of_failure? refused
    obtain ⟨_, busy, stopped⟩ := failure_tells_the_stage _ _ _ _ _ _ _ ended
    obtain ⟨request, cause, sent, _⟩ := (stopped _ rfl).refused rfl
    obtain ⟨scene, _, rfl⟩ := (stopped _ rfl).kept nofun
    exact ⟨s', ended, ⟨request, sent⟩, busy, scene⟩
  · have refused : Install.failure? (remover.removeBackground ⟨.ofNat 2⟩ (idle locked) sprite).1 =
        some (.installFailed
          "bind drawable: binding skin#3 to drawable#2 rejected: drawable is locked") := by
      decide +kernel
    obtain ⟨s', target', ended⟩ := Install.eq_of_failure? refused
    obtain ⟨_, _, stopped⟩ := failure_tells_the_stage _ _ _ _ _ _ _ ended
    exact ⟨_, s', target', ended, (stopped _ rfl).answered (.inr rfl)⟩

end Remover

end Silhouette
