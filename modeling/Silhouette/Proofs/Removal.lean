import Silhouette.Removal.Run
import Silhouette.Proofs.Installation

/-! The ways in which a removal can end, listed once as `Ending`, and what resolving leaves of a host:
everything but two counters of its storage. -/
namespace Silhouette

/-- A host of which only the two counters that resolving moves may differ. -/
def Host.Consulted (before after : Host) : Prop :=
  ∃ lookups loads, after = { before with storage := { before.storage with lookups, loads } }

theorem Host.Consulted.renderer_eq {before after : Host} (consulted : before.Consulted after) :
    after.renderer = before.renderer := by
  obtain ⟨lookups, loads, rfl⟩ := consulted
  rfl

theorem BusyFlags.acquire_error {f : BusyFlags} (refused : f.acquire t = .error e) :
    e = .alreadyProcessing t := by
  unfold acquire at refused
  split at refused <;> cases refused
  rfl

namespace Resolve

theorem atHand_consults (h : Host) (costume : Costume) :
    h.Consulted (atHand h costume).2 := by
  unfold atHand
  cases fromAsset costume.asset with
  | ok bytes => exact ⟨_, _, rfl⟩
  | error first =>
    dsimp only [Host.lookup]
    cases fromCache (h.storage.lookup costume.asset.id).1 <;> exact ⟨_, _, rfl⟩

theorem beginLoad_consults {before h : Host} (consulted : before.Consulted h) :
    before.Consulted h.beginLoad := by
  obtain ⟨lookups, loads, rfl⟩ := consulted
  unfold Host.beginLoad
  split <;> exact ⟨_, _, rfl⟩

theorem finish_error (failed : finish costume attempts outcome = .error e) :
    ∃ tried, e = .resolutionFailed tried := by
  unfold finish at failed
  split at failed <;> cases failed
  exact ⟨_, rfl⟩

/-- Resolving consults the host and changes nothing of it. -/
theorem resolve_consults
    (resolved : resolve timeout h costume = (result, after)) : h.Consulted after := by
  have consulted := atHand_consults h costume
  unfold resolve at resolved
  split at resolved
  · cases resolved
    exact ⟨_, _, rfl⟩
  · split at resolved
    · rename_i found
      cases resolved
      rwa [found] at consulted
    · rename_i missed
      rw [missed] at consulted
      split at resolved
      · cases resolved
        exact beginLoad_consults consulted
      · cases resolved
        exact consulted

end Resolve

namespace Remover

/-- How a removal can end: refused because its target is busy, without data, without an answer, or
with what installing the answer gave. Only the first leaves the busy flags untouched on the way. -/
inductive Ending (r : Remover) (fresh : CostumeId) (s : RemovalState) (target : Target) :
    Except RemovalError Installation × RemovalState × Target → Prop where
  | busy (refused : s.busy.acquire target.id = .error e) :
      Ending r fresh s target (.error e, s, target)
  | unresolved (acquired : s.busy.acquire target.id = .ok flags)
      (refused : Resolve.resolve r.settings.loadTimeout s.host target.current = (.error e, host)) :
      Ending r fresh s target (.error e, ⟨host, flags.release target.id, s.sent⟩, target)
  | unanswered (acquired : s.busy.acquire target.id = .ok flags)
      (resolved : Resolve.resolve r.settings.loadTimeout s.host target.current =
        (.ok source, host))
      (refused : r.service s.sent (requestFor source) = .error e) :
      Ending r fresh s target
        (.error (.ofService e),
          ⟨host, flags.release target.id, s.sent ++ [requestFor source]⟩, target)
  | answered (acquired : s.busy.acquire target.id = .ok flags)
      (resolved : Resolve.resolve r.settings.loadTimeout s.host target.current =
        (.ok source, host))
      (answer : r.service s.sent (requestFor source) = .ok output)
      (installed : Install.install r.settings r.decode host target target.current output fresh =
        (result, host', target')) :
      Ending r fresh s target
        (result, ⟨host', flags.release target.id, s.sent ++ [requestFor source]⟩, target')

/-- Every removal ends in one of these ways. -/
theorem removeBackground_ending (r : Remover) (fresh : CostumeId) (s : RemovalState)
    (target : Target) : Ending r fresh s target (r.removeBackground fresh s target) := by
  unfold removeBackground
  cases acquired : s.busy.acquire target.id with
  | error e => exact .busy acquired
  | ok flags =>
    dsimp only [run]
    cases resolved : Resolve.resolve r.settings.loadTimeout s.host target.current with
    | mk outcome host =>
      cases outcome with
      | error e => exact .unresolved acquired resolved
      | ok source =>
        dsimp only [ask, RemovalState.withHost]
        cases answer : r.service s.sent (requestFor source) with
        | error e => exact .unanswered acquired resolved answer
        | ok output =>
          dsimp only [installAnswer, RemovalState.withHost]
          cases installed :
              Install.install r.settings r.decode host target target.current output fresh with
          | mk result rest => exact .answered acquired resolved answer installed

variable {r : Remover} {fresh : CostumeId} {s s' : RemovalState} {target target' : Target}

/-- A failed removal leaves the target alone, and of the renderer it has at most taken a number. -/
theorem failed_removal (issued : s.host.renderer.Issued)
    (failed : r.removeBackground fresh s target = (.error e, s', target')) :
    target' = target ∧ s.host.renderer.OnlyIssued s'.host.renderer := by
  have ended := removeBackground_ending r fresh s target
  rw [failed] at ended
  cases ended with
  | busy refused => exact ⟨rfl, .refl _⟩
  | unresolved acquired refused =>
    rw [(Resolve.resolve_consults refused).renderer_eq]
    exact ⟨rfl, .refl _⟩
  | unanswered acquired resolved refused =>
    rw [(Resolve.resolve_consults resolved).renderer_eq]
    exact ⟨rfl, .refl _⟩
  | answered acquired resolved answer installed =>
    rw [← (Resolve.resolve_consults resolved).renderer_eq] at issued ⊢
    exact Install.failed_renderer issued installed

/-- A removal that came to its end has installed an answer, as a variant of the target's current
costume. -/
theorem finished_removal
    (done : r.removeBackground fresh s target = (.ok made, s', target')) :
    ∃ host output, s.host.Consulted host ∧
      Install.install r.settings r.decode host target target.current output fresh =
        (.ok made, s'.host, target') := by
  have ended := removeBackground_ending r fresh s target
  rw [done] at ended
  cases ended with
  | answered acquired resolved answer installed =>
    exact ⟨_, _, Resolve.resolve_consults resolved, installed⟩

end Remover

namespace Sample

/-- A remover whose service answers everything with the same result. -/
def remover : Remover := ⟨default, fourByFour, fun _ _ => .ok cutout, ⟨0⟩⟩

/-- A host in memory before any removal. -/
def idle (renderer : Renderer) : RemovalState := ⟨.inMemory default renderer, .empty, []⟩

end Sample

end Silhouette
