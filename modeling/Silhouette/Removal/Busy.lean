import Silhouette.Removal.Error

/-!
Busy flags: which targets are being worked on. A target's flag can be taken once, and is free again
when whoever holds it lets it go.
-/
namespace Silhouette

/-- Whether a target is being worked on. -/
inductive BusyState where
  | idle
  | processing
  deriving DecidableEq, Repr

/-- The targets that are being worked on. -/
structure BusyFlags where
  held : List TargetId
  deriving DecidableEq, Repr

namespace BusyFlags

/-- No target is being worked on. -/
def empty : BusyFlags := ⟨[]⟩

instance : Inhabited BusyFlags := ⟨empty⟩

/-- Takes a target's flag, unless it is taken. -/
def acquire (f : BusyFlags) (target : TargetId) : Except RemovalError BusyFlags :=
  if target ∈ f.held then .error (.alreadyProcessing target) else .ok ⟨target :: f.held⟩

/-- Lets a target's flag go. -/
def release (f : BusyFlags) (target : TargetId) : BusyFlags := ⟨f.held.filter (· ≠ target)⟩

/-- Whether a target is being worked on. -/
def state (f : BusyFlags) (target : TargetId) : BusyState :=
  if target ∈ f.held then .processing else .idle

end BusyFlags

end Silhouette
