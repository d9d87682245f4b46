import Silhouette.Duration

/-!
Deadlines. An operation is raced against a timer, and what finishes later is dropped; if both are
ready at the same tick the operation wins.
-/
namespace Silhouette

/-- A deadline that passed. -/
structure DeadlineExceeded where
  label : String
  after : Duration
  deriving DecidableEq, Repr

/-- The text of a deadline that passed. -/
def DeadlineExceeded.message (d : DeadlineExceeded) : String :=
  d.label ++ " did not finish within " ++ d.after.text

/-- Whether an operation that takes some time meets a deadline. -/
def meetsDeadline (takes after : Duration) : Bool := takes.ticks ≤ after.ticks

/-- The result of an operation under a deadline. -/
def withDeadline (label : String) (after takes : Duration) (result : α) :
    Except DeadlineExceeded α :=
  if meetsDeadline takes after then .ok result else .error ⟨label, after⟩

end Silhouette
