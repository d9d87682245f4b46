import Silhouette.Text.Blank

/-!
Names for saved copies. A name is made from the name of the uploaded file: its ending is dropped, and
each run of characters other than ASCII letters, digits and underscores becomes one underscore. What
comes out is never empty and never leads to another directory.
-/
namespace Silhouette.Relay

/-- A character that is kept: an ASCII letter, a digit or the underscore. -/
def isSafeChar (c : Char) : Bool := c.isAlphanum || c = '_'

/-- A name without its last point and what follows it; a point at the very end stays. -/
def dropEnding (name : List Char) : List Char :=
  match name.reverse.span (· ≠ '.') with
  | ([], _) => name
  | (_, []) => name
  | (_, _ :: front) => front.reverse

/-- Each longest run of characters that are not kept becomes one underscore. In a run its underscore
is already there. -/
def underscored : Bool → List Char → List Char
  | _, [] => []
  | inRun, c :: rest =>
    if isSafeChar c then c :: underscored false rest
    else if inRun then underscored true rest
    else '_' :: underscored true rest

/-- The name that stands for nothing. -/
def emptyName : String := "image"

/-- The safe name for the name of a file. -/
def safeBase (filename : String) : String :=
  match underscored false (dropEnding filename.toList) with
  | [] => emptyName
  | cs => String.ofList cs

/-- The name of the copy of what came for a file, saved at a time in milliseconds. -/
def savedName (now : Nat) (filename : String) : String :=
  toString now ++ "_" ++ safeBase filename ++ ".png"

end Silhouette.Relay
