import Silhouette.VariantList

/-!
Targets: what owns costumes and is drawn. A target either keeps a list of variants or, in its
older form, shows a single costume and only has its drawable bound anew.
-/
namespace Silhouette

/-- What a target can do with a new costume. -/
inductive Capability where
  | variantList
  | directBinding
  deriving DecidableEq, Repr

/-- The costumes of a target. -/
inductive Wardrobe where
  | list (variants : VariantList)
  | single (costume : Costume)

/-- An owner of costumes, with the drawable that shows it. -/
structure Target where
  id : TargetId
  name : String
  drawable : DrawableId
  wardrobe : Wardrobe

namespace Target

/-- What the target can do with a new costume. -/
def capability (t : Target) : Capability :=
  match t.wardrobe with
  | .list _ => .variantList
  | .single _ => .directBinding

/-- The costume that the target shows. -/
def current (t : Target) : Costume :=
  match t.wardrobe with
  | .list variants => variants.selected
  | .single costume => costume

/-- The variants of a target that keeps a list. -/
def variants? (t : Target) : Option VariantList :=
  match t.wardrobe with
  | .list variants => some variants
  | .single _ => none

/-- The target with other variants. -/
def withVariants (t : Target) (variants : VariantList) : Target :=
  { t with wardrobe := .list variants }

end Target

end Silhouette
