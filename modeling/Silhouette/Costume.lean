import Silhouette.Identifier
import Silhouette.Asset.Basic

/-!
Costumes: an asset with a name and the numbers that place it on the stage. A costume derived from
another keeps its resolution and its rotation center and takes everything else anew.
-/
namespace Silhouette

/-- The point about which a costume turns. -/
structure RotationCenter where
  x : Float
  y : Float
  deriving Repr

/-- Two centers agree if their coordinates do as numbers; the two zeros are one number. -/
instance : BEq RotationCenter := ⟨fun a b => a.x == b.x && a.y == b.y⟩

/-- One look of a target. -/
structure Costume where
  id : CostumeId
  name : String
  asset : Asset
  resolution : Nat
  center : Option RotationCenter
  skin : Option SkinId

namespace Costume

/-- A costume with resolution one and neither center nor skin. -/
def create (id : CostumeId) (name : String) (asset : Asset) : Costume :=
  ⟨id, name, asset, 1, none, none⟩

/-- Sets the resolution, which is at least one. -/
def withResolution (c : Costume) (resolution : Nat) : Costume :=
  { c with resolution := max resolution 1 }

/-- Sets the rotation center. -/
def withCenter (c : Costume) (center : RotationCenter) : Costume := { c with center := some center }

/-- Sets the skin. -/
def withSkin (c : Costume) (skin : SkinId) : Costume := { c with skin := some skin }

/-- A variant of a costume with an asset and a skin of its own. -/
def derive (c : Costume) (id : CostumeId) (suffix : String) (asset : Asset) (skin : SkinId) :
    Costume :=
  ⟨id, c.name ++ suffix, asset, c.resolution, c.center, some skin⟩

/-- The format of a costume's asset. -/
def format (c : Costume) : Format := c.asset.format

/-- Costumes are compared field by field. -/
instance : BEq Costume :=
  ⟨fun a b => a.id = b.id && a.name = b.name && a.asset = b.asset && a.resolution = b.resolution &&
    a.center == b.center && a.skin = b.skin⟩

end Costume

end Silhouette
