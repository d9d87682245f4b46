import Silhouette.Table
import Silhouette.Host.Error

/-!
The renderer: which skins live, which skin every drawable shows, and how often a redraw was asked
for. Skins and drawables take their numbers from one counter, so a number is never used twice, and a
refused operation leaves the renderer as it was.
-/
namespace Silhouette

/-- The size of a decoded picture. -/
structure Bitmap where
  width : Nat
  height : Nat
  deriving DecidableEq, Repr

/-- What a renderer remembers of a skin. -/
structure SkinInfo where
  width : Nat
  height : Nat
  resolution : Nat
  deriving DecidableEq, Repr

/-- A renderer's skins and drawables. -/
structure Renderer where
  skins : Table SkinId SkinInfo
  drawables : Table DrawableId (Option SkinId)
  issued : Nat
  redraws : Nat
  rejectsSkins : Bool
  rejectsBindings : Bool

namespace Renderer

/-- A renderer without skins and drawables. -/
def empty : Renderer := ⟨Table.empty, Table.empty, 0, 0, false, false⟩

instance : Inhabited Renderer := ⟨empty⟩

/-- The renderer that from now on refuses to create skins. -/
def refusingSkins (r : Renderer) : Renderer := { r with rejectsSkins := true }

/-- The renderer that from now on refuses to bind skins. -/
def refusingBindings (r : Renderer) : Renderer := { r with rejectsBindings := true }

/-- Adds a drawable that shows a skin, which need not be one that lives. -/
def addDrawable (r : Renderer) (skin : Option SkinId) : DrawableId × Renderer :=
  let id : DrawableId := ⟨r.issued + 1⟩
  (id, { r with issued := r.issued + 1, drawables := r.drawables.put id skin })

/-- The skin that a drawable shows. -/
def shown (r : Renderer) (drawable : DrawableId) : Option SkinId :=
  (r.drawables.get? drawable).join

/-- What is known of a skin that lives. -/
def skin? (r : Renderer) (skin : SkinId) : Option SkinInfo := r.skins.get? skin

/-- The number of skins that live. -/
def skinCount (r : Renderer) : Nat := r.skins.size

/-- Makes a skin of a picture, whose resolution is at least one. -/
def createSkin (r : Renderer) (bitmap : Bitmap) (resolution : Nat) :
    Except HostError (SkinId × Renderer) :=
  if r.rejectsSkins then .error (.skinCreation "renderer refused skin")
  else if bitmap.width = 0 ∨ bitmap.height = 0 then .error (.skinCreation "bitmap has no pixels")
  else
    let id : SkinId := ⟨r.issued + 1⟩
    let info : SkinInfo := ⟨bitmap.width, bitmap.height, max resolution 1⟩
    .ok (id, { r with issued := r.issued + 1, skins := r.skins.put id info })

/-- Makes a drawable show a skin. An unknown skin is reported before an unknown drawable, and both
before a refusal. -/
def bind (r : Renderer) (drawable : DrawableId) (skin : SkinId) : Except HostError Renderer :=
  if !r.skins.contains skin then .error (.unknownSkin skin)
  else if !r.drawables.contains drawable then .error (.unknownDrawable drawable)
  else if r.rejectsBindings then .error (.bindingRejected drawable skin "drawable is locked")
  else .ok { r with drawables := r.drawables.put drawable (some skin) }

/-- Ends a skin. Drawables that show it go on naming it. -/
def destroySkin (r : Renderer) (skin : SkinId) : Renderer := { r with skins := r.skins.erase skin }

/-- Asks for a redraw. -/
def redraw (r : Renderer) : Renderer := { r with redraws := r.redraws + 1 }

end Renderer

end Silhouette
