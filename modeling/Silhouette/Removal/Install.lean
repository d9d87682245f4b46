import Silhouette.Target
import Silhouette.Host.Basic
import Silhouette.Service.Upload
import Silhouette.Removal.Deadline
import Silhouette.Removal.Error
import Silhouette.Removal.Settings

/-!
Installing a result: it is decoded, gets a skin and an asset of its own, and becomes a new variant of
the target, which it then shows. Every step that can fail comes before the target changes, and a
skin that was made on the way is destroyed if a later step fails.
-/
namespace Silhouette

/-- What becomes of decoding some bytes: a picture, a failure, or nothing at all. -/
inductive Decoding where
  | bitmap (bitmap : Bitmap)
  | failure (reason : String)
  | never
  deriving DecidableEq, Repr

/-- How a result was installed. -/
inductive InstallMode where
  | appended (index : Nat)
  | rebound
  deriving DecidableEq, Repr

/-- An installed result. -/
structure Installation where
  costume : Costume
  skin : SkinId
  mode : InstallMode

/-- The name of the new costume. -/
def Installation.costumeId (i : Installation) : CostumeId := i.costume.id

/-- The asset of the new costume. -/
def Installation.assetId (i : Installation) : AssetId := i.costume.asset.id

namespace Install

/-- The picture that some bytes decode to within the deadline; it must have pixels. -/
def decodeOutput (decode : ByteArray → Decoding) (timeout : Duration) (bytes : ByteArray) :
    Except RemovalError Bitmap :=
  match decode bytes with
  | .never => .error (.decodeFailed (DeadlineExceeded.message ⟨"decode", timeout⟩))
  | .failure reason => .error (.decodeFailed reason)
  | .bitmap bitmap =>
    if bitmap.width = 0 ∨ bitmap.height = 0 then .error (.decodeFailed "image has no pixels")
    else .ok bitmap

/-- Gives a picture a skin, in the resolution of the costume that it comes from. -/
def makeSkin (h : Host) (source : Costume) (bitmap : Bitmap) :
    Except RemovalError (SkinId × Host) :=
  match h.renderer.createSkin bitmap source.resolution with
  | .error e => .error (.installFailed ("create skin: " ++ e.message))
  | .ok (skin, renderer) => .ok (skin, h.withRenderer renderer)

/-- The format under which a result is kept. -/
def keptFormat : Format → Format
  | .jpeg => .jpeg
  | _ => .png

/-- Has a result taken in as an asset. -/
def register (h : Host) (output : ServiceOutput) : Except RemovalError (Asset × Host) :=
  match h.createAsset (keptFormat output.format) output.bytes with
  | .error e => .error (.installFailed ("register asset: " ++ e.message))
  | .ok (asset, h) => .ok (asset, h)

/-- Makes the target's drawable show a skin. -/
def bindSkin (r : Renderer) (target : Target) (skin : SkinId) : Except RemovalError Renderer :=
  match r.bind target.drawable skin with
  | .error e => .error (.installFailed ("bind drawable: " ++ e.message))
  | .ok r => .ok r

/-- Appends a costume to a list and selects it. -/
def appendSelected (list : VariantList) (costume : Costume) :
    Except VariantError (Nat × VariantList) :=
  match list.push costume with
  | .error e => .error e
  | .ok list =>
    match list.select (list.size - 1) with
    | .error e => .error e
    | .ok list => .ok (list.current, list)

/-- Gives a new costume to the target. The list of variants is asked first whether it takes the
costume, then the drawable is bound, and only then does the list change. -/
def attach (r : Renderer) (target : Target) (costume : Costume) (skin : SkinId) :
    Except RemovalError InstallMode × Renderer × Target :=
  match target.wardrobe with
  | .single _ =>
    match bindSkin r target skin with
    | .error e => (.error e, r, target)
    | .ok r => (.ok .rebound, r, target)
  | .list list =>
    match list.checkAppend costume with
    | .error e => (.error (.installFailed e.message), r, target)
    | .ok () =>
      match bindSkin r target skin with
      | .error e => (.error e, r, target)
      | .ok r =>
        match appendSelected list costume with
        | .error e => (.error (.installFailed e.message), r, target)
        | .ok (index, list) => (.ok (.appended index), r, target.withVariants list)

/-- Attaches a new costume, and destroys its skin if that fails. -/
def settle (h : Host) (target : Target) (costume : Costume) (skin : SkinId) :
    Except RemovalError Installation × Host × Target :=
  match attach h.renderer target costume skin with
  | (.error e, r, target) => (.error e, h.withRenderer (r.destroySkin skin), target)
  | (.ok mode, r, target) => (.ok ⟨costume, skin, mode⟩, h.withRenderer r, target)

/-- Installs a result of a source costume as a new costume with a given name. -/
def install (settings : RemovalSettings) (decode : ByteArray → Decoding) (h : Host)
    (target : Target) (source : Costume) (output : ServiceOutput) (fresh : CostumeId) :
    Except RemovalError Installation × Host × Target :=
  match decodeOutput decode settings.decodeTimeout output.bytes with
  | .error e => (.error e, h, target)
  | .ok bitmap =>
    match makeSkin h source bitmap with
    | .error e => (.error e, h, target)
    | .ok (skin, h) =>
      match register h output with
      | .error e => (.error e, h.withRenderer (h.renderer.destroySkin skin), target)
      | .ok (asset, h) =>
        match settle h target (source.derive fresh settings.nameSuffix asset skin) skin with
        | (.error e, h, target) => (.error e, h, target)
        | (.ok done, h, target) => (.ok done, h.withRenderer h.renderer.redraw, target)

end Install

end Silhouette
