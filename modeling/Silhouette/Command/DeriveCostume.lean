import Silhouette.Command.RemoveFile
import Silhouette.Removal.Run

/-!
Deriving a costume from an image file. The image becomes the costume of a target made for it in
memory, its background is removed, and the new costume's asset is saved to a folder. No file is
touched unless the removal succeeds.
-/
namespace Silhouette.Command

/-- What is to be derived, and from what. -/
structure CostumeJob where
  source : Path
  name : Option String
  legacy : Bool
  folder : Option Path
  deriving DecidableEq, Repr

/-- The names that are given on the way: to the costume that the image becomes, to its target, and to
the new costume. -/
structure FreshNames where
  first : CostumeId
  target : TargetId
  derived : CostumeId
  deriving DecidableEq, Repr, Inhabited

/-- A derived costume: where its asset was saved, how many variants the target has, and the costume
itself. -/
structure CostumeReport where
  saved : Path
  variants : Nat
  installation : Installation

namespace CostumeJob

/-- The name of the target. -/
def targetName : String := "cutout"

/-- The name of the first costume: the one given, or else the file's without its extension. -/
def costumeName (job : CostumeJob) : String :=
  job.name.getD ((job.source.stem?.map Text.Utf8.decodeLossy).getD "costume1")

/-- The folder for the new asset: the one given, or else that of the file. -/
def assetFolder (job : CostumeJob) : AssetFolder :=
  ⟨job.folder.getD ((job.source.parent?.filter fun p => p.bytes ≠ []).getD (Path.ofText "."))⟩

/-- The costume that the image becomes. -/
def firstCostume (job : CostumeJob) (fresh : FreshNames) (content : ByteArray) : Costume :=
  .create fresh.first job.costumeName
    (.ofBytes ((formatOfPath? job.source).getD .png) content)

/-- The target with that costume, and a renderer that knows its drawable. -/
def stage (job : CostumeJob) (fresh : FreshNames) (costume : Costume) : Target × Renderer :=
  let (drawable, renderer) := Renderer.empty.addDrawable costume.skin
  let wardrobe : Wardrobe := if job.legacy then .single costume else .list (.singleton costume)
  (⟨fresh.target, targetName, drawable, wardrobe⟩, renderer)

/-- Saves the asset of an installed costume. -/
def save (job : CostumeJob) (files : FileTree) (target : Target) (i : Installation) :
    Except Failure CostumeReport × FileTree :=
  match job.assetFolder.save files i.costume.asset with
  | (.error e, files) => (.error (.saving i.costume.name job.assetFolder.root e), files)
  | (.ok saved, files) =>
    (.ok ⟨saved, (target.variants?.map VariantList.size).getD 1, i⟩, files)

/-- Derives a costume. -/
def run (job : CostumeJob) (remover : Remover) (fresh : FreshNames) (files : FileTree) :
    Outcome CostumeReport :=
  match files.read job.source with
  | .error e => .untouched files (.reading job.source e)
  | .ok content =>
    let (target, renderer) := job.stage fresh (job.firstCostume fresh content)
    let state : RemovalState := ⟨.inMemory default renderer, .empty, []⟩
    match remover.removeBackground fresh.derived state target with
    | (.error e, state, _) => ⟨.error (.removal e), files, state.sent⟩
    | (.ok installation, state, target) =>
      let (result, files) := job.save files target installation
      ⟨result, files, state.sent⟩

end CostumeJob

end Silhouette.Command
