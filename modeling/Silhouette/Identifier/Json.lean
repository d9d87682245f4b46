import Silhouette.Identifier
import Silhouette.Json.Decode
import Silhouette.Json.Text

/-!
Identifiers in JSON: the text of a target's or costume's name as a string, the number of a skin or
drawable as a number.
-/
namespace Silhouette

/-- The JSON text of an identifier of 128 bits. -/
def Ulid.json (u : Ulid) : String := Json.quote u.text

/-- Reads an identifier of 128 bits. -/
def Ulid.ofJson? (s : String) : Option Ulid :=
  ((Json.Tree.read? s).bind Json.Tree.text?).bind Ulid.ofText?

/-- The JSON text of a target's name. -/
def TargetId.json (t : TargetId) : String := t.ulid.json

/-- Reads a target's name. -/
def TargetId.ofJson? (s : String) : Option TargetId := (Ulid.ofJson? s).map (⟨·⟩)

/-- The JSON text of a costume's name. -/
def CostumeId.json (c : CostumeId) : String := c.ulid.json

/-- Reads a costume's name. -/
def CostumeId.ofJson? (s : String) : Option CostumeId := (Ulid.ofJson? s).map (⟨·⟩)

/-- The JSON text of a skin's number. -/
def SkinId.json (k : SkinId) : String := toString k.number

/-- Reads a skin's number. -/
def SkinId.ofJson? (s : String) : Option SkinId :=
  ((Json.Tree.read? s).bind Json.Tree.nat?).map (⟨·⟩)

/-- The JSON text of a drawable's number. -/
def DrawableId.json (d : DrawableId) : String := toString d.number

/-- Reads a drawable's number. -/
def DrawableId.ofJson? (s : String) : Option DrawableId :=
  ((Json.Tree.read? s).bind Json.Tree.nat?).map (⟨·⟩)

end Silhouette
