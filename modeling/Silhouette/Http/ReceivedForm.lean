import Silhouette.Bytes.Equality
import Silhouette.Bytes.Find
import Silhouette.Http.PartHeader

/-!
Forms with files as they are received: the parts between boundary lines, in their order. Reading goes
from part to part, so a form that breaks off still has the parts in front of the break.
-/
namespace Silhouette.Http

/-- One part of a form that was received. -/
structure ReceivedPart where
  name : Option String
  filename : Option String
  contentType : Option String
  content : ByteArray
  deriving DecidableEq

/-- What a part is called: its name, or else its file name. -/
def ReceivedPart.label (p : ReceivedPart) : Option String := p.name.or p.filename

/-- Why a form breaks off. -/
inductive FormError where
  | incomplete
  | unreadableHeader
  | unnamedPart
  deriving DecidableEq, Repr

/-- The text of a break. -/
def FormError.message : FormError → String
  | incomplete => "the form is incomplete"
  | unreadableHeader => "the header of a part cannot be read"
  | unnamedPart => "a part has no name"

/-- A form as far as it can be read: its parts, and where they break off if they do. -/
structure ReceivedForm where
  parts : List ReceivedPart
  broken : Option FormError
  deriving DecidableEq

namespace ReceivedForm

/-- A form that has no part in front of its break. -/
def brokenOff (e : FormError) : ReceivedForm := ⟨[], some e⟩

/-- A form with one more part in front. -/
def cons (part : ReceivedPart) (form : ReceivedForm) : ReceivedForm :=
  { form with parts := part :: form.parts }

/-- The end of a line. -/
def lineEnd : List UInt8 := [13, 10]

/-- The empty line after a header, with the end of the line before. -/
def headerEnd : List UInt8 := [13, 10, 13, 10]

/-- What stands in front of a boundary, and after the last one. -/
def dashes : List UInt8 := [45, 45]

/-- The first place from `i` on that holds no blank. -/
def skipPadding (data : ByteArray) (i : Nat) : Nat :=
  if _ : i < data.size then
    if PartHeader.isPadding data[i] then skipPadding data (i + 1) else i
  else i
  termination_by data.size - i

/-- The part with a header and a content, if it has a name of some kind. -/
def part? (lines : List HeaderLine) (content : ByteArray) : Option ReceivedPart :=
  let disposition := PartHeader.last? "content-disposition" lines
  let part : ReceivedPart :=
    ⟨disposition.bind (PartHeader.parameter? "name"),
     disposition.bind (PartHeader.parameter? "filename"),
     (PartHeader.contentType? lines).map fun m => String.ofList m.text, content⟩
  if part.label.isSome then some part else none

/-- Reads on after a boundary at place `i`. Every part takes bytes, so there are fewer than `fuel`. -/
def readFrom (boundary : List UInt8) (data : ByteArray) : Nat → Nat → ReceivedForm
  | 0, _ => .brokenOff .incomplete
  | fuel + 1, i =>
    if Bytes.occursAt data i dashes then ⟨[], none⟩
    else
      let start := skipPadding data i
      if !Bytes.occursAt data start lineEnd then .brokenOff .incomplete
      else
        match Bytes.find? data headerEnd (start + 2) with
        | none => .brokenOff .incomplete
        | some stop =>
          let header := Bytes.between data (start + 2) (stop + 4)
          match PartHeader.read? header.data.toList with
          | none => .brokenOff .unreadableHeader
          | some lines =>
            let mark := lineEnd ++ dashes ++ boundary
            match Bytes.find? data mark (stop + 4) with
            | none =>
              match part? lines .empty with
              | none => .brokenOff .unnamedPart
              | some _ => .brokenOff .incomplete
            | some next =>
              match part? lines (Bytes.between data (stop + 4) next) with
              | none => .brokenOff .unnamedPart
              | some part => .cons part (readFrom boundary data fuel (next + mark.length))

/-- Reads a form. What stands in front of the first boundary is passed over. -/
def read (boundary : String) (data : ByteArray) : ReceivedForm :=
  let boundary := Text.Utf8.encode boundary
  match Bytes.find? data (dashes ++ boundary) 0 with
  | none => .brokenOff .incomplete
  | some i => readFrom boundary data data.size (i + 2 + boundary.length)

/-- The parts that are called something. -/
def named (form : ReceivedForm) (label : String) : List ReceivedPart :=
  form.parts.filter fun p => p.label = some label

end ReceivedForm

end Silhouette.Http
