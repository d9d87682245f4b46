import Silhouette.Command.Failure

/-!
Taking the background out of an image file. The file is read, the service asked once, and its answer
written to a file of its own; nothing is written before the answer is there.
-/
namespace Silhouette.Command

/-- The part of a file name that a result gets behind the name of its source. -/
def resultMark : String := "-cutout."

/-- The path of a result: next to its source, named after it and after the format. -/
def resultPath (source : Path) (format : Format) : Path :=
  let stem := (source.stem?.map Text.Utf8.decodeLossy).getD "image"
  let ending := match format with
    | .jpeg => "jpg"
    | _ => "png"
  source.withFileName (Text.Utf8.encode (stem ++ resultMark ++ ending))

/-- The format that a file's extension names. -/
def formatOfPath? (path : Path) : Option Format :=
  path.extension?.map fun ending => Format.parse (Text.Utf8.decodeLossy ending)

/-- The request for the content of a file. -/
def fileRequest (source : Path) (content : ByteArray) : ServiceRequest :=
  ⟨content, (source.fileName?.map Text.Utf8.decodeLossy).getD "input.png", formatOfPath? source,
   none⟩

/-- Takes the background out of an image file; gives the path of the result. -/
def removeFile (service : Service) (files : FileTree) (source : Path)
    (destination : Option Path) : Outcome Path :=
  match files.read source with
  | .error e => .untouched files (.reading source e)
  | .ok content =>
    let request := fileRequest source content
    match service [] request with
    | .error e => ⟨.error (.service source e), files, [request]⟩
    | .ok output =>
      let path := destination.getD (resultPath source output.format)
      match files.write path output.bytes with
      | .error e => ⟨.error (.writing path e), files, [request]⟩
      | .ok files => ⟨.ok path, files, [request]⟩

end Silhouette.Command
