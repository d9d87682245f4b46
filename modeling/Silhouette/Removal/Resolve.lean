import Silhouette.Bytes.Equality
import Silhouette.Costume
import Silhouette.Host.Basic
import Silhouette.Removal.Deadline
import Silhouette.Removal.Error
import Silhouette.Removal.Settings

/-!
Coming by the data of a costume. Three strategies are tried in a fixed order: the data that the
costume's asset brings along, the asset of that id in the cache, and loading under a deadline. The
first that gives data wins, and none of them changes what the host holds.
-/
namespace Silhouette

/-- The data of a costume, ready to be sent. -/
structure ResolvedSource where
  bytes : ByteArray
  format : Format
  strategy : Strategy
  filename : String
  deriving DecidableEq

namespace Resolve

/-- The name under which data of a format is sent. -/
def uploadName (format : Format) : String :=
  if format.extension = "" then "costume.png" else "costume." ++ format.extension

/-- The data that an asset brings along. -/
def fromAsset (asset : Asset) : Except AttemptOutcome ByteArray :=
  match asset.bytes with
  | .error e => .error (.failed e.message)
  | .ok none => .error .missing
  | .ok (some bytes) => .ok bytes

/-- The data of what the cache holds. -/
def fromCache (found : Option Asset) : Except AttemptOutcome ByteArray :=
  match found with
  | none => .error .missing
  | some asset => fromAsset asset

/-- A costume whose format has no extension has no storage key to load. -/
def canLoad (costume : Costume) : Bool := costume.format.extension ≠ ""

/-- The outcome of a load that has been begun, at its end or at the deadline. -/
def fromLoader (timeout : Duration) (h : Host) (key : StorageKey) :
    Except AttemptOutcome ByteArray :=
  if !meetsDeadline h.loadLatency timeout then .error (.timedOut timeout)
  else
    match h.loaded key with
    | .error e => .error (.failed e.message)
    | .ok buffer =>
      match buffer.normalize with
      | .error e => .error (.failed e.message)
      | .ok bytes => .ok bytes

/-- The data of a costume as a source. -/
def source (costume : Costume) (strategy : Strategy) (bytes : ByteArray) : ResolvedSource :=
  ⟨bytes, costume.format, strategy, uploadName costume.format⟩

/-- The strategies that need no waiting. They give the data, or the attempts made. -/
def atHand (h : Host) (costume : Costume) :
    Except (List Attempt) ResolvedSource × Host :=
  match fromAsset costume.asset with
  | .ok bytes => (.ok (source costume .resident bytes), h)
  | .error first =>
    let (found, h) := h.lookup costume.asset.id
    match fromCache found with
    | .ok bytes => (.ok (source costume .cache bytes), h)
    | .error second => (.error [⟨.resident, first⟩, ⟨.cache, second⟩], h)

/-- The end of the strategy that may have to wait, after the attempts already made. -/
def finish (costume : Costume) (attempts : List Attempt)
    (outcome : Except AttemptOutcome ByteArray) : Except RemovalError ResolvedSource :=
  match outcome with
  | .ok bytes => .ok (source costume .loader bytes)
  | .error o => .error (.resolutionFailed (attempts ++ [⟨.loader, o⟩]))

/-- Comes by the data of a costume. A vector costume is refused before anything is tried. -/
def resolve (timeout : Duration) (h : Host) (costume : Costume) :
    Except RemovalError ResolvedSource × Host :=
  if !costume.format.isRaster then (.error (.unsupportedFormat costume.format), h)
  else
    match atHand h costume with
    | (.ok found, h) => (.ok found, h)
    | (.error attempts, h) =>
      if canLoad costume then
        let h := h.beginLoad
        (finish costume attempts (fromLoader timeout h costume.asset.storageKey), h)
      else (finish costume attempts (.error (.skipped "format unknown")), h)

end Resolve

end Silhouette
