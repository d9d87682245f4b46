import Silhouette.Removal.Run

/-!
Removals that run side by side. An invocation goes through its phases one step at a time, and between
the steps of one the steps of others may come; waiting for a load or for the service gives them time.
A schedule runs invocations in the order in which their next steps are due.
-/
namespace Silhouette

/-- How far an invocation has come. -/
inductive Phase where
  | ready
  | acquired
  | loading (attempts : List Attempt)
  | resolved (source : ResolvedSource)
  | asked (answer : Except RemovalError ServiceOutput)
  | answered (output : ServiceOutput)
  | decoded (output : ServiceOutput) (bitmap : Bitmap)
  | skinned (output : ServiceOutput) (skin : SkinId)
  | registered (asset : Asset) (skin : SkinId)
  | attached (done : Installation)
  | ending (result : Except RemovalError Installation)
  | ended (result : Except RemovalError Installation)
  | abandoned

namespace Phase

/-- Whether an invocation holds its target's flag. -/
def holdsFlag : Phase → Bool
  | ready | ended _ | abandoned => false
  | _ => true

/-- Whether nothing more happens. -/
def isOver : Phase → Bool
  | ended _ | abandoned => true
  | _ => false

end Phase

/-- A removal under way. -/
structure Invocation where
  target : Target
  fresh : CostumeId
  phase : Phase

namespace Invocation

/-- An invocation that has not begun. -/
def ready (target : Target) (fresh : CostumeId) : Invocation := ⟨target, fresh, .ready⟩

/-- The invocation in another phase. -/
def enter (i : Invocation) (phase : Phase) : Invocation := { i with phase }

/-- The invocation at its end, the flag still held. -/
def fail (i : Invocation) (e : RemovalError) : Invocation := i.enter (.ending (.error e))

/-- Begins to resolve: what needs no waiting is tried, and a load is begun if that gave nothing. -/
def resolveStep (i : Invocation) (s : RemovalState) : RemovalState × Invocation :=
  let costume := i.target.current
  if !costume.format.isRaster then (s, i.fail (.unsupportedFormat costume.format))
  else
    match Resolve.atHand s.host costume with
    | (.ok source, host) => (s.withHost host, i.enter (.resolved source))
    | (.error attempts, host) =>
      if Resolve.canLoad costume then
        (s.withHost host.beginLoad, i.enter (.loading attempts))
      else
        match Resolve.finish costume attempts (.error (.skipped "format unknown")) with
        | .error e => (s.withHost host, i.fail e)
        | .ok source => (s.withHost host, i.enter (.resolved source))

/-- Destroys a skin and fails. -/
def undo (i : Invocation) (s : RemovalState) (skin : SkinId) (e : RemovalError) :
    RemovalState × Invocation :=
  (s.withHost (s.host.withRenderer (s.host.renderer.destroySkin skin)), i.fail e)

/-- One step. -/
def step (r : Remover) (s : RemovalState) (i : Invocation) : RemovalState × Invocation :=
  match i.phase with
  | .ready =>
    match s.busy.acquire i.target.id with
    | .error e => (s, i.enter (.ended (.error e)))
    | .ok busy => ({ s with busy }, i.enter .acquired)
  | .acquired => i.resolveStep s
  | .loading attempts =>
    let costume := i.target.current
    let outcome := Resolve.fromLoader r.settings.loadTimeout s.host costume.asset.storageKey
    match Resolve.finish costume attempts outcome with
    | .error e => (s, i.fail e)
    | .ok source => (s, i.enter (.resolved source))
  | .resolved source =>
    let (answer, s) := r.ask s source
    (s, i.enter (.asked answer))
  | .asked (.error e) => (s, i.fail e)
  | .asked (.ok output) => (s, i.enter (.answered output))
  | .answered output =>
    match Install.decodeOutput r.decode r.settings.decodeTimeout output.bytes with
    | .error e => (s, i.fail e)
    | .ok bitmap => (s, i.enter (.decoded output bitmap))
  | .decoded output bitmap =>
    match Install.makeSkin s.host i.target.current bitmap with
    | .error e => (s, i.fail e)
    | .ok (skin, host) => (s.withHost host, i.enter (.skinned output skin))
  | .skinned output skin =>
    match Install.register s.host output with
    | .error e => i.undo s skin e
    | .ok (asset, host) => (s.withHost host, i.enter (.registered asset skin))
  | .registered asset skin =>
    let costume := i.target.current.derive i.fresh r.settings.nameSuffix asset skin
    match Install.settle s.host i.target costume skin with
    | (.error e, host, target) => (s.withHost host, { i with target }.fail e)
    | (.ok done, host, target) => (s.withHost host, { i with target }.enter (.attached done))
  | .attached done =>
    (s.withHost (s.host.withRenderer s.host.renderer.redraw), i.enter (.ending (.ok done)))
  | .ending result => ({ s with busy := s.busy.release i.target.id }, i.enter (.ended result))
  | .ended _ => (s, i)
  | .abandoned => (s, i)

/-- Stops an invocation wherever it is. Its flag is let go if it holds it. -/
def abandon (s : RemovalState) (i : Invocation) : RemovalState × Invocation :=
  if i.phase.isOver then (s, i)
  else if i.phase.holdsFlag then
    ({ s with busy := s.busy.release i.target.id }, i.enter .abandoned)
  else (s, i.enter .abandoned)

/-- How long an invocation waits before its next step. -/
def wait (r : Remover) (s : RemovalState) (i : Invocation) : Nat :=
  match i.phase with
  | .loading _ => min s.host.loadLatency.ticks r.settings.loadTimeout.ticks
  | .asked _ => r.delay.ticks
  | _ => 0

/-- What an invocation came to, if it ended. -/
def result? (i : Invocation) : Option (Except RemovalError Installation) :=
  match i.phase with
  | .ended result => some result
  | _ => none

end Invocation

/-- An invocation and the tick at which its next step is due. -/
structure Scheduled where
  due : Nat
  invocation : Invocation

namespace Schedule

/-- The place of the invocation whose step comes next: the first of those that are due soonest, and
not later than a limit if there is one. -/
def next? (limit : Option Nat) (all : List Scheduled) : Option Nat :=
  let waiting := all.filter fun x =>
    !x.invocation.phase.isOver && (limit.all fun t => x.due ≤ t)
  match (waiting.map Scheduled.due).min? with
  | none => none
  | some due =>
    all.findIdx? fun x => !x.invocation.phase.isOver && x.due = due

/-- Runs steps while one is due, at most `fuel` of them. -/
def run (r : Remover) (limit : Option Nat) : Nat → RemovalState → List Scheduled →
    RemovalState × List Scheduled
  | 0, s, all => (s, all)
  | fuel + 1, s, all =>
    match next? limit all with
    | none => (s, all)
    | some place =>
      match all[place]? with
      | none => (s, all)
      | some x =>
        let (s, i) := x.invocation.step r s
        run r limit fuel s (all.set place ⟨x.due + i.wait r s, i⟩)

/-- An invocation ends after fewer steps than this. -/
def stepLimit : Nat := 16

/-- Runs everything that is due up to a tick. -/
def runUntil (r : Remover) (tick : Nat) (s : RemovalState) (all : List Scheduled) :
    RemovalState × List Scheduled :=
  run r (some tick) (stepLimit * all.length) s all

/-- Runs everything to its end. -/
def runAll (r : Remover) (s : RemovalState) (all : List Scheduled) :
    RemovalState × List Scheduled :=
  run r none (stepLimit * all.length) s all

end Schedule

end Silhouette
