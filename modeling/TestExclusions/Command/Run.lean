import TestExclusions.Command.Add
import TestExclusions.Command.Audit
import TestExclusions.Command.Query
import TestExclusions.Log

/-! Running commands, and what they log meanwhile. -/
namespace TestExclusions

/-- The paths that an invocation may read or write, its root and what lies below that apart. -/
def Invocation.paths (invocation : Invocation) : List Path :=
  match invocation.command with
  | .audit seen report _ => seen :: report.toList
  | .add suite _ _ => [Command.newFile invocation.root suite]
  | _ => []

/-- What an invocation does to a disk. -/
def Invocation.run (invocation : Invocation) (disk : Disk) : Except CommandError Output × Disk :=
  let root := invocation.root
  let mode := invocation.mode
  match invocation.command with
  | .check denyFailures => (Command.runCheck disk root mode denyFailures, disk)
  | .query suite testId => (Command.runQuery disk root mode suite testId, disk)
  | .list pattern json => (Command.runList disk root mode pattern json, disk)
  | .audit seen report failOnStale =>
    (Command.runAudit root mode seen report failOnStale).run disk
  | .add suite testId reason => (Command.runAdd root mode suite testId reason).run disk

namespace Invocation

/-- How much an event has to matter to be written. -/
def level (invocation : Invocation) : Level :=
  match invocation.verbosity with
  | 0 => .warn
  | 1 => .debug
  | _ => .trace

def shows (invocation : Invocation) (event : Event) : Bool :=
  event.level.rank ≤ invocation.level.rank

/-- What an invocation logs on a disk. -/
def events (invocation : Invocation) (schedule : Schedule) (disk : Disk) : List Event :=
  let load := disk.loadEvents schedule invocation.mode invocation.root
  match invocation.command with
  | .check _ | .query .. => load
  | .list pattern _ =>
    match SuitePattern.ofOption pattern with
    | .error _ => []
    | .ok _ => load
  | .audit seen _ _ =>
    match disk.readText seen with
    | .error _ => []
    | .ok text =>
      match Command.readSeen text with
      | .error _ => []
      | .ok _ => load
  | .add suite testId reason =>
    if (Command.suiteNameFault? suite).isSome then []
    else load ++
      match disk.load invocation.mode invocation.root with
      | .error _ => []
      | .ok loaded =>
        -- the files are looked for once more, unless the test turns out to be excluded
        if (loaded.registry.reason? suite testId).isSome then []
        else disk.walkEvents invocation.root ++
          match Command.plan disk invocation.root invocation.mode suite testId reason,
            (invocation.run disk).1 with
          | .ok (path, _), .ok _ => [.added suite testId path]
          | _, _ => []

/-- What an invocation writes to its standard error: the events that it shows, and behind them what
it notes or why it fails. How an event is written, its time included, is told by `line`, which is
given the number of the event. -/
def standardError (invocation : Invocation) (schedule : Schedule) (line : Nat → Event → String)
    (disk : Disk) : String :=
  String.join (((invocation.events schedule disk).filter invocation.shows).mapIdx line) ++
    match (invocation.run disk).1 with
    | .ok output => output.noted
    | .error e => "error: " ++ e.message ++ "\n"

end Invocation
end TestExclusions
