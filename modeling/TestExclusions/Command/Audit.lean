import TestExclusions.Command.Basic
import TestExclusions.Disk.Change
import TestExclusions.Interchange
import TestExclusions.Ledger
import TestExclusions.Text.Classes
import TestExclusions.Text.Split

/-! Replaying the tests that a run met. -/
namespace TestExclusions.Command
open Text (isBlank trimBlanks)

/-- A line without the carriage returns at its end. -/
def dropReturns (line : List Char) : List Char :=
  (line.reverse.dropWhile (· = '\r')).reverse

/-- The test that a line names: the suite stands before the first number sign and is trimmed, the
test stands behind it as it is. -/
def testOfLine? (line : List Char) : Option TestName :=
  match Text.splitFirst? '#' line with
  | none => none
  | some (suite, testId) =>
    if (trimBlanks suite).isEmpty || testId.isEmpty then none
    else some ⟨String.ofList (trimBlanks suite), String.ofList testId⟩

/-- Reads lines, the first of which has the given number; fails at the first one that is neither
blank nor names a test. -/
def readSeenLines (number : Nat) :
    List (List Char) → Except (Nat × List Char) (List TestName)
  | [] => .ok []
  | line :: rest =>
    let line := dropReturns line
    if line.all isBlank then readSeenLines (number + 1) rest
    else
      match testOfLine? line with
      | none => .error (number, line)
      | some test => (readSeenLines (number + 1) rest).map (test :: ·)

/-- The tests that a text lists, one on each line. -/
def readSeen (text : String) : Except (Nat × List Char) (List TestName) :=
  readSeenLines 1 (Text.lines text.toList)

/-- The ledger of a run that met the given tests. -/
def replay (registry : Registry) (tests : List TestName) : Ledger :=
  tests.foldl (fun ledger test => (ledger.decide test).2) (Ledger.ofRegistry registry)

/-- What is noted about a report: its counts, and each stale exclusion. -/
def notes (report : SkipReport) : String :=
  let summary := report.summary
  toString summary.considered ++ " considered, " ++ toString summary.skipped ++ " skipped, " ++
    toString summary.ran ++ " ran; " ++ toString summary.stale ++ " of " ++
    toString summary.configured ++ " exclusions stale\n" ++
    String.join (report.stale.map fun stale =>
      "stale: " ++ stale.suite ++ "#" ++ stale.testId ++ " (" ++ stale.declaredAt ++ ")\n")

/-- Writes a report to a file, whose directory is made if it is missing. -/
def writeReport (path : Path) (report : SkipReport) : Action Unit := do
  if let some parent := path.parent? then
    let (disk, made) := (← get).makeDirectories parent
    set disk
    Action.require made (.notCreated parent)
  let disk ← Action.require ((← get).write path (report.prettyText ++ "\n").toUTF8)
    (.notCreated path)
  set disk

/-- Replays the tests that a file lists, and reports. -/
def runAudit (root : Path) (mode : LoadMode) (seen : Path) (target : Option Path)
    (failOnStale : Bool) : Action Output := do
  let disk ← get
  let text ← Action.require (disk.readText seen) (.unreadable seen)
  let tests ← Action.require (readSeen text) fun (line, found) =>
    .malformedSeen seen line (String.ofList found)
  let loaded ← Action.require (disk.loadFor mode root) id
  let report := (replay loaded.registry tests).report
  if let some path := target then writeReport path report
  return {
    success := !(failOnStale && report.summary.stale > 0)
    printed := if target.isNone then report.prettyText ++ "\n" else ""
    noted := notes report }

end TestExclusions.Command
