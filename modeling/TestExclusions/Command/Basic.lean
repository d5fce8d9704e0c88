import TestExclusions.Load
import TestExclusions.Pattern.Regex.Fault

/-! The commands and what can come of them. -/
namespace TestExclusions

inductive Command where
  /-- Load everything and count. -/
  | check (denyFailures : Bool)
  /-- Say why a test is excluded. -/
  | query (suite testId : String)
  /-- List the suites whose names match a pattern. -/
  | list (pattern : Option String) (json : Bool)
  /-- Replay the tests that a run met. -/
  | audit (seen : Path) (report : Option Path) (failOnStale : Bool)
  /-- Add an exclusion to the file of its suite. -/
  | add (suite testId reason : String)
  deriving DecidableEq, Repr

/-- A command and where its exclusions come from. -/
structure Invocation where
  root : Path
  mode : LoadMode
  verbosity : Nat
  command : Command
  deriving DecidableEq, Repr

/-- What is wrong with a suite name. -/
inductive SuiteNameFault where
  | empty
  | separator (segment : String)
  | hidden (segment : String)
  deriving DecidableEq, Repr

inductive CommandError where
  | loadFailed (root : Path) (error : LoadError)
  | invalidPattern (pattern : String) (fault : Pattern.Regex.Fault)
  | invalidSuiteName (suite : String) (fault : SuiteNameFault)
  | alreadyExcluded (suite testId reason : String)
  | definedByManifest (suite : String) (path : Path)
  | misplaced (path : Path) (suite : String)
  | malformedUnit (error : LoadError)
  | alreadyIn (suite testId : String) (path : Path)
  | unreadable (path : Path) (cause : FileError)
  /-- A line of a list of tests that names no test. -/
  | malformedSeen (path : Path) (line : Nat) (text : String)
  | notCreated (path : Path) (cause : FileError)
  | notWritten (path : Path) (cause : FileError)

namespace SuiteNameFault

def message : SuiteNameFault → String
  | empty => "empty segment"
  | separator segment => "`" ++ segment ++ "` contains a path separator"
  | hidden segment => "`" ++ segment ++ "` starts with `.`"

end SuiteNameFault

namespace CommandError

/-- The causes of a load error that comes from the disk, each behind a colon. -/
def causesOf : LoadError → String
  | .unreadable _ fault => String.join (fault.chain.map (": " ++ ·))
  | _ => ""

/-- An error with its causes, each behind a colon. -/
def message : CommandError → String
  | loadFailed root error =>
    "load exclusions from " ++ root.text ++ ": " ++ error.message ++ causesOf error
  | invalidPattern pattern fault =>
    "invalid suite filter '" ++ pattern ++ "': " ++ fault.message pattern
  | invalidSuiteName suite fault => "invalid suite name `" ++ suite ++ "`: " ++ fault.message
  | alreadyExcluded suite testId reason =>
    suite ++ "#" ++ testId ++ " is already excluded (" ++ reason ++ ")"
  | definedByManifest suite path =>
    "suite " ++ suite ++ " is defined by " ++ path.text ++ "; edit it directly"
  | misplaced path suite => path.text ++ " would not be read back as suite " ++ suite
  | malformedUnit error => error.message
  | alreadyIn suite testId path =>
    suite ++ "#" ++ testId ++ " is already excluded in " ++ path.text
  | unreadable path cause => "read " ++ path.text ++ ": " ++ cause.message
  | malformedSeen path line text =>
    "parse " ++ path.text ++ ": line " ++ toString line ++
      ": expected `Suite#test`, found `" ++ text ++ "`"
  | notCreated path cause => "create " ++ path.text ++ ": " ++ cause.message
  | notWritten path cause => "write " ++ path.text ++ ": " ++ cause.message

end CommandError

/-- What a command prints, and whether it is content. -/
structure Output where
  success : Bool := true
  printed : String := ""
  noted : String := ""

/-- What a command does: it changes a disk, and ends with output or an error. -/
abbrev Action := ExceptT CommandError (StateM Disk)

namespace Action

/-- Ends with an error if a part fails. -/
def require {α ε : Type} (result : Except ε α) (error : ε → CommandError) : Action α :=
  match result with
  | .ok a => pure a
  | .error e => throw (error e)

end Action

/-- Loads the exclusions of an invocation. -/
def Disk.loadFor (disk : Disk) (mode : LoadMode) (root : Path) : Except CommandError Loaded :=
  match disk.load mode root with
  | .ok loaded => .ok loaded
  | .error e => .error (.loadFailed root e)

end TestExclusions
