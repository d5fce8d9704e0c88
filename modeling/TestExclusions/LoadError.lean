import TestExclusions.Disk.Basic
import TestExclusions.Line.Fault
import TestExclusions.Record

/-! Why exclusions cannot be loaded. -/
namespace TestExclusions

namespace Manifest

/-- What can be wrong with a manifest. -/
inductive Fault where
  /-- The text has the shape of a manifest in neither of the two formats. -/
  | unreadable
  /-- The entry of this number, counted from one, has no identifier. -/
  | idMissing (number : Nat)
  | reasonMissing (number : Nat) (id : String)
  deriving DecidableEq, Repr

/-- What a fault says. What the readers of the two formats say about a text that they do not take
would follow its message, and is left out. -/
def Fault.message : Fault → String
  | unreadable => "failed to parse manifest"
  | idMissing number => "exclude entry " ++ toString number ++ " missing `id`"
  | reasonMissing number id =>
    "exclude entry " ++ toString number ++ " (`" ++ id ++ "`) missing `reason`"

end Manifest

/-- What is wrong inside a unit. -/
inductive UnitFault where
  | line (fault : Line.Fault)
  | manifest (fault : Manifest.Fault)
  deriving DecidableEq, Repr

def UnitFault.message : UnitFault → String
  | line fault => fault.message
  | manifest fault => fault.message

/-- What cannot be read. -/
inductive ReadFault where
  | file (cause : FileError)
  /-- A directory, which is listed by its path. -/
  | directory (path : Path) (cause : FileError)
  deriving DecidableEq, Repr

namespace ReadFault

def message : ReadFault → String
  | file cause => cause.message
  | directory path cause => "IO error for operation on " ++ path.text ++ ": " ++ cause.message

/-- The fault and what lies behind it, each as a text. -/
def chain : ReadFault → List String
  | file cause => [(file cause).message]
  | directory path cause => [(directory path cause).message, cause.message]

end ReadFault

inductive LoadError where
  /-- A file or a directory cannot be read. -/
  | unreadable (path : Path) (fault : ReadFault)
  /-- A unit does not follow its format. -/
  | malformed (location : Location) (fault : UnitFault)
  /-- A suite declares a test twice. -/
  | duplicateTest (suite testId : String) (first second : Location)
  /-- Two files define one suite. -/
  | duplicateSuite (suite : String) (first second : Path)
  /-- The root is no directory. -/
  | invalidRoot (path : Path)
  deriving DecidableEq, Repr

def LoadError.message : LoadError → String
  | unreadable path fault => "read " ++ path.text ++ ": " ++ fault.message
  | malformed location fault => location.display ++ ": " ++ fault.message
  | duplicateTest suite testId first second =>
    "duplicate exclusion for " ++ suite ++ "#" ++ testId ++ " at " ++ second.display ++
      " (first declared at " ++ first.display ++ ")"
  | duplicateSuite suite first second =>
    "suite " ++ suite ++ " is defined by both " ++ first.text ++ " and " ++ second.text
  | invalidRoot path =>
    "excludes directory " ++ path.text ++ " does not exist or is not a directory"

end TestExclusions
