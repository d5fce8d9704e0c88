import TestExclusions.Command.Basic
import TestExclusions.Json.Value
import TestExclusions.Pattern.SuitePattern

/-! The commands that only read: counting, asking and listing. -/
namespace TestExclusions.Command

/-- Counts exclusions, suites and files that were left out. -/
def runCheck (disk : Disk) (root : Path) (mode : LoadMode) (denyFailures : Bool) :
    Except CommandError Output := do
  let loaded ← disk.loadFor mode root
  return {
    success := !(denyFailures && !loaded.failures.isEmpty)
    printed :=
      toString loaded.registry.size ++ " exclusions across " ++
        toString loaded.registry.suiteNames.length ++ " suites (" ++
        toString loaded.failures.length ++ " units skipped)\n" }

/-- Prints why a test is excluded. -/
def runQuery (disk : Disk) (root : Path) (mode : LoadMode) (suite testId : String) :
    Except CommandError Output := do
  let loaded ← disk.loadFor mode root
  match loaded.registry.reason? suite testId with
  | some reason => return { printed := reason ++ "\n" }
  | none => return { success := false, printed := "not excluded\n" }

/-- A suite and its exclusions as they are listed. -/
structure Listing where
  suite : String
  exclusions : List (String × String)
  deriving DecidableEq, Repr

namespace Listing

def toJson (listing : Listing) : Json :=
  .object [
    ("suite", .string listing.suite),
    ("exclusions", .array (listing.exclusions.map fun (testId, reason) =>
      .object [("test_id", .string testId), ("reason", .string reason)]))]

def toText (listing : Listing) : String :=
  listing.suite ++ " (" ++ toString listing.exclusions.length ++ ")\n" ++
    String.join (listing.exclusions.map fun (testId, reason) =>
      "  " ++ testId ++ ": " ++ reason ++ "\n")

end Listing

/-- The suites of a registry whose names a pattern selects. -/
def listings (registry : Registry) (pattern : SuitePattern) : List Listing :=
  (registry.suiteNames.filter pattern.isMatch).map fun suite =>
    ⟨suite, registry.reasonsOf suite⟩

/-- Prints the suites that match a pattern and their exclusions. -/
def runList (disk : Disk) (root : Path) (mode : LoadMode) (pattern : Option String)
    (json : Bool) : Except CommandError Output := do
  let selection ← (SuitePattern.ofOption pattern).mapError (.invalidPattern (pattern.getD ""))
  let loaded ← disk.loadFor mode root
  let found := listings loaded.registry selection
  return {
    printed :=
      if json then (Json.array (found.map (·.toJson))).prettyText ++ "\n"
      else String.join (found.map (·.toText)) }

end TestExclusions.Command
