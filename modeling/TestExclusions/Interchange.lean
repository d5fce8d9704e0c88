import TestExclusions.Json.Decoder
import TestExclusions.Json.Value
import TestExclusions.Registry
import TestExclusions.SkipReport

/-! The JSON forms of locations, records, exclusions and reports. Members are written in the order
of the fields and read in any order; unknown ones are passed over. -/
namespace TestExclusions
open Json (Fault Decoder)
open Json.Decoder

/-- Counts and line numbers are smaller than this. -/
def countLimit : Nat := Nat.pow 2 64

/-- Schema versions are smaller than this. -/
def schemaLimit : Nat := Nat.pow 2 32

def count : Decoder Nat := natural countLimit

/-- The member for a line, which is left out if there is none. -/
def lineMember (line : Option Nat) : List (String × Json) :=
  match line with
  | some line => [("line", .number line)]
  | none => []

namespace Location

def toJson (location : Location) : Json :=
  .object (("unit", .string location.unit) :: lineMember location.line)

/-- The members read so far. -/
structure Partial where
  unit : Option String := none
  line : Option (Option Nat) := none

def member (soFar : Partial) : String → Except Fault (Decoder Partial)
  | "unit" => once soFar.unit string ({ soFar with unit := some · })
  | "line" => once soFar.line (nullable count) ({ soFar with line := some · })
  | _ => .ok ((fun _ => soFar) <$> ignored)

def finish (read : Partial) : Except Fault Location := do
  return ⟨← due read.unit, read.line.join⟩

def inOrder : Decoder Location := do
  let unit ← elementDue true string
  let line ← element false (nullable count)
  return ⟨unit, line.join⟩

def decoder : Decoder Location := fields inOrder {} member finish

end Location

namespace Record

def toJson (record : Record) : Json :=
  .object (("test_id", .string record.testId) :: ("reason", .string record.reason) ::
    lineMember record.line)

structure Partial where
  testId : Option String := none
  reason : Option String := none
  line : Option (Option Nat) := none

def member (soFar : Partial) : String → Except Fault (Decoder Partial)
  | "test_id" => once soFar.testId string ({ soFar with testId := some · })
  | "reason" => once soFar.reason string ({ soFar with reason := some · })
  | "line" => once soFar.line (nullable count) ({ soFar with line := some · })
  | _ => .ok ((fun _ => soFar) <$> ignored)

def finish (read : Partial) : Except Fault Record := do
  return ⟨← due read.testId, ← due read.reason, read.line.join⟩

def inOrder : Decoder Record := do
  let testId ← elementDue true string
  let reason ← elementDue false string
  let line ← element false (nullable count)
  return ⟨testId, reason, line.join⟩

def decoder : Decoder Record := fields inOrder {} member finish

end Record

namespace Exclusion

def toJson (exclusion : Exclusion) : Json :=
  .object [
    ("suite", .string exclusion.suite),
    ("test_id", .string exclusion.testId),
    ("reason", .string exclusion.reason),
    ("location", exclusion.location.toJson)]

structure Partial where
  suite : Option String := none
  testId : Option String := none
  reason : Option String := none
  location : Option Location := none

def member (soFar : Partial) : String → Except Fault (Decoder Partial)
  | "suite" => once soFar.suite string ({ soFar with suite := some · })
  | "test_id" => once soFar.testId string ({ soFar with testId := some · })
  | "reason" => once soFar.reason string ({ soFar with reason := some · })
  | "location" => once soFar.location Location.decoder ({ soFar with location := some · })
  | _ => .ok ((fun _ => soFar) <$> ignored)

/-- An exclusion without a location is an inline one. -/
def finish (read : Partial) : Except Fault Exclusion := do
  return ⟨← due read.suite, ← due read.testId, ← due read.reason,
    read.location.getD .inline⟩

def inOrder : Decoder Exclusion := do
  let suite ← elementDue true string
  let testId ← elementDue false string
  let reason ← elementDue false string
  let location ← element false Location.decoder
  return ⟨suite, testId, reason, location.getD .inline⟩

def decoder : Decoder Exclusion := fields inOrder {} member finish

end Exclusion

namespace SkipSummary

def toJson (summary : SkipSummary) : Json :=
  .object [
    ("considered", .number summary.considered),
    ("skipped", .number summary.skipped),
    ("ran", .number summary.ran),
    ("configured", .number summary.configured),
    ("stale", .number summary.stale)]

structure Partial where
  considered : Option Nat := none
  skipped : Option Nat := none
  ran : Option Nat := none
  configured : Option Nat := none
  stale : Option Nat := none

def member (soFar : Partial) : String → Except Fault (Decoder Partial)
  | "considered" => once soFar.considered count ({ soFar with considered := some · })
  | "skipped" => once soFar.skipped count ({ soFar with skipped := some · })
  | "ran" => once soFar.ran count ({ soFar with ran := some · })
  | "configured" => once soFar.configured count ({ soFar with configured := some · })
  | "stale" => once soFar.stale count ({ soFar with stale := some · })
  | _ => .ok ((fun _ => soFar) <$> ignored)

def finish (read : Partial) : Except Fault SkipSummary := do
  return ⟨← due read.considered, ← due read.skipped, ← due read.ran, ← due read.configured,
    ← due read.stale⟩

def inOrder : Decoder SkipSummary := do
  let considered ← elementDue true count
  let skipped ← elementDue false count
  let ran ← elementDue false count
  let configured ← elementDue false count
  let stale ← elementDue false count
  return ⟨considered, skipped, ran, configured, stale⟩

def decoder : Decoder SkipSummary := fields inOrder {} member finish

end SkipSummary

namespace SkippedTest

def toJson (test : SkippedTest) : Json :=
  .object [
    ("suite", .string test.suite),
    ("test_id", .string test.testId),
    ("reason", .string test.reason)]

structure Partial where
  suite : Option String := none
  testId : Option String := none
  reason : Option String := none

def member (soFar : Partial) : String → Except Fault (Decoder Partial)
  | "suite" => once soFar.suite string ({ soFar with suite := some · })
  | "test_id" => once soFar.testId string ({ soFar with testId := some · })
  | "reason" => once soFar.reason string ({ soFar with reason := some · })
  | _ => .ok ((fun _ => soFar) <$> ignored)

def finish (read : Partial) : Except Fault SkippedTest := do
  return ⟨← due read.suite, ← due read.testId, ← due read.reason⟩

def inOrder : Decoder SkippedTest := do
  let suite ← elementDue true string
  let testId ← elementDue false string
  let reason ← elementDue false string
  return ⟨suite, testId, reason⟩

def decoder : Decoder SkippedTest := fields inOrder {} member finish

end SkippedTest

namespace StaleExclusion

def toJson (exclusion : StaleExclusion) : Json :=
  .object [
    ("suite", .string exclusion.suite),
    ("test_id", .string exclusion.testId),
    ("reason", .string exclusion.reason),
    ("declared_at", .string exclusion.declaredAt)]

structure Partial where
  suite : Option String := none
  testId : Option String := none
  reason : Option String := none
  declaredAt : Option String := none

def member (soFar : Partial) : String → Except Fault (Decoder Partial)
  | "suite" => once soFar.suite string ({ soFar with suite := some · })
  | "test_id" => once soFar.testId string ({ soFar with testId := some · })
  | "reason" => once soFar.reason string ({ soFar with reason := some · })
  | "declared_at" => once soFar.declaredAt string ({ soFar with declaredAt := some · })
  | _ => .ok ((fun _ => soFar) <$> ignored)

def finish (read : Partial) : Except Fault StaleExclusion := do
  return ⟨← due read.suite, ← due read.testId, ← due read.reason, ← due read.declaredAt⟩

def inOrder : Decoder StaleExclusion := do
  let suite ← elementDue true string
  let testId ← elementDue false string
  let reason ← elementDue false string
  let declaredAt ← elementDue false string
  return ⟨suite, testId, reason, declaredAt⟩

def decoder : Decoder StaleExclusion := fields inOrder {} member finish

end StaleExclusion

namespace SkipReport

def toJson (report : SkipReport) : Json :=
  .object [
    ("schema_version", .number report.schemaVersion),
    ("summary", report.summary.toJson),
    ("skipped", .array (report.skipped.map (·.toJson))),
    ("stale", .array (report.stale.map (·.toJson)))]

structure Partial where
  schemaVersion : Option Nat := none
  summary : Option SkipSummary := none
  skipped : Option (List SkippedTest) := none
  stale : Option (List StaleExclusion) := none

def member (soFar : Partial) : String → Except Fault (Decoder Partial)
  | "schema_version" =>
    once soFar.schemaVersion (natural schemaLimit) ({ soFar with schemaVersion := some · })
  | "summary" => once soFar.summary SkipSummary.decoder ({ soFar with summary := some · })
  | "skipped" =>
    once soFar.skipped (list SkippedTest.decoder) ({ soFar with skipped := some · })
  | "stale" =>
    once soFar.stale (list StaleExclusion.decoder) ({ soFar with stale := some · })
  | _ => .ok ((fun _ => soFar) <$> ignored)

def finish (read : Partial) : Except Fault SkipReport := do
  return ⟨← due read.schemaVersion, ← due read.summary, ← due read.skipped, ← due read.stale⟩

def inOrder : Decoder SkipReport := do
  let schemaVersion ← elementDue true (natural schemaLimit)
  let summary ← elementDue false SkipSummary.decoder
  let skipped ← elementDue false (list SkippedTest.decoder)
  let stale ← elementDue false (list StaleExclusion.decoder)
  return ⟨schemaVersion, summary, skipped, stale⟩

def decoder : Decoder SkipReport := fields inOrder {} member finish

/-- The text of a report with one member a line. -/
def prettyText (report : SkipReport) : String := report.toJson.prettyText

end SkipReport
end TestExclusions
