import TestExclusions.Registry
import TestExclusions.SkipReport
import TestExclusions.Sorted

/-! The ledger of a run: which tests were met, and what that says about the exclusions. -/
namespace TestExclusions

/-- What to do with a test. -/
inductive Decision where
  | run
  | skip (reason : String)
  deriving DecidableEq, Repr

namespace Decision

def isSkip : Decision → Bool
  | run => false
  | skip _ => true

def reason? : Decision → Option String
  | run => none
  | skip reason => some reason

end Decision

/-- A suite and a test of it. -/
structure TestName where
  suite : String
  testId : String
  deriving DecidableEq, Repr

namespace TestName

/-- The order of tests: by suite, then by identifier. -/
def le (a b : TestName) : Bool :=
  a.suite < b.suite || (a.suite = b.suite && a.testId ≤ b.testId)

end TestName

/-- A registry, and the tests that were met, in order and each once, with whether they were
skipped. -/
structure Ledger where
  registry : Registry
  met : List (TestName × Bool)

namespace Ledger

/-- The ledger of a run that has not begun. -/
def ofRegistry (registry : Registry) : Ledger := ⟨registry, []⟩

/-- Puts a test at its place, instead of what was noted about it before. -/
def enter (test : TestName) (skipped : Bool) : List (TestName × Bool) → List (TestName × Bool)
  | [] => [(test, skipped)]
  | first :: rest =>
    if first.1 = test then (test, skipped) :: rest
    else if TestName.le test first.1 then (test, skipped) :: first :: rest
    else first :: enter test skipped rest

/-- Notes that a test was met, and whether it was skipped. -/
def note (ledger : Ledger) (test : TestName) (skipped : Bool) : Ledger :=
  { ledger with met := enter test skipped ledger.met }

/-- Decides about a test and notes it. -/
def decide (ledger : Ledger) (test : TestName) : Decision × Ledger :=
  let reason := ledger.registry.reason? test.suite test.testId
  (match reason with
    | some reason => .skip reason
    | none => .run,
    ledger.note test reason.isSome)

/-- Whether a test was met. -/
def hasMet (ledger : Ledger) (test : TestName) : Bool := ledger.met.any (·.1 = test)

/-- The tests that were skipped, with the reasons that the registry gives. -/
def skipped (ledger : Ledger) : List SkippedTest :=
  ledger.met.filterMap fun (test, skipped) =>
    if skipped then
      some ⟨test.suite, test.testId,
        (ledger.registry.reason? test.suite test.testId).getD ""⟩
    else none

/-- The number of tests that were not skipped. -/
def ran (ledger : Ledger) : Nat := ledger.met.countP (!·.2)

/-- The exclusions of tests that were not met. -/
def stale (ledger : Ledger) : List StaleExclusion :=
  let unmet := ledger.registry.exclusions.filter fun exclusion =>
    !ledger.hasMet ⟨exclusion.suite, exclusion.testId⟩
  let listed := unmet.map fun exclusion =>
    ⟨exclusion.suite, exclusion.testId, exclusion.reason, exclusion.location.display⟩
  Sorted.sort (fun a b => TestName.le ⟨a.suite, a.testId⟩ ⟨b.suite, b.testId⟩) listed

/-- The report of the run so far. -/
def report (ledger : Ledger) : SkipReport :=
  let skipped := ledger.skipped
  let stale := ledger.stale
  { schemaVersion := SkipReport.currentSchema
    summary :=
      { considered := ledger.met.length
        skipped := skipped.length
        ran := ledger.ran
        configured := ledger.registry.size
        stale := stale.length }
    skipped := skipped
    stale := stale }

end Ledger
end TestExclusions
