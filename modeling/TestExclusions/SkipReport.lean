/-! The report of a run: the tests that were skipped and the exclusions that are stale. -/
namespace TestExclusions

@[ext] structure SkipSummary where
  considered : Nat
  skipped : Nat
  ran : Nat
  configured : Nat
  stale : Nat
  deriving DecidableEq, Repr

structure SkippedTest where
  suite : String
  testId : String
  reason : String
  deriving DecidableEq, Repr

/-- An exclusion whose test the run did not meet. -/
structure StaleExclusion where
  suite : String
  testId : String
  reason : String
  declaredAt : String
  deriving DecidableEq, Repr

/-- Both lists are in the order of suites and tests. -/
@[ext] structure SkipReport where
  schemaVersion : Nat
  summary : SkipSummary
  skipped : List SkippedTest
  stale : List StaleExclusion
  deriving DecidableEq, Repr

/-- The version of the form that reports are written in. -/
def SkipReport.currentSchema : Nat := 1

end TestExclusions
