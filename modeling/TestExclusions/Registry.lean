import TestExclusions.LoadError
import TestExclusions.Record

/-! The registry of exclusions: which tests of which suites are excluded, and why. -/
namespace TestExclusions

/-- One excluded test. -/
structure Exclusion where
  suite : String
  testId : String
  reason : String
  location : Location := .inline
  deriving DecidableEq, Repr

/-- What one unit declares for a suite. -/
structure Definition where
  suite : String
  unit : String
  records : List Record
  deriving DecidableEq, Repr

namespace Definition

/-- The records as exclusions of the suite, declared in the unit. -/
def exclusions (definition : Definition) : List Exclusion :=
  definition.records.map fun record =>
    ⟨definition.suite, record.testId, record.reason, ⟨definition.unit, record.line⟩⟩

/-- Refuses a test among `rest` that stands before it, or among those `seen` already. -/
def checkFrom (definition : Definition) (seen : List Record) :
    List Record → Except LoadError Unit
  | [] => .ok ()
  | record :: rest =>
    match seen.find? (·.testId = record.testId) with
    | some first =>
      .error (.duplicateTest definition.suite record.testId ⟨definition.unit, first.line⟩
        ⟨definition.unit, record.line⟩)
    | none => checkFrom definition (seen ++ [record]) rest

/-- Refuses a unit that declares a test twice. -/
def checkDistinct (definition : Definition) : Except LoadError Unit :=
  definition.checkFrom [] definition.records

end Definition

/-- The exclusions of one suite in the order of their declaration, and the position of each test
among them. -/
structure Suite where
  name : String
  exclusions : List Exclusion
  positions : List (String × Nat)
  deriving DecidableEq, Repr

namespace Suite

/-- A suite without exclusions. -/
def empty (name : String) : Suite := ⟨name, [], []⟩

/-- The exclusion of a test, which stands at the position of the test. -/
def find? (suite : Suite) (testId : String) : Option Exclusion :=
  (suite.positions.lookup testId).bind fun position => suite.exclusions[position]?

/-- Puts an exclusion behind the others. -/
def push (suite : Suite) (exclusion : Exclusion) : Suite :=
  { suite with
    exclusions := suite.exclusions ++ [exclusion]
    positions := suite.positions ++ [(exclusion.testId, suite.exclusions.length)] }

/-- Adds an exclusion behind the others, unless the test is excluded already. -/
def declare (suite : Suite) (exclusion : Exclusion) : Except LoadError Suite :=
  match suite.find? exclusion.testId with
  | some first =>
    .error (.duplicateTest suite.name exclusion.testId first.location exclusion.location)
  | none => .ok (suite.push exclusion)

end Suite

/-- Suites in increasing order of their names, and the number of their exclusions; no suite
excludes a test twice. -/
structure Registry where
  suites : List Suite
  total : Nat
  deriving DecidableEq, Repr

namespace Registry

def empty : Registry := ⟨[], 0⟩

def suiteNames (registry : Registry) : List String := registry.suites.map (·.name)

def suite? (registry : Registry) (name : String) : Option Suite :=
  registry.suites.find? (·.name = name)

/-- The exclusions of a suite in the order of their declaration; none if it is unknown. -/
def exclusionsOf (registry : Registry) (suite : String) : List Exclusion :=
  match registry.suite? suite with
  | some known => known.exclusions
  | none => []

def containsSuite (registry : Registry) (suite : String) : Bool :=
  registry.suites.any (·.name = suite)

/-- The exclusion of a test. -/
def find? (registry : Registry) (suite testId : String) : Option Exclusion :=
  (registry.suite? suite).bind (·.find? testId)

/-- Why a test is excluded, if it is. -/
def reason? (registry : Registry) (suite testId : String) : Option String :=
  (registry.find? suite testId).map (·.reason)

/-- Where a test is excluded, if it is. -/
def location? (registry : Registry) (suite testId : String) : Option Location :=
  (registry.find? suite testId).map (·.location)

/-- The tests of a suite and their reasons, in the order of their declaration. -/
def reasonsOf (registry : Registry) (suite : String) : List (String × String) :=
  (registry.exclusionsOf suite).map fun exclusion => (exclusion.testId, exclusion.reason)

/-- Every exclusion, suite by suite. -/
def exclusions (registry : Registry) : List Exclusion := registry.suites.flatMap (·.exclusions)

/-- The number of exclusions. -/
def size (registry : Registry) : Nat := registry.total

def isEmpty (registry : Registry) : Bool := registry.total = 0

/-- Puts a suite at its place, instead of the one of its name. -/
def put (suite : Suite) : List Suite → List Suite
  | [] => [suite]
  | first :: rest =>
    if first.name = suite.name then suite :: rest
    else if suite.name < first.name then suite :: first :: rest
    else first :: put suite rest

/-- The suite of a name, which has no exclusions if it is unknown. -/
def entry (registry : Registry) (name : String) : Suite :=
  (registry.suite? name).getD (.empty name)

/-- Makes a suite known. -/
def register (registry : Registry) (suite : String) : Registry :=
  { registry with suites := put (registry.entry suite) registry.suites }

/-- Adds an exclusion behind those of its suite, unless the test is excluded already. -/
def declare (registry : Registry) (exclusion : Exclusion) : Except LoadError Registry :=
  match (registry.entry exclusion.suite).declare exclusion with
  | .ok suite => .ok ⟨put suite registry.suites, registry.total + 1⟩
  | .error e => .error e

/-- Adds exclusions one after the other. -/
def declareAll (registry : Registry) : List Exclusion → Except LoadError Registry
  | [] => .ok registry
  | exclusion :: rest =>
    match registry.declare exclusion with
    | .ok next => next.declareAll rest
    | .error e => .error e

/-- Adds definitions one after the other. -/
def defineAll (registry : Registry) : List Definition → Except LoadError Registry
  | [] => .ok registry
  | definition :: rest =>
    match (registry.register definition.suite).declareAll definition.exclusions with
    | .ok next => next.defineAll rest
    | .error e => .error e

/-- The registry of a list of exclusions. -/
def ofExclusions (exclusions : List Exclusion) : Except LoadError Registry :=
  empty.declareAll exclusions

/-- The registry of a list of definitions. A definition without records makes its suite known,
and several definitions may name one suite. -/
def ofDefinitions (definitions : List Definition) : Except LoadError Registry :=
  empty.defineAll definitions

end Registry
end TestExclusions
