import TestExclusions.SuiteFile

/-! Loading all suites below a root. -/
namespace TestExclusions

/-- What a file that cannot be loaded does to the whole. -/
inductive LoadMode where
  /-- The load fails. -/
  | strict
  /-- The file is left out and reported. -/
  | bestEffort
  deriving DecidableEq, Repr

/-- A file that was left out, and why. -/
structure LoadFailure where
  suite : String
  path : Path
  error : LoadError
  deriving DecidableEq, Repr

/-- The outcome of a load: the registry, the files that define it, and those left out, the
latter in the order of their paths. -/
structure Loaded where
  registry : Registry
  files : List SuiteFile
  failures : List LoadFailure

namespace Load

/-- Separates the files that are the first ones of their suites from the others, which fail. -/
def claim (claimed : List SuiteFile) : List SuiteFile → List SuiteFile × List LoadFailure
  | [] => ([], [])
  | file :: rest =>
    match claimed.find? (·.suite = file.suite) with
    | some first =>
      let (files, failures) := claim claimed rest
      (files, ⟨file.suite, file.path, .duplicateSuite file.suite first.path file.path⟩ :: failures)
    | none =>
      let (files, failures) := claim (claimed ++ [file]) rest
      (file :: files, failures)

/-- Loads files one after the other, and separates those that fail. -/
def readAll (disk : Disk) :
    List SuiteFile → List (SuiteFile × Definition) × List LoadFailure
  | [] => ([], [])
  | file :: rest =>
    let (loaded, failures) := readAll disk rest
    match file.load disk with
    | .ok definition => ((file, definition) :: loaded, failures)
    | .error e => (loaded, ⟨file.suite, file.path, e⟩ :: failures)

/-- The order of failures. -/
def failureLe (a b : LoadFailure) : Bool := a.path.le b.path

end Load

/-- Loads the suites below a root. A suite belongs to the first file that names it, whether that
one can be loaded or not. In strict mode the first doubled suite or else the first file that
cannot be loaded is the error. -/
def Disk.load (disk : Disk) (mode : LoadMode) (root : Path) : Except LoadError Loaded := do
  let found ← disk.suiteFiles root
  let (files, doubled) := Load.claim [] found
  if mode = .strict then
    if let first :: _ := doubled then throw first.error
  let (loaded, unloadable) := Load.readAll disk files
  if mode = .strict then
    if let first :: _ := unloadable then throw first.error
  let registry ← Registry.ofDefinitions (loaded.map (·.2))
  return ⟨registry, loaded.map (·.1), Sorted.sort Load.failureLe (doubled ++ unloadable)⟩

end TestExclusions
