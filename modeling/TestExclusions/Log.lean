import TestExclusions.Load

/-! What a load logs: the files that it passes over, those that it leaves out, and what it has
loaded. The time of an event is left out, and so is what the libraries below log. -/
namespace TestExclusions

/-- How much an event matters, the most first. -/
inductive Level where
  | warn
  | info
  | debug
  | trace
  deriving DecidableEq, Repr

namespace Level

def rank : Level → Nat
  | warn => 0
  | info => 1
  | debug => 2
  | trace => 3

/-- The name of a level, five characters wide. -/
def name : Level → String
  | warn => " WARN"
  | info => " INFO"
  | debug => "DEBUG"
  | trace => "TRACE"

end Level

/-- Something that is logged: a message, and fields with their values. -/
structure Event where
  level : Level
  message : String
  fields : List (String × String)
  deriving DecidableEq, Repr

namespace Event

/-- An event as a text, without the time. -/
def text (event : Event) : String :=
  event.level.name ++ " " ++ event.message ++
    String.join (event.fields.map fun (name, value) => " " ++ name ++ "=" ++ value)

/-- A file is passed over for its extension. -/
def ignored (path : Path) : Event :=
  ⟨.debug, "ignoring file with unrecognised extension", [("path", path.text)]⟩

/-- A file is left out. -/
def skipped (failure : LoadFailure) : Event :=
  ⟨.warn, "skipping exclusion unit",
    [("suite", failure.suite), ("error", failure.error.message)]⟩

/-- A file has been read. -/
def read (definition : Definition) : Event :=
  ⟨.debug, "loaded exclusion unit",
    [("suite", definition.suite), ("exclusions", toString definition.records.length)]⟩

/-- All files have been loaded. -/
def loaded (root : Path) (loaded : Loaded) : Event :=
  ⟨.info, "loaded exclusions from " ++ root.text,
    [("suites", toString loaded.files.length), ("exclusions", toString loaded.registry.size),
      ("failures", toString loaded.failures.length)]⟩

/-- An exclusion has been added. -/
def added (suite testId : String) (path : Path) : Event :=
  ⟨.info, "added exclusion to " ++ path.text, [("suite", suite), ("test", testId)]⟩

end Event

/-- The order in which files that are read side by side are done. -/
structure Schedule where
  order : List Definition → List Definition
  perm : ∀ definitions, (order definitions).Perm definitions

/-- One file is read after the other. -/
def Schedule.sequential : Schedule := ⟨id, fun _ => .refl _⟩

namespace Disk

/-- The names that lead from a place to the files below it that a walk meets, in its order. -/
def filesMet (disk : Disk) (place : Place) : List (List Bytes) :=
  Sorted.sort walkLe
    ((disk.namesBelow Item.isFile place).filter fun names => !names.any SuiteFile.isHidden)

/-- What a walk logs until it is done or cannot list a directory. -/
def walkEvents (disk : Disk) (root : Path) : List Event :=
  match disk.directory? root with
  | none => []
  | some place =>
    let last := (disk.walked place).find? fun names => (disk.listingFault? root names).isSome
    let met := (disk.filesMet place).filter fun names => last.all (walkLe names)
    ((met.map root.enter).filter fun path => (Format.ofPath? path).isNone).map .ignored

/-- What a load logs. In strict mode it ends at the first file that would be left out. -/
def loadEvents (disk : Disk) (schedule : Schedule) (mode : LoadMode) (root : Path) : List Event :=
  disk.walkEvents root ++
    match disk.suiteFiles root with
    | .error _ => []
    | .ok found =>
      let (files, doubled) := Load.claim [] found
      if mode = .strict && !doubled.isEmpty then []
      else
        let (loaded, unloadable) := Load.readAll disk files
        doubled.map .skipped ++ (schedule.order (loaded.map (·.2))).map .read ++
          match disk.load mode root with
          | .error _ => []
          | .ok all => unloadable.map .skipped ++ [.loaded root all]

end Disk
end TestExclusions
