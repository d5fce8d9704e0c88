import TestExclusions.Disk.Walk
import TestExclusions.Line.Unit
import TestExclusions.Manifest.Reader
import TestExclusions.Registry
import TestExclusions.Sorted

/-! Files that define the exclusions of one suite each. The place of a file below its root names
the suite, and its extension tells the format. -/
namespace TestExclusions

/-- How a unit is written. -/
inductive Format where
  | lines
  | manifest
  deriving DecidableEq, Repr

namespace Format

def ofExtension? : String → Option Format
  | "rb" => some lines
  | "txt" => some lines
  | "toml" => some manifest
  | "json" => some manifest
  | _ => none

def ofPath? (path : Path) : Option Format :=
  path.extension?.bind fun extension => (Text.ofUtf8? extension).bind ofExtension?

/-- The records of a unit; the label only serves to name the place of a fault. -/
def parse : Format → (label text : String) → Except LoadError (List Record)
  | lines, label, text => Line.parseUnit label text
  | manifest, label, text => Manifest.parseUnit label text

end Format

/-- A file, the suite it defines and the format it is written in. -/
structure SuiteFile where
  suite : String
  path : Path
  format : Format
  deriving DecidableEq, Repr

namespace SuiteFile

/-- What stands between the segments of a suite name. -/
def separator : String := "::"

/-- The names among components, if all of them are names. -/
def names? : List Path.Component → Option (List Bytes)
  | [] => some []
  | .name name :: rest => (names? rest).map (name :: ·)
  | _ :: _ => none

/-- A file name without its extension. -/
def stem (name : Bytes) : Bytes := (Path.splitExtension name).1

/-- The suite of a file that is reached by entering names: what is shown of the directories and of
the stem of the file. -/
def suiteOfNames? (names : List Bytes) : Option String :=
  names.getLast?.map fun file =>
    separator.intercalate ((names.dropLast ++ [stem file]).map Text.ofBytes)

/-- The suite that a path below a root stands for. -/
def suiteName? (root path : Path) : Option String :=
  (root.below? path).bind names? |>.bind suiteOfNames?

/-- Whether a name begins with a dot. One that is not UTF-8 does not count. -/
def isHidden (name : Bytes) : Bool :=
  match Text.ofUtf8? name with
  | some text => text.toList.head? = some '.'
  | none => false

/-- The file that is reached from a root by entering names, if it defines a suite. -/
def ofNames? (root : Path) (names : List Bytes) : Option SuiteFile :=
  if names.any isHidden then none
  else
    let path := root.enter names
    match Format.ofPath? path, suiteName? root path with
    | some format, some suite => some ⟨suite, path, format⟩
    | _, _ => none

/-- The order of files. -/
def le (a b : SuiteFile) : Bool := a.path.le b.path

end SuiteFile

namespace Disk

/-- The names that lead from a place to each wanted item below it. -/
def namesBelow (disk : Disk) (wanted : Item → Bool) (place : Place) : List (List Bytes) :=
  disk.items.filterMap fun (found, item) =>
    if wanted item && place.isPrefixOf found && found.length > place.length then
      some (found.drop place.length)
    else none

/-- The suite files below a root, whose place is given, in the order of their paths. Links are no
files. -/
def suiteFilesBelow (disk : Disk) (root : Path) (place : Place) : List SuiteFile :=
  Sorted.sort SuiteFile.le
    ((disk.namesBelow Item.isFile place).filterMap (SuiteFile.ofNames? root))

/-- The order of a walk: a directory comes before what lies in it, and names come in theirs. -/
def walkLe (a b : List Bytes) : Bool :=
  (Path.compareComponents (a.map .name) (b.map .name)).isLE

/-- The names that lead to the directories that a walk from a place enters: the place itself, and
those below it, hidden ones left out. -/
def walked (disk : Disk) (place : Place) : List (List Bytes) :=
  [] :: Sorted.sort walkLe
    ((disk.namesBelow Item.isDirectory place).filter fun names => !names.any SuiteFile.isHidden)

/-- Why a directory that names lead to from a root cannot be listed by its path. -/
def listingFault? (disk : Disk) (root : Path) (names : List Bytes) : Option LoadError :=
  let path := root.enter names
  match disk.openDirectory path with
  | .ok _ => none
  | .error cause => some (.unreadable path (.directory path cause))

/-- The files below a root that define suites, in the order of their paths; the first directory
that cannot be listed, which may be the root, is the error. -/
def suiteFiles (disk : Disk) (root : Path) : Except LoadError (List SuiteFile) :=
  match disk.directory? root with
  | none => .error (.invalidRoot root)
  | some place =>
    match (disk.walked place).findSome? (disk.listingFault? root) with
    | some fault => .error fault
    | none => .ok (disk.suiteFilesBelow root place)

end Disk

namespace SuiteFile

/-- The definition that a file holds; it may not declare a test twice. -/
def load (file : SuiteFile) (disk : Disk) : Except LoadError Definition :=
  match disk.readText file.path with
  | .error cause => .error (.unreadable file.path (.file cause))
  | .ok text => do
    let records ← file.format.parse file.path.text text
    let definition : Definition := ⟨file.suite, file.path.text, records⟩
    definition.checkDistinct
    return definition

end SuiteFile
end TestExclusions
