import TestExclusions.Command.Basic
import TestExclusions.Disk.Change
import TestExclusions.Line.Writer

/-! Adding an exclusion to the file of its suite. -/
namespace TestExclusions.Command

/-- The segments of a suite name. -/
def segmentsOf : List Char → List (List Char)
  | [] => [[]]
  | ':' :: ':' :: rest => [] :: segmentsOf rest
  | c :: rest => Text.consFirst c (segmentsOf rest)

/-- The segments of a suite name as texts. -/
def segments (suite : String) : List String := (segmentsOf suite.toList).map String.ofList

/-- What is wrong with a segment: it has to be the name of a file that is not hidden. -/
def segmentFault? (segment : String) : Option SuiteNameFault :=
  if segment = "" then some .empty
  else if segment.toList.any fun c => c = '/' || c = '\\' then some (.separator segment)
  else if segment.toList.head? = some '.' then some (.hidden segment)
  else none

/-- What is wrong with the first faulty segment of a suite name. -/
def suiteNameFault? (suite : String) : Option SuiteNameFault :=
  (segments suite).findSome? segmentFault?

/-- The names that lead to the file of a new suite. -/
def newFileNames (suite : String) : List Bytes :=
  ((segments suite).dropLast ++ (segments suite).getLast?.toList.map (· ++ ".rb")).map Text.utf8

/-- The file of a new suite. -/
def newFile (root : Path) (suite : String) : Path := root.enter (newFileNames suite)

/-- The text of a file, which is empty if there is none. -/
def textOrEmpty (disk : Disk) (path : Path) : Except FileError String :=
  match disk.readText path with
  | .error .notFound => .ok ""
  | result => result

/-- A text with one more line behind it. -/
def appendLine (text line : String) : String :=
  text ++ (if text = "" || text.toList.getLast? = some '\n' then "" else "\n") ++ line ++ "\n"

/-- The file to which an exclusion has to be added. -/
def targetFile (files : List SuiteFile) (root : Path) (suite : String) :
    Except CommandError Path :=
  match files.find? (·.suite = suite) with
  | some file =>
    if file.format = .manifest then .error (.definedByManifest suite file.path) else .ok file.path
  | none => .ok (newFile root suite)

/-- Checks that an exclusion can be added; gives the file and its new text. -/
def plan (disk : Disk) (root : Path) (mode : LoadMode) (suite testId reason : String) :
    Except CommandError (Path × String) := do
  if let some fault := suiteNameFault? suite then throw (.invalidSuiteName suite fault)
  let loaded ← disk.loadFor mode root
  if let some known := loaded.registry.reason? suite testId then
    throw (.alreadyExcluded suite testId known)
  let files ← (disk.suiteFiles root).mapError (.loadFailed root)
  let path ← targetFile files root suite
  if SuiteFile.suiteName? root path ≠ some suite then throw (.misplaced path suite)
  let text ← (textOrEmpty disk path).mapError (.unreadable path)
  let records ← (Line.parseUnit path.text text).mapError .malformedUnit
  if records.any (·.testId = testId) then throw (.alreadyIn suite testId path)
  return (path, appendLine text (Line.render ⟨testId, reason, none⟩))

/-- Adds an exclusion to the file of its suite. -/
def runAdd (root : Path) (mode : LoadMode) (suite testId reason : String) : Action Output := do
  let (path, text) ← Action.require (plan (← get) root mode suite testId reason) id
  if let some parent := path.parent? then
    let (disk, made) := (← get).makeDirectories parent
    set disk
    Action.require made (.notCreated parent)
  let disk ← Action.require ((← get).write path text.toUTF8) (.notWritten path)
  set disk
  return { printed := "excluded " ++ suite ++ "#" ++ testId ++ " in " ++ path.text ++ "\n" }

end TestExclusions.Command
