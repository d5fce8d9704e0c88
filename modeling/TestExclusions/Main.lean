import TestExclusions.Command.Run
import TestExclusions.Command.Usage

/-! The command line. All that an invocation may touch is read first; what it does to that is
computed, and then carried out. -/
namespace TestExclusions.CommandLine

/-- A place as an entry of the outermost directory. Only names that are UTF-8 can be opened. -/
def entryOf (place : Place) : IO.FS.DirEntry := ⟨"/", "/".intercalate (place.map Text.ofBytes)⟩

/-- Reads what stands at a place; neither a link that leads nowhere nor, unless it is asked for, a
device counts. -/
def readItem? (place : Place) (devices : Bool) : IO (Option Item) := do
  let path := (entryOf place).path
  let .ok metadata ← path.symlinkMetadata.toBaseIO | return none
  let content : IO (Option Item) := return some (.file (← IO.FS.readBinFile path))
  match metadata.type with
  | .dir => return some .directory
  | .file => content
  | .other => if devices then content else return none
  | .symlink =>
    let .ok target ← path.metadata.toBaseIO | return none
    if target.type == .other then
      if devices then content else return none
    else return some (.link ⟨(← IO.FS.realPath path).toString⟩)

/-- Takes over what stands at a place. -/
def readPlace (place : Place) (devices : Bool) : StateT Disk IO Unit := do
  if ((← get).get? place).isNone then
    if let some item ← readItem? place devices then
      modify (·.put place item)

/-- Takes over all that stands along moves from a place, and gives the place they lead to. -/
partial def readAlong (here : Place) : List Move → StateT Disk IO Place
  | [] => return here
  | .stay :: rest | .close :: rest => readAlong here rest
  | .up :: rest => readAlong here.dropLast rest
  | .enter name :: rest => do
    let place := here ++ [name]
    readPlace place true
    match (← get).get? place with
    | some (.link target) => readAlong (Disk.start here target) (target.moves ++ rest)
    | _ => readAlong place rest

/-- Takes over all that stands along a path. -/
def readPath (path : Path) : StateT Disk IO Place := do
  readAlong (Disk.start (← get).home path) path.moves

/-- Takes over all that stands below a directory, links not followed. -/
partial def readBelow (directory : Place) : StateT Disk IO Unit := do
  if (← get).get? directory = some .directory then
    match ← (entryOf directory).path.readDir.toBaseIO with
    | .error (.permissionDenied ..) =>
      modify fun disk => { disk with unlistable := disk.unlistable ++ [directory] }
    | .error e => throw e
    | .ok entries =>
      for entry in entries do
        unless SuiteFile.isHidden entry.fileName do
          let place := directory ++ [Text.utf8 entry.fileName]
          readPlace place false
          readBelow place

/-- Takes over all that an invocation may touch when it starts from a directory. -/
def readFor (invocation : Invocation) (home : Path) : StateT Disk IO Unit := do
  let place ← readPath home
  modify fun disk => { disk with home := place }
  readBelow (← readPath invocation.root)
  for path in invocation.paths do
    let _ ← readPath path

/-- The disk as far as it counts for an invocation. -/
def readDisk (invocation : Invocation) : IO Disk := do
  let home : Path := ⟨(← IO.currentDir).toString⟩
  let (_, disk) ← (readFor invocation home).run ⟨[], [], []⟩
  return disk

/-- Makes the directories and writes the files that have come. -/
def carryOut (changes : List (Place × Item)) : IO Unit := do
  for (place, item) in changes do
    let path := (entryOf place).path
    match item with
    | .directory => unless ← path.isDir do IO.FS.createDir path
    | .file content => IO.FS.writeBinFile path content
    | .link _ => pure ()

/-- Runs a command line and gives its exit code. -/
def run (args : List String) : IO UInt32 := do
  match Arguments.parse args with
  | .error e =>
    if e.isFailure then
      IO.eprint e.message
      return 2
    else
      IO.print e.message
      return 0
  | .ok invocation =>
    let before ← readDisk invocation
    let (result, after) := invocation.run before
    carryOut (after.changesSince before)
    IO.eprint (invocation.standardError .sequential (fun _ event => event.text ++ "\n") before)
    match result with
    | .ok output =>
      IO.print output.printed
      return if output.success then 0 else 1
    | .error _ => return 1

end TestExclusions.CommandLine

def main (args : List String) : IO UInt32 := do
  try
    TestExclusions.CommandLine.run args
  catch e =>
    IO.eprint ("error: " ++ toString e ++ "\n")
    return 1
