import TestExclusions.Disk.Change

/-! Listing a disk, and the changes that other programs make to it. -/
namespace TestExclusions.Disk

/-- The names in a directory. -/
def names (disk : Disk) (directory : Place) : List Bytes :=
  disk.items.filterMap fun (place, _) =>
    if place ≠ [] && place.dropLast = directory then place.getLast? else none

/-- What a listing shows of a path. -/
inductive Listed where
  | directory
  | file (content : ByteArray)
  /-- A link that leads nowhere. -/
  | dangling

/-- Everything below a directory, links followed, at most so many levels deep. -/
def listWithin (disk : Disk) : Nat → Path → List (Path × Listed)
  | 0, _ => []
  | levels + 1, path =>
    match disk.directory? path with
    | none => []
    | some place =>
      (disk.names place).flatMap fun name =>
        let below := path.push name
        match disk.read below with
        | .ok content => [(below, .file content)]
        | .error _ =>
          if disk.isDirectory below then (below, .directory) :: disk.listWithin levels below
          else [(below, .dangling)]

/-- Everything below a directory, links followed. Between two links no path has more names than
the disk has items. -/
def list (disk : Disk) (path : Path) : List (Path × Listed) :=
  disk.listWithin ((maxLinks + 1) * (disk.items.length + 1)) path

/-- Writes a file, whose directory is made if it is missing. -/
def store (disk : Disk) (path : Path) (content : ByteArray) : Except FileError Disk :=
  match path.parent? with
  | none => disk.write path content
  | some parent =>
    match disk.makeDirectories parent with
    | (_, .error e) => .error e
    | (made, .ok ()) => made.write path content

/-- The place that a path names itself, its last link not followed. -/
def placeOf (disk : Disk) (path : Path) : Except FileError Place :=
  match disk.findParent path, path.words.getLast?.map Path.moveOf with
  | .ok directory, some (.enter name) => .ok (directory ++ [name])
  | .error e, _ => .error e
  | _, _ => .error .isDirectory

/-- Takes away a file, a link or a directory with all that it holds. -/
def remove (disk : Disk) (path : Path) : Disk :=
  match disk.placeOf path with
  | .ok place => disk.erase place
  | .error _ => disk

/-- Makes a symbolic link, which no slash may follow. -/
def makeLink (disk : Disk) (path target : Path) : Except FileError Disk :=
  match disk.placeOf path with
  | .error e => .error e
  | .ok place =>
    if (disk.get? place).isSome then .error .alreadyExists
    else if path.endsInSlash || target.bytes = [] then .error .notFound
    else if (place.getLast?.getD []).length > Path.maxNameBytes then .error .nameTooLong
    else .ok (disk.put place (.link target))

end TestExclusions.Disk
