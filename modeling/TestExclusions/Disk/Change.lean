import TestExclusions.Disk.Walk

/-! Writing files, making directories, and what has changed since. -/
namespace TestExclusions.Disk

/-- Writes a file, which is made if its directory exists. -/
def write (disk : Disk) (path : Path) (content : ByteArray) : Except FileError Disk :=
  if path.endsInSlash then
    match disk.findParent path with
    | .ok _ => .error .isDirectory
    | .error e => .error e
  else
    match disk.locate path with
    | .error e => .error e
    | .ok (.free directory name closed) =>
      if closed then .error .isDirectory
      else .ok (disk.put (directory ++ [name]) (.file content))
    | .ok (.taken place) =>
      match disk.get? place with
      | some (.file _) => .ok (disk.put place (.file content))
      | _ => .error .isDirectory

/-- Makes one directory inside an existing one. -/
def makeDirectory (disk : Disk) (path : Path) : Except FileError Disk :=
  match disk.findParent path with
  | .error e => .error e
  | .ok directory =>
    match path.words.getLast?.map Path.moveOf with
    | some (.enter name) =>
      if name.length > Path.maxNameBytes then .error .nameTooLong
      else if (disk.get? (directory ++ [name])).isSome then .error .alreadyExists
      else .ok (disk.put (directory ++ [name]) .directory)
    | _ => .error .alreadyExists

/-- Makes the first of the given paths, each of which lies directly under the next one, and those
of the others that it needs. What has been made stays when a later step fails. -/
def makeChain (disk : Disk) : List Path → Disk × Except FileError Unit
  | [] => (disk, .ok ())
  | path :: ancestors =>
    if path.components = [] then (disk, .ok ())
    else match disk.makeDirectory path with
      | .ok made => (made, .ok ())
      | .error .notFound =>
        match disk.makeChain ancestors with
        | (made, .error e) => (made, .error e)
        | (made, .ok ()) =>
          match made.makeDirectory path with
          | .ok done => (done, .ok ())
          | .error e => (made, if made.isDirectory path then .ok () else .error e)
      | .error e => (disk, if disk.isDirectory path then .ok () else .error e)

/-- Makes a directory and those it lies under, as far as they are missing. -/
def makeDirectories (disk : Disk) (path : Path) : Disk × Except FileError Unit :=
  disk.makeChain path.ancestors

/-- What stands on a disk that did not stand there before, in the order in which it came. -/
def changesSince (disk before : Disk) : List (Place × Item) :=
  disk.items.filter fun (place, item) => before.get? place ≠ some item

end TestExclusions.Disk
