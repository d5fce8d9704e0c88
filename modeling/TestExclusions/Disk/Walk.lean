import TestExclusions.Disk.Basic

/-! Following paths on a disk, symbolic links included. -/
namespace TestExclusions

/-- One move along a path. -/
inductive Move where
  | stay
  | up
  | enter (name : Bytes)
  /-- Goes nowhere, at the end of a path that can only name a directory. -/
  | close
  deriving DecidableEq, Repr

namespace Path

/-- What a piece of a path asks for. -/
def moveOf (piece : Bytes) : Move :=
  if piece = [dot] then .stay
  else if piece = [dot, dot] then .up
  else .enter piece

/-- The pieces that are not empty. -/
def words (path : Path) : List Bytes := path.pieces.filter (· ≠ [])

/-- Whether a slash stands at the end, so that the path can only name a directory. -/
def endsInSlash (path : Path) : Bool := path.bytes.getLast? = some slash

/-- The moves along a path; a slash at the end closes it. -/
def moves (path : Path) : List Move :=
  path.words.map moveOf ++ if path.endsInSlash then [.close] else []

/-- The most bytes that a path may have. -/
def maxBytes : Nat := 4095

/-- The most bytes that a name may have. -/
def maxNameBytes : Nat := 255

/-- Why a path is turned down before any directory is looked at. -/
def refusal? (path : Path) : Option FileError :=
  if path.bytes = [] then some .notFound
  else if path.bytes.contains 0 then some .nulByte
  else if path.bytes.length > maxBytes then some .nameTooLong
  else none

end Path

/-- Where a path leads: to an item, or to a name that is free in a directory and that a slash may
have closed. -/
inductive Spot where
  | taken (place : Place)
  | free (directory : Place) (name : Bytes) (closed : Bool)
  deriving DecidableEq, Repr

namespace Disk

/-- The directory from which a path starts when it is met in another directory. -/
def start (here : Place) (path : Path) : Place := if path.isAbsolute then [] else here

/-- Makes moves one after the other; `follow` goes on behind a symbolic link. -/
def walkWith (disk : Disk) (follow : Place → List Move → Except FileError Spot) :
    Place → List Move → Except FileError Spot
  | here, [] => .ok (.taken here)
  | here, move :: rest =>
    if disk.get? here ≠ some .directory then .error .notDirectory
    else match move with
      | .stay | .close => walkWith disk follow here rest
      | .up => walkWith disk follow here.dropLast rest
      | .enter name =>
        if name.length > Path.maxNameBytes then .error .nameTooLong
        else match disk.get? (here ++ [name]) with
          | some (.link target) => follow (start here target) (target.moves ++ rest)
          | some _ => walkWith disk follow (here ++ [name]) rest
          | none =>
            if rest = [] then .ok (.free here name false)
            else if rest = [.close] then .ok (.free here name true)
            else .error .notFound

/-- Makes moves, following at most the given number of links. -/
def walk (disk : Disk) : Nat → Place → List Move → Except FileError Spot
  | 0 => disk.walkWith fun _ _ => .error .tooManyLinks
  | links + 1 => disk.walkWith (disk.walk links)

/-- The most symbolic links that one path may lead through. -/
def maxLinks : Nat := 40

/-- Where moves from the start of a path lead. -/
def locateMoves (disk : Disk) (path : Path) (moves : List Move) : Except FileError Spot :=
  match path.refusal? with
  | some e => .error e
  | none => disk.walk maxLinks (start disk.home path) moves

/-- Where a path leads. -/
def locate (disk : Disk) (path : Path) : Except FileError Spot :=
  disk.locateMoves path path.moves

/-- The place of an existing item. -/
def find (disk : Disk) (path : Path) : Except FileError Place :=
  match disk.locate path with
  | .ok (.taken place) => .ok place
  | .ok (.free ..) => .error .notFound
  | .error e => .error e

/-- The directory in which the last piece of a path is looked up. -/
def findParent (disk : Disk) (path : Path) : Except FileError Place :=
  match disk.locateMoves path (path.words.dropLast.map Path.moveOf ++ [.stay]) with
  | .ok (.taken place) => .ok place
  | .ok (.free ..) => .error .notFound
  | .error e => .error e

/-- The place of the directory that a path leads to. -/
def directory? (disk : Disk) (path : Path) : Option Place :=
  match disk.find path with
  | .ok place => if disk.get? place = some .directory then some place else none
  | .error _ => none

def isDirectory (disk : Disk) (path : Path) : Bool := (disk.directory? path).isSome

/-- Opens the directory that a path leads to, so that what is in it can be listed. -/
def openDirectory (disk : Disk) (path : Path) : Except FileError Place :=
  match disk.find path with
  | .error e => .error e
  | .ok place =>
    if disk.get? place ≠ some .directory then .error .notDirectory
    else if place ∈ disk.unlistable then .error .permissionDenied
    else .ok place

/-- The content of the file that a path leads to. -/
def read (disk : Disk) (path : Path) : Except FileError ByteArray :=
  match disk.find path with
  | .error e => .error e
  | .ok place =>
    match disk.get? place with
    | some (.file content) => .ok content
    | _ => .error .isDirectory

/-- The text of the file that a path leads to. -/
def readText (disk : Disk) (path : Path) : Except FileError String :=
  match disk.read path with
  | .error e => .error e
  | .ok content =>
    match String.fromUTF8? content with
    | some text => .ok text
    | none => .error .notUtf8

end Disk
end TestExclusions
