import TestExclusions.Path

/-! A disk: what stands at each place, and the directory from which relative paths start. -/
namespace TestExclusions

/-- Why a file operation fails. -/
inductive FileError where
  | notFound
  | alreadyExists
  | notDirectory
  | isDirectory
  | nameTooLong
  | tooManyLinks
  | nulByte
  | notUtf8
  | permissionDenied
  deriving DecidableEq, Repr

namespace FileError

def message : FileError → String
  | notFound => "No such file or directory (os error 2)"
  | alreadyExists => "File exists (os error 17)"
  | notDirectory => "Not a directory (os error 20)"
  | isDirectory => "Is a directory (os error 21)"
  | nameTooLong => "File name too long (os error 36)"
  | tooManyLinks => "Too many levels of symbolic links (os error 40)"
  | nulByte => "file name contained an unexpected NUL byte"
  | notUtf8 => "stream did not contain valid UTF-8"
  | permissionDenied => "Permission denied (os error 13)"

end FileError

/-- The names that lead from the outermost directory to something on a disk. -/
abbrev Place := List Bytes

/-- What can stand at a place. -/
inductive Item where
  | file (content : ByteArray)
  | directory
  | link (target : Path)

instance : DecidableEq Item
  | .file a, .file b =>
    if h : a.data = b.data then isTrue (by cases a; cases b; cases h; rfl)
    else isFalse fun e => h (by cases e; rfl)
  | .directory, .directory => isTrue rfl
  | .link a, .link b =>
    if h : a = b then isTrue (congrArg _ h) else isFalse fun e => h (by cases e; rfl)
  | .file _, .directory => isFalse nofun
  | .file _, .link _ => isFalse nofun
  | .directory, .file _ => isFalse nofun
  | .directory, .link _ => isFalse nofun
  | .link _, .file _ => isFalse nofun
  | .link _, .directory => isFalse nofun

namespace Item

def isFile : Item → Bool
  | file _ => true
  | _ => false

def isDirectory : Item → Bool
  | directory => true
  | _ => false

end Item

/-- Everything that stands on a disk, the outermost directory apart, the working directory, and
the directories whose entries may not be listed. No other permission is refused: every directory
may be entered, every file may be read and written, and there is always room for more. -/
structure Disk where
  home : Place
  items : List (Place × Item)
  unlistable : List Place

namespace Disk

/-- What stands at a place. -/
def get? (disk : Disk) (place : Place) : Option Item :=
  if place = [] then some .directory else disk.items.lookup place

/-- Puts an item at a place, instead of what stood there. -/
def put (disk : Disk) (place : Place) (item : Item) : Disk :=
  { disk with
    items :=
      if disk.items.any (·.1 = place) then
        disk.items.map fun e => if e.1 = place then (place, item) else e
      else disk.items ++ [(place, item)] }

/-- Takes away what stands at a place or below it. -/
def erase (disk : Disk) (place : Place) : Disk :=
  { disk with
    items := disk.items.filter fun e => !place.isPrefixOf e.1
    unlistable := disk.unlistable.filter fun directory => !place.isPrefixOf directory }

/-- Every place but the outermost directory is entered once, and lies in a directory under a name
that a path can enter. Only a directory can be kept from being listed. -/
structure WellFormed (disk : Disk) : Prop where
  nodup : (disk.items.map (·.1)).Nodup
  nonempty : ∀ e ∈ disk.items, e.1 ≠ []
  named : ∀ e ∈ disk.items, ∀ name ∈ e.1, Path.IsName name
  parent : ∀ e ∈ disk.items, disk.get? e.1.dropLast = some .directory
  home : disk.get? disk.home = some .directory
  unlistable : ∀ place ∈ disk.unlistable, disk.get? place = some .directory

instance (disk : Disk) : Decidable disk.WellFormed :=
  decidable_of_iff
    ((disk.items.map (·.1)).Nodup ∧ (∀ e ∈ disk.items, e.1 ≠ []) ∧
      (∀ e ∈ disk.items, ∀ name ∈ e.1, Path.IsName name) ∧
      (∀ e ∈ disk.items, disk.get? e.1.dropLast = some .directory) ∧
      disk.get? disk.home = some .directory ∧
      ∀ place ∈ disk.unlistable, disk.get? place = some .directory)
    ⟨fun ⟨nodup, nonempty, named, parent, home, unlistable⟩ =>
        ⟨nodup, nonempty, named, parent, home, unlistable⟩,
      fun h => ⟨h.nodup, h.nonempty, h.named, h.parent, h.home, h.unlistable⟩⟩

/-- No symbolic link stands at a place or below it. -/
def LinkFreeBelow (disk : Disk) (place : Place) : Prop :=
  ∀ e ∈ disk.items, place <+: e.1 → ∀ target, e.2 ≠ .link target

end Disk
end TestExclusions
