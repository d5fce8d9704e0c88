import TestExclusions.Text.Bytes
import TestExclusions.Text.Split

/-! Paths as bytes whose components are separated by slashes. Repeated slashes and components
that stay in place, the first one of a relative path apart, do not count. -/
namespace TestExclusions

structure Path where
  bytes : Bytes
  deriving DecidableEq, Repr

namespace Path

/-- What is shown of a path. -/
def text (path : Path) : String := Text.ofBytes path.bytes

def slash : UInt8 := '/'.toUInt8

def dot : UInt8 := '.'.toUInt8

/-- What one component of a path says; the order of the cases is the order of components. -/
inductive Component where
  | root
  | here
  | up
  | name (name : Bytes)
  deriving DecidableEq, Repr

namespace Component

def rank : Component → Nat
  | root => 0
  | here => 1
  | up => 2
  | name _ => 3

/-- Names follow all other components, in the order of their bytes. -/
def compare : Component → Component → Ordering
  | name a, name b => Ord.compare a b
  | a, b => Ord.compare a.rank b.rank

end Component

/-- What stands between the slashes. -/
def pieces (path : Path) : List Bytes := Text.splitAt slash path.bytes

def isAbsolute (path : Path) : Bool := path.bytes.head? = some slash

/-- What a piece that is not the first one contributes. -/
def componentOf? (piece : Bytes) : Option Component :=
  if piece = [] || piece = [dot] then none
  else if piece = [dot, dot] then some .up
  else some (.name piece)

def components (path : Path) : List Component :=
  match path.pieces with
  | [] => []
  | first :: rest =>
    let start :=
      if path.isAbsolute then some .root
      else if first = [dot] then some .here
      else componentOf? first
    start.toList ++ rest.filterMap componentOf?

/-- Lexicographic order of components. -/
def compareComponents : List Component → List Component → Ordering
  | [], [] => .eq
  | [], _ :: _ => .lt
  | _ :: _, [] => .gt
  | a :: as, b :: bs => (a.compare b).then (compareComponents as bs)

def compare (a b : Path) : Ordering := compareComponents a.components b.components

/-- Whether a path comes before another one or stands level with it. -/
def le (a b : Path) : Bool := (a.compare b).isLE

/-- The name a path ends in, if it ends in a name. -/
def fileName? (path : Path) : Option Bytes :=
  match path.components.getLast? with
  | some (.name name) => some name
  | _ => none

/-- Splits a file name at its last dot, unless that is its first byte. -/
def splitExtension (name : Bytes) : Bytes × Option Bytes :=
  match Text.splitFirst? dot name.reverse with
  | some (extension, stem) =>
    if stem = [] then (name, none) else (stem.reverse, some extension.reverse)
  | none => (name, none)

/-- The part of the file name behind its last dot. -/
def extension? (path : Path) : Option Bytes :=
  path.fileName?.bind fun name => (splitExtension name).2

/-- The components behind those of a root. -/
def below? (root path : Path) : Option (List Component) :=
  if root.components.isPrefixOf path.components then
    some (path.components.drop root.components.length)
  else none

/-- What a path can enter as one component. -/
def IsName (name : Bytes) : Prop :=
  name ≠ [] ∧ name ≠ [dot] ∧ name ≠ [dot, dot] ∧ slash ∉ name

instance (name : Bytes) : Decidable (IsName name) :=
  inferInstanceAs (Decidable (_ ∧ _))

/-- The path of something relative inside a directory; something absolute stands for itself. -/
def push (path : Path) (relative : Bytes) : Path :=
  if relative.head? = some slash then ⟨relative⟩
  else if path.bytes = [] || path.bytes.getLast? = some slash then ⟨path.bytes ++ relative⟩
  else ⟨path.bytes ++ slash :: relative⟩

/-- The path reached by entering names one after the other. -/
def enter (path : Path) (names : List Bytes) : Path := names.foldl push path

/-- Puts pieces together with slashes between them. -/
def ofPieces (pieces : List Bytes) : Path := ⟨List.intercalate [slash] pieces⟩

/-- Drops pieces from the end that add no component. -/
def dropIdle (pieces : List Bytes) : List Bytes :=
  (pieces.reverse.dropWhile fun piece => piece = [] || piece = [dot]).reverse

/-- The path without its last component; the root and the empty path have none. -/
def parent? (path : Path) : Option Path :=
  match path.components with
  | [] => none
  | [.root] => none
  | [_] => some ⟨[]⟩
  | first :: _ =>
    let kept := dropIdle (dropIdle path.pieces).dropLast
    if first = .root && kept = [] then some ⟨[slash]⟩
    else if first = .here && kept = [] then some ⟨[dot]⟩
    else some (ofPieces kept)

/-- The path and those it lies under, the nearest first, down to the given number of steps. -/
def ancestorsWithin (path : Path) : Nat → List Path
  | 0 => [path]
  | steps + 1 =>
    path :: match path.parent? with
      | some parent => parent.ancestorsWithin steps
      | none => []

/-- The path and all those it lies under, the nearest first. -/
def ancestors (path : Path) : List Path := path.ancestorsWithin path.components.length

end Path
end TestExclusions
