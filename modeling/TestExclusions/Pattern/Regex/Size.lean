import TestExclusions.Pattern.Regex.Basic
import TestExclusions.Text.Utf8Ranges

/-! How much room the automata of an expression take that read UTF-8: one reads a text forward and
notes what groups match, the other one reads it backward. A counted repetition takes the room of its
body as often as it may be needed, and so a short pattern can be too large. -/
namespace TestExclusions.Pattern.Regex
open Text (CharSet ByteRange)

/-- The bytes that the automata of an expression take. -/
structure Size where
  forward : Nat
  backward : Nat
  deriving DecidableEq, Repr

namespace Size

def both (bytes : Nat) : Size := ⟨bytes, bytes⟩

def add (a b : Size) : Size := ⟨a.forward + b.forward, a.backward + b.backward⟩

def times (count : Nat) (a : Size) : Size := ⟨count * a.forward, count * a.backward⟩

/-- A state takes 32 bytes. -/
def states (count : Nat) : Size := both (32 * count)

/-- A state that goes on without reading, to one of so many others. -/
def fork (count : Nat) : Size := both (32 + 4 * count)

/-- A state that reads a byte, of which there are so many kinds. -/
def reading (kinds : Nat) : Nat := 32 + 8 * kinds

/-! ## Sets -/

/-- Sequences sorted by their first ranges: what can follow each of these. -/
def followers : List (List ByteRange) → List (ByteRange × List (List ByteRange))
  | [] => []
  | [] :: rest => followers rest
  | (first :: behind) :: rest =>
    match followers rest with
    | (first', behinds) :: others =>
      if first = first' then (first, behind :: behinds) :: others
      else (first, [behind]) :: (first', behinds) :: others
    | [] => [(first, [behind])]

/-- What can follow at each place of sequences of at most so many bytes, the end apart. -/
def remainders : Nat → List (List ByteRange) → List (List (List ByteRange))
  | 0, _ => []
  | length + 1, sequences =>
    if sequences.all (·.isEmpty) then []
    else sequences :: (followers sequences).flatMap fun (_, behind) => remainders length behind

/-- The automata for one character of a set. Forward, places from which the same can follow are
one state; backward, places that are reached in the same way are. -/
def ofSet (set : CharSet) : Size :=
  let ranges := set.normal
  let sequences := CharSet.utf8Ranges set
  let kinds (place : List (List ByteRange)) : Nat := (followers place).length
  if ranges.map (fun (low, high) => high - low) = [0] then
    states (sequences.flatMap id).length
  else if ranges.all fun (_, high) => high < 128 then both (32 + reading ranges.length)
  else
    let places := remainders 4 sequences
    { forward := 32 + (places.eraseDups.map fun place => reading (kinds place)).foldl (· + ·) 0
      backward := 64 + 4 * sequences.length + 32 * (places.map kinds).foldl (· + ·) 0 }

end Size

/-! ## Expressions -/

/-- Whether all that an expression matches has no characters. -/
def isWidthless : Regex → Bool
  | empty => true
  | one _ => false
  | look _ => true
  | capture body => isWidthless body
  | append first second => isWidthless first && isWidthless second
  | either first second => isWidthless first && isWidthless second
  | between _ most body => most = some 0 || isWidthless body

/-- Whether all that an expression matches has characters. -/
def isSolid : Regex → Bool
  | empty => false
  | one set => !set.isEmpty
  | look _ => false
  | capture body => isSolid body
  | append first second => isSolid first || isSolid second
  | either first second => isSolid first && isSolid second
  | between least _ body => least ≠ 0 && isSolid body

/-- The set of a choice between single characters. -/
def oneOf? : Regex → Option CharSet
  | one set => some set
  | either first second =>
    match oneOf? first, oneOf? second with
    | some a, some b => some (a ++ b)
    | _, _ => none
  | _ => none

/-- The size of a repetition of something that has a size. -/
def Size.repeated (solid : Bool) (least : Nat) (most : Option Nat) (body : Size) : Size :=
  let option := (Size.fork 2).add ((Size.states 1).add body)
  match least, most with
  | 0, none => if solid then (Size.fork 2).add body else (Size.fork 2).add option
  | n + 1, none => (body.times (n + 1)).add (Size.fork 2)
  | 0, some 1 => option
  | 0, some most => (Size.states 2).add ((body.add (Size.fork 2)).times most)
  | least, some most =>
    if least = most then body.times least
    else
      (body.times least).add
        ((Size.states 1).add ((body.add (Size.fork 2)).times (most - least)))

/-- What is known of the branches of a choice. -/
structure Branching where
  count : Nat
  /-- The size of them all without what joins them; what is nothing at all has none. -/
  size : Option Size

namespace Branching

def one (size : Size) : Branching := ⟨1, some size⟩

/-- The size where something has to be. -/
def due (branching : Branching) : Size := branching.size.getD (Size.states 1)

/-- The size of an expression whose branches these are; single characters are one set. -/
def close (regex : Regex) (branching : Branching) : Option Size :=
  if branching.count = 1 then branching.size
  else
    match oneOf? regex with
    | some set => some (Size.ofSet set)
    | none => some (branching.due.add ((Size.fork branching.count).add (Size.states 1)))

end Branching

/-- The branches of an expression, which is a single one if it is no choice. -/
def branching : Regex → Branching
  | empty => ⟨1, none⟩
  | one set => .one (Size.ofSet set)
  | look _ => .one (Size.states 1)
  | capture body =>
    .one ((Size.mk 64 0).add (((branching body).close body).getD (Size.states 1)))
  | append first second =>
    match (branching first).close first, (branching second).close second with
    | some a, some b => .one (a.add b)
    | a, b => ⟨1, a.or b⟩
  | either first second =>
    let a := branching first
    let b := branching second
    ⟨a.count + b.count, some (a.due.add b.due)⟩
  | between least most body =>
    let size := (branching body).close body
    let widthless := isWidthless body
    let least := if widthless then min least 1 else least
    let most := if widthless then some (min (most.getD 1) 1) else most
    if most = some 0 then ⟨1, none⟩
    else if least = 1 && most = some 1 then ⟨1, size⟩
    else .one (Size.repeated (isSolid body) least most (size.getD (Size.states 1)))

/-- The size of an expression, with what begins a match anywhere and what ends it. -/
def size (regex : Regex) : Size :=
  Size.add ⟨208, 144⟩ (((branching regex).close regex).getD (Size.states 1))

/-- How many bytes an automaton may take. -/
def maxSize : Nat := 10485760

def isTooLarge (regex : Regex) : Bool :=
  decide (maxSize < max regex.size.forward regex.size.backward)

end TestExclusions.Pattern.Regex
