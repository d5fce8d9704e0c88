import TestExclusions.Pattern.Regex.Fault
import TestExclusions.Text.Classes

/-! The state of reading a regular expression, and the steps from one character to the next. -/
namespace TestExclusions.Pattern.Regex

/-- How the text that follows is understood. -/
structure Flags where
  caseless : Bool := false
  multiLine : Bool := false
  dotAll : Bool := false
  unicode : Bool := true
  returns : Bool := false
  spaced : Bool := false
  deriving DecidableEq, Repr

/-- What is left of a pattern and what has been learned from the part before. -/
structure State where
  rest : List Char
  /-- The number of characters read. -/
  place : Nat := 0
  flags : Flags := {}
  names : List (List Char × Span) := []
  /-- The first fault of the meaning. -/
  unmeant : Option Fault := none

abbrev Reader (α : Type) := StateT State (Except Fault) α

namespace Reader

def fail {α : Type} (cause : Cause) (first last : Nat) : Reader α :=
  throw ⟨cause, some ⟨first, last⟩, none⟩

/-- Notes a fault of the meaning. -/
def object (cause : Cause) (first last : Nat) : Reader Unit :=
  modify fun s => { s with unmeant := s.unmeant.or (some ⟨cause, some ⟨first, last⟩, none⟩) }

def peek : Reader (Option Char) := return (← get).rest.head?

def place : Reader Nat := return (← get).place

def flags : Reader Flags := return (← get).flags

def setFlags (flags : Flags) : Reader Unit := modify fun s => { s with flags := flags }

def drop (count : Nat) : Reader Unit :=
  modify fun s => { s with
    rest := s.rest.drop count, place := s.place + min count s.rest.length }

/-- The number of characters that white space and comments take. -/
def spaceLength (comment : Bool) : List Char → Nat
  | [] => 0
  | c :: rest =>
    if comment then spaceLength (c ≠ '\n') rest + 1
    else if Text.isBlank c then spaceLength false rest + 1
    else if c = '#' then spaceLength true rest + 1
    else 0

/-- Drops white space and comments where they do not count. -/
def dropSpace : Reader Unit := do
  let s ← get
  if s.flags.spaced then drop (spaceLength false s.rest)

/-- Drops a character and the white space behind it. -/
def advance : Reader Unit := do
  drop 1
  dropSpace

/-- Drops a text if it comes next. -/
def dropIf (text : String) : Reader Bool := do
  if text.toList.isPrefixOf (← get).rest then
    drop text.length
    return true
  else return false

/-- The number of characters that white space takes; one number sign in it counts as such, but
what it begins as a comment does not. -/
def hyphenSpaceLength (signed : Bool) : List Char → Nat
  | [] => 0
  | c :: rest =>
    if Text.isBlank c then hyphenSpaceLength signed rest + 1
    else if !signed && c = '#' then hyphenSpaceLength true rest + 1
    else 0

/-- The character behind a hyphen in a class, which decides whether it joins two ends of a range;
white space apart where it does not count. -/
def peekBehindHyphen : Reader (Option Char) := do
  let s ← get
  let rest := s.rest.tail
  return (if s.flags.spaced then rest.drop (hyphenSpaceLength false rest) else rest).head?

end Reader
end TestExclusions.Pattern.Regex
