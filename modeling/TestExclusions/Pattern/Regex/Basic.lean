import TestExclusions.Pattern.Lengths
import TestExclusions.Text.NamedSet

/-! Regular expressions and what they match. Only where a match begins and where it ends counts, so
an expression is a table of the lengths of its matches. -/
namespace TestExclusions.Pattern
open Text (CharSet)

/-- What can be asked of a place between two characters. -/
inductive Look where
  | start
  | finish
  | lineStart
  | lineFinish
  /-- As above where a carriage return and a line feed end a line together. -/
  | returnLineStart
  | returnLineFinish
  | wordBoundary (unicode : Bool)
  | notWordBoundary (unicode : Bool)
  | wordStart (unicode : Bool)
  | wordFinish (unicode : Bool)
  /-- No word character stands before. -/
  | wordStartHalf (unicode : Bool)
  /-- No word character stands behind. -/
  | wordFinishHalf (unicode : Bool)
  deriving DecidableEq, Repr

inductive Regex where
  | empty
  | one (set : CharSet)
  | look (look : Look)
  /-- A group whose match would be kept. -/
  | capture (body : Regex)
  | append (first second : Regex)
  | either (first second : Regex)
  | between (least : Nat) (most : Option Nat) (body : Regex)

namespace Look

def isWordChar (unicode : Bool) (c : Option Char) : Bool :=
  c.any fun c =>
    if unicode then CharSet.wordChars.contains c.toNat else CharSet.asciiWordChars.contains c.toNat

/-- Whether a place is as asked for, by the characters before and behind it. -/
def holds (before after : Option Char) : Look → Bool
  | start => before.isNone
  | finish => after.isNone
  | lineStart => before.all (· = '\n')
  | lineFinish => after.all (· = '\n')
  | returnLineStart =>
    before.all (· = '\n') || (before = some '\r' && after ≠ some '\n')
  | returnLineFinish =>
    after.all (· = '\r') || (after = some '\n' && before ≠ some '\r')
  | wordBoundary u => isWordChar u before != isWordChar u after
  | notWordBoundary u => isWordChar u before == isWordChar u after
  | wordStart u => !isWordChar u before && isWordChar u after
  | wordFinish u => isWordChar u before && !isWordChar u after
  | wordStartHalf u => !isWordChar u before
  | wordFinishHalf u => !isWordChar u after

end Look

namespace Regex

/-- The characters before and behind each place of a text. -/
def borders : Option Char → List Char → List (Option Char × Option Char)
  | before, [] => [(before, none)]
  | before, c :: rest => (before, some c) :: borders (some c) rest

/-- The lengths of the matches that begin at each place of a text. -/
def lengths (text : List Char) : Regex → Lengths
  | empty => Lengths.nothing (text.length + 1)
  | one set => Lengths.one (fun c => set.contains c.toNat) text
  | look l => (borders none text).map fun (before, after) => if l.holds before after then 1 else 0
  | capture body => lengths text body
  | append first second => (lengths text first).append (lengths text second)
  | either first second => (lengths text first).either (lengths text second)
  | between least most body =>
    let once := lengths text body
    (once.power least).append (once.upTo (most.map (· - least)))

/-- Whether an expression matches any part of a text. -/
def isMatch (regex : Regex) (text : String) : Bool :=
  (regex.lengths text.toList).any (· ≠ 0)

end Regex
end TestExclusions.Pattern
