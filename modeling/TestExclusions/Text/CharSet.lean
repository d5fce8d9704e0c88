import TestExclusions.Text.Split

/-! Sets of characters as lists of ranges of code points, and tables of them as text: rows separated
by blanks, each of one number or of several with hyphens between them, all hexadecimal. -/
namespace TestExclusions.Text

/-- Whether a code point lies in one of the ranges, both ends included. -/
def inRanges (ranges : List (Nat × Nat)) (code : Nat) : Bool :=
  ranges.any fun (low, high) => low ≤ code && code ≤ high

theorem inRanges_iff {ranges : List (Nat × Nat)} {code : Nat} :
    inRanges ranges code = true ↔ ∃ r ∈ ranges, r.1 ≤ code ∧ code ≤ r.2 := by
  simp [inRanges]

/-- Code points in ranges, ends included; the ranges may overlap and stand in any order. -/
abbrev CharSet := List (Nat × Nat)

namespace CharSet

def single (code : Nat) : CharSet := [(code, code)]

def contains (set : CharSet) (code : Nat) : Bool := inRanges set code

/-- The ranges of a set in increasing order. -/
def ordered (set : CharSet) : CharSet := set.mergeSort fun a b => decide (a.1 ≤ b.1)

/-- Joins ranges in increasing order to the range before them where they touch it. -/
def joined (before : Nat × Nat) : CharSet → CharSet
  | [] => [before]
  | (low, high) :: rest =>
    if low ≤ before.2 + 1 then joined (before.1, max before.2 high) rest
    else before :: joined (low, high) rest

/-- The ranges of a set in increasing order, with a gap between any two. -/
def normal (set : CharSet) : CharSet :=
  match set.ordered with
  | [] => []
  | first :: rest => joined first rest

/-- The code points from `start` up to a limit that lie in none of the ranges, which are in
increasing order. -/
def gaps (limit start : Nat) : CharSet → CharSet
  | [] => if start ≤ limit then [(start, limit)] else []
  | (low, high) :: rest =>
    if start < low then (start, low - 1) :: gaps limit (max start (high + 1)) rest
    else gaps limit (max start (high + 1)) rest

/-- The code points up to a limit that are not in a set. -/
def complement (limit : Nat) (set : CharSet) : CharSet := gaps limit 0 set.ordered

/-- What two ranges share. -/
def overlap? (a b : Nat × Nat) : Option (Nat × Nat) :=
  let low := max a.1 b.1
  let high := min a.2 b.2
  if low ≤ high then some (low, high) else none

def inter (a b : CharSet) : CharSet := a.flatMap fun r => b.filterMap (overlap? r)

/-- The largest code point. -/
def maxCode : Nat := 0x10ffff

def diff (a b : CharSet) : CharSet := inter a (complement maxCode b)

def symmDiff (a b : CharSet) : CharSet := diff a b ++ diff b a

end CharSet

/-! ## Tables -/

/-- The value of a hexadecimal digit in lower case. -/
def digitValue (c : Char) : Nat :=
  if c.isDigit then c.toNat - '0'.toNat else c.toNat - 'a'.toNat + 10

/-- The number that hexadecimal digits denote. -/
def hexValue (digits : List Char) : Nat :=
  digits.foldl (fun n c => n * 16 + digitValue c) 0

/-- The rows of a table whose text is given in lines. -/
def tableRows (lines : List String) : List (List Nat) :=
  lines.flatMap fun line =>
    ((splitAt ' ' line.toList).filter (· ≠ [])).map fun row => (splitAt '-' row).map hexValue

/-- The ranges of a table; a row of one number is a range of one code point. -/
def tableRanges (lines : List String) : CharSet :=
  (tableRows lines).filterMap fun row =>
    match row with
    | [code] => some (code, code)
    | [low, high] => some (low, high)
    | _ => none

end TestExclusions.Text
