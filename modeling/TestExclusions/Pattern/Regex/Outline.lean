import TestExclusions.Pattern.Regex.Fault

/-! How the parts of a pattern are nested in each other. -/
namespace TestExclusions.Pattern.Regex

/-- A part that holds others, with those of them that hold others in turn. -/
inductive Outline where
  | node (span : Span) (inner : List Outline)

namespace Outline

mutual

/-- The first part that lies deeper than so many parts around it, itself counted. -/
def beyond? : Nat → Outline → Option Span
  | 0, node span _ => some span
  | limit + 1, node _ inner => firstBeyond? limit inner

/-- The first of several parts, or of the parts in them, that lies too deep. -/
def firstBeyond? : Nat → List Outline → Option Span
  | _, [] => none
  | limit, outline :: rest => (beyond? limit outline).or (firstBeyond? limit rest)

end

/-- The outline of a sequence: one that has a single member is that member. -/
def sequence? (span : Span) (count : Nat) (inner : List Outline) : Option Outline :=
  if count ≤ 1 then inner.head? else some (node span inner)

end Outline

/-- How many parts may lie around each other. -/
def maxNesting : Nat := 250

end TestExclusions.Pattern.Regex
