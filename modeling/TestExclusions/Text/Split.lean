/-! Splitting texts, given by their characters or by their bytes, at a separator, and splitting them
into physical lines behind a byte-order mark. A line ends at a line feed, and one carriage return
before the line feed belongs to the ending; text behind the last line feed is a line of its own. -/
namespace TestExclusions.Text

section Separator
variable {α : Type}

/-- The same list of pieces with an element more in front of the first one. -/
def consFirst (a : α) : List (List α) → List (List α)
  | [] => [[a]]
  | piece :: more => (a :: piece) :: more

variable [DecidableEq α]

/-- The pieces between the occurrences of a separator; there is always one. -/
def splitAt (separator : α) : List α → List (List α)
  | [] => [[]]
  | a :: rest =>
    if a = separator then [] :: splitAt separator rest else consFirst a (splitAt separator rest)

/-- Splits at the first occurrence of a separator. -/
def splitFirst? (separator : α) : List α → Option (List α × List α)
  | [] => none
  | a :: rest =>
    if a = separator then some ([], rest)
    else (splitFirst? separator rest).map fun (before, after) => (a :: before, after)

end Separator

/-- Drops one byte-order mark in front. -/
def dropMark : List Char → List Char
  | '\ufeff' :: rest => rest
  | cs => cs

/-- The lines of a text without their endings. -/
def lines : List Char → List (List Char)
  | [] => []
  | '\n' :: rest => [] :: lines rest
  | '\r' :: '\n' :: rest => [] :: lines rest
  | c :: rest => consFirst c (lines rest)

end TestExclusions.Text
