import TestExclusions.Sorted
import TestExclusions.Text.Split

/-! Why a text is no regular expression. -/
namespace TestExclusions.Pattern.Regex

inductive Cause where
  | classEscape
  | classRange
  | classRangeLiteral
  | classUnclosed
  | decimalInvalid
  | hexEmpty
  | hexInvalid
  | hexDigit
  | escapeEnd
  | escapeUnknown
  | flagDangling
  | flagDuplicate
  | flagNegationRepeated
  | flagEnd
  | flagUnknown
  | nameDuplicate
  | nameEmpty
  | nameInvalid
  | nameEnd
  | groupUnclosed
  | groupUnopened
  | countRange
  | countDecimal
  | countUnclosed
  | repetitionMissing
  | boundaryUnclosed
  | boundaryUnknown
  | boundaryEnd
  | propertyInvalid
  | backreference
  | lookAround
  | unicodeNotAllowed
  | invalidUtf8
  | propertyUnknown
  | propertyValueUnknown
  /-- Parts are nested in each other more deeply than this. -/
  | nestedTooDeeply (limit : Nat)
  /-- What is made of the whole takes more bytes than this. -/
  | tooLarge (limit : Nat)
  deriving DecidableEq, Repr

namespace Cause

def message : Cause → String
  | classEscape => "invalid escape sequence found in character class"
  | classRange => "invalid character class range, the start must be <= the end"
  | classRangeLiteral => "invalid range boundary, must be a literal"
  | classUnclosed => "unclosed character class"
  | decimalInvalid => "decimal literal invalid"
  | hexEmpty => "hexadecimal literal empty"
  | hexInvalid => "hexadecimal literal is not a Unicode scalar value"
  | hexDigit => "invalid hexadecimal digit"
  | escapeEnd => "incomplete escape sequence, reached end of pattern prematurely"
  | escapeUnknown => "unrecognized escape sequence"
  | flagDangling => "dangling flag negation operator"
  | flagDuplicate => "duplicate flag"
  | flagNegationRepeated => "flag negation operator repeated"
  | flagEnd => "expected flag but got end of regex"
  | flagUnknown => "unrecognized flag"
  | nameDuplicate => "duplicate capture group name"
  | nameEmpty => "empty capture group name"
  | nameInvalid => "invalid capture group character"
  | nameEnd => "unclosed capture group name"
  | groupUnclosed => "unclosed group"
  | groupUnopened => "unopened group"
  | countRange => "invalid repetition count range, the start must be <= the end"
  | countDecimal => "repetition quantifier expects a valid decimal"
  | countUnclosed => "unclosed counted repetition"
  | repetitionMissing => "repetition operator missing expression"
  | boundaryUnclosed =>
    "special word boundary assertion is either unclosed or contains an invalid character"
  | boundaryUnknown =>
    "unrecognized special word boundary assertion, valid choices are: start, end, " ++
      "start-half or end-half"
  | boundaryEnd =>
    "found either the beginning of a special word boundary or a bounded repetition on a \\b " ++
      "with an opening brace, but no closing brace"
  | propertyInvalid => "invalid Unicode character class"
  | backreference => "backreferences are not supported"
  | lookAround => "look-around, including look-ahead and look-behind, is not supported"
  | unicodeNotAllowed => "Unicode not allowed here"
  | invalidUtf8 => "pattern can match invalid UTF-8"
  | propertyUnknown => "Unicode property not found"
  | propertyValueUnknown => "Unicode property value not found"
  | nestedTooDeeply limit =>
    "exceed the maximum number of nested parentheses/brackets (" ++ toString limit ++ ")"
  | tooLarge limit => "Compiled regex exceeds size limit of " ++ toString limit ++ " bytes."

end Cause

/-- The characters of a pattern from one place up to another. -/
structure Span where
  first : Nat
  last : Nat
  deriving DecidableEq, Repr

structure Fault where
  cause : Cause
  /-- Where the fault stands, if it is not one of the whole. -/
  span : Option Span
  /-- Where what the fault contradicts stands. -/
  earlier : Option Span := none
  deriving DecidableEq, Repr

namespace Fault

/-- The line of a place in a pattern and the column in it, both from zero on. -/
def position (pattern : List Char) (place : Nat) : Nat × Nat :=
  let before := pattern.take place
  (before.count '\n', (before.reverse.takeWhile (· ≠ '\n')).length)

/-- Carets below columns, behind what has been drawn so far. -/
def underline (drawn : String) (columns : Nat × Nat) : String :=
  drawn ++ String.ofList (List.replicate (columns.1 - drawn.length) ' ') ++
    String.ofList (List.replicate (max 1 (columns.2 - columns.1)) '^')

/-- The lines of a pattern, each behind a margin, and below them carets at the spans that begin
and end in them. -/
def drawing (pattern : List Char) (margin : Nat → String) (spans : List Span) : String :=
  String.join <| (Text.lines pattern).zipIdx.map fun (line, i) =>
    let columns := spans.filterMap fun span =>
      let first := position pattern span.first
      let last := position pattern span.last
      if first.1 = i && last.1 = i then some (first.2, last.2) else none
    let blank := String.ofList (List.replicate (margin i).length ' ')
    margin i ++ String.ofList line ++ "\n" ++
      if columns.isEmpty then "" else blank ++ columns.foldl underline "" ++ "\n"

/-- The number of a line with blanks before it, so that the last number has none. -/
def lineNumber (lineCount i : Nat) : String :=
  let width := (toString lineCount).length
  let number := toString (i + 1)
  String.ofList (List.replicate (width - number.length) ' ') ++ number ++ ": "

/-- Where a span begins and ends that takes more than one line. -/
def note? (pattern : List Char) (span : Span) : Option String :=
  let first := position pattern span.first
  let last := position pattern span.last
  if first.1 = last.1 then none
  else some <|
    "on line " ++ toString (first.1 + 1) ++ " (column " ++ toString (first.2 + 1) ++
      ") through line " ++ toString (last.1 + 1) ++ " (column " ++ toString last.2 ++ ")"

/-- A pattern with marks where the spans stand; its lines are numbered if there are several. -/
def marked (pattern : List Char) (spans : List Span) : String :=
  if pattern.contains '\n' then
    let lineCount :=
      (Text.lines pattern).length + if pattern.getLast? = some '\n' then 1 else 0
    let divider := String.ofList (List.replicate 79 '~') ++ "\n"
    divider ++ drawing pattern (lineNumber lineCount) spans ++ divider ++
      String.join ((spans.filterMap (note? pattern)).map (· ++ "\n"))
  else drawing pattern (fun _ => "    ") spans

/-- The fault with the pattern, in which its place is marked. -/
def message (fault : Fault) (pattern : String) : String :=
  match fault.span with
  | none => fault.cause.message
  | some span =>
    let spans := Sorted.sort (fun a b => decide (a.first ≤ b.first))
      (fault.earlier.toList ++ [span])
    "regex parse error:\n" ++ marked pattern.toList spans ++ "error: " ++ fault.cause.message

end Fault
end TestExclusions.Pattern.Regex
