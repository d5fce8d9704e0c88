import TestExclusions.Line.Fault
import TestExclusions.Line.Symbol
import TestExclusions.Record
import TestExclusions.Text.Classes

/-! Reading one exclusion line: the keyword, a test identifier, a comma and a reason, with or
without parentheses around the last three. Blank lines and comments declare nothing. -/
namespace TestExclusions.Line
open Text (isBlank dropBlanks)

/-- The word that begins every declaration. -/
def keyword : List Char := ['e', 'x', 'c', 'l', 'u', 'd', 'e']

/-- Reads the keyword in front of a text. -/
def readKeyword (cs : List Char) : Except Fault (List Char) :=
  let word := cs.takeWhile isWordChar
  if word = keyword then .ok (cs.dropWhile isWordChar)
  else if word.isEmpty then .error (.keywordExpected cs)
  else .error (.unknownDirective word)

/-- Reads what separates the keyword from the test identifier, and tells whether it holds an
opening parenthesis. -/
def readOpening (cs : List Char) : Except Fault (Bool × List Char) :=
  match dropBlanks cs with
  | '(' :: rest => .ok (true, dropBlanks rest)
  | rest =>
    if (cs.head?.any isBlank) then .ok (false, rest) else .error (.separatorExpected rest)

/-- Reads a literal behind its opening quote. -/
def readLiteral (quote : Quote) (cs : List Char) : Except Fault (List Char × List Char) :=
  match quote.read cs with
  | some found => .ok found
  | none => .error (.unterminated quote)

/-- Reads a test identifier: a literal, or a colon and a literal or a bare symbol. -/
def readTestId : List Char → Except Fault (List Char × List Char)
  | [] => .error (.testIdExpected [])
  | ':' :: rest =>
    match rest.head?.bind Quote.ofChar? with
    | some quote => readLiteral quote rest.tail
    | none =>
      match readSymbol rest with
      | some found => .ok found
      | none => .error (.symbolExpected rest)
  | c :: rest =>
    match Quote.ofChar? c with
    | some quote => readLiteral quote rest
    | none => .error (.testIdExpected (c :: rest))

/-- Whether a declaration stops here: at the end, a comment or a closing parenthesis. -/
def stops (cs : List Char) : Bool := cs.head?.all fun c => c = '#' || c = ')'

/-- Reads the comma behind a test identifier. -/
def readComma (testId : List Char) : List Char → Except Fault (List Char)
  | ',' :: rest => .ok (dropBlanks rest)
  | cs => .error (if stops cs then .reasonMissing testId else .commaExpected cs)

/-- Reads the reason behind the comma. -/
def readReason (testId cs : List Char) : Except Fault (List Char × List Char) :=
  match cs.head?.bind Quote.ofChar? with
  | some quote => readLiteral quote cs.tail
  | none => .error (if stops cs then .reasonMissing testId else .reasonExpected cs)

/-- Reads the closing parenthesis if one is due. -/
def readClosing : Bool → List Char → Except Fault (List Char)
  | false, cs => .ok cs
  | true, ')' :: rest => .ok rest
  | true, cs => .error (.parenthesisExpected cs)

/-- Accepts the end of a line or a comment. -/
def readEnd (cs : List Char) : Except Fault Unit :=
  if cs.head?.all (· = '#') then .ok () else .error (.trailing cs)

/-- Reads a declaration from a text that begins with neither white space nor a comment. -/
def readDeclaration (cs : List Char) : Except Fault Record := do
  let rest ← readKeyword cs
  let (parenthesised, rest) ← readOpening rest
  let (testId, rest) ← readTestId rest
  let rest ← readComma testId (dropBlanks rest)
  let (reason, rest) ← readReason testId rest
  let rest ← readClosing parenthesised (dropBlanks rest)
  readEnd (dropBlanks rest)
  return ⟨String.ofList testId, String.ofList reason, none⟩

/-- Reads a line: nothing if it is blank or a comment. -/
def read (line : List Char) : Except Fault (Option Record) :=
  match dropBlanks line with
  | [] => .ok none
  | '#' :: _ => .ok none
  | cs => (readDeclaration cs).map some

/-- Reads a line of text. -/
def parse (line : String) : Except Fault (Option Record) := read line.toList

end TestExclusions.Line
