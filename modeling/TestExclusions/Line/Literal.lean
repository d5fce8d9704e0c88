/-! Quoted literals of exclusion lines. A backslash and the character behind it form a pair; what
a pair denotes depends on the quote. -/
namespace TestExclusions.Line

inductive Quote where
  | single
  | double
  deriving DecidableEq, Repr

namespace Quote

def char : Quote → Char
  | single => '\''
  | double => '"'

/-- The quote that a character opens. -/
def ofChar? : Char → Option Quote
  | '\'' => some single
  | '"' => some double
  | _ => none

/-- The characters that a backslash pair denotes. Between single quotes a pair that is no escape
keeps its backslash; between double quotes it denotes its second character. -/
def unescape : Quote → Char → List Char
  | single, c => if c = '\\' || c = '\'' then [c] else ['\\', c]
  | double, 'n' => ['\n']
  | double, 't' => ['\t']
  | double, 'r' => ['\r']
  | double, '0' => ['\x00']
  | double, 'e' => ['\x1b']
  | double, c => [c]

/-- Reads a literal behind its opening quote: its value and the text behind the closing quote, or
nothing if the literal does not end. -/
def read (quote : Quote) : List Char → Option (List Char × List Char)
  | [] => none
  | '\\' :: c :: rest =>
    (quote.read rest).map fun (value, after) => (quote.unescape c ++ value, after)
  | c :: rest =>
    if c = quote.char then some ([], rest)
    else if c = '\\' then none
    else (quote.read rest).map fun (value, after) => (c :: value, after)

end Quote

/-- How a character is written between double quotes. -/
def escapeDouble : Char → List Char
  | '"' => ['\\', '"']
  | '\\' => ['\\', '\\']
  | '\n' => ['\\', 'n']
  | '\t' => ['\\', 't']
  | '\r' => ['\\', 'r']
  | '\x00' => ['\\', '0']
  | '\x1b' => ['\\', 'e']
  | '#' => ['\\', '#']
  | c => [c]

/-- How a character is written between single quotes. -/
def escapeSingle : Char → List Char
  | '\\' => ['\\', '\\']
  | '\'' => ['\\', '\'']
  | c => [c]

def doubleQuoted (value : List Char) : List Char :=
  '"' :: value.flatMap escapeDouble ++ ['"']

def singleQuoted (value : List Char) : List Char :=
  '\'' :: value.flatMap escapeSingle ++ ['\'']

end TestExclusions.Line
