import TestExclusions.Json.Quoted
import TestExclusions.Toml.Basic

/-! Strings of TOML: basic ones with escapes and literal ones without, each on one line or on
several. -/
namespace TestExclusions.Toml
open Json (hexDigit?)

/-- Whether a character may stand in a comment: a tab, a printable one or one beyond ASCII. -/
def isCommentChar (c : Char) : Bool := c = '\t' || (0x20 ≤ c.toNat && c.toNat ≠ 0x7f)

/-- The number that hexadecimal digits denote. -/
def hexNumber? (digits : List Char) : Option Nat :=
  digits.foldlM (fun n c => (hexDigit? c).map (n * 16 + ·)) 0

/-- The character of a number, if it has one. -/
def charOf? (n : Nat) : Option Char := if n.isValidChar then some (Char.ofNat n) else none

def shortEscape? : Char → Option Char
  | 'b' => some '\x08'
  | 'f' => some '\x0c'
  | 'n' => some '\n'
  | 'r' => some '\r'
  | 't' => some '\t'
  | '"' => some '"'
  | '\\' => some '\\'
  | _ => none

/-- Reads an escape behind its backslash. -/
def readEscape : Reader Char
  | 'u' :: a :: b :: c :: d :: rest =>
    ((hexNumber? [a, b, c, d]).bind charOf?).map fun char => (char, rest)
  | 'U' :: a :: b :: c :: d :: e :: f :: g :: h :: rest =>
    ((hexNumber? [a, b, c, d, e, f, g, h]).bind charOf?).map fun char => (char, rest)
  | c :: rest => (shortEscape? c).map fun char => (char, rest)
  | [] => none

/-- Reads a basic string behind its opening quote, at most as many characters as `fuel`. -/
def readBasic : Nat → Reader (List Char)
  | 0, _ => none
  | _ + 1, [] => none
  | _ + 1, '"' :: rest => some ([], rest)
  | fuel + 1, '\\' :: rest => do
    let (char, rest) ← readEscape rest
    let (value, rest) ← readBasic fuel rest
    return (char :: value, rest)
  | fuel + 1, c :: rest => do
    guard (isCommentChar c)
    let (value, rest) ← readBasic fuel rest
    return (c :: value, rest)

/-- Reads a literal string behind its opening quote. -/
def readLiteral : Reader (List Char)
  | [] => none
  | '\'' :: rest => some ([], rest)
  | c :: rest =>
    if isCommentChar c then (readLiteral rest).map fun (value, after) => (c :: value, after)
    else none

def isTabOrSpace (c : Char) : Bool := c = ' ' || c = '\t'

/-- Drops blanks and line ends; a carriage return counts only before a line feed. -/
def dropLines : List Char → List Char
  | '\r' :: '\n' :: rest => dropLines rest
  | c :: rest => if c = '\n' || isTabOrSpace c then dropLines rest else c :: rest
  | [] => []

/-- Drops one line end. -/
def dropNewline? : List Char → Option (List Char)
  | '\n' :: rest => some rest
  | '\r' :: '\n' :: rest => some rest
  | _ => none

/-- Whether a string goes on behind quotes that do not end it: up to two more quotes belong to
its value when three quotes follow them. Returns the quotes and the text behind the end, or
nothing if the string goes on. -/
def closing (quote : Char) (cs : List Char) : Option (List Char × List Char) :=
  let run := (cs.takeWhile (· = quote)).length
  if run < 3 then none
  else
    let extra := min (run - 3) 2
    some (List.replicate extra quote, cs.drop (extra + 3))

/-- Reads a basic string of several lines behind its opening quotes. -/
def readLongBasic : Nat → Reader (List Char)
  | 0, _ => none
  | fuel + 1, cs =>
    match closing '"' cs with
    | some found => some found
    | none =>
      match cs with
      | [] => none
      | '\\' :: rest =>
        match dropNewline? (rest.dropWhile isTabOrSpace) with
        | some after => readLongBasic fuel (dropLines after)
        | none => do
          let (char, rest) ← readEscape rest
          let (value, rest) ← readLongBasic fuel rest
          return (char :: value, rest)
      | c :: rest =>
        match dropNewline? (c :: rest) with
        | some after => (readLongBasic fuel after).map fun (value, rest) => ('\n' :: value, rest)
        | none => do
          guard (isCommentChar c)
          let (value, rest) ← readLongBasic fuel rest
          return (c :: value, rest)

/-- Reads a literal string of several lines behind its opening quotes. -/
def readLongLiteral : Nat → Reader (List Char)
  | 0, _ => none
  | fuel + 1, cs =>
    match closing '\'' cs with
    | some found => some found
    | none =>
      match cs with
      | [] => none
      | c :: rest =>
        match dropNewline? (c :: rest) with
        | some after =>
          (readLongLiteral fuel after).map fun (value, rest) => ('\n' :: value, rest)
        | none => do
          guard (isCommentChar c)
          let (value, rest) ← readLongLiteral fuel rest
          return (c :: value, rest)

/-- Drops the line end that may follow the opening quotes of a long string. -/
def dropFirstNewline (cs : List Char) : List Char := (dropNewline? cs).getD cs

/-- Reads a string of any kind. -/
def readString : Reader (List Char)
  | '"' :: '"' :: '"' :: rest => readLongBasic (rest.length + 1) (dropFirstNewline rest)
  | '"' :: rest => readBasic (rest.length + 1) rest
  | '\'' :: '\'' :: '\'' :: rest => readLongLiteral (rest.length + 1) (dropFirstNewline rest)
  | '\'' :: rest => readLiteral rest
  | _ => none

end TestExclusions.Toml
