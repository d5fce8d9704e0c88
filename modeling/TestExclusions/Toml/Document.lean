import TestExclusions.Text.Split
import TestExclusions.Toml.Scalar

/-! Documents of TOML: keys, arrays, inline tables, headers and lines. -/
namespace TestExclusions.Toml

/-- Drops the blanks in front. -/
def dropSpaces (cs : List Char) : List Char := cs.dropWhile isTabOrSpace

def isBareKeyChar (c : Char) : Bool := c.isAlphanum || c = '-' || c = '_'

/-- Reads one part of a key. -/
def readKeyPart : Reader String
  | '"' :: rest =>
    (readBasic (rest.length + 1) rest).map fun (key, after) => (String.ofList key, after)
  | '\'' :: rest => (readLiteral rest).map fun (key, after) => (String.ofList key, after)
  | cs =>
    let key := cs.takeWhile isBareKeyChar
    if key.isEmpty then none else some (String.ofList key, cs.dropWhile isBareKeyChar)

/-- Reads the parts of a key, at most as many as `fuel`, and the blanks around them. -/
def readKeyParts : Nat → Reader (List String)
  | 0, _ => none
  | fuel + 1, cs => do
    let (part, rest) ← readKeyPart (dropSpaces cs)
    match dropSpaces rest with
    | '.' :: rest =>
      let (parts, rest) ← readKeyParts fuel rest
      return (part :: parts, rest)
    | rest => return ([part], rest)

/-- Nothing may be nested as deeply as this, and no key may have so many parts. -/
def depthLimit : Nat := 80

/-- Reads a key: the parts before the last dot, and the last one. -/
def readKey : Reader (List String × String) := fun cs => do
  let (parts, rest) ← readKeyParts (cs.length + 1) cs
  guard (parts.length < depthLimit)
  let last ← parts.getLast?
  return ((parts.dropLast, last), rest)

/-- Drops a comment in front. -/
def dropComment : List Char → List Char
  | '#' :: rest => rest.dropWhile isCommentChar
  | cs => cs

/-- Drops blanks, comments and line ends, at most as many lines as `fuel`; a comment has to end
its line. -/
def dropBetween : Nat → List Char → Option (List Char)
  | 0, _ => none
  | fuel + 1, cs =>
    match dropSpaces cs with
    | '#' :: rest => do dropBetween fuel (← dropNewline? (dropComment ('#' :: rest)))
    | '\n' :: rest => dropBetween fuel rest
    | '\r' :: rest => do dropBetween fuel (← dropNewline? ('\r' :: rest))
    | rest => some rest

/-- Blanks, comments and line ends between the elements of an array. -/
def skipBetween : Reader Unit := fun cs =>
  (dropBetween (cs.length + 1) cs).map fun rest => ((), rest)

/-- Reads the elements of an array and its closing bracket; a comma may follow the last one. -/
def readElements (value : Reader Value) : Nat → Reader (List Value)
  | 0, _ => none
  | fuel + 1, cs => do
    let ((), rest) ← skipBetween cs
    if rest.head? = some ']' then return ([], rest.tail)
    let (element, rest) ← value rest
    let ((), rest) ← skipBetween rest
    match rest with
    | ',' :: rest =>
      let (elements, rest) ← readElements value fuel rest
      return (element :: elements, rest)
    | ']' :: rest => return ([element], rest)
    | _ => none

/-- Reads a key, the sign behind it and its value, and the blanks around them. -/
def readPair (value : Reader Value) : Reader ((List String × String) × Value) := fun cs => do
  let (key, rest) ← readKey cs
  let ((), rest) ← skip '=' rest
  let (v, rest) ← value (dropSpaces rest)
  return ((key, v), dropSpaces rest)

/-- Reads the pairs of an inline table and its closing brace, and adds them to a table. -/
def readPairs (value : Reader Value) : Nat → Table → Reader Table
  | 0, _, _ => none
  | fuel + 1, table, cs => do
    let (((path, key), v), rest) ← readPair value cs
    let table ← table.define key v path true
    match rest with
    | ',' :: rest => readPairs value fuel table rest
    | '\x7d' :: rest => return (table, rest)
    | _ => none

/-- Reads an inline table behind its opening brace. -/
def readInline (value : Reader Value) : Reader Table := fun cs =>
  match dropSpaces cs with
  | '\x7d' :: rest => some ([], rest)
  | _ => readPairs value (cs.length + 1) [] cs

/-- Reads a value in which others are nested at most so deeply. -/
def readValue : Nat → Reader Value
  | 0, cs => readScalar cs
  | depth + 1, cs =>
    match cs with
    | '[' :: rest =>
      (readElements (readValue depth) (rest.length + 1) rest).map fun (elements, after) =>
        (.array elements, after)
    | '\x7b' :: rest =>
      (readInline (readValue depth) rest).map fun (entries, after) =>
        (.table .inline entries, after)
    | cs => readScalar cs

/-- Reads the rest of a line, which may hold a comment. -/
def readLineEnd : Reader Unit := fun cs =>
  match dropComment (dropSpaces cs) with
  | [] => some ((), [])
  | rest => (dropNewline? rest).map fun rest => ((), rest)

/-- The header of the table that the next lines belong to. -/
inductive Header where
  /-- The outermost table has none. -/
  | none
  | table (path : List String) (key : String)
  | element (path : List String) (key : String)
  deriving DecidableEq, Repr

/-- A document that has been read in part: all tables but the current one, and that one. -/
structure Draft where
  root : Table
  header : Header
  current : Table

namespace Draft

/-- Puts the current table at its place. -/
def close (draft : Draft) : Table :=
  match draft.header with
  | .none => draft.current
  | .table path key =>
    draft.root.modify (fun parent => parent.set key (.table .header draft.current)) path
  | .element path key =>
    draft.root.modify (fun parent =>
      match parent.get? key with
      | some (.tables elements) => parent.set key (.tables (elements ++ [draft.current]))
      | _ => parent.set key (.tables [draft.current])) path

/-- Opens the table of a header; only one that headers have merely implied may exist already. -/
def openTable (draft : Draft) (path : List String) (key : String) : Option Draft :=
  let root := draft.close
  match root.descend path with
  | some parent =>
    match parent.get? key with
    | none => some ⟨root, .table path key, []⟩
    | some (.table .implied entries) => some ⟨root, .table path key, entries⟩
    | some _ => none
  | none => none

/-- Opens one more table of an array. -/
def openElement (draft : Draft) (path : List String) (key : String) : Option Draft :=
  let root := draft.close
  match root.descend path with
  | some parent =>
    match parent.get? key with
    | none => some ⟨root, .element path key, []⟩
    | some (.tables _) => some ⟨root, .element path key, []⟩
    | some _ => none
  | none => none

end Draft

/-- Reads a header line. -/
def readHeader (draft : Draft) : Reader Draft
  | '[' :: '[' :: rest => do
    let ((path, key), rest) ← readKey rest
    let ((), rest) ← skip ']' rest
    let ((), rest) ← skip ']' rest
    let ((), rest) ← readLineEnd rest
    return (← draft.openElement path key, rest)
  | '[' :: rest => do
    let ((path, key), rest) ← readKey rest
    let ((), rest) ← skip ']' rest
    let ((), rest) ← readLineEnd rest
    return (← draft.openTable path key, rest)
  | _ => none

/-- Reads a line that gives a key a value. -/
def readEntry (draft : Draft) : Reader Draft := fun cs => do
  let (((path, key), value), rest) ← readPair (readValue (depthLimit - 1)) cs
  let ((), rest) ← readLineEnd rest
  let current ← draft.current.define key value path true
  return ({ draft with current := current }, rest)

/-- Reads lines up to the end of a document, at most as many as `fuel`. -/
def readLines : Nat → Draft → List Char → Option Draft
  | 0, _, _ => none
  | fuel + 1, draft, cs =>
    match dropSpaces cs with
    | [] => some draft
    | '[' :: rest => do
      let (draft, rest) ← readHeader draft ('[' :: rest)
      readLines fuel draft rest
    | c :: rest =>
      if c = '#' || c = '\n' || c = '\r' then do
        let ((), rest) ← readLineEnd (c :: rest)
        readLines fuel draft rest
      else do
        let (draft, rest) ← readEntry draft (c :: rest)
        readLines fuel draft rest

/-- The outermost table of a document, if the text is one. -/
def read? (text : List Char) : Option Table :=
  (readLines (text.length + 1) ⟨[], .none, []⟩ (Text.dropMark text)).map Draft.close

def parse? (text : String) : Option Table := read? text.toList

end TestExclusions.Toml
