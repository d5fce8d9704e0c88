import TestExclusions.Pattern.Regex.Basic
import TestExclusions.Pattern.Regex.Reader.Basic
import TestExclusions.Text.LetterCase

/-! Reading escapes, and the sets that they and single characters stand for. -/
namespace TestExclusions.Pattern.Regex
open Text (CharSet)
open Reader

/-- An escape or a character that stands for itself. -/
inductive Primitive where
  /-- A character, and whether it was written as a byte of two digits. -/
  | literal (c : Char) (asByte : Bool)
  | set (set : CharSet)
  | look (look : Look)

/-! ## Meanings -/

/-- Notes that a class of bytes holds some that are no characters. -/
def requireAscii (set : CharSet) (first last : Nat) : Reader CharSet := do
  if set.any fun (_, high) => high > 0x7f then object .invalidUtf8 first last
  return set

/-- Adds the other letter case if case does not count, and complements a negated set. -/
def foldAndNegate (negated : Bool) (set : CharSet) (first last : Nat) : Reader CharSet := do
  let flags ← flags
  if flags.unicode then
    let set := if flags.caseless then set.foldCase else set
    return if negated then set.complement CharSet.maxCode else set.normal
  else
    let set := if flags.caseless then set.foldAscii else set
    requireAscii (if negated then set.complement 0xff else set) first last

/-- The set of a character outside of a class. -/
def literalSet (c : Char) (asByte : Bool) (first last : Nat) : Reader CharSet := do
  let flags ← flags
  let set := CharSet.single c.toNat
  if flags.unicode then return if flags.caseless then set.foldCase else set
  if asByte && c.toNat > 0x7f then object .invalidUtf8 first last
  return if flags.caseless && c.toNat ≤ 0x7f then set.foldAscii else set

/-- The code of a character inside a class. -/
def classCode (c : Char) (asByte : Bool) (first last : Nat) : Reader Nat := do
  if !(← flags).unicode && c.toNat > 0x7f then
    object (if asByte then .invalidUtf8 else .unicodeNotAllowed) first last
  return c.toNat

/-- The set that an escaped letter stands for, if it does. -/
def letterClass? (unicode : Bool) : Char → Option (CharSet × Bool)
  | 'd' => some (if unicode then CharSet.digits else CharSet.asciiDigits, false)
  | 's' => some (if unicode then CharSet.blanks else CharSet.asciiBlanks, false)
  | 'w' => some (if unicode then CharSet.wordChars else CharSet.asciiWordChars, false)
  | 'D' => some (if unicode then CharSet.digits else CharSet.asciiDigits, true)
  | 'S' => some (if unicode then CharSet.blanks else CharSet.asciiBlanks, true)
  | 'W' => some (if unicode then CharSet.wordChars else CharSet.asciiWordChars, true)
  | _ => none

/-- The set of the characters for which a property has a value. -/
def valuedSet (property value : List Char) : Except Cause CharSet :=
  match CharSet.values? (CharSet.plainName property) with
  | none =>
    .error <|
      if (CharSet.property? (CharSet.plainName property)).isSome then .propertyValueUnknown
      else .propertyUnknown
  | some values =>
    match values (CharSet.plainName value) with
    | none => .error .propertyValueUnknown
    | some set => .ok set

/-- The set that the text between the braces of a property stands for. -/
def propertySet (negated : Bool) (text : List Char) (first last : Nat) : Reader CharSet := do
  if !(← flags).unicode then
    object .unicodeNotAllowed first last
    return []
  let split (separator : List Char) : Option (List Char × List Char) :=
    (List.range text.length).findSome? fun i =>
      if separator.isPrefixOf (text.drop i) then
        some (text.take i, text.drop (i + separator.length))
      else none
  let named : Except Cause CharSet :=
    match CharSet.named? (CharSet.plainName text) with
    | some set => .ok set
    | none => .error .propertyUnknown
  let (different, result) : Bool × Except Cause CharSet :=
    match split ['!', '='], split [':'], split ['='] with
    | some (property, value), _, _ => (true, valuedSet property value)
    | none, some (property, value), _ => (false, valuedSet property value)
    | none, none, some (property, value) => (false, valuedSet property value)
    | none, none, none => (false, named)
  match result with
  | .ok set => foldAndNegate (negated != different) set first last
  | .error cause =>
    object cause first last
    return []

/-! ## Escapes -/

def hexDigit? (c : Char) : Option Nat :=
  if c.isDigit then some (c.toNat - '0'.toNat)
  else if 'a' ≤ c && c ≤ 'f' then some (c.toNat - 'a'.toNat + 10)
  else if 'A' ≤ c && c ≤ 'F' then some (c.toNat - 'A'.toNat + 10)
  else none

/-- The character of a number, if it has one. -/
def charOf (n : Nat) (first last : Nat) : Reader Char :=
  if n.isValidChar then return Char.ofNat n else fail .hexInvalid first last

/-- Reads so many hexadecimal digits; the first one is not at the end. -/
def readHexDigits : Nat → Nat → Reader Nat
  | 0, n => return n
  | count + 1, n => do
    let place ← place
    match ← peek with
    | none => fail .escapeEnd place place
    | some c =>
      match hexDigit? c with
      | none => fail .hexDigit place (place + 1)
      | some d =>
        advance
        readHexDigits count (n * 16 + d)

/-- Reads hexadecimal digits up to a closing brace; tells whether there were any. -/
def readHexBraced (brace : Nat) : Nat → Bool → Nat → Reader (Bool × Nat)
  | 0, _, _ => fail .escapeEnd brace brace
  | fuel + 1, any, n => do
    let place ← place
    match ← peek with
    | none => fail .escapeEnd brace place
    | some '\x7d' => return (any, n)
    | some c =>
      match hexDigit? c with
      | none => fail .hexDigit place (place + 1)
      | some d =>
        advance
        readHexBraced brace fuel true (n * 16 + d)

/-- Reads a character given by its number; the letter tells how many digits it has. -/
def readHex (letter : Char) : Reader Primitive := do
  advance
  let start ← place
  match ← peek with
  | none => fail .escapeEnd start start
  | some '\x7b' =>
    advance
    let fuel := (← get).rest.length + 1
    let (any, n) ← readHexBraced start fuel false 0
    let finish ← place
    advance
    if any then return .literal (← charOf n (start + 1) finish) false
    else fail .hexEmpty start (← place)
  | some _ =>
    let count := if letter = 'x' then 2 else if letter = 'u' then 4 else 8
    let n ← readHexDigits count 0
    return .literal (← charOf n start (start + count)) (letter = 'x')

/-- Collects what stands before a closing brace. -/
def readBraced : Nat → Reader (List Char)
  | 0 => do fail .escapeEnd (← place) (← place)
  | fuel + 1 => do
    match ← peek with
    | none => fail .escapeEnd (← place) (← place)
    | some '\x7d' => return []
    | some c =>
      advance
      return c :: (← readBraced fuel)

/-- Reads a property behind its letter. -/
def readProperty (start : Nat) (negated : Bool) : Reader Primitive := do
  advance
  match ← peek with
  | none => fail .escapeEnd (← place) (← place)
  | some '\x7b' =>
    advance
    let text ← readBraced ((← get).rest.length + 1)
    drop 1
    return .set (← propertySet negated text start (← place))
  | some c =>
    if c = '\\' then fail .propertyInvalid (← place) ((← place) + 1)
    advance
    return .set (← propertySet negated [c] start (← place))

/-- Whether a character may stand in the name of a word boundary. -/
def isBoundaryChar (c : Char) : Bool := c.isAlpha || c = '-'

/-- Collects the characters of the name of a word boundary. -/
def readBoundaryName : Nat → Reader (List Char)
  | 0 => return []
  | fuel + 1 => do
    match ← peek with
    | some c =>
      if isBoundaryChar c then
        advance
        return c :: (← readBoundaryName fuel)
      else return []
    | none => return []

/-- Reads what may follow the letter of a word boundary in braces; a count is left. -/
def readBoundary (start : Nat) : Reader Look := do
  let unicode := (← flags).unicode
  let before ← get
  let brace ← place
  if (← peek) ≠ some '\x7b' then return .wordBoundary unicode
  advance
  let contents ← place
  match ← peek with
  | none => fail .boundaryEnd start contents
  | some c =>
    if !isBoundaryChar c then
      set before
      return .wordBoundary unicode
    let name ← readBoundaryName ((← get).rest.length + 1)
    let finish ← place
    if (← peek) ≠ some '\x7d' then fail .boundaryUnclosed brace finish
    drop 1
    match String.ofList name with
    | "start" => return .wordStart unicode
    | "end" => return .wordFinish unicode
    | "start-half" => return .wordStartHalf unicode
    | "end-half" => return .wordFinishHalf unicode
    | _ => fail .boundaryUnknown contents finish

/-- Whether a character behind a backslash stands for itself. -/
def isEscapable (c : Char) : Bool :=
  c.toNat < 128 && !c.isAlphanum && c ≠ '<' && c ≠ '>'

/-- Reads an escape. -/
def readEscape : Reader Primitive := do
  let start ← place
  drop 1
  match ← peek with
  | none => fail .escapeEnd start (← place)
  | some c =>
    let unicode := (← flags).unicode
    if c.isDigit then fail .backreference start ((← place) + 1)
    else if c = 'x' || c = 'u' || c = 'U' then readHex c
    else if c = 'p' || c = 'P' then readProperty start (c = 'P')
    else
      drop 1
      let finish ← place
      match letterClass? unicode c with
      | some (set, negated) =>
        if unicode then
          return .set (if negated then set.complement CharSet.maxCode else set)
        else
          return .set (← requireAscii (if negated then set.complement 0xff else set) start finish)
      | none =>
        if isEscapable c then return .literal c false
        match c with
        | 'a' => return .literal '\x07' false
        | 'f' => return .literal '\x0c' false
        | 't' => return .literal '\t' false
        | 'n' => return .literal '\n' false
        | 'r' => return .literal '\r' false
        | 'v' => return .literal '\x0b' false
        | 'A' => return .look .start
        | 'z' => return .look .finish
        | 'b' => return .look (← readBoundary start)
        | 'B' => return .look (.notWordBoundary unicode)
        | '<' => return .look (.wordStart unicode)
        | '>' => return .look (.wordFinish unicode)
        | _ => fail .escapeUnknown start finish

end TestExclusions.Pattern.Regex
