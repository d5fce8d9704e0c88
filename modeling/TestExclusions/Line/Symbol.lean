import TestExclusions.Text.Classes

/-! Bare symbols: test identifiers that need no quotes. -/
namespace TestExclusions.Line

/-- Whether a character may begin a bare symbol. -/
def isSymbolStart (c : Char) : Bool := c = '_' || Text.isAlphabetic c

/-- Whether a character may stand in a word. -/
def isWordChar (c : Char) : Bool := c = '_' || Text.isAlphanumeric c

/-- Whether a character may end a bare symbol, once. -/
def isSymbolMark (c : Char) : Bool := c = '?' || c = '!' || c = '='

/-- Whether an identifier can be written behind a colon without quotes. -/
def isBareSymbol (id : List Char) : Bool :=
  let body := if id.getLast?.any isSymbolMark then id.dropLast else id
  match body with
  | [] => false
  | c :: rest => isSymbolStart c && rest.all isWordChar

/-- Reads the longest bare symbol in front of a text. -/
def readSymbol : List Char → Option (List Char × List Char)
  | [] => none
  | c :: rest =>
    if isSymbolStart c then
      let word := c :: rest.takeWhile isWordChar
      match rest.dropWhile isWordChar with
      | [] => some (word, [])
      | mark :: after => if isSymbolMark mark then some (word ++ [mark], after)
        else some (word, mark :: after)
    else none

end TestExclusions.Line
