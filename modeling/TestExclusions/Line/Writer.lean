import TestExclusions.Line.Literal
import TestExclusions.Line.Symbol
import TestExclusions.Record

/-! Writing exclusion lines: the bare symbol where it can be read back, quotes otherwise. -/
namespace TestExclusions.Line

/-- Whether a character is a control character. -/
def isControl (c : Char) : Bool := c.toNat < 0x20 || (0x7f ≤ c.toNat && c.toNat < 0xa0)

/-- The written form of a test identifier. Double quotes appear only where a control character
has to be escaped. -/
def writeTestId (id : List Char) : List Char :=
  if isBareSymbol id then ':' :: id
  else if id.any isControl then ':' :: doubleQuoted id
  else ':' :: singleQuoted id

/-- One record as a line, without the line ending. -/
def write (record : Record) : List Char :=
  "exclude ".toList ++ writeTestId record.testId.toList ++ ", ".toList ++
    doubleQuoted record.reason.toList

/-- One record as a line of text, without the line ending. -/
def render (record : Record) : String := String.ofList (write record)

/-- Records in order, each on a line of its own. -/
def writeAll (records : List Record) : List Char :=
  records.flatMap fun record => write record ++ ['\n']

def renderAll (records : List Record) : String := String.ofList (writeAll records)

end TestExclusions.Line
