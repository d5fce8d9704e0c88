/-! Why a JSON text is not accepted. -/
namespace TestExclusions.Json

inductive Fault where
  /-- The text breaks the grammar of JSON. -/
  | malformed
  /-- The text ends too early. -/
  | truncated
  /-- The text is JSON so far, but not of the shape asked for. -/
  | mismatched
  deriving DecidableEq, Repr

/-- Reads a value from the front of a text and returns what stands behind it. -/
abbrev Decoder (α : Type) := StateT (List Char) (Except Fault) α

/-- What the end of a text, or else any other character, means where neither is allowed. -/
def faultAt : List Char → Fault
  | [] => .truncated
  | _ :: _ => .malformed

/-- The white space of JSON. -/
def isSpace (c : Char) : Bool := c = ' ' || c = '\n' || c = '\t' || c = '\r'

def skipSpace (cs : List Char) : List Char := cs.dropWhile isSpace

/-- Reads given characters. -/
def expect : List Char → Decoder Unit
  | [], cs => .ok ((), cs)
  | _ :: _, [] => .error .truncated
  | e :: es, c :: cs => if c = e then expect es cs else .error .malformed

end TestExclusions.Json
