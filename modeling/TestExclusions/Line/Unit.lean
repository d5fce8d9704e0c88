import TestExclusions.LoadError
import TestExclusions.Line.Reader
import TestExclusions.Text.Split

/-! Units in line format. -/
namespace TestExclusions.Line

/-- Reads lines, the first of which has the given number; fails at the first faulty one. -/
def readLines (number : Nat) : List (List Char) → Except (Nat × Fault) (List Record)
  | [] => .ok []
  | line :: rest =>
    match read line with
    | .error fault => .error (number, fault)
    | .ok none => readLines (number + 1) rest
    | .ok (some record) =>
      (readLines (number + 1) rest).map fun records => record.atLine number :: records

/-- The records of a text, each with the number of its line. -/
def readAll (text : List Char) : Except (Nat × Fault) (List Record) :=
  readLines 1 (Text.lines (Text.dropMark text))

/-- The records of a unit; the label only serves to name the place of a fault. -/
def parseUnit (label text : String) : Except LoadError (List Record) :=
  match readAll text.toList with
  | .ok records => .ok records
  | .error (number, fault) => .error (.malformed ⟨label, some number⟩ (.line fault))

end TestExclusions.Line
