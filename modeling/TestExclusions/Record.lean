/-! One declared exclusion, and the place of a declaration. -/
namespace TestExclusions

/-- A test and the reason to skip it, with the line of the declaration when the unit has lines. -/
structure Record where
  testId : String
  reason : String
  line : Option Nat := none
  deriving DecidableEq, Repr

namespace Record

/-- The same record, declared on the given line. -/
def atLine (record : Record) (line : Nat) : Record := { record with line := some line }

@[simp] theorem testId_atLine (record : Record) (line : Nat) :
    (record.atLine line).testId = record.testId := rfl

@[simp] theorem reason_atLine (record : Record) (line : Nat) :
    (record.atLine line).reason = record.reason := rfl

end Record

/-- A place in a definition: the label of the unit, and a line counted from one when the unit
has lines. -/
structure Location where
  unit : String
  line : Option Nat
  deriving DecidableEq, Repr

namespace Location

/-- The place of exclusions that no unit declares. -/
def inline : Location := ⟨"<inline>", none⟩

/-- The unit, followed by a colon and the line if there is one. -/
def display (location : Location) : String :=
  match location.line with
  | some line => location.unit ++ ":" ++ toString line
  | none => location.unit

end Location
end TestExclusions
