import TestExclusions.Pattern.Regex.Outline
import TestExclusions.Pattern.Regex.Reader.Escape

/-! Reading classes of characters in brackets, with the operators between the sets in them. -/
namespace TestExclusions.Pattern.Regex
open Text (CharSet)
open Reader

inductive SetOperator where
  | inter
  | diff
  | symmDiff

/-- What an operator makes of the sets before and behind it. -/
def applyOperator (caseless unicode : Bool) (operator : SetOperator) (a b : CharSet) : CharSet :=
  let fold (set : CharSet) : CharSet :=
    if !caseless then set else if unicode then set.foldCase else set.foldAscii
  match operator with
  | .inter => CharSet.inter (fold a) (fold b)
  | .diff => CharSet.diff (fold a) (fold b)
  | .symmDiff => CharSet.symmDiff (fold a) (fold b)

/-- The members of a class that stand side by side. -/
structure Members where
  set : CharSet := []
  count : Nat := 0
  span : Span
  outlines : List Outline := []

namespace Members

/-- No members, at a place. -/
def emptyAt (place : Nat) : Members := { span := ⟨place, place⟩ }

/-- Adds a member behind the others. -/
def push (members : Members) (set : CharSet) (span : Span) (outline : Option Outline) : Members where
  set := set ++ members.set
  count := members.count + 1
  span := if members.count = 0 then span else ⟨members.span.first, span.last⟩
  outlines := members.outlines ++ outline.toList

end Members

/-- What stands before or behind an operator, or is all of a class. -/
structure Operand where
  set : CharSet
  span : Span
  outline : Option Outline

/-- Members side by side as an operand. -/
def Operand.ofMembers (members : Members) : Operand where
  set := members.set
  span := members.span
  outline := Outline.sequence? members.span members.count members.outlines

/-- The operand before an operator, if there is one, joined to the members behind it. -/
def closeOperand (before : Option (SetOperator × Operand)) (members : Members) :
    Reader Operand := do
  let flags ← flags
  let last := Operand.ofMembers members
  match before with
  | none => return last
  | some (operator, first) =>
    let span := ⟨first.span.first, last.span.last⟩
    return {
      set := applyOperator flags.caseless flags.unicode operator first.set last.set
      span := span
      outline := some (.node span (first.outline.toList ++ last.outline.toList)) }

/-- Reads a class that is named between colons, if there is one. -/
def readNamedClass : Reader (Option CharSet) := do
  let start ← place
  match (← get).rest with
  | '[' :: ':' :: body =>
    let (negated, name) :=
      match body with
      | '^' :: name => (true, name)
      | name => (false, name)
    let name := name.takeWhile (· ≠ ':')
    let length := 2 + (if negated then 1 else 0) + name.length
    match CharSet.asciiClass? (String.ofList name), ((← get).rest.drop length).take 2 with
    | some set, [':', ']'] =>
      drop (length + 2)
      return some (← foldAndNegate negated set start (← place))
    | _, _ => return none
  | _ => return none

/-- Reads a character or an escape inside a class. -/
def readClassItem : Reader Primitive := do
  match ← peek with
  | some '\\' => readEscape
  | some c =>
    drop 1
    return .literal c false
  | none => fail .classUnclosed (← place) (← place)

/-- Reads a character, a range of characters or an escape inside a class whose opening stands at
the given place. -/
def readClassRange (opening : Span) : Reader CharSet := do
  let start ← place
  let first ← readClassItem
  let firstEnd ← place
  dropSpace
  let next ← peek
  if next.isNone then fail .classUnclosed opening.first opening.last
  let second ← peekBehindHyphen
  if next ≠ some '-' || second = some ']' || second = some '-' then
    match first with
    | .literal c asByte => return CharSet.single (← classCode c asByte start firstEnd)
    | .set set => return set
    | .look _ => fail .classEscape start firstEnd
  advance
  if (← peek).isNone then fail .classUnclosed opening.first opening.last
  let lastStart ← place
  let last ← readClassItem
  let lastEnd ← place
  match first, last with
  | .literal a aByte, .literal b bByte =>
    if a.toNat > b.toNat then fail .classRange start lastEnd
    return [(← classCode a aByte start firstEnd, ← classCode b bByte lastStart lastEnd)]
  | .literal .., _ => fail .classRangeLiteral lastStart lastEnd
  | _, _ => fail .classRangeLiteral start firstEnd

/-- Reads hyphens at the beginning of a class. -/
def readHyphens (start : Nat) : Nat → Members → Reader Members
  | 0, members => return members
  | fuel + 1, members => do
    let here ← place
    if (← peek) = some '-' then
      advance
      if (← peek).isNone then fail .classUnclosed start start
      readHyphens start fuel
        (members.push (CharSet.single '-'.toNat) ⟨here, here + 1⟩ none)
    else return members

mutual

/-- Reads a class, others nested in it at most so deeply. -/
def readClass : Nat → Reader Operand
  | 0 => do fail .classUnclosed (← place) (← place)
  | fuel + 1 => do
    let start ← place
    advance
    if (← peek).isNone then fail .classUnclosed start (← place)
    let negated := (← peek) = some '^'
    if negated then
      advance
      if (← peek).isNone then fail .classUnclosed start (← place)
    let hyphens ← readHyphens start (← get).rest.length (.emptyAt (← place))
    let here ← place
    let members ←
      if hyphens.count = 0 && (← peek) = some ']' then
        advance
        if (← peek).isNone then fail .classUnclosed start (← place)
        pure (hyphens.push (CharSet.single ']'.toNat) ⟨here, here + 1⟩ none)
      else pure hyphens
    let whole ← readClassBody fuel ⟨start, ← place⟩ none members
    let span := ⟨start, ← place⟩
    return {
      set := ← foldAndNegate negated whole.set span.first span.last
      span := span
      outline := some (.node span whole.outline.toList) }

/-- Reads the members of a class and its closing bracket. -/
def readClassBody : Nat → Span → Option (SetOperator × Operand) → Members → Reader Operand
  | 0, opening, _, _ => fail .classUnclosed opening.first opening.last
  | fuel + 1, opening, before, members => do
    dropSpace
    let here ← place
    let behind (operator : SetOperator) : Reader Operand := do
      drop 2
      let operand ← closeOperand before members
      readClassBody fuel opening (some (operator, operand)) (.emptyAt (← place))
    let beside (set : CharSet) (outline : Option Outline) : Reader Operand := do
      readClassBody fuel opening before (members.push set ⟨here, ← place⟩ outline)
    match (← get).rest with
    | [] => fail .classUnclosed opening.first opening.last
    | ']' :: _ =>
      drop 1
      closeOperand before members
    | '[' :: _ =>
      match ← readNamedClass with
      | some set => beside set none
      | none =>
        let inner ← readClass fuel
        beside inner.set inner.outline
    | '&' :: '&' :: _ => behind .inter
    | '-' :: '-' :: _ => behind .diff
    | '~' :: '~' :: _ => behind .symmDiff
    | _ =>
      let set ← readClassRange opening
      beside set none

end

end TestExclusions.Pattern.Regex
