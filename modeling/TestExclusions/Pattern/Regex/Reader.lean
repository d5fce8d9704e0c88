import TestExclusions.Pattern.Regex.Reader.Class
import TestExclusions.Pattern.Regex.Size
import TestExclusions.Text.Classes

/-! Reading regular expressions. Faults of the form come first, then too deep a nesting, then faults
of the meaning, such as an unknown property, and last the size of the whole; among faults of one
kind the first one counts. -/
namespace TestExclusions.Pattern.Regex
open Text (CharSet)
open Reader

/-! ## Groups -/

/-- What one letter does to the flags. -/
def changeFlag? (on : Bool) (flags : Flags) : Char → Option Flags
  | 'i' => some { flags with caseless := on }
  | 'm' => some { flags with multiLine := on }
  | 's' => some { flags with dotAll := on }
  | 'u' => some { flags with unicode := on }
  | 'R' => some { flags with returns := on }
  | 'x' => some { flags with spaced := on }
  | 'U' => some flags
  | _ => none

/-- Reads flags up to a colon or a closing parenthesis; `seen` holds the letters before and where
they stand. -/
def readFlags : Nat → Flags → List (Char × Nat) → Reader (Flags × Bool)
  | 0, _, _ => do fail .flagEnd (← place) (← place)
  | fuel + 1, changed, seen => do
    let here ← place
    match ← peek with
    | none => fail .flagEnd here here
    | some c =>
      if c = ':' || c = ')' then
        match seen.getLast? with
        | some ('-', last) => fail .flagDangling last (last + 1)
        | _ => return (changed, seen.isEmpty)
      let repeated : Option Span := (seen.lookup c).map fun earlier => ⟨earlier, earlier + 1⟩
      if c = '-' then
        if repeated.isSome then throw ⟨.flagNegationRepeated, some ⟨here, here + 1⟩, repeated⟩
        drop 1
        readFlags fuel changed (seen ++ [(c, here)])
      else
        match changeFlag? ((seen.lookup '-').isNone) changed c with
        | none => fail .flagUnknown here (here + 1)
        | some changed =>
          if repeated.isSome then throw ⟨.flagDuplicate, some ⟨here, here + 1⟩, repeated⟩
          drop 1
          readFlags fuel changed (seen ++ [(c, here)])

def isNameChar (first : Bool) (c : Char) : Bool :=
  if first then c = '_' || Text.isAlphabetic c
  else c = '_' || c = '.' || c = '[' || c = ']' || Text.isAlphanumeric c

/-- Reads the name of a group up to its closing bracket. -/
def readName : Nat → Bool → Reader (List Char)
  | 0, _ => do fail .nameEnd (← place) (← place)
  | fuel + 1, first => do
    let here ← place
    match ← peek with
    | none => fail .nameEnd here here
    | some '>' => return []
    | some c =>
      if !isNameChar first c then fail .nameInvalid here (here + 1)
      drop 1
      return c :: (← readName fuel false)

/-- Reads the name of a group, which no other group may have. -/
def readGroupName : Reader Unit := do
  let start ← place
  let name ← readName ((← get).rest.length + 1) true
  let finish ← place
  drop 1
  if name.isEmpty then fail .nameEmpty start start
  match (← get).names.lookup name with
  | some earlier => throw ⟨.nameDuplicate, some ⟨start, finish⟩, some earlier⟩
  | none => modify fun s => { s with names := s.names ++ [(name, ⟨start, finish⟩)] }

/-- What the opening of a parenthesis is. -/
inductive Opening where
  /-- A group, in which these flags hold, and whether its match would be kept. -/
  | group (flags : Flags) (captures : Bool)
  /-- Flags for the rest of the group around it. -/
  | flags (flags : Flags)

def readOpening : Reader Opening := do
  let start ← place
  drop 1
  dropSpace
  if (← dropIf "?=") || (← dropIf "?!") || (← dropIf "?<=") || (← dropIf "?<!") then
    fail .lookAround start (← place)
  let inner ← place
  if (← dropIf "?P<") || (← dropIf "?<") then
    readGroupName
    return .group (← flags) true
  else if ← dropIf "?" then
    if (← peek).isNone then fail .groupUnclosed start (start + 1)
    let (changed, bare) ← readFlags ((← get).rest.length + 1) (← flags) []
    let last ← peek
    drop 1
    if last = some ')' then
      if bare then fail .repetitionMissing inner inner
      return .flags changed
    else return .group changed false
  else return .group (← flags) true

/-! ## Repetitions -/

/-- Collects decimal digits and the white space behind each that does not count. -/
def readDigits : Nat → Reader (List Char)
  | 0 => return []
  | fuel + 1 => do
    match ← peek with
    | some c =>
      if c.isDigit then
        advance
        return c :: (← readDigits fuel)
      else return []
    | none => return []

/-- Reads a decimal number, if there is one, and the blanks around it. -/
def readCount : Reader (Option Nat × Span) := do
  let s ← get
  drop (s.rest.takeWhile Text.isBlank).length
  let start ← place
  let digits ← readDigits (← get).rest.length
  let finish ← place
  drop ((← get).rest.takeWhile Text.isBlank).length
  dropSpace
  let n := digits.foldl (fun n c => n * 10 + (c.toNat - '0'.toNat)) 0
  if n > 0xffffffff then fail .decimalInvalid start finish
  return (if digits.isEmpty then none else some n, ⟨start, finish⟩)

/-- Reads a count in braces: the least and the most repetitions. -/
def readCounts : Reader (Nat × Option Nat) := do
  let start ← place
  let unclosed {α : Type} : Reader α := do fail .countUnclosed start (← place)
  let due (count : Option Nat × Span) : Reader Nat :=
    match count with
    | (some n, _) => return n
    | (none, span) => fail .countDecimal span.first span.last
  advance
  if (← peek).isNone then unclosed
  let least ← readCount
  if (← peek).isNone then unclosed
  let counts : Nat × Option Nat ←
    if (← peek) = some ',' then
      advance
      if (← peek).isNone then unclosed
      if (← peek) = some '\x7d' then pure (← due least, none)
      else
        let n ← due least
        let most ← due (← readCount)
        pure (n, some most)
    else
      let n ← due least
      pure (n, some n)
  if (← peek) ≠ some '\x7d' then unclosed
  advance
  if (← peek) = some '?' then drop 1
  match counts with
  | (least, some most) =>
    if most < least then fail .countRange start (← place)
    return counts
  | _ => return counts

/-! ## Sequences and choices -/

/-- A member of a sequence. -/
structure Part where
  /-- Nothing stands where flags were set. -/
  regex : Option Regex
  first : Nat
  outline : Option Outline := none

/-- The members read so far of a sequence, the latest one first. -/
structure Draft where
  first : Nat
  parts : List Part := []

namespace Draft

def push (draft : Draft) (part : Part) : Draft := { draft with parts := part :: draft.parts }

def regex (draft : Draft) : Regex :=
  match draft.parts.filterMap (·.regex) with
  | [] => .empty
  | last :: before => before.foldl (fun behind part => .append part behind) last

/-- The outline of the sequence when it ends at a place. -/
def outline (draft : Draft) (last : Nat) : Option Outline :=
  Outline.sequence? ⟨draft.first, last⟩ draft.parts.length
    (draft.parts.filterMap (·.outline)).reverse

/-- Repeats the last part; the repetition ends at a place. -/
def repeatLast (draft : Draft) (least : Nat) (most : Option Nat) (last : Nat) : Option Draft :=
  match draft.parts with
  | ⟨some body, first, outline⟩ :: before =>
    let part : Part := {
      regex := some (.between least most body)
      first := first
      outline := some (.node ⟨first, last⟩ outline.toList) }
    some { draft with parts := part :: before }
  | _ => none

/-- Whether there is something that can be repeated. -/
def isRepeatable (draft : Draft) : Bool := (draft.parts.head?.bind (·.regex)).isSome

end Draft

/-- The finished branches of a choice. -/
structure Branches where
  regexes : List Regex := []
  first : Nat := 0
  outlines : List Outline := []

namespace Branches

/-- Adds a sequence that ends at a place. -/
def push (branches : Branches) (draft : Draft) (last : Nat) : Branches where
  regexes := branches.regexes ++ [draft.regex]
  first := if branches.regexes.isEmpty then draft.first else branches.first
  outlines := branches.outlines ++ (draft.outline last).toList

/-- A choice between the branches and a last one, with its outline. -/
def close (branches : Branches) (draft : Draft) (last : Nat) : Regex × Option Outline :=
  if branches.regexes.isEmpty then (draft.regex, draft.outline last)
  else
    let all := branches.push draft last
    (branches.regexes.foldr .either draft.regex, some (.node ⟨all.first, last⟩ all.outlines))

end Branches

/-- What stands around a group that is still open. -/
structure Frame where
  draft : Draft
  branches : Branches
  flags : Flags
  opened : Nat
  captures : Bool

/-- What a dot stands for. -/
def dotSet : Reader CharSet := do
  let flags ← flags
  let here ← place
  if !flags.unicode then object .invalidUtf8 here (here + 1)
  if flags.dotAll then return [(0, CharSet.maxCode)]
  let breaks := if flags.returns then [(0xa, 0xa), (0xd, 0xd)] else [(0xa, 0xa)]
  return CharSet.complement CharSet.maxCode breaks

/-- The assertion that a circumflex stands for. -/
def startLook (flags : Flags) : Look :=
  if !flags.multiLine then .start else if flags.returns then .returnLineStart else .lineStart

/-- The assertion that a dollar sign stands for. -/
def finishLook (flags : Flags) : Look :=
  if !flags.multiLine then .finish else if flags.returns then .returnLineFinish else .lineFinish

/-- Reads a character, an escape or an assertion outside of classes. -/
def readPrimitive : Reader Regex := do
  let start ← place
  let flags ← flags
  match ← peek with
  | some '\\' =>
    match ← readEscape with
    | .literal c asByte => return .one (← literalSet c asByte start (← place))
    | .set set => return .one set
    | .look assertion => return .look assertion
  | some '.' =>
    let set ← dotSet
    drop 1
    return .one set
  | some '^' =>
    drop 1
    return .look (startLook flags)
  | some '$' =>
    drop 1
    return .look (finishLook flags)
  | some c =>
    drop 1
    return .one (← literalSet c false start (← place))
  | none => return .empty

/-- Reads a regular expression to its end, at most as many parts as `fuel`. -/
def readParts : Nat → Draft → Branches → List Frame → Reader (Regex × Option Outline)
  | 0, _, _, _ => do fail .groupUnclosed (← place) (← place)
  | fuel + 1, draft, branches, frames => do
    dropSpace
    let here ← place
    let repeated (least : Nat) (most : Option Nat) : Reader (Regex × Option Outline) := do
      drop 1
      if draft.isRepeatable && (← peek) = some '?' then drop 1
      match draft.repeatLast least most (← place) with
      | none => fail .repetitionMissing here here
      | some draft => readParts fuel draft branches frames
    let beside (regex : Regex) (outline : Option Outline) :
        Reader (Regex × Option Outline) :=
      readParts fuel (draft.push ⟨some regex, here, outline⟩) branches frames
    match ← peek with
    | none =>
      match frames with
      | [] => return branches.close draft here
      | frame :: _ => fail .groupUnclosed frame.opened (frame.opened + 1)
    | some '(' =>
      let around ← flags
      match ← readOpening with
      | .flags changed =>
        setFlags changed
        readParts fuel (draft.push ⟨none, here, none⟩) branches frames
      | .group changed captures =>
        setFlags changed
        readParts fuel ⟨← place, []⟩ {} (⟨draft, branches, around, here, captures⟩ :: frames)
    | some ')' =>
      match frames with
      | [] => fail .groupUnopened here (here + 1)
      | frame :: frames =>
        drop 1
        setFlags frame.flags
        let (body, inner) := branches.close draft here
        let group : Part := {
          regex := some (if frame.captures then .capture body else body)
          first := frame.opened
          outline := some (.node ⟨frame.opened, ← place⟩ inner.toList) }
        readParts fuel (frame.draft.push group) frame.branches frames
    | some '|' =>
      drop 1
      readParts fuel ⟨← place, []⟩ (branches.push draft here) frames
    | some '[' =>
      let operand ← readClass (2 * (← get).rest.length + 2)
      beside (.one operand.set) operand.outline
    | some '?' => repeated 0 (some 1)
    | some '*' => repeated 0 none
    | some '+' => repeated 1 none
    | some '\x7b' =>
      if !draft.isRepeatable then fail .repetitionMissing here here
      let (least, most) ← readCounts
      readParts fuel ((draft.repeatLast least most (← place)).getD draft) branches frames
    | some _ => beside (← readPrimitive) none

/-- The regular expression that a text is. -/
def read (text : String) : Except Fault Regex :=
  match (readParts (text.toList.length + 1) ⟨0, []⟩ {} []).run { rest := text.toList } with
  | .error fault => .error fault
  | .ok ((regex, outline), state) =>
    match outline.bind (Outline.beyond? maxNesting) with
    | some span => .error ⟨.nestedTooDeeply maxNesting, some span, none⟩
    | none =>
      match state.unmeant with
      | some fault => .error fault
      | none =>
        if regex.isTooLarge then .error ⟨.tooLarge maxSize, none, none⟩ else .ok regex

end TestExclusions.Pattern.Regex
