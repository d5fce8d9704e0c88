import TestExclusions.Json.Number
import TestExclusions.Json.Quoted

/-! Reading values of a known shape. What is met first from left to right decides the fault, so a
wrong shape is noticed before a grammar mistake that follows it. -/
namespace TestExclusions.Json

/-- The fault of a value that is not of the shape asked for: its own if it cannot be read. -/
def mismatch (cs : List Char) : Fault :=
  let faultOf {α : Type} : Except Fault α → Fault
    | .ok _ => .mismatched
    | .error e => e
  match cs with
  | [] => .truncated
  | 'n' :: rest => faultOf (expect ['u', 'l', 'l'] rest)
  | 't' :: rest => faultOf (expect ['r', 'u', 'e'] rest)
  | 'f' :: rest => faultOf (expect ['a', 'l', 's', 'e'] rest)
  | '"' :: rest => faultOf (readQuoted rest)
  | '[' :: _ => .mismatched
  | '\x7b' :: _ => .mismatched
  | c :: _ => if c = '-' || c.isDigit then faultOf (readNumber cs) else .malformed

namespace Decoder

/-- A string. -/
def string : Decoder String := fun cs =>
  match skipSpace cs with
  | '"' :: rest => (readQuoted rest).map fun (value, after) => (String.ofList value, after)
  | rest => .error (mismatch rest)

/-- A natural number below a limit. -/
def natural (limit : Nat) : Decoder Nat := fun cs =>
  match skipSpace cs with
  | [] => .error .truncated
  | c :: rest =>
    if c = '-' || c.isDigit then
      match readNumber (c :: rest) with
      | .ok (.natural n, after) => if n < limit then .ok (n, after) else .error .mismatched
      | .ok (.other, _) => .error .mismatched
      | .error e => .error e
    else .error (mismatch (c :: rest))

/-- A value or null. -/
def nullable {α : Type} (value : Decoder α) : Decoder (Option α) := fun cs =>
  match skipSpace cs with
  | 'n' :: rest => (expect ['u', 'l', 'l'] rest).map fun ((), after) => (none, after)
  | rest => (value rest).map fun (a, after) => (some a, after)

/-- Looks for an element of a list behind its opening bracket, if `first`, or behind another
element; the closing bracket is left. -/
def nextElement (first : Bool) : Decoder Bool := fun cs =>
  match skipSpace cs with
  | [] => .error .truncated
  | ']' :: rest => .ok (false, ']' :: rest)
  | c :: rest =>
    if first then .ok (true, c :: rest)
    else if c = ',' then
      match skipSpace rest with
      | [] => .error .truncated
      | ']' :: _ => .error .malformed
      | rest => .ok (true, rest)
    else .error .malformed

/-- The next element of a list, if there is one. -/
def element {α : Type} (first : Bool) (value : Decoder α) : Decoder (Option α) := do
  if ← nextElement first then return some (← value) else return none

/-- The next element of a list that has to have one. -/
def elementDue {α : Type} (first : Bool) (value : Decoder α) : Decoder α := do
  match ← element first value with
  | some a => return a
  | none => throw .mismatched

/-- The end of a list. -/
def endList : Decoder Unit := fun cs =>
  match skipSpace cs with
  | ']' :: rest => .ok ((), rest)
  | rest => .error (faultAt rest)

/-- Elements up to the closing bracket, at most as many as `fuel`. -/
def elements {α : Type} (value : Decoder α) : Nat → Bool → Decoder (List α)
  | 0, _ => throw .malformed
  | fuel + 1, first => do
    match ← element first value with
    | some a => return a :: (← elements value fuel false)
    | none => return []

/-- A list. -/
def list {α : Type} (value : Decoder α) : Decoder (List α) := fun cs =>
  match skipSpace cs with
  | '[' :: rest => (do let as ← elements value (rest.length + 1) true; endList; return as) rest
  | rest => .error (mismatch rest)

/-- Looks for a key of an object behind its opening brace, if `first`, or behind another member;
the closing brace is left. -/
def nextKey (first : Bool) : Decoder (Option (List Char)) := fun cs =>
  let quotedKey : Decoder (Option (List Char))
    | '"' :: rest => (readQuoted rest).map fun (key, after) => (some key, after)
    | rest => .error (faultAt rest)
  match skipSpace cs with
  | [] => .error .truncated
  | '\x7d' :: rest => .ok (none, '\x7d' :: rest)
  | c :: rest =>
    if first then quotedKey (c :: rest)
    else if c = ',' then quotedKey (skipSpace rest)
    else .error .malformed

/-- The colon behind a key. -/
def colon : Decoder Unit := fun cs =>
  match skipSpace cs with
  | ':' :: rest => .ok ((), rest)
  | rest => .error (faultAt rest)

/-- Members up to the closing brace, at most as many as `fuel`. `member` refuses a key or gives
the reader of its value, which extends what has been read so far. -/
def members {σ : Type} (member : σ → String → Except Fault (Decoder σ)) :
    Nat → Bool → σ → Decoder σ
  | 0, _, _ => throw .malformed
  | fuel + 1, first, soFar => do
    match ← nextKey first with
    | none => return soFar
    | some key =>
      let value ← member soFar (String.ofList key)
      colon
      members member fuel false (← value)

/-- The end of an object. -/
def endObject : Decoder Unit := fun cs =>
  match skipSpace cs with
  | '\x7d' :: rest => .ok ((), rest)
  | rest => .error (faultAt rest)

/-- A value with named fields: an object of them in any order, or a list of them in theirs. -/
def fields {σ α : Type} (inOrder : Decoder α) (start : σ)
    (member : σ → String → Except Fault (Decoder σ)) (finish : σ → Except Fault α) :
    Decoder α := fun cs =>
  match skipSpace cs with
  | '[' :: rest => (do let a ← inOrder; endList; return a) rest
  | '\x7b' :: rest =>
    (do
      let read ← members member (rest.length + 1) true start
      let a ← finish read
      endObject
      return a) rest
  | rest => .error (mismatch rest)

/-- Sets a field that has not been met before. -/
def once {α σ : Type} (soFar : Option α) (value : Decoder α) (set : α → σ) :
    Except Fault (Decoder σ) :=
  if soFar.isSome then .error .mismatched else .ok (set <$> value)

/-- A field that has to be there. -/
def due {α : Type} (field : Option α) : Except Fault α :=
  match field with
  | some a => .ok a
  | none => .error .mismatched

mutual

/-- Skips a value of any shape nested at most as deeply as `fuel`. -/
def skipValue : Nat → Decoder Unit
  | 0, _ => .error .malformed
  | fuel + 1, cs =>
    match skipSpace cs with
    | [] => .error .truncated
    | 'n' :: rest => expect ['u', 'l', 'l'] rest
    | 't' :: rest => expect ['r', 'u', 'e'] rest
    | 'f' :: rest => expect ['a', 'l', 's', 'e'] rest
    | '"' :: rest => skipQuoted rest
    | '[' :: rest => skipElements fuel true rest
    | '\x7b' :: rest => skipMembers fuel true rest
    | c :: rest => if c = '-' || c.isDigit then skipNumber (c :: rest) else .error .malformed

/-- Skips the elements of a list and its closing bracket. -/
def skipElements : Nat → Bool → Decoder Unit
  | 0, _, _ => .error .malformed
  | fuel + 1, first, cs =>
    match skipSpace cs with
    | [] => .error .truncated
    | ']' :: rest => .ok ((), rest)
    | c :: rest =>
      if first then
        (skipValue fuel (c :: rest)).bind fun ((), after) => skipElements fuel false after
      else if c = ',' then
        (skipValue fuel rest).bind fun ((), after) => skipElements fuel false after
      else .error .malformed

/-- Skips the members of an object and its closing brace. -/
def skipMembers : Nat → Bool → Decoder Unit
  | 0, _, _ => .error .malformed
  | fuel + 1, first, cs =>
    let member : List Char → Except Fault (Unit × List Char) := fun cs =>
      match skipSpace cs with
      | '"' :: rest =>
        (skipQuoted rest).bind fun ((), rest) =>
        (colon rest).bind fun ((), rest) =>
        (skipValue fuel rest).bind fun ((), rest) => skipMembers fuel false rest
      | rest => .error (faultAt rest)
    match skipSpace cs with
    | [] => .error .truncated
    | '\x7d' :: rest => .ok ((), rest)
    | c :: rest =>
      if first then member (c :: rest)
      else if c = ',' then member rest
      else .error .malformed

end

/-- A value of any shape, which is not kept. -/
def ignored : Decoder Unit := fun cs => skipValue (2 * cs.length + 2) cs

/-- Reads a text that holds one value and nothing else but white space. -/
def decode {α : Type} (value : Decoder α) (text : String) : Except Fault α :=
  match value text.toList with
  | .error e => .error e
  | .ok (a, rest) => if (skipSpace rest).isEmpty then .ok a else .error .malformed

end Decoder
end TestExclusions.Json
