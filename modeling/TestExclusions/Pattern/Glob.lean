/-! Globs: patterns that match whole names byte by byte. A star stands for any bytes, slashes
included; two stars between slashes stand for any directories. -/
namespace TestExclusions.Pattern

/-- A part of a glob. -/
inductive Glob where
  | literal (c : Char)
  /-- Any single byte. -/
  | one
  /-- Any bytes. -/
  | many
  /-- Nothing, a slash, or any bytes up to a slash. -/
  | recursiveStart
  /-- A slash and any bytes. -/
  | recursiveEnd
  /-- A slash, or two slashes with any bytes between them. -/
  | recursiveMiddle
  /-- A byte that is, or is not, within ranges of characters. -/
  | class (negated : Bool) (ranges : List (Char × Char))
  /-- One of several sequences. -/
  | choice (branches : List (List Glob))

namespace Glob

/-! ## Matching -/

def bytesOf (c : Char) : List UInt8 := c.toString.toUTF8.toList

/-- The byte ranges that a range of characters stands for: the bytes of both ends, those between
the last byte of the first one and the first byte of the last one included. -/
def byteRanges (range : Char × Char) : List (UInt8 × UInt8) :=
  let single (bytes : List UInt8) : List (UInt8 × UInt8) := bytes.map fun b => (b, b)
  if range.1 = range.2 then single (bytesOf range.1)
  else
    match (bytesOf range.1).getLast?, (bytesOf range.2).head? with
    | some low, some high =>
      single (bytesOf range.1) ++ (low, high) :: single (bytesOf range.2)
    | _, _ => []

def inClass (ranges : List (Char × Char)) (b : UInt8) : Bool :=
  ranges.any fun range => (byteRanges range).any fun (low, high) => low ≤ b && b ≤ high

/-- The byte of a slash. -/
def slash : UInt8 := 47

mutual

/-- Whether a sequence says nothing at all, so that a choice does not offer it. -/
def isVoid : List Glob → Bool
  | [] => true
  | .choice branches :: rest => areVoid branches && isVoid rest
  | _ :: _ => false

def areVoid : List (List Glob) → Bool
  | [] => true
  | branch :: rest => isVoid branch && areVoid rest

end

/-- The places of a text that matching has reached: one answer for the place before each byte and
one for the end. -/
abbrev Places := List Bool

namespace Places

/-- Only the front has been reached. -/
def front (text : List UInt8) : Places := true :: text.map fun _ => false

def either (a b : Places) : Places := List.zipWith (· || ·) a b

/-- What is reached behind one byte that has a property. -/
def behind (p : UInt8 → Bool) (text : List UInt8) (places : Places) : Places :=
  false :: List.zipWith (fun reached b => reached && p b) places text

/-- What is reached behind any bytes; `reached` tells whether a place before these has been. -/
def onward (reached : Bool) : Places → Places
  | [] => []
  | here :: rest => (reached || here) :: onward (reached || here) rest

/-- What is reached behind any bytes and a slash. -/
def behindSlashes (text : List UInt8) (places : Places) : Places :=
  behind (· == slash) text (onward false places)

/-- Whether the end has been reached. -/
def isAtEnd (places : Places) : Bool := places.getLast?.getD false

end Places

mutual

/-- The places that are reached behind a part. -/
def advance (text : List UInt8) (places : Places) : Glob → Places
  | .literal c => (bytesOf c).foldl (fun places b => places.behind (· == b) text) places
  | .one => places.behind (fun _ => true) text
  | .many => places.onward false
  | .recursiveStart => places.either (places.behindSlashes text)
  | .recursiveEnd => (places.behind (· == slash) text).onward false
  | .recursiveMiddle =>
    let behind := places.behind (· == slash) text
    behind.either (behind.behindSlashes text)
  | .class negated ranges => places.behind (fun b => inClass ranges b != negated) text
  | .choice branches =>
    if areVoid branches then places else advanceAny text places branches

/-- The places that are reached behind a sequence. -/
def advanceAll (text : List UInt8) (places : Places) : List Glob → Places
  | [] => places
  | part :: more => advanceAll text (advance text places part) more

/-- The places that are reached behind one of several sequences. -/
def advanceAny (text : List UInt8) (places : Places) : List (List Glob) → Places
  | [] => places.map fun _ => false
  | branch :: more =>
    let others := advanceAny text places more
    if isVoid branch then others else (advanceAll text places branch).either others

end

/-- Whether a sequence of parts matches a whole name. Two stars alone match every name. -/
def isMatch (parts : List Glob) (name : String) : Bool :=
  match parts with
  | [.recursiveStart] => true
  | _ =>
    let text := name.toUTF8.toList
    (advanceAll text (Places.front text) parts).isAtEnd

/-! ## Reading -/

/-- Why a pattern is no glob. -/
inductive Fault where
  | unclosedClass
  | invalidRange (first last : Char)
  | unopenedChoice
  | unclosedChoice
  | danglingEscape
  deriving DecidableEq, Repr

/-- What has been read of a class, the latest range first. -/
structure ClassDraft where
  ranges : List (Char × Char)
  /-- A hyphen was read that may join the last character to the next one. -/
  joining : Bool

/-- Extends the latest range of a class to a character. -/
def extendLatest (ranges : List (Char × Char)) (last : Char) :
    Except Fault (List (Char × Char)) :=
  match ranges with
  | [] => .ok [(last, last)]
  | (first, _) :: before =>
    if last < first then .error (.invalidRange first last) else .ok ((first, last) :: before)

/-- Reads a class behind its bracket and its negation. A closing bracket or a hyphen that comes
first stands for itself, and so does a hyphen that comes last. -/
def readClass (first : Bool) (draft : ClassDraft) :
    List Char → Except Fault (List (Char × Char) × List Char)
  | [] => .error .unclosedClass
  | c :: rest =>
    if c = ']' && !first then
      .ok (if draft.joining then ('-', '-') :: draft.ranges else draft.ranges, rest)
    else if c = '-' && !first && !draft.joining then
      readClass false { draft with joining := true } rest
    else if draft.joining then
      match extendLatest draft.ranges c with
      | .ok ranges => readClass false ⟨ranges, false⟩ rest
      | .error e => .error e
    else readClass false ⟨(c, c) :: draft.ranges, false⟩ rest

/-- The parts read so far: of the innermost sequence, the latest part first, of the finished
branches beside it, and of the sequences and branches around it. -/
structure Draft where
  parts : List Glob
  branches : List (List Glob)
  around : List (List Glob × List (List Glob))

namespace Draft

def isInChoice (draft : Draft) : Bool := !draft.around.isEmpty

def push (draft : Draft) (part : Glob) : Draft := { draft with parts := part :: draft.parts }

/-- Puts a part in the place of the latest one, unless that one already spans directories from the
start or to the end. -/
def replaceLatest (draft : Draft) (part : Glob) : Draft :=
  match draft.parts with
  | .recursiveStart :: _ => draft
  | .recursiveEnd :: _ => draft
  | _ => { draft with parts := part :: draft.parts.tail }

/-- The finished branches and the sequence at hand. -/
def allBranches (draft : Draft) : List (List Glob) := draft.branches ++ [draft.parts.reverse]

end Draft

/-- Reads two stars; `previous` is the character before them. -/
def readStars (draft : Draft) (previous : Option Char) (cs : List Char) : Draft × List Char :=
  let plain : Draft × List Char := ((draft.push .many).push .many, cs)
  if draft.parts.isEmpty then
    match cs with
    | [] => (draft.push .recursiveStart, [])
    | '/' :: rest => (draft.push .recursiveStart, rest)
    | _ => plain
  else if previous ≠ some '/' &&
      !(draft.isInChoice && (previous = some ',' || previous = some '\x7b')) then plain
  else
    match cs with
    | [] => (draft.replaceLatest .recursiveEnd, [])
    | '/' :: rest => (draft.replaceLatest .recursiveMiddle, rest)
    | c :: _ =>
      if draft.isInChoice && (c = ',' || c = '\x7d') then (draft.replaceLatest .recursiveEnd, cs)
      else plain

/-- Reads the parts of a glob, at most as many as `fuel`; `previous` is the character before the
text. -/
def readParts : Nat → Draft → Option Char → List Char → Except Fault (List Glob)
  | 0, _, _, _ => .error .unclosedChoice
  | _ + 1, draft, _, [] =>
    if draft.isInChoice then .error .unclosedChoice else .ok draft.parts.reverse
  | fuel + 1, draft, previous, c :: rest =>
    match c with
    | '?' => readParts fuel (draft.push .one) (some c) rest
    | '*' =>
      match rest with
      | '*' :: rest' =>
        let (draft, after) := readStars draft previous rest'
        let last := if after.length < rest'.length then '/' else '*'
        readParts fuel draft (some last) after
      | _ => readParts fuel (draft.push .many) (some c) rest
    | '[' =>
      let (negated, body) :=
        match rest with
        | '!' :: body => (true, body)
        | '^' :: body => (true, body)
        | body => (false, body)
      match readClass true ⟨[], false⟩ body with
      | .ok (ranges, after) => readParts fuel (draft.push (.class negated ranges)) (some ']') after
      | .error e => .error e
    | '\x7b' =>
      readParts fuel ⟨[], [], (draft.parts, draft.branches) :: draft.around⟩ (some c) rest
    | '\x7d' =>
      match draft.around with
      | [] => .error .unopenedChoice
      | (parts, branches) :: around =>
        readParts fuel ⟨.choice draft.allBranches :: parts, branches, around⟩ (some c) rest
    | ',' =>
      if draft.isInChoice then
        readParts fuel { draft with parts := [], branches := draft.allBranches } (some c) rest
      else readParts fuel (draft.push (.literal ',')) (some c) rest
    | '\\' =>
      match rest with
      | [] => .error .danglingEscape
      | escaped :: rest => readParts fuel (draft.push (.literal escaped)) (some escaped) rest
    | c => readParts fuel (draft.push (.literal c)) (some c) rest

/-- The parts of a glob. -/
def read (pattern : String) : Except Fault (List Glob) :=
  readParts (pattern.toList.length + 1) ⟨[], [], []⟩ none pattern.toList

end Glob
end TestExclusions.Pattern
