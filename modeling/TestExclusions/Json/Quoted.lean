import TestExclusions.Json.Fault

/-! Strings of JSON: reading, skipping and writing them. -/
namespace TestExclusions.Json

/-- The value of a hexadecimal digit. -/
def hexDigit? (c : Char) : Option Nat :=
  if '0' ≤ c && c ≤ '9' then some (c.toNat - '0'.toNat)
  else if 'a' ≤ c && c ≤ 'f' then some (c.toNat - 'a'.toNat + 10)
  else if 'A' ≤ c && c ≤ 'F' then some (c.toNat - 'A'.toNat + 10)
  else none

/-- The number that four hexadecimal digits denote. -/
def hexNumber? (a b c d : Char) : Option Nat := do
  let a ← hexDigit? a
  let b ← hexDigit? b
  let c ← hexDigit? c
  let d ← hexDigit? d
  return ((a * 16 + b) * 16 + c) * 16 + d

/-- Why four hexadecimal digits cannot be read: too few bytes are left, or they are no digits. -/
def hexFault (cs : List Char) : Fault :=
  if (String.ofList cs).utf8ByteSize < 4 then .truncated else .malformed

def isLeadSurrogate (n : Nat) : Bool := 0xd800 ≤ n && n ≤ 0xdbff

def isTrailSurrogate (n : Nat) : Bool := 0xdc00 ≤ n && n ≤ 0xdfff

/-- What a backslash and one more character denote, if that is a single character. -/
def shortEscape? : Char → Option Char
  | '"' => some '"'
  | '\\' => some '\\'
  | '/' => some '/'
  | 'b' => some '\x08'
  | 'f' => some '\x0c'
  | 'n' => some '\n'
  | 'r' => some '\r'
  | 't' => some '\t'
  | _ => none

/-- Reads a string behind its opening quote. -/
def readQuoted : Decoder (List Char)
  | [] => .error .truncated
  | '"' :: rest => .ok ([], rest)
  | ['\\'] => .error .truncated
  | '\\' :: 'u' :: a :: b :: c :: d :: rest =>
    match hexNumber? a b c d with
    | none => .error .malformed
    | some n =>
      if isTrailSurrogate n then .error .malformed
      else if isLeadSurrogate n then
        match rest with
        | '\\' :: 'u' :: e :: f :: g :: h :: rest =>
          match hexNumber? e f g h with
          | none => .error .malformed
          | some m =>
            if isTrailSurrogate m then
              (readQuoted rest).map fun (value, after) =>
                (Char.ofNat (0x10000 + (n - 0xd800) * 0x400 + (m - 0xdc00)) :: value, after)
            else .error .malformed
        | '\\' :: 'u' :: rest => .error (hexFault rest)
        | ['\\'] => .error .truncated
        | rest => .error (faultAt rest)
      else (readQuoted rest).map fun (value, after) => (Char.ofNat n :: value, after)
  | '\\' :: 'u' :: rest => .error (hexFault rest)
  | '\\' :: c :: rest =>
    match shortEscape? c with
    | some value => (readQuoted rest).map fun (more, after) => (value :: more, after)
    | none => .error .malformed
  | c :: rest =>
    if c.toNat < 0x20 then .error .malformed
    else (readQuoted rest).map fun (value, after) => (c :: value, after)

/-- Skips a string behind its opening quote; numbers of surrogates are not looked at. -/
def skipQuoted : Decoder Unit
  | [] => .error .truncated
  | '"' :: rest => .ok ((), rest)
  | ['\\'] => .error .truncated
  | '\\' :: 'u' :: a :: b :: c :: d :: rest =>
    if (hexNumber? a b c d).isSome then skipQuoted rest else .error .malformed
  | '\\' :: 'u' :: rest => .error (hexFault rest)
  | '\\' :: c :: rest =>
    if (shortEscape? c).isSome then skipQuoted rest else .error .malformed
  | c :: rest => if c.toNat < 0x20 then .error .malformed else skipQuoted rest

/-- A hexadecimal digit in lower case. -/
def hexChar (n : Nat) : Char :=
  if n < 10 then Char.ofNat ('0'.toNat + n) else Char.ofNat ('a'.toNat + n - 10)

/-- How a character is written in a string: the quote, the backslash and the characters below the
space are escaped. -/
def escape : Char → List Char
  | '"' => ['\\', '"']
  | '\\' => ['\\', '\\']
  | '\x08' => ['\\', 'b']
  | '\x0c' => ['\\', 'f']
  | '\n' => ['\\', 'n']
  | '\r' => ['\\', 'r']
  | '\t' => ['\\', 't']
  | c =>
    if c.toNat < 0x20 then ['\\', 'u', '0', '0', hexChar (c.toNat / 16), hexChar (c.toNat % 16)]
    else [c]

def quoted (value : String) : List Char := '"' :: value.toList.flatMap escape ++ ['"']

end TestExclusions.Json
