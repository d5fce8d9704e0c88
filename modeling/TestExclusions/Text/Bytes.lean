/-! Texts as bytes. The bytes of a name need not be UTF-8; what is shown of them then has a
replacement character wherever a character is broken off. -/
namespace TestExclusions

/-- What names and paths are made of. -/
abbrev Bytes := List UInt8

namespace Text

/-- The bytes of a text. -/
def utf8 (text : String) : Bytes := text.toList.flatMap String.utf8EncodeChar

/-- A text stands for its bytes where bytes are wanted. -/
instance : Coe String Bytes := ⟨utf8⟩

/-- The character whose bytes stand in front, if there is one. -/
def firstChar? (bytes : Bytes) : Option Char := bytes.toByteArray.utf8DecodeChar? 0

/-- Whether a byte can stand behind the first one of a character. -/
def continues (byte : UInt8) : Bool := 0x80 ≤ byte && byte ≤ 0xbf

/-- Whether two bytes can begin a character of three or four bytes. Four first bytes leave out what
would be a longer way to write a character, half of a pair, or beyond the last character. -/
def opens (first second : UInt8) : Bool :=
  if first = 0xe0 then 0xa0 ≤ second && second ≤ 0xbf
  else if first = 0xed then 0x80 ≤ second && second ≤ 0x9f
  else if first = 0xf0 then 0x90 ≤ second && second ≤ 0xbf
  else if first = 0xf4 then 0x80 ≤ second && second ≤ 0x8f
  else 0xe1 ≤ first && first ≤ 0xf3 && continues second

/-- How many bytes go together where no character stands in front: as many as could begin one. -/
def brokenLength : Bytes → Nat
  | first :: second :: third :: _ =>
    if opens first second then if 0xf0 ≤ first && continues third then 3 else 2 else 1
  | [first, second] => if opens first second then 2 else 1
  | _ => 1

/-- What bytes say behind those that belong to what has been read before: characters, and nothing
where a character is broken off. -/
def decodeBehind : Nat → Bytes → List (Option Char)
  | _, [] => []
  | before + 1, _ :: rest => decodeBehind before rest
  | 0, byte :: rest =>
    match firstChar? (byte :: rest) with
    | some c => some c :: decodeBehind (c.utf8Size - 1) rest
    | none => none :: decodeBehind (brokenLength (byte :: rest) - 1) rest

/-- What bytes say. -/
def decode (bytes : Bytes) : List (Option Char) := decodeBehind 0 bytes

/-- The text that bytes are, if they are UTF-8. -/
def ofUtf8? (bytes : Bytes) : Option String := ((decode bytes).mapM id).map String.ofList

/-- The text that is shown for bytes. -/
def ofBytes (bytes : Bytes) : String :=
  String.ofList ((decode bytes).map fun c => c.getD '\ufffd')

end Text
end TestExclusions
