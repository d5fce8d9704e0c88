import TestExclusions.Text.CharSet

/-! Sets of characters as sequences of byte ranges: what a machine needs that reads UTF-8 byte by
byte. A byte that continues a character is given by its lower six bits. -/
namespace TestExclusions.Text

/-- The bytes of one place in a sequence, ends included. -/
abbrev ByteRange := Nat × Nat

namespace CharSet

/-- The sequences for the numbers from `low` to `high`, of which the last `count` digits to base 64
stand in bytes of their own. Where the first digit does not take all that follows it, it stands
alone. -/
def byteRanges : Nat → Nat → Nat → List (List ByteRange)
  | 0, low, high => [[(low, high)]]
  | count + 1, low, high =>
    let block := Nat.pow 64 (count + 1)
    let first := low / block
    let last := high / block
    if first = last then
      (byteRanges count (low % block) (high % block)).map ((first, first) :: ·)
    else
      let splitsFirst := low % block ≠ 0
      let splitsLast := high % block ≠ block - 1
      let from' := if splitsFirst then first + 1 else first
      let upTo := if splitsLast then last - 1 else last
      let full : List ByteRange := List.replicate (count + 1) (0, 63)
      (if splitsFirst then
        (byteRanges count (low % block) (block - 1)).map ((first, first) :: ·) else []) ++
      (if from' ≤ upTo then [(from', upTo) :: full] else []) ++
      (if splitsLast then
        (byteRanges count 0 (high % block)).map ((last, last) :: ·) else [])

/-- The characters that take one, two, three and four bytes: how many bytes follow the first one,
what is added to the first one, and the range. No character lies between the last two of three. -/
def utf8Planes : List (Nat × Nat × ByteRange) := [
  (0, 0, (0, 0x7f)), (1, 0xc0, (0x80, 0x7ff)), (2, 0xe0, (0x800, 0xd7ff)),
  (2, 0xe0, (0xe000, 0xffff)), (3, 0xf0, (0x10000, 0x10ffff))]

/-- The sequences of byte ranges of a set, in increasing order. -/
def utf8Ranges (set : CharSet) : List (List ByteRange) :=
  set.normal.flatMap fun range =>
    utf8Planes.flatMap fun (count, mark, plane) =>
      match overlap? range plane with
      | none => []
      | some (low, high) =>
        (byteRanges count low high).map fun bytes =>
          match bytes with
          | [] => []
          | (a, b) :: rest => (a + mark, b + mark) :: rest

end CharSet
end TestExclusions.Text
