/-! Tables of match lengths. For each place of a text, the end included, a table has a number: the
bit `l` of it tells whether what is matched may begin at the place and take `l` elements. A table
holds all that matters about a part of a pattern, so that every part is looked at once. -/
namespace TestExclusions.Pattern

abbrev Lengths := List Nat

namespace Lengths

variable {α : Type}

/-- Matches nothing at each of so many places. -/
def nothing (places : Nat) : Lengths := List.replicate places 1

/-- Matches one element. -/
def one (p : α → Bool) : List α → Lengths
  | [] => [0]
  | a :: rest => (if p a then 2 else 0) :: one p rest

/-- Matches what either of two tables matches. -/
def either (a b : Lengths) : Lengths := List.zipWith (· ||| ·) a b

/-- The lengths of what begins with one of the lengths given by the bits of a number and goes on
as a table tells whose first place is the one at hand. -/
def join (bits : Nat) : Lengths → Nat
  | [] => 0
  | here :: rest =>
    if bits = 0 then 0
    else (if bits % 2 = 1 then here else 0) ||| 2 * join (bits / 2) rest

/-- Matches what one table matches and behind it what another one does. -/
def append : Lengths → Lengths → Lengths
  | a :: as, b :: bs => join a (b :: bs) :: append as bs
  | _, _ => []

/-- Matches what a table matches, any number of times one behind the other. Only the first time
may take nothing away from the rest, so it is the lengths above zero that count. -/
def star : Lengths → Lengths
  | [] => []
  | a :: as =>
    let rest := star as
    (1 ||| 2 * join (a / 2) rest) :: rest

/-- Matches what a table matches, so many times; `fuel` bounds the number of halvings. -/
def powerWith (a : Lengths) : Nat → Nat → Lengths
  | 0, _ => nothing a.length
  | fuel + 1, count =>
    if count = 0 then nothing a.length
    else
      let half := powerWith a fuel (count / 2)
      let even := append half half
      if count % 2 = 0 then even else append even a

/-- Matches what a table matches, so many times. A text that is matched more often than it has
places is matched by nothing one of the times, and so as often as it has places. -/
def power (a : Lengths) (count : Nat) : Lengths :=
  let count := min count a.length
  powerWith a count count

/-- Matches what a table matches, up to so many times. -/
def upTo (a : Lengths) (most : Option Nat) : Lengths :=
  match most with
  | none => star a
  | some most => if a.length ≤ most then star a else power (either (nothing a.length) a) most

end Lengths
end TestExclusions.Pattern
