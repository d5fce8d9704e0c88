import TestExclusions.Json.Fault

/-! Numbers of JSON. Only the natural numbers below 2 ^ 64 are told apart; of the others it
matters whether they can be read at all. -/
namespace TestExclusions.Json

inductive Number where
  | natural (n : Nat)
  | other
  deriving DecidableEq, Repr

/-- The nearest number of 53 significant bits; a half goes to the even neighbour. -/
def nearest (n : Nat) : Nat :=
  let unit := Nat.pow 2 (n.log2 - 52)
  let whole := n / unit
  let half := 2 * (n % unit)
  if half > unit || (half = unit && whole % 2 = 1) then (whole + 1) * unit else whole * unit

/-- Whether a number written with an exponent of ten is too large to be approximated in double
precision, where both factors are rounded before their product. -/
def outOfRange (significand : Nat) (exponent : Int) : Bool :=
  if exponent > 308 then significand ≠ 0
  else if exponent < 0 then false
  else nearest (nearest significand * nearest (Nat.pow 10 exponent.toNat)) ≥ Nat.pow 2 1024

def approximated (significand : Nat) (exponent : Int) : Decoder Number := fun cs =>
  if outOfRange significand exponent then .error .malformed else .ok (.other, cs)

def decimal (digits : List Char) : Nat :=
  digits.foldl (fun n c => n * 10 + (c.toNat - '0'.toNat)) 0

/-- The first number that is too large to be kept exactly. -/
def exactLimit : Nat := Nat.pow 2 64

/-- Adds digits to a number as long as it stays below the limit; returns how many were added. -/
def extendExact (n : Nat) : List Char → Nat × Nat
  | [] => (n, 0)
  | c :: rest =>
    let next := n * 10 + (c.toNat - '0'.toNat)
    if next < exactLimit then
      let (value, count) := extendExact next rest
      (value, count + 1)
    else (n, 0)

/-- Reads an exponent behind its letter. -/
def readExponent (significand : Nat) (start : Int) : Decoder Number := fun cs =>
  let (sign, cs) : Int × List Char :=
    match cs with
    | '+' :: rest => (1, rest)
    | '-' :: rest => (-1, rest)
    | cs => (1, cs)
  match cs.takeWhile Char.isDigit with
  | [] => .error (faultAt cs)
  | digits => approximated significand (start + sign * decimal digits) (cs.dropWhile Char.isDigit)

/-- Reads what may follow the digits of a number: an exponent. -/
def readScale (significand : Nat) (start : Int) : Decoder Number
  | 'e' :: rest => readExponent significand start rest
  | 'E' :: rest => readExponent significand start rest
  | cs => approximated significand start cs

/-- Reads a fraction behind its point. -/
def readFraction (significand : Nat) (start : Int) : Decoder Number := fun cs =>
  match cs.takeWhile Char.isDigit with
  | [] => .error (faultAt cs)
  | digits =>
    let (value, count) := extendExact significand digits
    readScale value (start - count) (cs.dropWhile Char.isDigit)

/-- Reads a number behind its sign. -/
def readUnsigned (negative : Bool) : Decoder Number
  | [] => .error .truncated
  | c :: rest =>
    if !c.isDigit || (c = '0' && rest.head?.any Char.isDigit) then .error .malformed
    else
      let digits := c :: rest.takeWhile Char.isDigit
      let (value, count) := extendExact 0 digits
      let dropped : Int := digits.length - count
      match rest.dropWhile Char.isDigit with
      | '.' :: after => readFraction value dropped after
      | 'e' :: after => readExponent value dropped after
      | 'E' :: after => readExponent value dropped after
      | after =>
        if dropped ≠ 0 then approximated value dropped after
        else .ok (if negative then .other else .natural value, after)

/-- Reads a number. -/
def readNumber : Decoder Number
  | '-' :: rest => readUnsigned true rest
  | cs => readUnsigned false cs

/-- Skips the digits of a fraction or an exponent. -/
def skipDigits : Decoder Unit := fun cs =>
  if cs.head?.any Char.isDigit then .ok ((), cs.dropWhile Char.isDigit) else .error .malformed

def skipExponent : Decoder Unit
  | '+' :: rest => skipDigits rest
  | '-' :: rest => skipDigits rest
  | cs => skipDigits cs

def skipScale : Decoder Unit
  | 'e' :: rest => skipExponent rest
  | 'E' :: rest => skipExponent rest
  | cs => .ok ((), cs)

/-- Skips a number behind its sign, of any size. -/
def skipUnsigned : Decoder Unit
  | [] => .error .malformed
  | c :: rest =>
    if !c.isDigit || (c = '0' && rest.head?.any Char.isDigit) then .error .malformed
    else
      match rest.dropWhile Char.isDigit with
      | '.' :: after => (skipDigits after).bind fun ((), rest) => skipScale rest
      | after => skipScale after

def skipNumber : Decoder Unit
  | '-' :: rest => skipUnsigned rest
  | cs => skipUnsigned cs

end TestExclusions.Json
