import TestExclusions.Toml.Quoted

/-! Numbers, booleans, dates and times of TOML. -/
namespace TestExclusions.Toml

/-- Reads digits between which single underscores may stand. -/
def moreDigits (isDigit : Char → Bool) : Reader (List Char)
  | [] => some ([], [])
  | '_' :: d :: rest =>
    if isDigit d then (moreDigits isDigit rest).map fun (ds, after) => (d :: ds, after) else none
  | c :: rest =>
    if isDigit c then (moreDigits isDigit rest).map fun (ds, after) => (c :: ds, after)
    else if c = '_' then none
    else some ([], c :: rest)

/-- Reads at least one digit. -/
def someDigits (isDigit : Char → Bool) : Reader (List Char)
  | c :: rest =>
    if isDigit c then (moreDigits isDigit rest).map fun (ds, after) => (c :: ds, after) else none
  | [] => none

/-- Reads digits that begin with a zero only if they are a zero. -/
def integerDigits : Reader (List Char)
  | '0' :: rest => some (['0'], rest)
  | cs => someDigits Char.isDigit cs

def natOf (base : Nat) (digits : List Char) : Nat :=
  digits.foldl (fun n c => n * base + (Json.hexDigit? c).getD 0) 0

/-- Integers have 64 bits. -/
def integer? (n : Int) : Option Value :=
  let limit : Int := Nat.pow 2 63
  if -limit ≤ n && n < limit then some (.integer n) else none

/-- Whether a decimal number lies so far out that the nearest number of double precision is
infinite: from the middle between the largest finite one and 2 ^ 1024 on. -/
def isInfinite (digits : List Char) (scale : Int) : Bool :=
  let n := natOf 10 digits
  let size := (digits.dropWhile (· = '0')).length + scale
  if n = 0 || size < 300 then false
  else if size > 320 then true
  else
    let limit := Nat.pow 2 1024 - Nat.pow 2 970
    if scale ≥ 0 then n * Nat.pow 10 scale.toNat ≥ limit
    else n ≥ limit * Nat.pow 10 (-scale).toNat

/-- Reads a fraction behind its point. -/
def readFraction : Reader (List Char)
  | '.' :: rest => someDigits Char.isDigit rest
  | _ => none

/-- Reads an exponent with its letter. -/
def readExponent : Reader Int
  | c :: rest =>
    if c = 'e' || c = 'E' then
      match rest with
      | '-' :: rest => (someDigits Char.isDigit rest).map fun (ds, after) => (-natOf 10 ds, after)
      | '+' :: rest => (someDigits Char.isDigit rest).map fun (ds, after) => (natOf 10 ds, after)
      | rest => (someDigits Char.isDigit rest).map fun (ds, after) => (natOf 10 ds, after)
    else none
  | [] => none

/-- The characters in front of a rest of the same text. -/
def consumed (whole rest : List Char) : String :=
  String.ofList (whole.take (whole.length - rest.length))

/-- Whether an exponent has to follow. -/
def startsExponent (cs : List Char) : Bool := cs.head?.any fun c => c = 'e' || c = 'E'

/-- Reads a decimal number behind its sign. Negative floats may be infinite. -/
def readDecimal (negative : Bool) : Reader Value := fun cs => do
  let (digits, rest) ← integerDigits cs
  let float (fraction : List Char) (exponent : Int) (rest : List Char) :
      Option (Value × List Char) :=
    if !negative && isInfinite (digits ++ fraction) (exponent - fraction.length) then none
    else some (.float ((if negative then "-" else "") ++ consumed cs rest), rest)
  if rest.head? = some '.' then
    let (fraction, rest) ← readFraction rest
    if startsExponent rest then
      let (exponent, rest) ← readExponent rest
      float fraction exponent rest
    else float fraction 0 rest
  else if startsExponent rest then
    let (exponent, rest) ← readExponent rest
    float [] exponent rest
  else
    let n : Int := natOf 10 digits
    (integer? (if negative then -n else n)).map fun value => (value, rest)

/-- Reads digits of another base behind the letter of the base. -/
def readBased (base : Nat) : Reader Value := fun cs => do
  let (digits, rest) ← someDigits (fun c => (Json.hexDigit? c).any (· < base)) cs
  (integer? (natOf base digits)).map fun value => (value, rest)

/-- Reads a number with a sign in front, infinities and what is not a number included. -/
def readSigned (negative : Bool) : Reader Value
  | 'i' :: 'n' :: 'f' :: rest => some (.float (if negative then "-inf" else "inf"), rest)
  | 'n' :: 'a' :: 'n' :: rest => some (.float "nan", rest)
  | cs => readDecimal negative cs

/-- Reads a number of exactly so many digits. -/
def fixedDigits (count : Nat) : Reader Nat := fun cs =>
  let digits := cs.take count
  if digits.length = count && digits.all Char.isDigit then some (natOf 10 digits, cs.drop count)
  else none

def isLeapYear (year : Nat) : Bool := year % 4 = 0 && (year % 100 ≠ 0 || year % 400 = 0)

def daysIn (year month : Nat) : Nat :=
  if month = 2 then if isLeapYear year then 29 else 28
  else if month = 4 || month = 6 || month = 9 || month = 11 then 30
  else 31

def skip (c : Char) : Reader Unit
  | d :: rest => if d = c then some ((), rest) else none
  | [] => none

/-- Reads a day of a year. -/
def readDate : Reader Unit := do
  let year ← fixedDigits 4
  skip '-'
  let month ← fixedDigits 2
  guard (1 ≤ month && month ≤ 12)
  skip '-'
  let day ← fixedDigits 2
  guard (1 ≤ day && day ≤ daysIn year month)

/-- Reads an hour and a minute. -/
def readHour : Reader Unit := do
  let hour ← fixedDigits 2
  guard (hour ≤ 23)
  skip ':'
  let minute ← fixedDigits 2
  guard (minute ≤ 59)

/-- Reads the digits of a second behind the point, if there is one. -/
def readSecondFraction : Reader Unit
  | '.' :: rest =>
    if rest.head?.any Char.isDigit then some ((), rest.dropWhile Char.isDigit) else none
  | cs => some ((), cs)

/-- Reads a time of the day; the last minute of a day may have a leap second. -/
def readTime : Reader Unit := do
  readHour
  skip ':'
  let second ← fixedDigits 2
  guard (second ≤ 60)
  readSecondFraction

/-- Reads the distance of a zone from universal time, if there is one. -/
def readOffset : Reader Unit
  | 'Z' :: rest => some ((), rest)
  | 'z' :: rest => some ((), rest)
  | '+' :: rest => readHour rest
  | '-' :: rest => readHour rest
  | cs => some ((), cs)

/-- Whether digits and a mark behind them begin a date or a time. -/
def beginsWith (count : Nat) (mark : Char) (cs : List Char) : Bool :=
  (cs.take count).all Char.isDigit && (cs.drop count).head? = some mark

/-- Reads a date, a time, or both with or without a zone. -/
def readDateTime : Reader Value := fun cs => do
  let whole (rest : List Char) : Value × List Char := (.dateTime (consumed cs rest), rest)
  if beginsWith 2 ':' cs then
    let ((), rest) ← readTime cs
    return whole rest
  else
    let ((), rest) ← readDate cs
    match rest with
    | [] => return whole rest
    | c :: after =>
      if (c = 'T' || c = 't' || c = ' ') && beginsWith 2 ':' after then
        let ((), rest) ← readTime after
        let ((), rest) ← readOffset rest
        return whole rest
      else return whole rest

/-- Reads a value that holds no others. -/
def readScalar : Reader Value
  | 't' :: 'r' :: 'u' :: 'e' :: rest => some (.boolean true, rest)
  | 'f' :: 'a' :: 'l' :: 's' :: 'e' :: rest => some (.boolean false, rest)
  | '+' :: rest => readSigned false rest
  | '-' :: rest => readSigned true rest
  | 'i' :: rest => readSigned false ('i' :: rest)
  | 'n' :: rest => readSigned false ('n' :: rest)
  | '0' :: 'x' :: rest => readBased 16 rest
  | '0' :: 'o' :: rest => readBased 8 rest
  | '0' :: 'b' :: rest => readBased 2 rest
  | c :: rest =>
    if c = '"' || c = '\'' then
      (readString (c :: rest)).map fun (value, after) => (.string (String.ofList value), after)
    else if beginsWith 2 ':' (c :: rest) || beginsWith 4 '-' (c :: rest) then
      readDateTime (c :: rest)
    else if c.isDigit then readDecimal false (c :: rest)
    else none
  | [] => none

end TestExclusions.Toml
