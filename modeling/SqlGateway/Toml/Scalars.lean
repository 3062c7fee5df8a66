import SqlGateway.Text.Digits
import SqlGateway.Toml.Strings

/-!
# Numbers, truth values and dates of a TOML document

Settings make no use of them, so a reader only finds where such a value ends and refuses one that
is written in a wrong way or is out of range: a whole number beyond 64 bits, a number too large
for a double, a day that its month does not have.

Where a value could be of several kinds, a date is tried first, then a fraction, then a whole
number.
-/

namespace SqlGateway.Toml

/-! ## Numbers -/

/-- Digits of a class; between two of them a `_` may stand, which is dropped. -/
def readRun (isDigit : Char → Bool) : List Char → Option (List Char × List Char)
  | [] => none
  | c :: '_' :: rest =>
    if isDigit c then (before c (readRun isDigit rest)).or (some ([c], '_' :: rest)) else none
  | c :: rest =>
    if isDigit c then (before c (readRun isDigit rest)).or (some ([c], rest)) else none

/-- A sign, and whether it is a minus. -/
def readSign : List Char → Bool × List Char
  | '-' :: rest => (true, rest)
  | '+' :: rest => (false, rest)
  | cs => (false, cs)

/-- The digits of a whole number: a zero alone, or digits that start with none. -/
def readWhole : List Char → Option (List Char × List Char)
  | '0' :: rest => some (['0'], rest)
  | cs => readRun Char.isDigit cs

/-- The fraction behind its point, if there is one; a point must have digits behind it. -/
def readFraction : List Char → Option (List Char × List Char)
  | '.' :: rest => readRun Char.isDigit rest
  | cs => some ([], cs)

/-- The exponent behind its letter, if there is one, with its sign. -/
def readExponent : List Char → Option (Option (Bool × List Char) × List Char)
  | c :: rest =>
    if c = 'e' ∨ c = 'E' then
      let (negative, rest) := readSign rest
      (readRun Char.isDigit rest).map fun (digits, rest) ↦ (some (negative, digits), rest)
    else some (none, c :: rest)
  | [] => some (none, [])

/-- The least number that is nearer to no double than to infinity. -/
def doubleBound : Nat := Nat.pow 2 1024 - Nat.pow 2 970

/-- Whether a number of digits, scaled by a power of ten, is too large for a double. -/
def exceedsDouble (digits : List Char) (scale : Int) : Bool :=
  let significant := digits.dropWhile (· == '0')
  let magnitude : Int := significant.length + scale
  if significant.isEmpty || magnitude < 309 then false
  else if 309 < magnitude then true
  else
    let n := Text.natural significant
    if 0 ≤ scale then doubleBound ≤ n * Nat.pow 10 scale.toNat
    else doubleBound * Nat.pow 10 (-scale).toNat ≤ n

/-- The text behind a decimal fraction. A negative one may be as large as it likes. -/
def readDecimal (cs : List Char) : Option (List Char) := do
  let (negative, cs) := readSign cs
  let (whole, behindWhole) ← readWhole cs
  let (fraction, behindFraction) ← readFraction behindWhole
  let (exponent, rest) ← readExponent behindFraction
  if fraction.isEmpty && exponent.isNone then none
  else
    let shift : Int := match exponent with
      | none => 0
      | some (true, digits) => -(Text.natural digits)
      | some (false, digits) => Text.natural digits
    if !negative && exceedsDouble (whole ++ fraction) (shift - fraction.length) then none
    else some rest

/-- The text behind one of the special doubles. -/
def readSpecial (cs : List Char) : Option (List Char) :=
  match (readSign cs).2 with
  | 'i' :: 'n' :: 'f' :: rest => some rest
  | 'n' :: 'a' :: 'n' :: rest => some rest
  | _ => none

/-- The value of digits to a base. -/
def radixValue (base : Nat) (digits : List Char) : Nat :=
  digits.foldl (fun n c ↦ base * n + (Text.hexValue? c).getD 0) 0

/-- The text behind digits to a base, if their value fits into 64 bits with a sign. -/
def readRadix (base : Nat) (cs : List Char) : Option (List Char) := do
  let (digits, rest) ← readRun (fun c ↦ (Text.hexValue? c).any (· < base)) cs
  if radixValue base digits < Text.signedBound then some rest else none

/-- The text behind a whole number. -/
def readInteger : List Char → Option (List Char)
  | '0' :: 'x' :: rest => readRadix 16 rest
  | '0' :: 'o' :: rest => readRadix 8 rest
  | '0' :: 'b' :: rest => readRadix 2 rest
  | cs => do
    let (negative, cs) := readSign cs
    let (digits, rest) ← readWhole cs
    let n := Text.natural digits
    if n < Text.signedBound ∨ (negative ∧ n = Text.signedBound) then some rest else none

/-! ## Dates -/

/-- A number of exactly `count` digits between two bounds. -/
def readField (count least most : Nat) (cs : List Char) : Option (Nat × List Char) :=
  let digits := cs.take count
  let n := Text.natural digits
  if digits.length = count ∧ digits.all Char.isDigit ∧ least ≤ n ∧ n ≤ most then
    some (n, cs.drop count)
  else none

/-- The text behind a character. -/
def readChar (c : Char) : List Char → Option (List Char)
  | first :: rest => if first = c then some rest else none
  | [] => none

def isLeapYear (year : Nat) : Bool := year % 4 == 0 && (year % 100 != 0 || year % 400 == 0)

/-- The number of days of a month. -/
def monthDays (year month : Nat) : Nat :=
  if month = 2 then if isLeapYear year then 29 else 28
  else if month = 4 ∨ month = 6 ∨ month = 9 ∨ month = 11 then 30
  else 31

/-- The text behind a day. -/
def readDay (cs : List Char) : Option (List Char) := do
  let (year, cs) ← readField 4 0 9999 cs
  let cs ← readChar '-' cs
  let (month, cs) ← readField 2 1 12 cs
  let cs ← readChar '-' cs
  let (_, cs) ← readField 2 1 (monthDays year month) cs
  pure cs

/-- The text behind hours and minutes. -/
def readMinutes (cs : List Char) : Option (List Char) := do
  let (_, cs) ← readField 2 0 23 cs
  let cs ← readChar ':' cs
  let (_, cs) ← readField 2 0 59 cs
  pure cs

/-- The text behind a time of day. -/
def readTime (cs : List Char) : Option (List Char) := do
  let cs ← readMinutes cs
  let cs ← readChar ':' cs
  let (_, cs) ← readField 2 0 60 cs
  match cs with
  | '.' :: rest =>
    match rest.takeWhile Char.isDigit with
    | [] => none
    | _ => pure (rest.dropWhile Char.isDigit)
  | _ => pure cs

/-- The text from behind an offset on, if it starts with one. -/
def skipOffset : List Char → List Char
  | c :: rest =>
    if c = 'Z' ∨ c = 'z' then rest
    else if c = '+' ∨ c = '-' then (readMinutes rest).getD (c :: rest)
    else c :: rest
  | [] => []

/-- The text behind a day, with its time if there is one. -/
def readDate (cs : List Char) : Option (List Char) := do
  let cs ← readDay cs
  match cs with
  | c :: rest =>
    if c = 'T' ∨ c = 't' ∨ c = ' ' then
      match readTime rest with
      | some rest => pure (skipOffset rest)
      | none => pure cs
    else pure cs
  | [] => pure cs

/-! ## Any of them -/

/-- The text behind a truth value. -/
def readTruth : List Char → Option (List Char)
  | 't' :: 'r' :: 'u' :: 'e' :: rest => some rest
  | 'f' :: 'a' :: 'l' :: 's' :: 'e' :: rest => some rest
  | _ => none

/-- The text behind a number, a truth value or a date. -/
def readBehindScalar (cs : List Char) : Option (List Char) :=
  readTruth cs <|> readDate cs <|> readTime cs <|> readDecimal cs <|> readSpecial cs <|>
    readInteger cs

/-- A number, a truth value or a date as it is written, with the text behind it. -/
def readScalar (cs : List Char) : Option (String × List Char) :=
  (readBehindScalar cs).map fun rest ↦ (String.ofList (cs.take (cs.length - rest.length)), rest)

end SqlGateway.Toml
