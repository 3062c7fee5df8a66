import SqlGateway.Decimal.Extended
import SqlGateway.Decimal.Layout
import SqlGateway.Text.Digits
import SqlGateway.Text.Trim

/-!
# Decimal numbers of SQLite

How SQLite reads the double that a decimal writes, and how it writes a double.

Reading keeps digits as long as the whole number that they write is small enough to take another
one; digits of the whole part behind them only count, and digits of the fraction behind them are
lost. What is kept is brought to its place in steps of 64 significant bits, so the double is the
nearest one for most numbers, but not for all of them.

Writing takes fifteen digits, which are found in such steps, too.

A text is read as the number that it starts with, and it is a number if nothing but space is behind
that.
-/

namespace SqlGateway.Sqlite

/-- An unsigned decimal as it is written: `whole.fraction` times `10 ^ exponent`. -/
structure Numeral where
  whole : List Char
  fraction : List Char
  exponent : Int
deriving Repr, DecidableEq, Inhabited

namespace Numeral

/-- A whole number without an exponent. -/
def ofDigits (digits : List Char) : Numeral := ⟨digits, [], 0⟩

/-! ## Reading -/

/-- As long as the kept digits write a number below this, another one is kept: it fits 64 bits. -/
def keptBound : Nat := 0x1999999999999998

/-- The number that an exponent's digits write. Five of them are enough. -/
def exponentOf (digits : List Char) : Nat :=
  digits.foldl (fun n c ↦ if n < 10000 then 10 * n + (c.toNat - 48) else 10000) 0

/-- What is kept of the digits: a whole number, and the power of ten that it is to be multiplied
by. -/
def kept (numeral : Numeral) : Nat × Int :=
  let whole := numeral.whole.foldl (fun (n, places) c ↦
    if n < keptBound then (10 * n + (c.toNat - 48), places) else (n, places + 1)) (0, (0 : Int))
  let (n, places) := numeral.fraction.foldl (fun (n, places) c ↦
    if n < keptBound then (10 * n + (c.toNat - 48), places - 1) else (n, places)) whole
  (n, places + numeral.exponent)

/-- Bring the power of ten nearer to one as long as the whole number stays whole and fits 64 bits,
which is for twenty places at most. -/
def settle : (fuel : Nat) → Nat → Int → Nat × Int
  | 0, n, places => (n, places)
  | fuel + 1, n, places =>
    if 0 < places ∧ n < 0x1999999999999999 then settle fuel (10 * n) (places - 1)
    else if places < 0 ∧ n % 10 = 0 then settle fuel (n / 10) (places + 1)
    else (n, places)

/-- The double that a decimal is read as. -/
def toFloat (numeral : Numeral) : Float :=
  let (n, places) := numeral.kept
  if n = 0 then 0.0
  else
    let (n, places) := settle 20 n places
    ((Decimal.Extended.ofNat n).shift places).toFloat

end Numeral

/-! ## Texts as numbers -/

/-- What a text says as a number. -/
structure Reading where
  negative : Bool
  numeral : Numeral
  /-- There is a point or an exponent. -/
  fractional : Bool
  /-- The text is a number, with nothing but space around it. -/
  complete : Bool
deriving Repr, DecidableEq, Inhabited

namespace Reading

/-- A sign, if there is one, and what is behind it. -/
def splitSign : List Char → Bool × List Char
  | '-' :: rest => (true, rest)
  | '+' :: rest => (false, rest)
  | rest => (false, rest)

/-- Read a text. Without an exponent's digits its letter is read but makes the text no number. -/
def ofText (cs : List Char) : Reading :=
  let (negative, unsigned) := splitSign (cs.dropWhile Text.isAsciiSpace)
  let (whole, behindWhole) := unsigned.span Char.isDigit
  let (fraction, behindFraction) := match behindWhole with
    | '.' :: behind => behind.span Char.isDigit
    | behind => ([], behind)
  let (power, valid, rest) : Int × Bool × List Char := match behindFraction with
    | e :: behind =>
      if e == 'e' || e == 'E' then
        let (below, behind) := splitSign behind
        let (digits, rest) := behind.span Char.isDigit
        let n : Int := Numeral.exponentOf digits
        (if below then -n else n, !digits.isEmpty, rest)
      else (0, true, e :: behind)
    | [] => (0, true, [])
  { negative
    numeral := ⟨whole, fraction, power⟩
    fractional := rest.length != behindWhole.length
    complete := valid && !(whole.isEmpty && fraction.isEmpty) && rest.all Text.isAsciiSpace }

/-- The double that the text is read as. -/
def toFloat (reading : Reading) : Float :=
  if reading.negative then -reading.numeral.toFloat else reading.numeral.toFloat

/-- The whole number that the text is, if it has neither point nor exponent. -/
def toInt? (reading : Reading) : Option Int :=
  if reading.fractional then none
  else
    let n : Int := Text.natural reading.numeral.whole
    some (if reading.negative then -n else n)

end Reading

/-! ## Writing -/

/-- A double as a text: fifteen digits, always with a point, and with an exponent from `10 ^ 15` up
and below `10 ^ -4`. -/
def realLayout : Decimal.Layout where
  digits b := (Decimal.Extended.ofBinary b).digits 15
  positional := some (-4, 14)
  wholePoint := true
  leadPoint := true
  exponentWidth := 2
  nan := ""
  infinities := ("Inf", "-Inf")

/-- The text of a double. Zero has no sign. -/
def realText (x : Float) : String := if x == 0.0 then "0.0" else realLayout.write x

end SqlGateway.Sqlite
