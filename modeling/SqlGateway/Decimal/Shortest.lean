/-!
# Shortest decimals

A finite positive double is `mantissa · 2 ^ exponent`, and every real in an interval around it
reads back as it. Of the decimals in that interval this module picks one with the fewest digits,
and among those the one nearest to the value; of two that are equally near, a `Decimal.Tie` takes
one. All of it is exact arithmetic on `Nat`: the value and the ends of its interval are quarters of
a unit in the last place, brought over one denominator with the decimal grid that is tried.

The grids are tried from coarse to fine. If any point of a grid lies in the interval, then so does
one of the two grid points next to the value, so looking at those two decides the grid.

## Main definitions

* `Decimal.Binary`: a positive number `mantissa · 2 ^ exponent` with its rounding interval.
* `Decimal.Digits`: the digits of a decimal without trailing zeros, with the place of the first.
* `Decimal.Tie`: which of two equally near decimals is taken.
* `Decimal.shortest`: the choice.
-/

namespace SqlGateway.Decimal

/-- A positive binary number, `mantissa · 2 ^ exponent`. `narrow` says that the neighbour below is
only half as far away as the one above, as it is at a power of two. -/
structure Binary where
  mantissa : Nat
  exponent : Int
  narrow : Bool
deriving Repr, DecidableEq

/-- A decimal `d₁.d₂d₃… · 10 ^ place`: `number` is `d₁d₂d₃…` without trailing zeros. -/
structure Digits where
  number : Nat
  place : Int
deriving Repr, DecidableEq

/-- Which of two neighbours on a grid is taken for what lies in the middle between them. -/
inductive Tie where
  | even | up
deriving Repr, DecidableEq

/-- Whether the neighbour `below` is taken. -/
def Tie.takesBelow (tie : Tie) (below : Nat) : Bool :=
  match tie with
  | even => below % 2 == 0
  | up => false

/-- The fraction field of a double is below this bound: it has 52 bits. -/
def fractionBound : Nat := 0x10000000000000

/-- The exponent field of a double is below this bound: it has eleven bits. -/
def exponentBound : Nat := 0x800

/-- The fraction field of a double's representation. -/
def fractionOf (bits : UInt64) : Nat := bits.toNat % fractionBound

/-- The exponent field of a double's representation. -/
def exponentFieldOf (bits : UInt64) : Nat := bits.toNat / fractionBound % exponentBound

/-- The sign is the bit above the exponent field. -/
def isNegative (bits : UInt64) : Bool := exponentBound * fractionBound ≤ bits.toNat

/-- The positive number in the low 63 bits of a finite double's representation, if not zero. -/
def Binary.ofBits? (bits : UInt64) : Option Binary :=
  let fraction := fractionOf bits
  let field := exponentFieldOf bits
  if field = 0 then
    if fraction = 0 then none else some ⟨fraction, -1074, false⟩
  else some ⟨fractionBound + fraction, (field : Int) - 1075, fraction == 0 && 1 < field⟩

namespace Binary

/-- Numerator and denominator of `quarters · 2 ^ (exponent - 2) / 10 ^ unit`. -/
def scaled (b : Binary) (quarters : Nat) (unit : Int) : Nat × Nat :=
  let shift := b.exponent - 2
  (quarters * Nat.pow 2 shift.toNat * Nat.pow 10 (-unit).toNat,
    Nat.pow 2 (-shift).toNat * Nat.pow 10 unit.toNat)

/-- Whether `point · 10 ^ unit` reads back as `b`. The ends of the interval count when the
mantissa is even. -/
def reads (b : Binary) (unit : Int) (point : Nat) : Bool :=
  let low := b.scaled (4 * b.mantissa - if b.narrow then 1 else 2) unit
  let high := b.scaled (4 * b.mantissa + 2) unit
  if b.mantissa % 2 = 0 then low.1 ≤ point * low.2 && point * high.2 ≤ high.1
  else low.1 < point * low.2 && point * high.2 < high.1

/-- The point of the grid of multiples of `10 ^ unit` that reads back as `b`, if there is one; of
two the nearer, and of two equally near the one that `tie` says. -/
def onGrid (b : Binary) (tie : Tie) (unit : Int) : Option Nat :=
  let (num, den) := b.scaled (4 * b.mantissa) unit
  let below := num / den
  let rest := 2 * (num % den)
  let nearBelow := rest < den || (rest == den && tie.takesBelow below)
  match b.reads unit below, b.reads unit (below + 1) with
  | true, true => some (if nearBelow then below else below + 1)
  | true, false => some below
  | false, true => some (below + 1)
  | false, false => none

/-- Whether `b` is at least `10 ^ place`. -/
def atLeast (b : Binary) (place : Int) : Bool :=
  let (num, den) := b.scaled (4 * b.mantissa) place
  den ≤ num

/-- The exponent of the largest power of ten that is at most `b`. The logarithm to base two gives
it up to one. -/
def place (b : Binary) : Int :=
  let guess := ((b.mantissa.log2 : Int) + b.exponent) * 1233 / 4096
  if b.atLeast (guess + 1) then guess + 1 else if b.atLeast guess then guess else guess - 1

end Binary

/-- Drop the zeros at the end of `number`; `fuel` bounds their count. -/
def dropZeros : Nat → Nat → Nat
  | 0, number => number
  | fuel + 1, number =>
    if number ≠ 0 ∧ number % 10 = 0 then dropZeros fuel (number / 10) else number

/-- Try the grids of `count`, `count + 1`, … digits in turn. -/
def shortestFrom (b : Binary) (tie : Tie) (place : Int) : Nat → Nat → Digits
  | 0, _ => ⟨0, 0⟩
  | fuel + 1, count =>
    match b.onGrid tie (place - count + 1) with
    | some point =>
      let top := if Nat.pow 10 count ≤ point then place + 1 else place
      ⟨dropZeros 20 point, top⟩
    | none => shortestFrom b tie place fuel (count + 1)

/-- The shortest decimal that reads back as `b`; seventeen digits always do. -/
def shortest (b : Binary) (tie : Tie) : Digits := shortestFrom b tie b.place 17 1

end SqlGateway.Decimal
