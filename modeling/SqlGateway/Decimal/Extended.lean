import SqlGateway.Decimal.Shortest

/-!
# Numbers of 64 significant bits

Positive binary numbers whose mantissa has 64 bits, eleven more than that of a double. SQLite
brings a number from decimal to binary and back in steps, each of which multiplies it by a power of
ten and rounds to this precision, so the last bit of what it reads depends on the steps. They are
of a hundred places, then of ten, then of one.

Nothing is rounded but results: every operation is exact on `Nat` before it rounds, the middle
going to the even neighbour. Exponents have no bounds.

## Main definitions

* `Decimal.Extended`: the numbers.
* `Extended.ofRatio`: the number nearest to a fraction.
* `Extended.shift`: multiplication by a power of ten in steps.
* `Extended.toFloat`: the double nearest to a number.
* `Extended.leading`: the first eighteen or nineteen digits of a number.
-/

namespace SqlGateway.Decimal

/-- The whole number nearest to a fraction; the middle goes to the even one. -/
def nearestQuotient (num den : Nat) : Nat :=
  let below := num / den
  let rest := 2 * (num % den)
  if rest < den || (rest == den && below % 2 == 0) then below else below + 1

/-- A positive number `mantissa · 2 ^ exponent`. -/
structure Extended where
  mantissa : Nat
  exponent : Int
deriving Repr, DecidableEq

namespace Extended

/-- Mantissas are below this bound, and not below half of it. -/
def mantissaBound : Nat := 0x10000000000000000

/-- The number nearest to `num / den · 2 ^ exponent`, where neither `num` nor `den` is zero. The
logarithms give the size of the quotient up to one bit. -/
def ofRatio (num den : Nat) (exponent : Int) : Extended :=
  let guess : Int := 63 - num.log2 + den.log2
  let lifted (shift : Int) : Nat × Nat :=
    (num * Nat.pow 2 shift.toNat, den * Nat.pow 2 (-shift).toNat)
  let (n, d) := lifted guess
  let shift := if 2 * n < mantissaBound * d then guess + 1 else guess
  let (n, d) := lifted shift
  let mantissa := nearestQuotient n d
  if mantissa = mantissaBound then ⟨mantissaBound / 2, exponent - shift + 1⟩
  else ⟨mantissa, exponent - shift⟩

/-- A whole number that is not zero. -/
def ofNat (n : Nat) : Extended := ofRatio n 1 0

/-- The number that a double's magnitude is, which needs no rounding. -/
def ofBinary (b : Binary) : Extended := ofRatio b.mantissa 1 b.exponent

/-- The product, rounded. -/
def mul (x y : Extended) : Extended := ofRatio (x.mantissa * y.mantissa) 1 (x.exponent + y.exponent)

/-- Whether `x` is smaller than `y`. -/
def lessThan (x y : Extended) : Bool :=
  x.exponent < y.exponent || (x.exponent == y.exponent && x.mantissa < y.mantissa)

/-- The largest whole number that is at most `x`. -/
def floor (x : Extended) : Nat :=
  x.mantissa * Nat.pow 2 x.exponent.toNat / Nat.pow 2 (-x.exponent).toNat

/-! ## Powers of ten -/

/-- The number nearest to `10 ^ places`. -/
def tenTo (places : Int) : Extended :=
  ofRatio (Nat.pow 10 places.toNat) (Nat.pow 10 (-places).toNat) 0

/-- The factors of the steps up: a hundred places, ten and one. -/
def stepsUp : Extended × Extended × Extended := (tenTo 100, tenTo 10, tenTo 1)

/-- The factors of the steps down: a hundred places, ten and one. -/
def stepsDown : Extended × Extended × Extended := (tenTo (-100), tenTo (-10), tenTo (-1))

/-- Multiply by `10 ^ places` in steps. -/
def shift (x : Extended) (places : Int) : Extended :=
  let (hundred, ten, one) := if places < 0 then stepsDown else stepsUp
  let count := places.natAbs
  let x := Nat.repeat (·.mul hundred) (count / 100) x
  let x := Nat.repeat (·.mul ten) (count % 100 / 10) x
  Nat.repeat (·.mul one) (count % 10) x

/-! ## Doubles -/

/-- The largest double. -/
def largest : Extended := ⟨0xFFFFFFFFFFFFF800, 960⟩

/-- The representation of the infinite double. -/
def infinityBits : Nat := (exponentBound - 1) * fractionBound

/-- The double nearest to a number. What is larger than every double is infinite. -/
def toFloat (x : Extended) : Float :=
  if largest.lessThan x then .ofBits (.ofNat infinityBits)
  else
    let unit : Int := max (x.exponent + 11) (-1074)
    let point := nearestQuotient x.mantissa (Nat.pow 2 (unit - x.exponent).toNat)
    .ofBits (.ofNat ((unit + 1074).toNat * fractionBound + point))

/-! ## Digits -/

/-- Multiply by `factor` as long as `wants` says so, but at most `fuel` times. Gives the number of
times, too. -/
def repeatWhile (wants : Extended → Bool) (factor : Extended) :
    (fuel : Nat) → Extended → Extended × Nat
  | 0, x => (x, 0)
  | fuel + 1, x =>
    if wants x then
      let (y, times) := repeatWhile wants factor fuel (x.mul factor)
      (y, times + 1)
    else (x, 0)

/-- The whole part of a number that has been brought between `10 ^ 17` and `10 ^ 19` in steps, and
the power of ten that it is to be multiplied by. Forty steps of a kind are more than enough. -/
def leading (x : Extended) : Nat × Int :=
  if x.lessThan (tenTo 19) then
    let (x, hundreds) := repeatWhile (·.lessThan (tenTo (-97))) stepsUp.1 40 x
    let (x, tens) := repeatWhile (·.lessThan (tenTo 7)) stepsUp.2.1 40 x
    let (x, ones) := repeatWhile (·.lessThan (tenTo 17)) stepsUp.2.2 40 x
    (x.floor, -(100 * hundreds + 10 * tens + ones : Nat))
  else
    let (x, hundreds) := repeatWhile (!·.lessThan (tenTo 119)) stepsDown.1 40 x
    let (x, tens) := repeatWhile (!·.lessThan (tenTo 29)) stepsDown.2.1 40 x
    let (x, ones) := repeatWhile (!·.lessThan (tenTo 19)) stepsDown.2.2 40 x
    (x.floor, (100 * hundreds + 10 * tens + ones : Nat))

/-- The first `count` digits of a number; a half of the last place and more is rounded up. -/
def digits (count : Nat) (x : Extended) : Digits :=
  let (whole, scale) := x.leading
  let length := (toString whole).length
  let tenth := whole / Nat.pow 10 (length - count - 1)
  let point := if 5 ≤ tenth % 10 then tenth / 10 + 1 else tenth / 10
  let place : Int := length + scale - 1
  ⟨dropZeros count point, if Nat.pow 10 count ≤ point then place + 1 else place⟩

end Extended

end SqlGateway.Decimal
