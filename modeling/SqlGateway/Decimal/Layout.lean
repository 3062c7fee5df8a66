import SqlGateway.Decimal.Shortest

/-!
# Layouts of a decimal

The texts of a double that are in use differ in a few decisions, which a `Decimal.Layout` records:
how its digits are chosen, up to which exponents the number is written out in full, what a whole
number and an exponent look like, and how the numbers that are none are spelled.
-/

namespace SqlGateway.Decimal

/-- How a double is written. -/
structure Layout where
  /-- The digits of a positive number. -/
  digits : Binary → Digits
  /-- Exponents outside this range are written with `e`; `none` writes every number in full. -/
  positional : Option (Int × Int)
  /-- A whole number written in full ends in `.0`. -/
  wholePoint : Bool
  /-- A single digit in front of an exponent is followed by `.0`. -/
  leadPoint : Bool
  /-- An exponent has at least so many digits. -/
  exponentWidth : Nat
  /-- The text of what is not a number. -/
  nan : String
  /-- The texts of the positive and the negative infinity. -/
  infinities : String × String

/-- A value on its own: never an exponent, and no point in a whole number. What lies in the middle
is written as the decimal further from zero. -/
def display : Layout where
  digits b := shortest b .up
  positional := none
  wholePoint := false
  leadPoint := false
  exponentWidth := 1
  nan := "NaN"
  infinities := ("inf", "-inf")

/-- A number in a JSON document: from `10 ^ 16` up and below `10 ^ -5` with an exponent, which
carries its sign; what is not finite has no other spelling than `null`. -/
def json : Layout where
  digits b := shortest b .even
  positional := some (-5, 15)
  wholePoint := true
  leadPoint := false
  exponentWidth := 1
  nan := "null"
  infinities := ("null", "null")

/-- `n` zeros. -/
def zeros (n : Nat) : List Char := List.replicate n '0'

/-- `d₁d₂…` with the point after the digit of place zero. -/
def Layout.writeFull (layout : Layout) (digits : List Char) (place : Int) : List Char :=
  let point := if layout.wholePoint then ".0".toList else []
  if place < 0 then '0' :: '.' :: zeros (-place - 1).toNat ++ digits
  else
    let whole := place.toNat + 1
    if digits.length ≤ whole then digits ++ zeros (whole - digits.length) ++ point
    else digits.take whole ++ '.' :: digits.drop whole

/-- `d₁.d₂…e±place`. -/
def Layout.writeScientific (layout : Layout) (digits : List Char) (place : Int) : List Char :=
  let fraction := match digits.drop 1 with
    | [] => if layout.leadPoint then ['.', '0'] else []
    | rest => '.' :: rest
  let exponent := (toString place.natAbs).toList
  digits.take 1 ++ fraction ++ 'e' :: (if place < 0 then '-' else '+') ::
    zeros (layout.exponentWidth - exponent.length) ++ exponent

/-- The digits of a positive number, laid out. -/
def Layout.writeDigits (layout : Layout) (d : Digits) : List Char :=
  let digits := (toString d.number).toList
  match layout.positional with
  | none => layout.writeFull digits d.place
  | some (low, high) =>
    if low ≤ d.place ∧ d.place ≤ high then layout.writeFull digits d.place
    else layout.writeScientific digits d.place

/-- The text of a double. The sign of zero is kept. -/
def Layout.write (layout : Layout) (x : Float) : String :=
  let bits := x.toBits
  if x.isNaN then layout.nan
  else
    let negative := isNegative bits
    let sign : List Char := if negative then ['-'] else []
    if exponentFieldOf bits + 1 = exponentBound then
      if negative then layout.infinities.2 else layout.infinities.1
    else match Binary.ofBits? bits with
      | none => String.ofList (sign ++ layout.writeFull ['0'] 0)
      | some b => String.ofList (sign ++ layout.writeDigits (layout.digits b))

end SqlGateway.Decimal
