import SqlGateway.Json
import SqlGateway.Text.Digits
import SqlGateway.Text.Fold

/-!
# Numbers of a document

A number is written as digits with an optional point and exponent. A place for whole numbers
admits it only if it is written as one: without point, without exponent, and not as `-0`, which is
a double. A place for doubles admits every number whose text is not too large.

A double is made from the first digits that fit into 64 bits, as a whole number, scaled once by a
power of ten; the digits behind those count for the scale only. So a text of more than nineteen
digits may read as a neighbour of the nearest double.
-/

namespace SqlGateway.Json

/-- A number's text taken apart. -/
structure NumberParts where
  negative : Bool
  whole : List Char
  fraction : List Char
  /-- Sign and digits, if there is an exponent. -/
  exponent : Option (Bool × List Char)

/-- Take a number's text apart. -/
def NumberParts.ofText (text : List Char) : NumberParts :=
  let negative := text.head? = some '-'
  let body := if negative then text.drop 1 else text
  let whole := body.takeWhile Char.isDigit
  let behindWhole := body.dropWhile Char.isDigit
  let (fraction, behindFraction) := match behindWhole with
    | '.' :: rest => (rest.takeWhile Char.isDigit, rest.dropWhile Char.isDigit)
    | rest => ([], rest)
  let exponent := match behindFraction with
    | _ :: '-' :: digits => some (true, digits)
    | _ :: '+' :: digits => some (false, digits)
    | _ :: digits => some (false, digits)
    | [] => none
  ⟨negative, whole, fraction, exponent⟩

/-- The whole number that a text writes as one. Beyond 64 bits a text writes a double. -/
def integerOfText? (text : List Char) : Option Int :=
  if text.any fun c ↦ c == '.' || c == 'e' || c == 'E' then none
  else match text with
    | '-' :: digits =>
      let n := Text.natural digits
      if n = 0 ∨ Text.signedBound < n then none else some (-(n : Int))
    | digits =>
      let n := Text.natural digits
      if UInt64.size ≤ n then none else some n

/-- Append digits to `acc` for as long as it fits into 64 bits. A digit of the fraction lowers the
scale, a digit of the whole part that no longer fits raises it. -/
def appendDigits (inFraction : Bool) : Nat → Int → List Char → Nat × Int
  | acc, scale, [] => (acc, scale)
  | acc, scale, c :: cs =>
    let next := 10 * acc + (c.toNat - 48)
    if next < UInt64.size then
      appendDigits inFraction next (if inFraction then scale - 1 else scale) cs
    else (acc, if inFraction then scale else scale + (cs.length + 1))

/-- The leading digits of a whole part and a fraction that fit into 64 bits, as a number, with the
power of ten it is to be scaled by. -/
def significand (whole fraction : List Char) : Nat × Int :=
  let (acc, scale) := appendDigits false 0 0 whole
  appendDigits true acc scale fraction

/-- Scale by a power of ten. Below the range of the powers of ten that are doubles the division is
done in two steps; too large a number is refused. -/
def scaled? (x : Float) (scale : Int) : Option Float :=
  if 0 ≤ scale then
    if x == 0 then some x
    else if 308 < scale then none
    else
      let y := x * Float.ofScientific 1 false scale.toNat
      if y.isInf then none else some y
  else go 8 x (-scale).toNat
where
  /-- Divide by `10 ^ places`, at most `10 ^ 308` at a time. -/
  go : Nat → Float → Nat → Option Float
    | 0, x, _ => some x
    | fuel + 1, x, places =>
      if places ≤ 308 then some (x / Float.ofScientific 1 false places)
      else if x == 0 then some x
      else go fuel (x / Float.ofScientific 1 false 308) (places - 308)

/-- The double that a text writes. -/
def floatOfText? (text : List Char) : Option Float :=
  match integerOfText? text with
  | some i => some (if i < 0 then -(i.natAbs.toFloat) else i.natAbs.toFloat)
  | none =>
    let parts := NumberParts.ofText text
    let (digits, scale) := significand parts.whole parts.fraction
    let shift : Option Int := match parts.exponent with
      | none => some 0
      | some (negative, ds) =>
        let n := Text.natural ds
        if 0x80000000 ≤ n then if negative ∨ digits = 0 then some (-1000000) else none
        else some (if negative then -n else n)
    match shift with
    | none => none
    | some shift =>
      (scaled? digits.toFloat (scale + shift)).map fun x ↦ if parts.negative then -x else x

end SqlGateway.Json
