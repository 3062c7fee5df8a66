/-!
# Hexadecimal digits

Two digits a byte, in either case. `Text.hexValue?` reads a digit of any case.
-/

namespace SqlGateway.Text

/-- The digit of value `n`, which is below sixteen, in lower case. -/
def hexDigit (n : Nat) : Char :=
  if n < 10 then Char.ofNat (48 + n) else Char.ofNat (87 + n)

/-- The digit of value `n`, which is below sixteen, in upper case. -/
def hexDigitUpper (n : Nat) : Char :=
  if n < 10 then Char.ofNat (48 + n) else Char.ofNat (55 + n)

/-- The value of a hexadecimal digit of either case. -/
def hexValue? (c : Char) : Option Nat :=
  if '0' ≤ c ∧ c ≤ '9' then some (c.toNat - 48)
  else if 'a' ≤ c ∧ c ≤ 'f' then some (c.toNat - 87)
  else if 'A' ≤ c ∧ c ≤ 'F' then some (c.toNat - 55)
  else none

/-- Two lower-case digits a byte. -/
def hex (bytes : List UInt8) : String :=
  String.ofList (bytes.flatMap fun b ↦ [hexDigit (b.toNat / 16), hexDigit (b.toNat % 16)])

/-- Two upper-case digits a byte. -/
def hexUpper (bytes : List UInt8) : String :=
  String.ofList
    (bytes.flatMap fun b ↦ [hexDigitUpper (b.toNat / 16), hexDigitUpper (b.toNat % 16)])

/-- The number that a non-empty run of hexadecimal digits writes, leading digit first. -/
def hexNumber? (digits : List Char) : Option Nat :=
  if digits.isEmpty then none
  else digits.foldlM (fun n c ↦ (hexValue? c).map (16 * n + ·)) 0

/-- The bytes written by a text of two digits each. -/
def ofHex? : List Char → Option (List UInt8)
  | [] => some []
  | a :: b :: rest => do
    let high ← hexValue? a
    let low ← hexValue? b
    let bytes ← ofHex? rest
    pure (UInt8.ofNat (16 * high + low) :: bytes)
  | [_] => none

end SqlGateway.Text
