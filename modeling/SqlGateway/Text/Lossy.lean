/-!
# Bytes as text

Bytes are read as UTF-8. Where they are none, the longest start of a character, or else a single
byte, is read as the replacement character U+FFFD.

## Main definitions

* `Text.ofBytes`: the text that bytes are read as.
-/

namespace SqlGateway.Text

/-- A character of which the first bytes have been read. -/
structure Unfinished where
  /-- What the bytes say of its number. -/
  code : Nat
  /-- How many bytes are missing, less one. -/
  behind : Nat
  /-- The next byte is one of these. -/
  low : Nat
  high : Nat
deriving Repr, DecidableEq

/-- The character that a byte starts, if it starts one of several bytes. Forms that are longer than
needed, surrogates and numbers beyond the last character are excluded by the second byte. -/
def Unfinished.ofLead? (byte : Nat) : Option Unfinished :=
  if byte < 0xC2 then none
  else if byte < 0xE0 then some ⟨byte - 0xC0, 0, 0x80, 0xBF⟩
  else if byte < 0xF0 then
    some ⟨byte - 0xE0, 1, if byte = 0xE0 then 0xA0 else 0x80, if byte = 0xED then 0x9F else 0xBF⟩
  else if byte < 0xF5 then
    some ⟨byte - 0xF0, 2, if byte = 0xF0 then 0x90 else 0x80, if byte = 0xF4 then 0x8F else 0xBF⟩
  else none

/-- What stands for bytes that are no character. -/
def replacement : Char := '\ufffd'

/-- The text from behind the bytes of `unfinished`, if there are some. -/
def ofBytesFrom : (unfinished : Option Unfinished) → List UInt8 → List Char
  | none, [] => []
  | some _, [] => [replacement]
  | unfinished, byte :: rest =>
    let fresh (_ : Unit) : List Char :=
      if byte.toNat < 0x80 then Char.ofNat byte.toNat :: ofBytesFrom none rest
      else match Unfinished.ofLead? byte.toNat with
        | some lead => ofBytesFrom (some lead) rest
        | none => replacement :: ofBytesFrom none rest
    match unfinished with
    | none => fresh ()
    | some ⟨code, behind, low, high⟩ =>
      if low ≤ byte.toNat ∧ byte.toNat ≤ high then
        let code := 64 * code + (byte.toNat - 0x80)
        match behind with
        | 0 => Char.ofNat code :: ofBytesFrom none rest
        | behind + 1 => ofBytesFrom (some ⟨code, behind, 0x80, 0xBF⟩) rest
      else replacement :: fresh ()

/-- The text that bytes are read as. -/
def ofBytes (bytes : List UInt8) : String := String.ofList (ofBytesFrom none bytes)

end SqlGateway.Text
