import SqlGateway.Text.Hex

/-!
# UUIDs

Identifiers of 128 bits. They are written as 32 lower-case hexadecimal digits in groups of 8, 4,
4, 4 and 12, and read in any case, with the hyphens or without any, and in hyphenated form also in
braces or behind `urn:uuid:`, which may be in any case, too.
-/

namespace SqlGateway

/-- A universally unique identifier. -/
structure Uuid where
  bits : BitVec 128
deriving Repr, DecidableEq, Inhabited

namespace Uuid

/-- The identifier whose bits write `n`. -/
def ofNat (n : Nat) : Uuid := ⟨BitVec.ofNat 128 n⟩

/-- `count` hexadecimal digits of `n`, leading digit first. -/
def digits : Nat → Nat → List Char
  | 0, _ => []
  | count + 1, n => digits count (n / 16) ++ [Text.hexDigit (n % 16)]

/-- Put a hyphen after the 8th, 12th, 16th and 20th digit. -/
def hyphenated (ds : List Char) : List Char :=
  ds.take 8 ++ '-' :: (ds.drop 8).take 4 ++ '-' :: (ds.drop 12).take 4 ++
    '-' :: (ds.drop 16).take 4 ++ '-' :: ds.drop 20

/-- The written form. -/
def display (u : Uuid) : String := String.ofList (hyphenated (digits 32 u.bits.toNat))

/-- The 32 digits of a hyphenated form, if the hyphens stand where they should. -/
def unhyphenated? (cs : List Char) : Option (List Char) :=
  let ds := cs.take 8 ++ (cs.drop 9).take 4 ++ (cs.drop 14).take 4 ++ (cs.drop 19).take 4 ++
    cs.drop 24
  if cs.length = 36 ∧ hyphenated ds = cs then some ds else none

/-- The digits of an identifier in any of its written forms. -/
def digits? (cs : List Char) : Option (List Char) :=
  if cs.length = 32 then some cs
  else if cs.length = 36 then unhyphenated? cs
  else if cs.length = 38 ∧ cs.head? = some '\x7b' ∧ cs.getLast? = some '\x7d' then
    unhyphenated? ((cs.drop 1).take 36)
  else if cs.length = 45 ∧ (cs.take 9).map Char.toLower = "urn:uuid:".toList then
    unhyphenated? (cs.drop 9)
  else none

/-- Read an identifier. -/
def parse? (text : String) : Option Uuid := do
  let ds ← digits? text.toList
  let n ← Text.hexNumber? ds
  pure (ofNat n)

end Uuid

end SqlGateway
