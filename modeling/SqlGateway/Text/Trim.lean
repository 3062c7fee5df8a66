/-!
# Trimming

Cutting characters of a class off the ends of a text. Everything is `dropWhile` on lists of
characters; the end is reached by reversal. `Text.isBlank` is the Unicode property `White_Space`,
which is what "surrounding whitespace" means throughout.
-/

namespace SqlGateway.Text

/-- The members of the Unicode property `White_Space`. -/
def isBlank (c : Char) : Bool :=
  let n := c.toNat
  (9 ≤ n && n ≤ 13) || n == 32 || n == 0x85 || n == 0xA0 || n == 0x1680 ||
    (0x2000 ≤ n && n ≤ 0x200A) || n == 0x2028 || n == 0x2029 || n == 0x202F || n == 0x205F ||
    n == 0x3000

/-- The whitespace of ASCII. -/
def isAsciiSpace (c : Char) : Bool := c == ' ' || ('\t' ≤ c && c ≤ '\r')

/-- Without the characters of class `p` at its end. -/
def dropEndWhile (p : Char → Bool) (cs : List Char) : List Char :=
  (cs.reverse.dropWhile p).reverse

/-- Without the characters of class `p` at either end. -/
def trimWhile (p : Char → Bool) (cs : List Char) : List Char :=
  dropEndWhile p (cs.dropWhile p)

/-- Without surrounding whitespace. -/
def trimBlank (cs : List Char) : List Char := trimWhile isBlank cs

/-- A text without surrounding whitespace. -/
def trim (s : String) : String := String.ofList (trimBlank s.toList)

@[simp] theorem dropEndWhile_nil (p : Char → Bool) : dropEndWhile p [] = [] := rfl

theorem dropEndWhile_concat_of_neg {p : Char → Bool} {c : Char} (cs : List Char)
    (h : p c = false) : dropEndWhile p (cs ++ [c]) = cs ++ [c] := by
  simp [dropEndWhile, h]

theorem dropEndWhile_concat_of_pos {p : Char → Bool} {c : Char} (cs : List Char)
    (h : p c = true) : dropEndWhile p (cs ++ [c]) = dropEndWhile p cs := by
  simp [dropEndWhile, h]

end SqlGateway.Text
