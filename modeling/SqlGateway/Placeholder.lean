import SqlGateway.Text.Fold
import SqlGateway.Text.Word

/-!
# Placeholders in SQL text

The names a statement refers to as `@name`. String literals are taken out first, each replaced by
an empty one; then names are collected from left to right. An `@` counts if it begins the text or
stands behind a character that is neither `@` nor a word character, and that character is used up
by the match, as is the name.

A literal ends at its closing quote, where a doubled quote is part of it. If the text ends first,
the literal closes at the first quote of the last doubled one, and without any it is no literal.

## Main definitions

* `Placeholder.stripLiterals`: the text without the contents of literals.
* `Placeholder.occurrences`: the names in order, with repeats.
* `Placeholder.scan`: the names, each once, in the spelling that comes first.
-/

namespace SqlGateway.Placeholder

/-! ## String literals -/

/-- The text behind a literal, from behind its opening quote. -/
def behindLiteral? : List Char → Option (List Char)
  | [] => none
  | '\'' :: '\'' :: rest =>
    match behindLiteral? rest with
    | some behind => some behind
    | none => some ('\'' :: rest)
  | '\'' :: rest => some rest
  | _ :: rest => behindLiteral? rest

theorem length_lt_of_behindLiteral? {cs behind : List Char}
    (h : behindLiteral? cs = some behind) : behind.length < cs.length := by
  fun_induction behindLiteral? cs generalizing behind with
  | case1 => cases h
  | case2 rest found hfound ih =>
    cases h
    have := ih hfound
    simp only [List.length_cons]
    omega
  | case3 rest hnone ih =>
    cases h
    simp
  | case4 rest hne =>
    cases h
    simp
  | case5 c rest hne hne' ih =>
    have := ih h
    simp only [List.length_cons]
    omega

/-- The text with every literal emptied. -/
def stripLiterals : List Char → List Char
  | [] => []
  | c :: cs =>
    if c = '\'' then
      match _h : behindLiteral? cs with
      | some rest => '\'' :: '\'' :: stripLiterals rest
      | none => c :: stripLiterals cs
    else c :: stripLiterals cs
termination_by cs => cs.length
decreasing_by
  · have := length_lt_of_behindLiteral? _h
    simp only [List.length_cons]
    omega
  · simp
  · simp

/-! ## Names -/

/-- The name behind an `@` that starts the text, and the rest. -/
def nameAt? : List Char → Option (List Char × List Char)
  | '@' :: c :: cs =>
    if Text.isNameStart c then
      some (c :: cs.takeWhile Text.isNameRest, cs.dropWhile Text.isNameRest)
    else none
  | _ => none

theorem length_lt_of_nameAt? {cs name rest : List Char} (h : nameAt? cs = some (name, rest)) :
    rest.length < cs.length := by
  unfold nameAt? at h
  split at h
  · rename_i c tail
    split at h
    · cases h
      have : (tail.dropWhile Text.isNameRest).length ≤ tail.length :=
        (List.dropWhile_suffix _).length_le
      simp only [List.length_cons]
      omega
    · cases h
  · cases h

/-- Whether an `@` behind this character begins a placeholder. -/
def admits (c : Char) : Bool := c != '@' && !Text.isWord c

/-- The match at the front of a text: the name and the rest. At the very start an `@` needs no
character in front of it. -/
def matchFront? (atStart : Bool) : List Char → Option (List Char × List Char)
  | [] => none
  | c :: cs =>
    match if atStart then nameAt? (c :: cs) else none with
    | some found => some found
    | none => if admits c then nameAt? cs else none

theorem length_lt_of_matchFront? {atStart : Bool} {cs name rest : List Char}
    (h : matchFront? atStart cs = some (name, rest)) : rest.length < cs.length := by
  cases cs with
  | nil => cases h
  | cons c cs =>
    simp only [matchFront?] at h
    split at h
    · rename_i found hfound
      split at hfound
      · cases h
        exact length_lt_of_nameAt? hfound
      · cases hfound
    · split at h
      · have := length_lt_of_nameAt? h
        simp only [List.length_cons]
        omega
      · cases h

/-- The names in a text without literals, from left to right. -/
def occurrences (atStart : Bool) (cs : List Char) : List (List Char) :=
  match cs with
  | [] => []
  | c :: tail =>
    match _h : matchFront? atStart (c :: tail) with
    | some (name, rest) => name :: occurrences false rest
    | none => occurrences false tail
termination_by cs.length
decreasing_by
  · exact length_lt_of_matchFront? _h
  · simp

/-- Without the names that came before in some case. -/
def dedupe (names : List String) : List String :=
  names.foldl (fun seen name ↦
    if seen.any (Text.sameName · name) then seen else seen ++ [name]) []

/-- The placeholders that a statement refers to. -/
def scan (sql : String) : List String :=
  dedupe ((occurrences true (stripLiterals sql.toList)).map String.ofList)

end SqlGateway.Placeholder
