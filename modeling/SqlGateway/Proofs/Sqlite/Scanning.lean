import Mathlib.Data.List.Basic
import Mathlib.Data.List.Find
import Mathlib.Data.List.TakeDrop
import Mathlib.Data.List.TakeWhile
import SqlGateway.Sqlite.Token

/-!
# Scanning a text with more behind it

A statement that ends in its semicolon is cut into the same tokens whatever stands behind it. This
is not a matter of course: a reader may look past the token it reads, to see whether a number has an
exponent or a name goes on. But it cannot look past a semicolon, unless it has taken the semicolon
for a part of a literal or of a comment, and then it has not ended there.

So the law of every reader is the same, `Settled`: on a text whose last character is a semicolon it
uses the text up, or else it leaves such a text again, and reads the same with more behind it. Of
the statement itself it follows that its tokens and parameters are its own, and that scanning goes
on exactly behind it.
-/

namespace SqlGateway.Sqlite

variable {α : Type}

/-! ## Texts that end in a semicolon -/

/-- The last character of a text is a semicolon. -/
def Terminated (cs : List Char) : Prop := cs.getLast? = some ';'

namespace Terminated

variable {c : Char} {cs rest : List Char}

theorem ne_nil (h : Terminated cs) : cs ≠ [] := by
  rintro rfl
  cases h

theorem mem (h : Terminated cs) : ';' ∈ cs := List.mem_of_getLast? h

theorem of_suffix (h : Terminated cs) (hsuffix : rest <:+ cs) (hrest : rest ≠ []) :
    Terminated rest := by
  obtain ⟨front, rfl⟩ := hsuffix
  rwa [Terminated, List.getLast?_append_of_ne_nil front hrest] at h

theorem of_cons (h : Terminated (c :: cs)) (hc : c ≠ ';') : Terminated cs := by
  refine h.of_suffix (List.suffix_cons c cs) ?_
  rintro rfl
  exact hc (Option.some.inj h)

theorem dropWhile {p : Char → Bool} (h : Terminated cs) (hp : p ';' = false) :
    Terminated (cs.dropWhile p) := by
  refine h.of_suffix (List.dropWhile_suffix p) fun hnil ↦ ?_
  rw [List.dropWhile_eq_nil_iff.mp hnil ';' h.mem] at hp
  cases hp

end Terminated

/-! ## Runs of characters -/

section

variable {p : Char → Bool} {cs : List Char}

theorem dropWhile_append_of_ne_nil (h : cs.dropWhile p ≠ []) (more : List Char) :
    (cs ++ more).dropWhile p = cs.dropWhile p ++ more := by
  rw [List.dropWhile_append, if_neg (by simpa using h)]

theorem takeWhile_append_of_ne_nil (h : cs.dropWhile p ≠ []) (more : List Char) :
    (cs ++ more).takeWhile p = cs.takeWhile p := by
  rw [List.takeWhile_append, if_neg]
  intro hlength
  have hall := congrArg List.length (List.takeWhile_append_dropWhile (p := p) (l := cs))
  rw [List.length_append, hlength] at hall
  exact h (List.length_eq_zero_iff.mp (by omega))

theorem head?_append_of_ne_nil (h : cs ≠ []) (more : List Char) :
    (cs ++ more).head? = cs.head? := by
  rw [List.head?_append, Option.or_of_isSome (by simpa using h)]

end

theorem take_written (cs rest more : List Char) :
    (cs ++ more).take ((cs ++ more).length - (rest ++ more).length) =
      cs.take (cs.length - rest.length) := by
  rw [List.length_append, List.length_append, Nat.add_sub_add_right,
    List.take_append_of_le_length (Nat.sub_le _ _)]

/-! ## Readers -/

/-- What a reader gives for a text, whatever stands behind the text. -/
structure Reads (read : List Char → α × List Char) (cs : List Char) (a : α) (rest : List Char) :
    Prop where
  terminated : Terminated rest
  append (more : List Char) : read (cs ++ more) = (a, rest ++ more)

/-- A reader uses the text up, or it leaves one that ends in a semicolon and reads the same with
more behind it. -/
def Settled (read : List Char → α × List Char) (cs : List Char) : Prop :=
  (read cs).2 = [] ∨ ∃ a rest, Reads read cs a rest

section

variable {read read' : List Char → α × List Char} {cs rest : List Char} {a : α}

theorem Reads.eq (h : Reads read cs a rest) : read cs = (a, rest) := by
  simpa using h.append []

/-- Reading as another reader does behind the first character. -/
theorem Settled.behind {c : Char} (h : Settled read' cs)
    (hread : ∀ behind, read (c :: behind) = read' behind) : Settled read (c :: cs) := by
  rcases h with hnil | ⟨a, rest, hreads⟩
  · exact .inl (by rw [hread, hnil])
  · exact .inr ⟨a, rest, hreads.terminated, fun more ↦ (hread _).trans (hreads.append more)⟩

/-- Reading as another reader does. -/
theorem Settled.congr (h : Settled read' cs)
    (hread : ∀ more, read (cs ++ more) = read' (cs ++ more)) : Settled read cs := by
  have hcs : read cs = read' cs := by simpa using hread []
  rcases h with hnil | ⟨a, rest, hreads⟩
  · exact .inl (hcs ▸ hnil)
  · exact .inr ⟨a, rest, hreads.terminated, fun more ↦ (hread more).trans (hreads.append more)⟩

end

section

variable {cs : List Char}

/-! ## Quotes -/

theorem readQuoted_append {quote : Char} {cs content rest : List Char}
    (h : readQuoted quote cs = some (content, rest)) (hrest : rest ≠ []) :
    rest <:+ cs ∧ ∀ more, readQuoted quote (cs ++ more) = some (content, rest ++ more) := by
  fun_induction readQuoted quote cs generalizing content with
  | case1 => cases h
  -- The quote stands twice, and is meant once.
  | case2 behind ih =>
    obtain ⟨⟨inner, left⟩, hinner, heq⟩ := Option.map_eq_some_iff.mp h
    obtain ⟨rfl, rfl⟩ := Prod.mk.inj heq
    obtain ⟨hsuffix, happend⟩ := ih hinner
    refine ⟨hsuffix.trans ((List.suffix_cons _ _).trans (List.suffix_cons _ _)), fun more ↦ ?_⟩
    simp [readQuoted, happend]
  -- The quote closes in front of another character.
  | case3 d behind hd =>
    obtain ⟨rfl, rfl⟩ := Prod.mk.inj (Option.some.inj h)
    exact ⟨List.suffix_cons _ _, fun more ↦ by simp [readQuoted, hd]⟩
  | case4 =>
    obtain ⟨-, rfl⟩ := Prod.mk.inj (Option.some.inj h)
    exact absurd rfl hrest
  | case5 c behind hc ih =>
    obtain ⟨⟨inner, left⟩, hinner, heq⟩ := Option.map_eq_some_iff.mp h
    obtain ⟨rfl, rfl⟩ := Prod.mk.inj heq
    obtain ⟨hsuffix, happend⟩ := ih hinner
    refine ⟨hsuffix.trans (List.suffix_cons _ _), fun more ↦ ?_⟩
    rw [List.cons_append, readQuoted.eq_def]
    simp only [if_neg hc, happend, Option.map_some]

theorem settled_readDelimited (quote : Char) (lexeme : String → Lexeme) (h : Terminated cs) :
    Settled (readDelimited quote lexeme) cs := by
  cases hquoted : readQuoted quote cs with
  | none => exact .inl (by simp only [readDelimited, hquoted])
  | some found =>
    obtain ⟨content, rest⟩ := found
    by_cases hrest : rest = []
    · exact .inl (by simp only [readDelimited, hquoted, hrest])
    · obtain ⟨hsuffix, happend⟩ := readQuoted_append hquoted hrest
      refine .inr ⟨lexeme (String.ofList content), rest, h.of_suffix hsuffix hrest, fun more ↦ ?_⟩
      simp only [readDelimited, happend]

/-- The text behind the first character of a kind, if one is found and if there is any. -/
theorem dropWhile_append_of_cons {p : Char → Bool} {c : Char} {rest : List Char}
    (h : Terminated cs) (hdrop : cs.dropWhile p = c :: rest) (hrest : rest ≠ []) :
    Terminated rest ∧ ∀ more, (cs ++ more).takeWhile p = cs.takeWhile p ∧
      (cs ++ more).dropWhile p = c :: (rest ++ more) := by
  have hne : cs.dropWhile p ≠ [] := by simp [hdrop]
  have hsuffix : rest <:+ cs := (List.suffix_cons c rest).trans (hdrop ▸ List.dropWhile_suffix _)
  refine ⟨h.of_suffix hsuffix hrest, fun more ↦ ⟨takeWhile_append_of_ne_nil hne more, ?_⟩⟩
  rw [dropWhile_append_of_ne_nil hne, hdrop, List.cons_append]

theorem settled_readBlob (h : Terminated cs) : Settled readBlob cs := by
  cases hdrop : cs.dropWhile (· != '\'') with
  | nil => exact .inl (by simp only [readBlob, hdrop])
  | cons quote rest =>
    by_cases hrest : rest = []
    · left
      cases hhex : Text.ofHex? (cs.takeWhile (· != '\'')) <;>
        simp only [readBlob, hdrop, hhex, hrest]
    · obtain ⟨hterminated, hmore⟩ := dropWhile_append_of_cons h hdrop hrest
      right
      cases hhex : Text.ofHex? (cs.takeWhile (· != '\'')) with
      | none =>
        refine ⟨.illegal, rest, hterminated, fun more ↦ ?_⟩
        simp only [readBlob, hmore more, hhex]
      | some bytes =>
        refine ⟨.blob bytes, rest, hterminated, fun more ↦ ?_⟩
        simp only [readBlob, hmore more, hhex]

/-! ## Numbers -/

theorem splitDigits_reads {isDigit : Char → Bool} (hsemicolon : isDigit ';' = false)
    (h : Terminated cs) : ∃ digits rest, Reads (splitDigits isDigit) cs digits rest := by
  have hp : (isDigit ';' || isSeparator ';') = false := by rw [hsemicolon]; rfl
  have hrest : Terminated (cs.dropWhile fun c ↦ isDigit c || isSeparator c) := h.dropWhile hp
  refine ⟨cs.takeWhile fun c ↦ isDigit c || isSeparator c, _, hrest, fun more ↦ ?_⟩
  rw [splitDigits, List.span_eq_takeWhile_dropWhile, dropWhile_append_of_ne_nil hrest.ne_nil,
    takeWhile_append_of_ne_nil hrest.ne_nil]

theorem isDigit_semicolon : Char.isDigit ';' = false := by decide

/-- The digits of an exponent in front of the text behind them, or the whole text if there are
none. -/
theorem exponent_reads (negative : Bool) {whole behind : List Char} (hwhole : Terminated whole)
    (hbehind : Terminated behind) : ∃ exponent rest, Terminated rest ∧ ∀ more,
      (if ((behind ++ more).head?.map Char.isDigit).getD false then
        let (digits, rest) := splitDigits Char.isDigit (behind ++ more)
        (some (negative, digits), rest)
      else (none, whole ++ more)) = (exponent, rest ++ more) := by
  obtain ⟨digits, rest, hdigits⟩ := splitDigits_reads isDigit_semicolon hbehind
  simp only [head?_append_of_ne_nil hbehind.ne_nil, hdigits.append]
  by_cases hdigit : (behind.head?.map Char.isDigit).getD false = true
  · exact ⟨_, rest, hdigits.terminated, fun more ↦ by rw [if_pos hdigit]⟩
  · exact ⟨_, whole, hwhole, fun more ↦ by rw [if_neg hdigit]⟩

theorem splitExponent_unsigned {e sign : Char} (he : (e != 'e' && e != 'E') = false)
    (hminus : sign ≠ '-') (hplus : sign ≠ '+') (digits : List Char) :
    splitExponent (e :: sign :: digits) =
      if ((sign :: digits).head?.map Char.isDigit).getD false then
        let (digits, rest) := splitDigits Char.isDigit (sign :: digits)
        (some (false, digits), rest)
      else (none, e :: sign :: digits) := by
  rw [splitExponent, he]
  · rfl
  · exact fun behind heq ↦ hminus (List.cons.inj heq).1
  · exact fun behind heq ↦ hplus (List.cons.inj heq).1

theorem splitExponent_reads (h : Terminated cs) :
    ∃ exponent rest, Reads splitExponent cs exponent rest := by
  obtain _ | ⟨e, behind⟩ := cs
  · exact absurd rfl h.ne_nil
  by_cases he : (e != 'e' && e != 'E') = true
  · refine ⟨none, _, h, fun more ↦ ?_⟩
    simp only [splitExponent, List.cons_append, he, if_true]
  have hbehind : Terminated behind := h.of_cons (by rintro rfl; simp at he)
  obtain _ | ⟨sign, digits⟩ := behind
  · exact absurd rfl hbehind.ne_nil
  rw [Bool.not_eq_true] at he
  by_cases hminus : sign = '-'
  · subst hminus
    obtain ⟨exponent, rest, hrest, happend⟩ :=
      exponent_reads true h (hbehind.of_cons (by decide))
    refine ⟨exponent, rest, hrest, fun more ↦ ?_⟩
    simpa only [splitExponent, List.cons_append, he, Bool.false_eq_true, if_false] using
      happend more
  by_cases hplus : sign = '+'
  · subst hplus
    obtain ⟨exponent, rest, hrest, happend⟩ :=
      exponent_reads false h (hbehind.of_cons (by decide))
    refine ⟨exponent, rest, hrest, fun more ↦ ?_⟩
    simpa only [splitExponent, List.cons_append, he, Bool.false_eq_true, if_false] using
      happend more
  · obtain ⟨exponent, rest, hrest, happend⟩ := exponent_reads false h hbehind
    refine ⟨exponent, rest, hrest, fun more ↦ ?_⟩
    simpa only [List.cons_append, splitExponent_unsigned he hminus hplus] using happend more

theorem finishNumber_reads (isDigit : Char → Bool) (lexeme : Lexeme) {rest : List Char}
    (hrest : Terminated rest) (cs : List Char) : ∃ lexeme' rest', Terminated rest' ∧ ∀ more,
      finishNumber isDigit lexeme (cs ++ more) (rest ++ more) = (lexeme', rest' ++ more) := by
  have hsemicolon : continuesWord ';' = false := by decide
  have hbehind := hrest.dropWhile hsemicolon
  simp only [finishNumber, head?_append_of_ne_nil hrest.ne_nil, take_written,
    dropWhile_append_of_ne_nil hbehind.ne_nil]
  by_cases hword : (rest.head?.map continuesWord).getD false = true
  · exact ⟨_, _, hbehind, fun more ↦ by rw [if_pos hword]⟩
  · cases misplacedSeparator? isDigit (cs.take (cs.length - rest.length)) with
    | none => exact ⟨_, rest, hrest, fun more ↦ by rw [if_neg hword]⟩
    | some shown => exact ⟨_, rest, hrest, fun more ↦ by rw [if_neg hword]⟩

/-- The digits behind a point, if there is one, and the text behind them. -/
def splitFraction : List Char → List Char × List Char
  | '.' :: behind => splitDigits Char.isDigit behind
  | behind => ([], behind)

theorem splitFraction_reads (h : Terminated cs) :
    ∃ fraction rest, Reads splitFraction cs fraction rest := by
  obtain _ | ⟨c, behind⟩ := cs
  · exact absurd rfl h.ne_nil
  by_cases hpoint : c = '.'
  · subst hpoint
    obtain ⟨digits, rest, hdigits⟩ :=
      splitDigits_reads isDigit_semicolon (h.of_cons (by decide))
    exact ⟨digits, rest, hdigits.terminated, hdigits.append⟩
  · refine ⟨[], c :: behind, h, fun more ↦ ?_⟩
    rw [List.cons_append, splitFraction]
    exact fun _ heq ↦ hpoint (List.cons.inj heq).1

/-- The number that the parts of a numeral make. The text behind them tells whether there is more
than the whole part. -/
def numberOf (whole behindWhole fraction : List Char) (exponent : Option (Bool × List Char))
    (behind : List Char) : Lexeme :=
  let digits (separated : List Char) := separated.filter (!isSeparator ·)
  let power : Int := match exponent with
    | some (true, separated) => -(Numeral.exponentOf (digits separated))
    | some (false, separated) => Numeral.exponentOf (digits separated)
    | none => 0
  if behind.length = behindWhole.length then .integer (digits whole)
  else .decimal ⟨digits whole, digits fraction, power⟩

theorem readDecimal_eq (cs : List Char) : readDecimal cs =
    let (whole, behindWhole) := splitDigits Char.isDigit cs
    let (fraction, behindFraction) := splitFraction behindWhole
    let (exponent, rest) := splitExponent behindFraction
    finishNumber Char.isDigit (numberOf whole behindWhole fraction exponent rest) cs rest := rfl

theorem readDecimal_reads (h : Terminated cs) :
    ∃ lexeme rest, Reads readDecimal cs lexeme rest := by
  obtain ⟨whole, behindWhole, hwhole⟩ := splitDigits_reads isDigit_semicolon h
  obtain ⟨fraction, behindFraction, hfraction⟩ := splitFraction_reads hwhole.terminated
  obtain ⟨exponent, behind, hexponent⟩ := splitExponent_reads hfraction.terminated
  obtain ⟨lexeme, rest, hrest, hfinish⟩ := finishNumber_reads Char.isDigit
    (numberOf whole behindWhole fraction exponent behind) hexponent.terminated cs
  refine ⟨lexeme, rest, hrest, fun more ↦ ?_⟩
  rw [← hfinish, readDecimal_eq]
  simp only [hwhole.append, hfraction.append, hexponent.append, numberOf, List.length_append,
    Nat.add_right_cancel_iff]

theorem isHexDigit_semicolon : isHexDigit ';' = false := by decide

theorem readNumber_of_not_hexadecimal (hhex : ∀ x digit behind, cs = '0' :: x :: digit :: behind →
    ((x == 'x' || x == 'X') && isHexDigit digit) = false) : readNumber cs = readDecimal cs := by
  rw [readNumber.eq_def]
  split
  · next x digit behind =>
    rw [hhex x digit behind rfl]
    rfl
  · rfl

theorem readNumber_reads (h : Terminated cs) :
    ∃ lexeme rest, Reads readNumber cs lexeme rest := by
  by_cases hhex : ∃ x digit behind, cs = '0' :: x :: digit :: behind ∧
      ((x == 'x' || x == 'X') && isHexDigit digit) = true
  · obtain ⟨x, digit, behind, rfl, hhex⟩ := hhex
    have hx : Terminated (x :: digit :: behind) := h.of_cons (by decide)
    have hbehind : Terminated (digit :: behind) := hx.of_cons (by rintro rfl; simp at hhex)
    obtain ⟨digits, left, hdigits⟩ := splitDigits_reads isHexDigit_semicolon hbehind
    obtain ⟨lexeme, rest, hrest, hfinish⟩ := finishNumber_reads isHexDigit
      (.hexadecimal (digits.filter (!isSeparator ·))) hdigits.terminated
      ('0' :: x :: digit :: behind)
    refine ⟨lexeme, rest, hrest, fun more ↦ ?_⟩
    have happend := hdigits.append more
    rw [List.cons_append] at happend
    rw [← hfinish]
    simp only [readNumber, List.cons_append, hhex, if_true, happend]
  · obtain ⟨lexeme, rest, hdecimal⟩ := readDecimal_reads h
    refine ⟨lexeme, rest, hdecimal.terminated, fun more ↦ ?_⟩
    rw [← hdecimal.append]
    refine readNumber_of_not_hexadecimal fun x digit behind heq ↦ ?_
    rw [Bool.eq_false_iff]
    intro hhex'
    -- The first three characters stand in front of the semicolon.
    obtain _ | ⟨zero, cs⟩ := cs
    · exact h.ne_nil rfl
    rw [List.cons_append, List.cons.injEq] at heq
    obtain ⟨rfl, heq⟩ := heq
    have hcs := h.of_cons (by decide)
    obtain _ | ⟨mark, cs⟩ := cs
    · exact hcs.ne_nil rfl
    rw [List.cons_append, List.cons.injEq] at heq
    obtain ⟨rfl, heq⟩ := heq
    have hcs := hcs.of_cons (by rintro rfl; simp at hhex')
    obtain _ | ⟨first, cs⟩ := cs
    · exact hcs.ne_nil rfl
    rw [List.cons_append, List.cons.injEq] at heq
    obtain ⟨rfl, heq⟩ := heq
    exact hhex ⟨_, _, _, rfl, hhex'⟩

/-! ## Symbols and words -/

theorem not_mem_symbols : ∀ symbol ∈ symbols, ';' ∉ symbol.toList := by decide

/-- No symbol goes on behind a semicolon. -/
theorem isPrefixOf_append_of_terminated (h : Terminated cs) {symbol : String}
    (hsymbol : symbol ∈ symbols) (more : List Char) :
    symbol.toList.isPrefixOf (cs ++ more) = symbol.toList.isPrefixOf cs := by
  rw [Bool.eq_iff_iff, List.isPrefixOf_iff_prefix, List.isPrefixOf_iff_prefix]
  refine ⟨fun hprefix ↦ ?_, fun hprefix ↦ hprefix.trans (List.prefix_append _ _)⟩
  by_cases hlength : symbol.toList.length ≤ cs.length
  · exact List.prefix_of_prefix_length_le hprefix (List.prefix_append _ _) hlength
  · have hwhole := List.prefix_of_prefix_length_le (List.prefix_append cs more) hprefix (by omega)
    exact absurd (hwhole.subset h.mem) (not_mem_symbols symbol hsymbol)

theorem find?_symbol_append (h : Terminated cs) (more : List Char) :
    (symbols.find? fun symbol ↦ symbol.toList.isPrefixOf (cs ++ more)) =
      symbols.find? fun symbol ↦ symbol.toList.isPrefixOf cs :=
  List.find?_congr fun _ hsymbol ↦ isPrefixOf_append_of_terminated h hsymbol more

theorem readSymbol_reads (h : Terminated cs) (hhead : cs.head? ≠ some ';') :
    ∃ lexeme rest, Reads readSymbol cs lexeme rest := by
  obtain _ | ⟨c, behind⟩ := cs
  · exact absurd rfl h.ne_nil
  have hc : c ≠ ';' := by
    rintro rfl
    exact hhead rfl
  cases hfind : symbols.find? fun symbol ↦ symbol.toList.isPrefixOf (c :: behind) with
  | none =>
    refine ⟨.illegal, behind, h.of_cons hc, fun more ↦ ?_⟩
    rw [readSymbol, find?_symbol_append h, hfind]
    rfl
  | some symbol =>
    have hsymbol := List.mem_of_find?_eq_some hfind
    have hfound : symbol.toList.isPrefixOf (c :: behind) = true := by
      simpa only using List.find?_some hfind
    obtain ⟨rest, hrest⟩ := List.isPrefixOf_iff_prefix.mp hfound
    have hdrop (more : List Char) : (c :: behind ++ more).drop symbol.length = rest ++ more := by
      rw [← hrest, List.append_assoc, ← String.length_toList, List.drop_left]
    have hne : rest ≠ [] := by
      rintro rfl
      rw [List.append_nil] at hrest
      refine not_mem_symbols symbol hsymbol ?_
      rw [hrest]
      exact h.mem
    refine ⟨.symbol symbol, rest, h.of_suffix ⟨_, hrest⟩ hne, fun more ↦ ?_⟩
    rw [readSymbol, find?_symbol_append h, hfind]
    simp only [hdrop]

theorem readWord_reads (h : Terminated cs) :
    ∃ lexeme rest, Reads (fun cs ↦
      (Lexeme.word (String.ofList (cs.takeWhile continuesWord)), cs.dropWhile continuesWord))
      cs lexeme rest := by
  have hsemicolon : continuesWord ';' = false := by decide
  have hrest := h.dropWhile hsemicolon
  refine ⟨.word (String.ofList (cs.takeWhile continuesWord)), _, hrest, fun more ↦ ?_⟩
  simp only [dropWhile_append_of_ne_nil hrest.ne_nil, takeWhile_append_of_ne_nil hrest.ne_nil]

/-! ## Tokens -/

theorem settled_readBracketed (h : Terminated cs) :
    Settled (fun cs ↦ match cs.dropWhile (· != ']') with
      | [] => (Lexeme.illegal, [])
      | _ :: behind => (.quoted (String.ofList (cs.takeWhile (· != ']'))), behind)) cs := by
  cases hdrop : cs.dropWhile (· != ']') with
  | nil => exact .inl (by simp only [hdrop])
  | cons bracket rest =>
    by_cases hrest : rest = []
    · exact .inl (by simp only [hdrop, hrest])
    · obtain ⟨hterminated, hmore⟩ := dropWhile_append_of_cons h hdrop hrest
      refine .inr ⟨.quoted (String.ofList (cs.takeWhile (· != ']'))), rest, hterminated,
        fun more ↦ ?_⟩
      simp only [hmore more]

/-- The token that starts with a digit, with a letter, or with anything else that is no quote. -/
def readPlain (c : Char) (cs : List Char) : Lexeme × List Char :=
  if c.isDigit then readNumber cs
  else if startsWord c then
    (.word (String.ofList (cs.takeWhile continuesWord)), cs.dropWhile continuesWord)
  else readSymbol cs

theorem readToken_plain {c d : Char} (hquote : c ∉ ['\'', '"', '\x60', '[', '.'])
    (hblob : c ∈ ['x', 'X'] → d ≠ '\'') (rest : List Char) :
    readToken (c :: d :: rest) = readPlain c (c :: d :: rest) := by
  simp only [List.mem_cons, List.not_mem_nil, or_false, not_or] at hquote hblob
  obtain ⟨hsingle, hdouble, hback, hbracket, hpoint⟩ := hquote
  rw [readToken.eq_def]
  split
  · next heq => exact absurd (List.cons.inj heq).1 hsingle
  · next heq => exact absurd (List.cons.inj heq).1 hdouble
  · next heq => exact absurd (List.cons.inj heq).1 hback
  · next heq => exact absurd (List.cons.inj heq).1 hbracket
  · next heq =>
    obtain ⟨rfl, hbehind⟩ := List.cons.inj heq
    exact absurd (List.cons.inj hbehind).1 (hblob (.inl rfl))
  · next heq =>
    obtain ⟨rfl, hbehind⟩ := List.cons.inj heq
    exact absurd (List.cons.inj hbehind).1 (hblob (.inr rfl))
  · next heq => exact absurd (List.cons.inj heq).1 hpoint
  · next heq =>
    obtain ⟨rfl, -⟩ := List.cons.inj heq
    rfl
  · next heq => cases heq

theorem settled_readPlain (h : Terminated cs) (hhead : cs.head? ≠ some ';') (c : Char) :
    Settled (readPlain c) cs := by
  by_cases hdigit : c.isDigit = true
  · obtain ⟨lexeme, rest, hnumber⟩ := readNumber_reads h
    refine .inr ⟨lexeme, rest, hnumber.terminated, fun more ↦ ?_⟩
    rw [readPlain, if_pos hdigit, hnumber.append]
  by_cases hword : startsWord c = true
  · obtain ⟨lexeme, rest, hreads⟩ := readWord_reads h
    refine .inr ⟨lexeme, rest, hreads.terminated, fun more ↦ ?_⟩
    rw [readPlain, if_neg hdigit, if_pos hword, ← hreads.append]
  · obtain ⟨lexeme, rest, hsymbol⟩ := readSymbol_reads h hhead
    refine .inr ⟨lexeme, rest, hsymbol.terminated, fun more ↦ ?_⟩
    rw [readPlain, if_neg hdigit, if_neg hword, hsymbol.append]

theorem settled_readToken (h : Terminated cs) (hhead : cs.head? ≠ some ';') :
    Settled readToken cs := by
  obtain _ | ⟨c, behind⟩ := cs
  · exact absurd rfl h.ne_nil
  have hc : c ≠ ';' := by
    rintro rfl
    exact hhead rfl
  have hbehind := h.of_cons hc
  obtain _ | ⟨d, rest⟩ := behind
  · exact absurd rfl hbehind.ne_nil
  by_cases hquote : c ∈ ['\'', '"', '\x60', '[', '.']
  · simp only [List.mem_cons, List.not_mem_nil, or_false] at hquote
    rcases hquote with rfl | rfl | rfl | rfl | rfl
    · exact (settled_readDelimited '\'' .string hbehind).behind fun _ ↦ rfl
    · exact (settled_readDelimited '"' .quoted hbehind).behind fun _ ↦ rfl
    · exact (settled_readDelimited '\x60' .quoted hbehind).behind fun _ ↦ rfl
    · exact (settled_readBracketed hbehind).behind fun _ ↦ rfl
    · by_cases hdigit : d.isDigit = true
      · obtain ⟨lexeme, rest', hnumber⟩ := readNumber_reads h
        refine .inr ⟨lexeme, rest', hnumber.terminated, fun more ↦ ?_⟩
        rw [← hnumber.append]
        simp only [List.cons_append, readToken, hdigit, if_true]
      · obtain ⟨lexeme, rest', hsymbol⟩ := readSymbol_reads h hhead
        refine .inr ⟨lexeme, rest', hsymbol.terminated, fun more ↦ ?_⟩
        rw [← hsymbol.append]
        simp only [List.cons_append, readToken, hdigit]
        rfl
  by_cases hblob : c ∈ ['x', 'X'] ∧ d = '\''
  · obtain ⟨hmark, rfl⟩ := hblob
    have hblob := settled_readBlob (hbehind.of_cons (by decide))
    simp only [List.mem_cons, List.not_mem_nil, or_false] at hmark
    rcases hmark with rfl | rfl
    · exact (hblob.behind fun _ ↦ rfl).behind fun _ ↦ rfl
    · exact (hblob.behind fun _ ↦ rfl).behind fun _ ↦ rfl
  · exact (settled_readPlain h hhead c).congr fun more ↦
      readToken_plain hquote (fun hmark hd ↦ hblob ⟨hmark, hd⟩) (rest ++ more)

/-! ## Parameters -/

theorem skipParameter_cons {c : Char} {rest : List Char}
    (h : c = ':' → rest.head? ≠ some ':') (named : Bool) :
    skipParameter named (c :: rest) =
      if continuesWord c then skipParameter true rest
      else if c == '(' && named then
        match rest.dropWhile fun c ↦ !Text.isAsciiSpace c && c != ')' with
        | ')' :: behind => (behind, true)
        | behind => (behind, false)
      else (c :: rest, named) := by
  have hcolons : ∀ behind, c = ':' → rest = ':' :: behind → False := by
    rintro behind rfl rfl
    exact h rfl rfl
  exact skipParameter.eq_2 named c rest hcolons

theorem ne_colon_of_continuesWord {c : Char} (h : continuesWord c = true) : c ≠ ':' := by
  rintro rfl
  exact absurd h (by decide)

theorem ne_semicolon_of_continuesWord {c : Char} (h : continuesWord c = true) : c ≠ ';' := by
  rintro rfl
  exact absurd h (by decide)

theorem skipParameter_append (named : Bool) (h : Terminated cs) :
    (skipParameter named cs).1 = [] ∨ ∃ rest complete, Terminated rest ∧
      ∀ more, skipParameter named (cs ++ more) = (rest ++ more, complete) := by
  fun_induction skipParameter named cs with
  -- Two colons belong to the name.
  | case1 named rest ih => exact ih ((h.of_cons (by decide)).of_cons (by decide))
  | case2 named c rest hcolons hword ih =>
    have hcons (more : List Char) :
        skipParameter named (c :: rest ++ more) = skipParameter true (rest ++ more) := by
      have hcolon := ne_colon_of_continuesWord hword
      rw [List.cons_append, skipParameter_cons (fun hc ↦ absurd hc hcolon),
        if_pos hword]
    simpa only [hcons] using ih (h.of_cons (ne_semicolon_of_continuesWord hword))
  -- A suffix between brackets.
  | case3 named c rest hcolons hword hparen behind hdrop =>
    obtain ⟨hc, -⟩ := Bool.and_eq_true_iff.mp hparen
    obtain rfl := beq_iff_eq.mp hc
    by_cases hbehind : behind = []
    · exact .inl hbehind
    obtain ⟨hterminated, hmore⟩ :=
      dropWhile_append_of_cons (h.of_cons (by decide)) hdrop hbehind
    refine .inr ⟨behind, true, hterminated, fun more ↦ ?_⟩
    rw [List.cons_append, skipParameter_cons (fun hc ↦ absurd hc (by decide)), if_neg hword,
      if_pos hparen, (hmore more).2]
    rfl
  -- A bracket that is not closed before the next space.
  | case4 named c rest hcolons hword hparen hclosing =>
    obtain ⟨hc, -⟩ := Bool.and_eq_true_iff.mp hparen
    obtain rfl := beq_iff_eq.mp hc
    generalize hdrop : rest.dropWhile (fun c ↦ !Text.isAsciiSpace c && c != ')') = left
      at hclosing ⊢
    obtain _ | ⟨d, left⟩ := left
    · exact .inl rfl
    have hne : rest.dropWhile (fun c ↦ !Text.isAsciiSpace c && c != ')') ≠ [] := by simp [hdrop]
    have hrest : Terminated rest := h.of_cons (by decide)
    refine .inr ⟨d :: left, false, ?_, fun more ↦ ?_⟩
    · exact hrest.of_suffix (hdrop ▸ List.dropWhile_suffix _) (List.cons_ne_nil _ _)
    · rw [List.cons_append, skipParameter_cons (fun hc ↦ absurd hc (by decide)), if_neg hword,
        if_pos hparen, dropWhile_append_of_ne_nil hne, hdrop, List.cons_append]
      split
      · next heq =>
        obtain ⟨rfl, -⟩ := List.cons.inj heq
        exact absurd rfl (hclosing left)
      · rfl
  -- The name ends here, and no second colon comes with the text behind it.
  | case5 named c rest hcolons hword hparen =>
    refine .inr ⟨c :: rest, named, h, fun more ↦ ?_⟩
    rw [List.cons_append, skipParameter_cons, if_neg hword, if_neg hparen]
    rintro rfl
    rw [head?_append_of_ne_nil (h.of_cons (by decide)).ne_nil]
    intro hhead
    obtain ⟨rest, rfl⟩ := List.head?_eq_some_iff.mp hhead
    exact hcolons rest rfl rfl
  | case6 => exact .inl rfl

/-- A parameter with the parameters so far, and the text behind it. -/
def readParameter (names : Variables) (cs : List Char) : (Lexeme × Variables) × List Char :=
  let read := readVariable names cs
  ((read.1.1, read.2), read.1.2)

/-- The parameter of a name. -/
def namedParameter (names : Variables) (sign : Char) (behind : List Char) (name : String)
    (complete : Bool) : Lexeme × Variables :=
  if !complete then (.illegal, names)
  else if sign == '#' && (behind.head?.map Char.isDigit).getD false then (.symbol name, names)
  else match numberOf? names name with
    | some number => (.variable number, names)
    | none => (.variable (names.length + 1), names ++ [some name])

theorem readParameter_signed (names : Variables) {sign : Char} (hsign : sign ≠ '?')
    (behind : List Char) : readParameter names (sign :: behind) =
      let (rest, complete) := skipParameter false behind
      let cs := sign :: behind
      let name := String.ofList (cs.take (cs.length - rest.length))
      (namedParameter names sign behind name complete, rest) := by
  rw [readParameter, readVariable]
  · obtain ⟨rest, complete⟩ := skipParameter false behind
    simp only [namedParameter]
    split
    · rfl
    · split
      · rfl
      · cases numberOf? names (String.ofList
          ((sign :: behind).take ((sign :: behind).length - rest.length))) with
        | some number => rfl
        | none => rfl
  · exact hsign

/-- A parameter that has a number or none. -/
theorem settled_numbered (names : Variables) {behind : List Char} (h : Terminated ('?' :: behind)) :
    Settled (readParameter names) ('?' :: behind) := by
  have hbehind := h.of_cons (by decide)
  have hdigits := hbehind.dropWhile isDigit_semicolon
  have htake (more : List Char) :
      (behind ++ more).takeWhile Char.isDigit = behind.takeWhile Char.isDigit :=
    takeWhile_append_of_ne_nil hdigits.ne_nil more
  have hdrop (more : List Char) :
      (behind ++ more).dropWhile Char.isDigit = behind.dropWhile Char.isDigit ++ more :=
    dropWhile_append_of_ne_nil hdigits.ne_nil more
  right
  cases hnumber : behind.takeWhile Char.isDigit with
  | nil =>
    refine ⟨(.variable (names.length + 1), names ++ [none]), behind, hbehind, fun more ↦ ?_⟩
    simp only [readParameter, readVariable, List.cons_append, htake, hnumber]
  | cons digit digits =>
    let number := Text.natural (digit :: digits)
    by_cases hrange : number = 0 ∨ variableLimit < number
    · refine ⟨(.faulty variableFault true, names), _, hdigits, fun more ↦ ?_⟩
      simp only [readParameter, readVariable, List.cons_append, htake, hdrop, hnumber]
      rw [if_pos hrange]
    · let named := nameVariable (String.ofList ('?' :: digit :: digits)) (number - 1) names
      refine ⟨(.variable number, named), _, hdigits, fun more ↦ ?_⟩
      simp only [readParameter, readVariable, List.cons_append, htake, hdrop, hnumber]
      rw [if_neg hrange]

/-- A parameter behind a sign. -/
theorem settled_signed (names : Variables) {sign : Char} {behind : List Char}
    (hquestion : sign ≠ '?') (h : Terminated (sign :: behind)) (hsign : sign ≠ ';') :
    Settled (readParameter names) (sign :: behind) := by
  have hbehind := h.of_cons hsign
  rcases skipParameter_append false hbehind with hnil | ⟨rest, complete, hrest, hskip⟩
  · exact .inl (by rw [readParameter_signed names hquestion]; exact hnil)
  · let written := (sign :: behind).take ((sign :: behind).length - rest.length)
    refine .inr ⟨namedParameter names sign behind (String.ofList written) complete, rest, hrest,
      fun more ↦ ?_⟩
    have hwritten := take_written (sign :: behind) rest more
    rw [List.cons_append] at hwritten ⊢
    rw [readParameter_signed names hquestion, hskip]
    simp only [namedParameter, hwritten, head?_append_of_ne_nil hbehind.ne_nil, written]

/-- The next token with the parameters so far, and the text behind it. -/
def readNext (names : Variables) (c : Char) (cs : List Char) :
    (Lexeme × Variables) × List Char :=
  let read := if startsVariable c then readVariable names cs else (readToken cs, names)
  ((read.1.1, read.2), read.1.2)

theorem settled_readNext (names : Variables) {c : Char} {behind : List Char}
    (h : Terminated (c :: behind)) (hc : c ≠ ';') :
    Settled (readNext names c) (c :: behind) := by
  by_cases hvariable : startsVariable c = true
  · have hparameter : Settled (readParameter names) (c :: behind) := by
      by_cases hquestion : c = '?'
      · subst hquestion
        exact settled_numbered names h
      · exact settled_signed names hquestion h hc
    refine hparameter.congr fun more ↦ ?_
    rw [readNext, if_pos hvariable]
    rfl
  · have htoken : Settled readToken (c :: behind) :=
      settled_readToken h fun hhead ↦ hc (Option.some.inj hhead)
    rcases htoken with hnil | ⟨lexeme, rest, hreads⟩
    · exact .inl (by rw [readNext, if_neg hvariable]; exact hnil)
    · refine .inr ⟨(lexeme, names), rest, hreads.terminated, fun more ↦ ?_⟩
      rw [readNext, if_neg hvariable, hreads.append]

end

/-! ## Between tokens -/

/-- What is left of a text, which is nothing, or is left with more behind the text, too. -/
def Leaves (skip : List Char → List Char) (cs : List Char) : Prop :=
  skip cs = [] ∨ Terminated (skip cs) ∧ ∀ more, skip (cs ++ more) = skip cs ++ more

theorem leaves_dropWhile (p : Char → Bool) {cs : List Char} (h : Terminated cs) :
    Leaves (List.dropWhile p) cs := by
  by_cases hnil : cs.dropWhile p = []
  · exact .inl hnil
  · exact .inr ⟨h.of_suffix (List.dropWhile_suffix p) hnil, dropWhile_append_of_ne_nil hnil⟩

theorem Leaves.behind {skip skip' : List Char → List Char} {c : Char} {cs : List Char}
    (h : Leaves skip' cs) (hskip : ∀ behind, skip (c :: behind) = skip' behind) :
    Leaves skip (c :: cs) := by
  simpa only [Leaves, List.cons_append, hskip] using h

theorem skipBlock_cons {c : Char} {rest : List Char} (h : c = '*' → rest.head? ≠ some '/') :
    skipBlock (c :: rest) = skipBlock rest := by
  rw [skipBlock]
  rintro behind rfl rfl
  exact h rfl rfl

theorem leaves_skipBlock {cs : List Char} (h : Terminated cs) : Leaves skipBlock cs := by
  induction cs with
  | nil => exact absurd rfl h.ne_nil
  | cons c rest ih =>
    by_cases hclosing : c = '*' ∧ rest.head? = some '/'
    · obtain ⟨rfl, hhead⟩ := hclosing
      obtain ⟨rest, rfl⟩ := List.head?_eq_some_iff.mp hhead
      by_cases hrest : rest = []
      · exact .inl (by rw [hrest]; rfl)
      · exact .inr ⟨(h.of_cons (by decide)).of_cons (by decide), fun _ ↦ rfl⟩
    have hopen : c = '*' → rest.head? ≠ some '/' := fun hc hhead ↦ hclosing ⟨hc, hhead⟩
    by_cases hrest : rest = []
    · exact .inl (by rw [skipBlock_cons hopen, hrest]; rfl)
    · have hmore (more : List Char) : skipBlock (c :: rest ++ more) = skipBlock (rest ++ more) := by
        rw [List.cons_append, skipBlock_cons]
        rwa [head?_append_of_ne_nil hrest]
      rcases ih (h.of_suffix (List.suffix_cons c rest) hrest) with hnil | ⟨hterminated, happend⟩
      · exact .inl (by rw [skipBlock_cons hopen, hnil])
      · rw [Leaves, skipBlock_cons hopen]
        exact .inr ⟨hterminated, fun more ↦ (hmore more).trans (happend more)⟩

theorem length_skipBlock_le (cs : List Char) : (skipBlock cs).length ≤ cs.length := by
  fun_induction skipBlock cs with
  | case1 rest => simp only [List.length_cons]; omega
  | case2 c rest _ ih => simp only [List.length_cons]; omega
  | case3 => exact Nat.le_refl 0

/-! ### Filler -/

/-- What filler of a text leaves, whatever fuel there is and whatever stands behind the text. -/
def Filled (skip : Nat → List Char → List Char) (cs : List Char) : Prop :=
  (∀ fuel, cs.length < fuel → skip fuel cs = []) ∨
    ∃ rest, Terminated rest ∧ rest.length ≤ cs.length ∧
      ∀ more fuel, (cs ++ more).length < fuel → skip fuel (cs ++ more) = rest ++ more

/-- One step over filler: what is left of the text when filler is passed is passed next. -/
theorem Filled.step {skip : Nat → List Char → List Char} {next : List Char → List Char}
    {cs : List Char} (hempty : ∀ fuel, skip fuel [] = []) (hnext : Leaves next cs)
    (hshort : ∀ more, (next (cs ++ more)).length < (cs ++ more).length)
    (hstep : ∀ fuel more, skip (fuel + 1) (cs ++ more) = skip fuel (next (cs ++ more)))
    (h : Terminated (next cs) → Filled skip (next cs)) : Filled skip cs := by
  have hcs (fuel : Nat) : skip (fuel + 1) cs = skip fuel (next cs) := by simpa using hstep fuel []
  have hlength : (next cs).length < cs.length := by simpa using hshort []
  rcases hnext with hnil | ⟨hterminated, happend⟩
  · refine .inl fun fuel hfuel ↦ ?_
    obtain _ | fuel := fuel
    · omega
    · rw [hcs, hnil, hempty]
  rcases h hterminated with hnil | ⟨rest, hrest, hle, hmore⟩
  · refine .inl fun fuel hfuel ↦ ?_
    obtain _ | fuel := fuel
    · omega
    · exact (hcs fuel).trans (hnil fuel (by omega))
  · refine .inr ⟨rest, hrest, by omega, fun more fuel hfuel ↦ ?_⟩
    obtain _ | fuel := fuel
    · omega
    · have hless := hshort more
      rw [hstep, happend]
      rw [happend] at hless
      exact hmore more fuel (by omega)

theorem skipFiller_nil (fuel : Nat) : skipFiller fuel [] = [] := by
  cases fuel <;> rfl

/-- Whether a comment starts. -/
def startsComment (cs : List Char) : Bool :=
  cs.take 2 == ['-', '-'] || cs.take 2 == ['/', '*'] && 2 < cs.length

theorem skipFiller_plain {c : Char} {rest : List Char} (h : startsComment (c :: rest) = false)
    (fuel : Nat) : skipFiller (fuel + 1) (c :: rest) =
      if c == '\ufeff' then skipFiller fuel rest
      else if startsSpace c then skipFiller fuel (rest.dropWhile Text.isAsciiSpace)
      else c :: rest := by
  rw [skipFiller]
  · rintro behind rfl rfl
    simp [startsComment] at h
  · rintro d behind rfl rfl
    simp [startsComment] at h

/-- The first three characters tell whether a comment starts, and a semicolon is among them or none
of them is the last one. -/
theorem startsComment_append {cs : List Char} (h : Terminated cs) (more : List Char) :
    startsComment (cs ++ more) = startsComment cs := by
  rcases cs with _ | ⟨a, _ | ⟨b, _ | ⟨c, rest⟩⟩⟩
  · exact absurd rfl h.ne_nil
  · obtain rfl : a = ';' := Option.some.inj h
    rfl
  · obtain rfl : b = ';' := Option.some.inj h
    simp [startsComment]
  · simp [startsComment]

theorem filled_line {rest : List Char} (h : Terminated ('-' :: '-' :: rest))
    (ih : ∀ cs, cs.length ≤ rest.length → Terminated cs → Filled skipFiller cs) :
    Filled skipFiller ('-' :: '-' :: rest) := by
  have hrest := (h.of_cons (by decide)).of_cons (by decide)
  let next (cs : List Char) : List Char := (cs.drop 2).dropWhile (· != '\n')
  have hnext : Leaves next ('-' :: '-' :: rest) := leaves_dropWhile (· != '\n') hrest
  have hle (cs : List Char) : (cs.dropWhile (· != '\n')).length ≤ cs.length :=
    List.length_dropWhile_le ..
  refine .step skipFiller_nil hnext (fun more ↦ ?_) (fun _ _ ↦ rfl) (ih _ (hle rest))
  have := hle (rest ++ more)
  simp only [next, List.cons_append, List.drop_succ_cons, List.drop_zero, List.length_cons]
  omega

theorem filled_block {c : Char} {rest : List Char} (h : Terminated ('/' :: '*' :: c :: rest))
    (ih : ∀ cs, cs.length ≤ (c :: rest).length → Terminated cs → Filled skipFiller cs) :
    Filled skipFiller ('/' :: '*' :: c :: rest) := by
  have hrest := (h.of_cons (by decide)).of_cons (by decide)
  let next (cs : List Char) : List Char := skipBlock (cs.drop 2)
  have hnext : Leaves next ('/' :: '*' :: c :: rest) := leaves_skipBlock hrest
  refine .step skipFiller_nil hnext (fun more ↦ ?_) (fun _ _ ↦ rfl)
    (ih _ (length_skipBlock_le (c :: rest)))
  have := length_skipBlock_le (c :: rest ++ more)
  simp only [next, List.cons_append, List.drop_succ_cons, List.drop_zero, List.length_cons]
    at this ⊢
  omega

theorem filled_plain {c : Char} {rest : List Char} (h : Terminated (c :: rest))
    (hcomment : startsComment (c :: rest) = false)
    (ih : ∀ cs, cs.length ≤ rest.length → Terminated cs → Filled skipFiller cs) :
    Filled skipFiller (c :: rest) := by
  have hplain (fuel : Nat) (more : List Char) : skipFiller (fuel + 1) (c :: (rest ++ more)) =
      if c == '\ufeff' then skipFiller fuel (rest ++ more)
      else if startsSpace c then skipFiller fuel ((rest ++ more).dropWhile Text.isAsciiSpace)
      else c :: (rest ++ more) := by
    refine skipFiller_plain ?_ fuel
    rw [← List.cons_append, startsComment_append h, hcomment]
  by_cases hmark : (c == '\ufeff') = true
  · have hrest := h.of_cons (by rintro rfl; simp at hmark)
    let next (cs : List Char) : List Char := cs.drop 1
    have hnext : Leaves next (c :: rest) := .inr ⟨hrest, fun _ ↦ rfl⟩
    refine .step skipFiller_nil hnext (fun more ↦ ?_) (fun fuel more ↦ ?_) (ih _ le_rfl)
    · simp [next]
    · rw [List.cons_append, hplain, if_pos hmark]
      rfl
  by_cases hspace : startsSpace c = true
  · have hrest := h.of_cons (by rintro rfl; revert hspace; decide)
    let next (cs : List Char) : List Char := (cs.drop 1).dropWhile Text.isAsciiSpace
    have hnext : Leaves next (c :: rest) := leaves_dropWhile Text.isAsciiSpace hrest
    have hle (cs : List Char) : (cs.dropWhile Text.isAsciiSpace).length ≤ cs.length :=
      List.length_dropWhile_le ..
    refine .step skipFiller_nil hnext (fun more ↦ ?_) (fun fuel more ↦ ?_) (ih _ (hle rest))
    · have := hle (rest ++ more)
      simp only [next, List.cons_append, List.drop_succ_cons, List.drop_zero, List.length_cons]
      omega
    · rw [List.cons_append, hplain, if_neg hmark, if_pos hspace]
      rfl
  · refine .inr ⟨c :: rest, h, le_rfl, fun more fuel hfuel ↦ ?_⟩
    obtain _ | fuel := fuel
    · omega
    · rw [List.cons_append, hplain, if_neg hmark, if_neg hspace]

theorem filled_skipFiller {cs : List Char} (h : Terminated cs) : Filled skipFiller cs := by
  induction hn : cs.length using Nat.strong_induction_on generalizing cs with
  | h n ih =>
    have ih (rest : List Char) (hrest : rest.length < n) (hterminated : Terminated rest) :
        Filled skipFiller rest := ih _ hrest hterminated rfl
    obtain _ | ⟨c, rest⟩ := cs
    · exact absurd rfl h.ne_nil
    rw [List.length_cons] at hn
    by_cases hcomment : startsComment (c :: rest) = true
    · simp only [startsComment, Bool.or_eq_true, Bool.and_eq_true, beq_iff_eq] at hcomment
      rcases hcomment with hline | ⟨hblock, hmore⟩
      · obtain _ | ⟨d, rest⟩ := rest
        · cases hline
        obtain ⟨rfl, rfl⟩ : c = '-' ∧ d = '-' := by simpa using hline
        exact filled_line h fun cs hcs ↦ ih cs (by rw [List.length_cons] at hn; omega)
      · obtain _ | ⟨d, _ | ⟨e, rest⟩⟩ := rest
        · cases hblock
        · simp at hmore
        obtain ⟨rfl, rfl⟩ : c = '/' ∧ d = '*' := by simpa using hblock
        exact filled_block h fun cs hcs ↦ ih cs (by rw [List.length_cons] at hn; omega)
    · exact filled_plain h (by simpa using hcomment) fun cs hcs ↦ ih cs (by omega)

theorem filled_skipEmpty {cs : List Char} (h : Terminated cs) : Filled skipEmpty cs := by
  induction hn : cs.length using Nat.strong_induction_on generalizing cs with
  | h n ih =>
    have hnil (fuel : Nat) : skipEmpty fuel [] = [] := by cases fuel <;> rfl
    rcases filled_skipFiller h with hempty | ⟨rest, hrest, hle, hmore⟩
    · refine .inl fun fuel hfuel ↦ ?_
      obtain _ | fuel := fuel
      · omega
      · rw [skipEmpty, hempty _ (Nat.lt_succ_self _)]
    have hfill (more : List Char) :
        skipFiller ((cs ++ more).length + 1) (cs ++ more) = rest ++ more :=
      hmore more _ (Nat.lt_succ_self _)
    obtain _ | ⟨c, tail⟩ := rest
    · exact absurd rfl hrest.ne_nil
    by_cases hc : c = ';'
    · subst hc
      -- A step passes the filler and the semicolon behind it.
      let next (cs : List Char) : List Char := (skipFiller (cs.length + 1) cs).drop 1
      have hnext (more : List Char) : next (cs ++ more) = tail ++ more := by
        simp only [next, hfill, List.cons_append, List.drop_succ_cons, List.drop_zero]
      have htail : next cs = tail := by simpa using hnext []
      rw [List.length_cons] at hle
      have hleaves : Leaves next cs := by
        rw [Leaves, htail]
        by_cases htail_nil : tail = []
        · exact .inl htail_nil
        · exact .inr ⟨hrest.of_suffix (List.suffix_cons _ _) htail_nil, hnext⟩
      refine .step hnil hleaves (fun more ↦ ?_) (fun fuel more ↦ ?_) fun hterminated ↦ ?_
      · rw [hnext, List.length_append, List.length_append]
        omega
      · rw [skipEmpty, hfill, hnext]
        rfl
      · exact ih _ (by rw [htail]; omega) hterminated rfl
    · refine .inr ⟨c :: tail, hrest, hle, fun more fuel hfuel ↦ ?_⟩
      obtain _ | fuel := fuel
      · omega
      · rw [skipEmpty, hfill, List.cons_append]
        split
        · next heq => exact absurd (List.cons.inj heq).1 hc
        · rfl

/-! ## Statements -/

/-- The statement ends in a semicolon, and not with the text. -/
def Scanned.Closed (scanned : Scanned) : Prop :=
  scanned.tokens.getLast?.map (·.written) = some [';']

theorem not_closed_scanFrom_nil (total fuel : Nat) (names : Variables) :
    ¬(scanFrom total fuel names []).Closed := by
  obtain _ | fuel := fuel <;> simp [scanFrom, skipFiller_nil, Scanned.Closed]

/-- The end of a statement is always a token. -/
theorem scanFrom_tokens_ne_nil (total fuel : Nat) (names : Variables) (cs : List Char) :
    (scanFrom total fuel names cs).tokens ≠ [] := by
  obtain _ | fuel := fuel
  · exact List.cons_ne_nil _ _
  · rw [scanFrom]
    split <;> exact List.cons_ne_nil _ _

theorem Scanned.Closed.behind {total fuel : Nat} {names : Variables} {cs : List Char}
    {token : Token}
    (h : Scanned.Closed { scanFrom total fuel names cs with
      tokens := token :: (scanFrom total fuel names cs).tokens }) :
    (scanFrom total fuel names cs).Closed := by
  have hne := scanFrom_tokens_ne_nil total fuel names cs
  rw [Closed, List.getLast?_cons_of_ne_nil hne] at h
  exact h

section

variable {total fuel : Nat} {names : Variables} {cs : List Char}

theorem scanFrom_of_nil (h : skipFiller (cs.length + 1) cs = []) :
    scanFrom total (fuel + 1) names cs = ⟨[⟨.finish, total, []⟩], [], names⟩ := by
  rw [scanFrom, h]

theorem scanFrom_of_semicolon {rest : List Char} (h : skipFiller (cs.length + 1) cs = ';' :: rest) :
    scanFrom total (fuel + 1) names cs =
      ⟨[⟨.finish, total - (';' :: rest).length, [';']⟩], rest, names⟩ := by
  rw [scanFrom, h]
  rfl

theorem scanFrom_of_token {c : Char} {rest behind : List Char} {lexeme : Lexeme}
    {names' : Variables} (h : skipFiller (cs.length + 1) cs = c :: rest) (hc : c ≠ ';')
    (hread : readNext names c (c :: rest) = ((lexeme, names'), behind)) :
    scanFrom total (fuel + 1) names cs =
      { scanFrom total fuel names' behind with
        tokens := ⟨lexeme, total - (c :: rest).length,
          (c :: rest).take ((c :: rest).length - behind.length)⟩ ::
            (scanFrom total fuel names' behind).tokens } := by
  rw [scanFrom, h]
  split
  · next heq => cases heq
  · next heq => exact absurd (List.cons.inj heq).1 hc
  · next heq =>
    obtain ⟨rfl, rfl⟩ := List.cons.inj heq
    rw [readNext] at hread
    obtain ⟨hfirst, rfl⟩ := Prod.mk.inj hread
    obtain ⟨rfl, rfl⟩ := Prod.mk.inj hfirst
    rfl

end

theorem scanFrom_append {total fuel fuel' : Nat} {names : Variables} {cs : List Char}
    (h : Terminated cs) (hclosed : (scanFrom total fuel names cs).Closed) (more : List Char)
    (hfuel : fuel ≤ fuel') :
    scanFrom (total + more.length) fuel' names (cs ++ more) =
      { scanFrom total fuel names cs with
        rest := (scanFrom total fuel names cs).rest ++ more } := by
  induction fuel generalizing fuel' names cs with
  | zero => simp [scanFrom, Scanned.Closed] at hclosed
  | succ fuel ih =>
    obtain _ | fuel' := fuel'
    · omega
    rcases filled_skipFiller h with hnil | ⟨rest, hrest, -, hmore⟩
    · rw [scanFrom_of_nil (hnil _ (Nat.lt_succ_self _))] at hclosed
      simp [Scanned.Closed] at hclosed
    have hfill : skipFiller (cs.length + 1) cs = rest := by
      simpa using hmore [] (cs.length + 1) (by simp)
    have hfill' : skipFiller ((cs ++ more).length + 1) (cs ++ more) = rest ++ more :=
      hmore more _ (Nat.lt_succ_self _)
    obtain _ | ⟨c, tail⟩ := rest
    · exact absurd rfl hrest.ne_nil
    -- The place of a token is counted from the end, and the end has moved.
    have hstart (behind : List Char) :
        total + more.length - (behind ++ more).length = total - behind.length := by
      rw [List.length_append, Nat.add_sub_add_right]
    by_cases hc : c = ';'
    · subst hc
      rw [List.cons_append] at hfill'
      rw [scanFrom_of_semicolon hfill, scanFrom_of_semicolon hfill', ← List.cons_append, hstart]
    rcases settled_readNext names hrest hc with hnil | ⟨⟨lexeme, names'⟩, behind, hreads⟩
    · -- A token that uses the text up leaves no semicolon to end the statement.
      rcases hread : readNext names c (c :: tail) with ⟨⟨lexeme, names'⟩, behind⟩
      obtain rfl : behind = [] := by simpa [hread] using hnil
      rw [scanFrom_of_token hfill hc hread] at hclosed
      exact absurd hclosed.behind (not_closed_scanFrom_nil total fuel names')
    · have hread := hreads.append more
      rw [List.cons_append] at hread hfill'
      rw [scanFrom_of_token hfill hc hreads.eq] at hclosed ⊢
      have hwritten := take_written (c :: tail) behind more
      rw [List.cons_append] at hwritten
      rw [scanFrom_of_token hfill' hc hread, hwritten, ← List.cons_append, hstart,
        ih hreads.terminated hclosed.behind (by omega)]

/-- A token starts within its text. -/
theorem start_le_of_mem_scanFrom {total fuel : Nat} {names : Variables} {cs : List Char}
    {token : Token} (h : token ∈ (scanFrom total fuel names cs).tokens) : token.start ≤ total := by
  induction fuel generalizing names cs with
  | zero =>
    obtain rfl := List.mem_singleton.mp h
    exact Nat.sub_le _ _
  | succ fuel ih =>
    rw [scanFrom] at h
    split at h
    · obtain rfl := List.mem_singleton.mp h
      exact le_rfl
    · obtain rfl := List.mem_singleton.mp h
      exact Nat.sub_le _ _
    · rcases List.mem_cons.mp h with rfl | h
      · exact Nat.sub_le _ _
      · exact ih h

theorem start_le_of_mem_scanStatement {text : List Char} {token : Token}
    (h : token ∈ (scanStatement text).tokens) : token.start ≤ text.length :=
  (start_le_of_mem_scanFrom h).trans (List.takeWhile_sublist _).length_le

/-- **A statement that is closed and has nothing behind it is cut in the same way with anything
behind it**, and that is where the next statement is looked for. -/
theorem scanStatement_append {text : List Char} (h : Terminated text) (hplain : '\x00' ∉ text)
    (hclosed : (scanStatement text).Closed) (hrest : (scanStatement text).rest = [])
    (more : List Char) :
    scanStatement (text ++ more) = { scanStatement text with rest := more } := by
  have hall : ∀ c ∈ text, (c != '\x00') = true := by
    rintro c hc
    rw [bne_iff_ne]
    rintro rfl
    exact hplain hc
  have hseen : text.takeWhile (· != '\x00') = text := List.takeWhile_eq_self_iff.mpr hall
  -- Nothing behind a NUL is seen of what follows.
  let seen := more.takeWhile (· != '\x00')
  have hseen' : (text ++ more).takeWhile (· != '\x00') = text ++ seen :=
    List.takeWhile_append_of_pos hall
  rcases filled_skipEmpty h with hnil | ⟨start, hstart, -, hfill⟩
  · rw [scanStatement, hseen, hnil _ (Nat.lt_succ_self _)] at hclosed
    exact absurd hclosed (not_closed_scanFrom_nil _ _ _)
  have htext : skipEmpty (text.length + 1) text = start := by
    simpa using hfill [] (text.length + 1) (by simp)
  let scanned := scanFrom text.length (text.length + 1) [] start
  have hscanned : scanStatement text =
      { scanned with rest := text.drop (text.length - scanned.rest.length) } := by
    rw [scanStatement, hseen, htext]
  rw [hscanned] at hclosed hrest
  have hnone : scanned.rest = [] := by
    have hlength := List.length_pos_iff.mpr h.ne_nil
    have hdrop := List.drop_eq_nil_iff.mp hrest
    exact List.length_eq_zero_iff.mp (by omega)
  have hmore : scanFrom (text ++ seen).length ((text ++ seen).length + 1) [] (start ++ seen) =
      { scanned with rest := seen } := by
    rw [List.length_append, scanFrom_append hstart hclosed seen (by omega)]
    simp only [scanned, hnone, List.nil_append]
  rw [scanStatement, hseen', hfill seen _ (Nat.lt_succ_self _), hmore, hscanned]
  simp only [List.length_append, Nat.add_sub_cancel, List.drop_left]

end SqlGateway.Sqlite
