import SqlGateway.Proofs.Text.Runs
import SqlGateway.Toml.Writer

/-!
# Texts that are read back

Every text is read back from the way it is written in, whichever of the four it is.

Between quotes of one kind a character is escaped or stands for itself, and either way it is read
as one character. Between tripled quotes there may be quotes of the text's own. The writer leaves no
more than two of them in a row, so that three in a row are the closing ones, or up to two of the
text's own with the closing ones behind them. The inductions below carry the quotes that have been
passed and not been read yet.
-/

namespace SqlGateway.Toml

/-! ## Escapes -/

theorem namedChar?_control (n : Fin 128) :
    namedChar? ['0', '0', Text.hexDigitUpper (n / 16), Text.hexDigitUpper (n % 16)] =
      some (Char.ofNat n) := by
  revert n
  decide

theorem toNat_lt_of_isControl {c : Char} (h : isControl c = true) : c.toNat < 128 := by
  simp only [isControl, Bool.or_eq_true, Bool.and_eq_true, decide_eq_true_eq, beq_iff_eq] at h
  omega

/-- How a character other than the double quote is written between double quotes. -/
inductive Escaped (block : Bool) (c : Char) : List Char → Prop where
  | short (letter : Char) (hu : letter ≠ 'u') (hU : letter ≠ 'U')
    (h : shortEscape? letter = some c) : Escaped block c ['\\', letter]
  | control (h : isControl c = true) :
    Escaped block c
      ['\\', 'u', '0', '0', Text.hexDigitUpper (c.toNat / 16), Text.hexDigitUpper (c.toNat % 16)]
  | feed (hblock : block = true) (h : c = '\n') : Escaped block c ['\n']
  | plain (hquote : c ≠ '"') (hbackslash : c ≠ '\\') (h : isControl c = false) :
    Escaped block c [c]

theorem escaped_escapeChar (block : Bool) {c : Char} (hquote : c ≠ '"') :
    Escaped block c (escapeChar block c) := by
  have hshort (letter : Char) (hu : letter ≠ 'u') (hU : letter ≠ 'U') {d : Char}
      (h : shortEscape? letter = some d) (heq : c = d) : Escaped block c ['\\', letter] :=
    heq ▸ .short letter hu hU h
  rw [escapeChar]
  split
  next h => exact hshort 'b' (by decide) (by decide) rfl h
  split
  next h => exact hshort 't' (by decide) (by decide) rfl h
  split
  next h =>
    cases block with
    | false => exact hshort 'n' (by decide) (by decide) rfl h
    | true => exact .feed rfl h
  split
  next h => exact hshort 'f' (by decide) (by decide) rfl h
  split
  next h => exact hshort 'r' (by decide) (by decide) rfl h
  split
  next h => exact hshort '\\' (by decide) (by decide) rfl h
  next hbackslash =>
    by_cases hcontrol : isControl c = true
    · rw [if_pos hcontrol]
      exact .control hcontrol
    · rw [if_neg hcontrol]
      exact .plain hquote hbackslash (Bool.not_eq_true _ ▸ hcontrol)

/-- A double quote stands for itself while there may be another one in the row, and is escaped from
then on. -/
theorem escape_cons (block : Bool) (quotes : Nat) (c : Char) (cs : List Char) :
    (c = '"' ∧ quotes < quotesAllowed block ∧
      escape block quotes (c :: cs) = '"' :: escape block (quotes + 1) cs) ∨
    ∃ written, Escaped block c written ∧
      escape block quotes (c :: cs) = written ++ escape block 0 cs := by
  rw [escape]
  by_cases hquote : c = '"'
  · rw [if_pos hquote]
    split
    next hlt => exact .inl ⟨hquote, hlt, rfl⟩
    next =>
      subst hquote
      exact .inr ⟨['\\', '"'], .short '"' (by decide) (by decide) rfl, rfl⟩
  · rw [if_neg hquote]
    exact .inr ⟨escapeChar block c, escaped_escapeChar block hquote, rfl⟩

/-- What a character is written as begins with no quote, nor with a line break unless it is one. -/
theorem Escaped.head {block : Bool} {c : Char} {written : List Char} (h : Escaped block c written) :
    ∃ first tail, written = first :: tail ∧ first ≠ '"' ∧
      (c ≠ '\n' → first ≠ '\n' ∧ first ≠ '\r') := by
  cases h with
  | short => exact ⟨_, _, rfl, by decide, fun _ ↦ by decide⟩
  | control => exact ⟨_, _, rfl, by decide, fun _ ↦ by decide⟩
  | feed _ h => exact ⟨_, _, rfl, by decide, fun hne ↦ absurd h hne⟩
  | plain hquote _ h =>
    refine ⟨_, _, rfl, hquote, fun hne ↦ ⟨hne, ?_⟩⟩
    rintro rfl
    cases h

theorem namedChar?_eq {c : Char} (h : isControl c = true) :
    namedChar? ['0', '0', Text.hexDigitUpper (c.toNat / 16), Text.hexDigitUpper (c.toNat % 16)] =
      some c := by
  have hnamed := namedChar?_control ⟨c.toNat, toNat_lt_of_isControl h⟩
  rwa [Char.ofNat_toNat] at hnamed

/-! ## Texts on a line -/

theorem readBasic_plain {c : Char} (hquote : c ≠ '"') (hbackslash : c ≠ '\\')
    (hcontrol : isControl c = false) (rest : List Char) :
    readBasic (c :: rest) = before c (readBasic rest) := by
  have hreads : ¬(isControl c = true ∨ c = '\\') := by
    rw [hcontrol]
    exact not_or.mpr ⟨Bool.false_ne_true, hbackslash⟩
  rw [readBasic, if_neg hreads]
  · exact hquote
  · exact fun _ _ _ _ _ heq ↦ absurd heq hbackslash
  · exact fun _ _ _ _ _ _ _ _ _ heq ↦ absurd heq hbackslash
  · exact fun _ _ heq ↦ absurd heq hbackslash

/-- However a character is written, it is read as one character. -/
theorem Escaped.readBasic {c : Char} {written : List Char} (h : Escaped false c written)
    (rest : List Char) : readBasic (written ++ rest) = before c (readBasic rest) := by
  cases h with
  | short letter hu hU h =>
    rw [List.cons_append, List.singleton_append, Toml.readBasic, h]
    · rfl
    · exact fun _ _ _ _ _ heq ↦ absurd heq hu
    · exact fun _ _ _ _ _ _ _ _ _ heq ↦ absurd heq hU
  | control h =>
    simp only [List.cons_append, List.nil_append, Toml.readBasic, namedChar?_eq h]
    rfl
  | feed hblock => cases hblock
  | plain hquote hbackslash h => exact readBasic_plain hquote hbackslash h rest

/-- **A text between double quotes is read back.** -/
theorem readBasic_escape (cs rest : List Char) :
    readBasic (escape false 0 cs ++ '"' :: rest) = some (cs, rest) := by
  induction cs with
  | nil => rfl
  | cons c cs ih =>
    obtain ⟨-, hlt, -⟩ | ⟨written, hwritten, heq⟩ := escape_cons false 0 c cs
    · exact absurd hlt (Nat.not_lt_zero 0)
    · rw [heq, List.append_assoc, hwritten.readBasic, ih]
      rfl

/-- **A text between single quotes is read back**, if it can stand there. -/
theorem readLiteral_append {cs : List Char} (hcs : ∀ c ∈ cs, isControl c = false ∧ c ≠ '\'')
    (rest : List Char) : readLiteral (cs ++ '\'' :: rest) = some (cs, rest) := by
  induction cs with
  | nil => rfl
  | cons c cs ih =>
    obtain ⟨hcontrol, hquote⟩ := hcs c List.mem_cons_self
    rw [List.cons_append, readLiteral, hcontrol, if_neg Bool.false_ne_true,
      ih fun d hd ↦ hcs d (List.mem_cons_of_mem c hd)]
    · rfl
    · exact hquote

/-! ## Tripled quotes -/

/-- A reader of what stands between tripled quotes. -/
structure Tripled (quote : Char) (read : List Char → Option (List Char × List Char)) : Prop where
  closes (rest : List Char) : read (quote :: quote :: quote :: rest) = some (ownQuotes quote rest)
  /-- A quote without two others behind it is one of the text. -/
  passes (rest : List Char) (h : ∀ tail, rest ≠ quote :: quote :: tail) :
    read (quote :: rest) = before quote (read rest)

theorem ownQuotes_replicate {quote : Char} {q : Nat} (hq : q ≤ 2) {rest : List Char}
    (hrest : ∀ c ∈ rest.head?, c ≠ quote) :
    ownQuotes quote (List.replicate q quote ++ rest) = (List.replicate q quote, rest) := by
  match q, hq with
  | 0, _ =>
    match rest with
    | [] => rfl
    | [a] => rw [List.replicate_zero, List.nil_append, ownQuotes, if_neg (hrest a rfl)]
    | a :: b :: rest => rw [List.replicate_zero, List.nil_append, ownQuotes, if_neg (hrest a rfl)]
  | 1, _ =>
    match rest with
    | [] => simp [ownQuotes]
    | b :: rest => simp [ownQuotes, hrest b rfl]
  | 2, _ => simp [ownQuotes, List.replicate]

namespace Tripled

variable {quote : Char} {read : List Char → Option (List Char × List Char)}

/-- Up to two quotes of the text's own stand before the closing ones. -/
theorem read_closing (h : Tripled quote read) {q : Nat} (hq : q ≤ 2) {rest : List Char}
    (hrest : ∀ c ∈ rest.head?, c ≠ quote) :
    read (List.replicate q quote ++ quote :: quote :: quote :: rest) =
      some (List.replicate q quote, rest) := by
  have hswap : List.replicate q quote ++ quote :: quote :: quote :: rest =
      quote :: quote :: quote :: (List.replicate q quote ++ rest) := by
    match q, hq with
    | 0, _ | 1, _ | 2, _ => rfl
  rw [hswap, h.closes, ownQuotes_replicate hq hrest]

/-- Up to two quotes of the text's own stand before another character. -/
theorem read_quotes (h : Tripled quote read) {q : Nat} (hq : q ≤ 2) {first : Char}
    (hfirst : first ≠ quote) {tail text rest : List Char}
    (hread : read (first :: tail) = some (text, rest)) :
    read (List.replicate q quote ++ first :: tail) =
      some (List.replicate q quote ++ text, rest) := by
  have hone : read (quote :: first :: tail) = some (quote :: text, rest) := by
    rw [h.passes, hread]
    · rfl
    · intro others heq
      exact hfirst (List.cons.inj heq).1
  match q, hq with
  | 0, _ => exact hread
  | 1, _ => exact hone
  | 2, _ =>
    change read (quote :: quote :: first :: tail) = _
    rw [h.passes, hone]
    · rfl
    · intro others heq
      exact hfirst (List.cons.inj (List.cons.inj heq).2).1

end Tripled

/-! ## Blocks -/

theorem tripled_readBlock : Tripled '"' (readBlock false) where
  closes rest := by rw [readBlock]
  passes rest h := by
    rw [readBlock]
    · rfl
    · decide
    · exact fun _ heq ↦ absurd heq (by decide)
    · exact fun tail _ heq ↦ h tail heq
    · exact fun _ _ _ _ _ heq ↦ absurd heq (by decide)
    · exact fun _ _ _ _ _ _ _ _ _ heq ↦ absurd heq (by decide)
    · exact fun _ _ heq ↦ absurd heq (by decide)

theorem Escaped.readBlock {c : Char} {written : List Char} (h : Escaped true c written)
    (rest : List Char) : readBlock false (written ++ rest) = before c (readBlock false rest) := by
  cases h with
  | short letter hu hU h =>
    rw [List.cons_append, List.singleton_append, Toml.readBlock, h]
    · exact fun _ _ _ _ _ heq ↦ absurd heq hu
    · exact fun _ _ _ _ _ _ _ _ _ heq ↦ absurd heq hU
  | control h =>
    simp only [List.cons_append, List.nil_append, Toml.readBlock, namedChar?_eq h]
    rfl
  | feed _ h =>
    subst h
    rw [List.singleton_append, Toml.readBlock]
    rfl
  | plain hquote hbackslash h =>
    have hreads : ¬(isControl c = true ∨ c = '\\') := by
      rw [h]
      exact not_or.mpr ⟨Bool.false_ne_true, hbackslash⟩
    have hne {d : Char} (hd : isControl d = true) : c ≠ d := by
      rintro rfl
      rw [h] at hd
      cases hd
    rw [List.singleton_append, Toml.readBlock, Bool.false_and, if_neg Bool.false_ne_true,
      if_neg hreads]
    · exact hne rfl
    · exact fun _ heq ↦ absurd heq (hne rfl)
    · exact fun _ heq ↦ absurd heq hquote
    · exact fun _ _ _ _ _ heq ↦ absurd heq hbackslash
    · exact fun _ _ _ _ _ _ _ _ _ heq ↦ absurd heq hbackslash
    · exact fun _ _ heq ↦ absurd heq hbackslash

/-- **A text between tripled double quotes is read back**, behind quotes of its own that have been
passed. -/
theorem readBlock_escape (cs : List Char) {q : Nat} (hq : q ≤ 2) {rest : List Char}
    (hrest : ∀ c ∈ rest.head?, c ≠ '"') :
    readBlock false (List.replicate q '"' ++ (escape true q cs ++ '"' :: '"' :: '"' :: rest)) =
      some (List.replicate q '"' ++ cs, rest) := by
  induction cs generalizing q with
  | nil =>
    rw [escape, List.nil_append, List.append_nil]
    exact tripled_readBlock.read_closing hq hrest
  | cons c cs ih =>
    obtain ⟨rfl, hlt, heq⟩ | ⟨written, hwritten, heq⟩ := escape_cons true q c cs
    · -- The quote is one more of those that have been passed.
      have hmore := ih (q := q + 1) hlt
      rw [List.replicate_succ', List.append_assoc, List.append_assoc] at hmore
      rw [heq]
      exact hmore
    · obtain ⟨first, tail, htail, hfirst, -⟩ := hwritten.head
      have hread : readBlock false (written ++ (escape true 0 cs ++ '"' :: '"' :: '"' :: rest)) =
          some (c :: cs, rest) := by
        have hmore := ih (Nat.zero_le 2)
        rw [List.replicate_zero, List.nil_append, List.nil_append] at hmore
        rw [hwritten.readBlock, hmore]
        rfl
      rw [heq, List.append_assoc]
      rw [htail] at hread ⊢
      exact tripled_readBlock.read_quotes hq hfirst hread

theorem not_isControl_of_not_needsEscape {c : Char} (hc : needsEscape c = false)
    (hfeed : c ≠ '\n') : isControl c = false := by
  rw [needsEscape, Bool.and_eq_false_iff] at hc
  exact hc.resolve_right fun h ↦ hfeed (by simpa using h)

theorem readLiteralBlock_plain {c : Char} (hc : needsEscape c = false) {rest : List Char}
    (hquotes : c = '\'' → ∀ tail, rest ≠ '\'' :: '\'' :: tail) :
    readLiteralBlock (c :: rest) = before c (readLiteralBlock rest) := by
  by_cases hfeed : c = '\n'
  · subst hfeed
    rw [readLiteralBlock]
  · have hcontrol : isControl c = false := not_isControl_of_not_needsEscape hc hfeed
    rw [readLiteralBlock, hcontrol, if_neg Bool.false_ne_true]
    · exact hfeed
    · rintro tail rfl
      cases hcontrol
    · exact fun tail heq hrest ↦ hquotes heq tail hrest

theorem tripled_readLiteralBlock : Tripled '\'' readLiteralBlock where
  closes rest := by rw [readLiteralBlock]
  passes rest h := readLiteralBlock_plain rfl fun _ ↦ h

theorem le_longestRun (c : Char) (current : Nat) (cs : List Char) :
    current ≤ longestRun c current cs := by
  induction cs generalizing current with
  | nil => exact Nat.le_refl current
  | cons first rest ih =>
    rw [longestRun]
    split
    · exact Nat.le_trans (Nat.le_succ current) (ih (current + 1))
    · exact Nat.le_max_left current _

/-- **A text between tripled single quotes is read back**, behind quotes of its own that have been
passed, if it can stand there. -/
theorem readLiteralBlock_append {cs : List Char} {q : Nat} (hruns : longestRun '\'' q cs ≤ 2)
    (hcs : ∀ c ∈ cs, needsEscape c = false) {rest : List Char}
    (hrest : ∀ c ∈ rest.head?, c ≠ '\'') :
    readLiteralBlock (List.replicate q '\'' ++ (cs ++ '\'' :: '\'' :: '\'' :: rest)) =
      some (List.replicate q '\'' ++ cs, rest) := by
  have hq : q ≤ 2 := Nat.le_trans (le_longestRun '\'' q cs) hruns
  induction cs generalizing q with
  | nil =>
    rw [List.nil_append, List.append_nil]
    exact tripled_readLiteralBlock.read_closing hq hrest
  | cons c cs ih =>
    have htail (d : Char) (hd : d ∈ cs) : needsEscape d = false := hcs d (List.mem_cons_of_mem c hd)
    rw [longestRun] at hruns
    by_cases hquote : c = '\''
    · subst hquote
      rw [if_pos rfl] at hruns
      have hmore := ih hruns htail (Nat.le_trans (le_longestRun '\'' (q + 1) cs) hruns)
      rw [List.replicate_succ', List.append_assoc, List.append_assoc] at hmore
      exact hmore
    · rw [if_neg hquote] at hruns
      refine tripled_readLiteralBlock.read_quotes hq hquote ?_
      have hmore := ih (Nat.le_trans (Nat.le_max_right q _) hruns) htail (Nat.zero_le 2)
      rw [List.replicate_zero, List.nil_append, List.nil_append] at hmore
      rw [readLiteralBlock_plain (hcs c List.mem_cons_self) (absurd · hquote), List.append_eq,
        hmore]
      rfl

/-! ## Ways to write a text -/

/-- What the ways without escapes need of a text. Those with escapes write any text. -/
def Style.Shows (cs : List Char) : Style → Prop
  | .basic => True
  | .literal => ∀ c ∈ cs, isControl c = false ∧ c ≠ '\''
  | .block => True
  | .literalBlock => longestRun '\'' 0 cs ≤ 2 ∧ ∀ c ∈ cs, needsEscape c = false

theorem shows_textStyle (cs : List Char) : (textStyle cs).Shows cs := by
  have hcoded (h : cs.any needsEscape = false) : ∀ c ∈ cs, needsEscape c = false := by
    intro c hc
    exact Bool.eq_false_iff.mpr (List.any_eq_false.mp h c hc)
  rw [textStyle]
  split
  · trivial
  split
  next h =>
    simp only [Bool.and_eq_true, Bool.not_eq_true', List.contains_eq_mem,
      decide_eq_false_iff_not] at h
    obtain ⟨⟨hplain, hbroken⟩, hquote⟩ := h
    intro c hc
    constructor
    · apply not_isControl_of_not_needsEscape (hcoded hplain c hc)
      rintro rfl
      exact hbroken hc
    · rintro rfl
      exact hquote hc
  split
  · trivial
  split
  next h =>
    rw [Bool.and_eq_true, Bool.not_eq_true', decide_eq_true_eq] at h
    exact ⟨h.2, hcoded h.1⟩
  split
  · trivial
  · trivial

theorem skipBreak_of_head {cs : List Char} (h : ∀ c ∈ cs.head?, c ≠ '\n' ∧ c ≠ '\r') :
    skipBreak cs = cs := by
  rw [skipBreak, readBreak?]
  · rfl
  · rintro rest rfl
    exact (h '\n' rfl).1 rfl
  · rintro rest rfl
    exact (h '\r' rfl).2 rfl

/-- What stands between tripled quotes is read from behind the line break that was put before it. -/
theorem skipBreak_firstLine {cs body : List Char}
    (hbody : '\n' ∉ cs → ∀ c ∈ body.head?, c ≠ '\n' ∧ c ≠ '\r') :
    skipBreak (writeStyled.firstLine cs ++ body) = body := by
  rw [writeStyled.firstLine]
  by_cases hbroken : '\n' ∈ cs
  · rw [if_pos (List.contains_iff_mem.mpr hbroken)]
    rfl
  · rw [if_neg fun h ↦ hbroken (List.contains_iff_mem.mp h)]
    exact skipBreak_of_head (hbody hbroken)

/-- An escaped text begins with no quote on a line, and with no line break in a block unless it has
one of its own. -/
theorem head_escape {block : Bool} {cs rest : List Char} {c : Char}
    (hc : c ∈ (escape block 0 cs ++ '"' :: rest).head?) :
    (block = false → cs ≠ [] → c ≠ '"') ∧ ('\n' ∉ cs → c ≠ '\n' ∧ c ≠ '\r') := by
  cases cs with
  | nil =>
    obtain rfl := Option.some.inj hc
    exact ⟨fun _ hne ↦ absurd rfl hne, fun _ ↦ by decide⟩
  | cons d cs =>
    obtain ⟨rfl, hlt, heq⟩ | ⟨written, hwritten, heq⟩ := escape_cons block 0 d cs
    · rw [heq] at hc
      obtain rfl := Option.some.inj hc
      refine ⟨?_, fun _ ↦ by decide⟩
      rintro rfl
      exact absurd hlt (Nat.not_lt_zero 0)
    · obtain ⟨first, tail, rfl, hfirst, hbreak⟩ := hwritten.head
      rw [heq] at hc
      obtain rfl := Option.some.inj hc
      refine ⟨fun _ _ ↦ hfirst, fun hbroken ↦ hbreak ?_⟩
      rintro rfl
      exact hbroken List.mem_cons_self

theorem writeStyled_basic_append (cs rest : List Char) :
    writeStyled cs .basic ++ rest = '"' :: (escape false 0 cs ++ '"' :: rest) := by
  simp only [writeStyled, List.cons_append, List.append_assoc, List.nil_append]

theorem writeStyled_literal_append (cs rest : List Char) :
    writeStyled cs .literal ++ rest = '\'' :: (cs ++ '\'' :: rest) := by
  simp only [writeStyled, List.cons_append, List.append_assoc, List.nil_append]

/-- **A text is read back from every way to write it** that shows it. -/
theorem readText_writeStyled {cs : List Char} {style : Style} (hshows : style.Shows cs)
    {rest : List Char} (hrest : ∀ c ∈ rest.head?, c ≠ '"' ∧ c ≠ '\'') :
    readText (writeStyled cs style ++ rest) = some (cs, rest) := by
  cases style with
  | basic =>
    rw [writeStyled_basic_append, readText, readBasic_escape]
    -- No further quote is behind the opening one, nor behind the closing one of an empty text.
    intro tail heq
    cases cs with
    | nil => exact (hrest '"' (by rw [(List.cons.inj heq).2]; rfl)).1 rfl
    | cons c cs => exact (head_escape (by rw [heq]; rfl)).1 rfl (List.cons_ne_nil c cs) rfl
  | literal =>
    rw [writeStyled_literal_append, readText, readLiteral_append hshows]
    intro tail heq
    cases cs with
    | nil => exact (hrest '\'' (by rw [(List.cons.inj heq).2]; rfl)).2 rfl
    | cons c cs => exact (hshows c List.mem_cons_self).2 (List.cons.inj heq).1
  | block =>
    have hwritten : writeStyled cs .block ++ rest = '"' :: '"' :: '"' ::
        (writeStyled.firstLine cs ++ (escape true 0 cs ++ '"' :: '"' :: '"' :: rest)) := by
      simp only [writeStyled, List.cons_append, List.append_assoc, List.nil_append]
    rw [hwritten, readText, skipBreak_firstLine fun hbroken c hc ↦ (head_escape hc).2 hbroken]
    exact readBlock_escape cs (Nat.zero_le 2) fun c hc ↦ (hrest c hc).1
  | literalBlock =>
    have hwritten : writeStyled cs .literalBlock ++ rest = '\'' :: '\'' :: '\'' ::
        (writeStyled.firstLine cs ++ (cs ++ '\'' :: '\'' :: '\'' :: rest)) := by
      simp only [writeStyled, List.cons_append, List.append_assoc, List.nil_append]
    rw [hwritten, readText, skipBreak_firstLine]
    · exact readLiteralBlock_append hshows.1 hshows.2 fun c hc ↦ (hrest c hc).2
    · intro hbroken c hc
      cases cs with
      | nil =>
        obtain rfl := Option.some.inj hc
        decide
      | cons d cs =>
        obtain rfl := Option.some.inj hc
        constructor
        · rintro rfl
          exact hbroken List.mem_cons_self
        · rintro rfl
          exact absurd (hshows.2 '\r' List.mem_cons_self) (by decide)

/-- **A text is read back.** -/
theorem readText_writeText (cs : List Char) {rest : List Char}
    (hrest : ∀ c ∈ rest.head?, c ≠ '"' ∧ c ≠ '\'') :
    readText (writeText cs ++ rest) = some (cs, rest) :=
  readText_writeStyled (shows_textStyle cs) hrest

/-! ## Keys -/

theorem readName_bare {cs : List Char} (hne : cs ≠ []) (hbare : ∀ c ∈ cs, isBare c = true)
    {rest : List Char} (hrest : ∀ c ∈ rest.head?, isBare c = false) :
    readName (cs ++ rest) = some (String.ofList cs, rest) := by
  have hquote {quote : Char} (hquote : isBare quote = false) (tail : List Char) :
      cs ++ rest ≠ quote :: tail := by
    intro heq
    cases cs with
    | nil => exact hne rfl
    | cons c cs =>
      obtain rfl := (List.cons.inj heq).1
      exact Bool.false_ne_true (hquote.symm.trans (hbare c List.mem_cons_self))
  rw [readName, Text.takeWhile_run hbare hrest, Text.dropWhile_run hbare hrest]
  · cases cs with
    | nil => exact absurd rfl hne
    | cons c cs => rfl
  · exact hquote (by decide)
  · exact hquote (by decide)

/-- **A key is read back.** -/
theorem readName_writeKey (cs : List Char) {rest : List Char}
    (hrest : ∀ c ∈ rest.head?, isBare c = false) :
    readName (writeKey cs ++ rest) = some (String.ofList cs, rest) := by
  have hbasic : readName (writeStyled cs .basic ++ rest) = some (String.ofList cs, rest) := by
    rw [writeStyled_basic_append, readName, readBasic_escape]
    rfl
  rw [writeKey]
  split
  next h =>
    rw [Bool.and_eq_true, Bool.not_eq_true', List.isEmpty_eq_false_iff, List.all_eq_true] at h
    exact readName_bare h.1 h.2 hrest
  dsimp only
  split
  · exact hbasic
  split
  next h =>
    simp only [Bool.and_eq_true, Bool.not_eq_true', List.contains_eq_mem,
      decide_eq_false_iff_not] at h
    obtain ⟨hplain, hquote⟩ := h
    rw [writeStyled_literal_append, readName, readLiteral_append]
    · rfl
    · intro c hc
      refine ⟨Bool.eq_false_iff.mpr (List.any_eq_false.mp hplain c hc), ?_⟩
      rintro rfl
      exact hquote hc
  · exact hbasic

end SqlGateway.Toml
