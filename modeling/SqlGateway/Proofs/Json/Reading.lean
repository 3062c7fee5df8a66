import SqlGateway.Json.Reader
import SqlGateway.Json.Writer

/-!
# Documents that are read back

What the writer writes of a document, the reader reads as that document. Numbers are kept as text,
and a text need not be that of a number; so a document is legible if the text of each number in it
is.

## Strings

The writer escapes a character or leaves it as it is, and in either case the reader takes it for one
unit, the code point. No code point of a character is half of a surrogate pair, so the units join to
the characters again. The closing quote is the first one that is not escaped.

## Fuel

Each call of the reader within a value has one unit of fuel less. It is enough if there is more of
it than characters in the text of the value: brackets take a character each, and so does what
separates two items.
-/

namespace SqlGateway.Json

/-! ## Strings -/

theorem hexNumber?_control (n : Fin 32) :
    Text.hexNumber? ['0', '0', Text.hexDigit (n / 16), Text.hexDigit (n % 16)] = some n.val := by
  revert n
  decide

/-- How a character is written. -/
inductive Escaped (c : Char) : List Char → Prop where
  | short (letter : Char) (hu : letter ≠ 'u') (h : shortEscape? letter = some c) :
    Escaped c ['\\', letter]
  | control (h : c.toNat < 32) :
    Escaped c ['\\', 'u', '0', '0', Text.hexDigit (c.toNat / 16), Text.hexDigit (c.toNat % 16)]
  | plain (hquote : c ≠ '"') (hbackslash : c ≠ '\\') (h : 32 ≤ c.toNat) : Escaped c [c]

theorem escaped_escape (c : Char) : Escaped c (escape c) := by
  have hshort (letter : Char) (hu : letter ≠ 'u') {d : Char} (h : shortEscape? letter = some d)
      (heq : c = d) : Escaped c ['\\', letter] := heq ▸ .short letter hu h
  rw [escape]
  by_cases hquote : c = '"'
  · rw [if_pos hquote]
    exact hshort '"' (by decide) rfl hquote
  rw [if_neg hquote]
  by_cases hbackslash : c = '\\'
  · rw [if_pos hbackslash]
    exact hshort '\\' (by decide) rfl hbackslash
  rw [if_neg hbackslash]
  split
  next h => exact hshort 'b' (by decide) rfl h
  split
  next h => exact hshort 'f' (by decide) rfl h
  split
  next h => exact hshort 'n' (by decide) rfl h
  split
  next h => exact hshort 'r' (by decide) rfl h
  split
  next h => exact hshort 't' (by decide) rfl h
  split
  next h => exact .control h
  next h => exact .plain hquote hbackslash (Nat.le_of_not_lt h)

/-- However a character is written, it is read as one unit. -/
theorem Escaped.readUnits {c : Char} {written : List Char} (h : Escaped c written)
    (rest : List Char) :
    readUnits (written ++ rest) =
      (readUnits rest).map fun found ↦ (c.toNat :: found.1, found.2) := by
  rw [Option.map_eq_bind]
  cases h with
  | short letter hu h =>
    rw [List.cons_append, List.singleton_append, Json.readUnits, h]
    · rfl
    · exact fun a b c d tail heq ↦ absurd heq hu
  | control h =>
    have hunit := hexNumber?_control ⟨c.toNat, h⟩
    simp only [List.cons_append, List.nil_append, Json.readUnits, hunit]
    rfl
  | plain hquote hbackslash h =>
    have hreads : ¬(c.toNat < 32 ∨ c = '\\') := not_or.mpr ⟨Nat.not_lt.mpr h, hbackslash⟩
    rw [List.singleton_append, Json.readUnits, if_neg hreads]
    · rfl
    · exact hquote
    · exact fun a b c d tail heq ↦ absurd heq hbackslash
    · exact fun a tail heq ↦ absurd heq hbackslash

/-- The code points of a text, up to the closing quote. -/
theorem readUnits_quoted (cs rest : List Char) :
    readUnits (cs.flatMap escape ++ '"' :: rest) = some (cs.map Char.toNat, rest) := by
  induction cs with
  | nil => rfl
  | cons c cs ih =>
    rw [List.flatMap_cons, List.append_assoc, (escaped_escape c).readUnits, ih]
    rfl

theorem not_surrogate (c : Char) :
    isHighSurrogate c.toNat = false ∧ isLowSurrogate c.toNat = false := by
  have hvalid : c.toNat < 0xD800 ∨ 0xDFFF < c.toNat ∧ c.toNat < 0x110000 := c.valid
  rw [isHighSurrogate, isLowSurrogate, Bool.and_eq_false_iff, Bool.and_eq_false_iff,
    decide_eq_false_iff_not, decide_eq_false_iff_not, decide_eq_false_iff_not,
    decide_eq_false_iff_not]
  omega

/-- No character is half of a pair. -/
theorem joinUnits?_toNat (cs : List Char) : joinUnits? (cs.map Char.toNat) = some cs := by
  induction cs with
  | nil => rfl
  | cons c cs ih =>
    obtain ⟨hhigh, hlow⟩ := not_surrogate c
    cases cs with
    | nil =>
      rw [List.map_singleton, joinUnits?, hhigh, hlow, Char.ofNat_toNat]
      rfl
    | cons d cs =>
      rw [List.map_cons] at ih
      rw [List.map_cons, List.map_cons, joinUnits?, hhigh, hlow, ih, Char.ofNat_toNat]
      rfl

/-- **A string is read back** from what is written behind its opening quote. -/
theorem readText_quoted (s : String) (rest : List Char) :
    readText (s.toList.flatMap escape ++ '"' :: rest) = some (some s, rest) := by
  rw [readText, readUnits_quoted]
  simp only [Option.bind_eq_bind, Option.bind_some, joinUnits?_toNat, Option.map_some,
    String.ofList_toList]
  rfl

/-! ## Documents -/

/-- What may stand behind a value in a document: nothing, or a character that separates or closes.
-/
def Ends (rest : List Char) : Prop := ∀ c ∈ rest.head?, c = ',' ∨ c = ']' ∨ c = '\x7d'

/-- The text of a number: its first character shows that, and it is read to its end. -/
structure Numeral (text : List Char) : Prop where
  first : ∃ c tail, text = c :: tail ∧ (c = '-' ∨ c.isDigit = true)
  reads : ∀ rest, Ends rest → readNumber (text ++ rest) = some (text, rest)

theorem ne_of_digit {c d : Char} (hc : c = '-' ∨ c.isDigit = true) (hminus : d ≠ '-')
    (hdigit : d.isDigit = false) : c ≠ d := by
  rintro rfl
  rcases hc with hc | hc
  · exact hminus hc
  · rw [hdigit] at hc
    exact Bool.false_ne_true hc

/-- A document in which every number has the text of one, and which can be read. -/
inductive Legible : Json → Prop where
  | null : Legible .null
  | bool (b : Bool) : Legible (.bool b)
  | number {text : List Char} (h : Numeral text) : Legible (.number text)
  | string (s : String) : Legible (.string s)
  | array {items : List Json} (h : ∀ item ∈ items, Legible item) : Legible (.array items)
  | object {entries : List (String × Json)} (h : ∀ entry ∈ entries, Legible entry.2) :
    Legible (.object entries)

theorem Legible.empty : Legible (.object []) := .object nofun

/-- A record is legible if each of its fields is. -/
theorem Legible.field {key : String} {contents : Json} {others : List (String × Json)}
    (h : contents.Legible) (hothers : Legible (.object others)) :
    Legible (.object ((key, contents) :: others)) := by
  cases hothers with
  | object hothers => exact .object (List.forall_mem_cons.mpr ⟨h, hothers⟩)

/-- The text of a document begins with a character that is no space and closes nothing. -/
def Opens (cs : List Char) : Prop := ∃ c tail, cs = c :: tail ∧ isSpace c = false ∧ c ≠ ']'

theorem Opens.append {cs : List Char} (h : Opens cs) (rest : List Char) : Opens (cs ++ rest) := by
  obtain ⟨c, tail, rfl, hspace, hcloses⟩ := h
  exact ⟨c, tail ++ rest, rfl, hspace, hcloses⟩

theorem skipSpace_cons {c : Char} (h : isSpace c = false) (cs : List Char) :
    skipSpace (c :: cs) = c :: cs := by
  rw [skipSpace, List.dropWhile_cons_of_neg (by rw [h]; exact Bool.false_ne_true)]

theorem Opens.skipSpace_eq {cs : List Char} (h : Opens cs) : skipSpace cs = cs := by
  obtain ⟨c, tail, rfl, hspace, -⟩ := h
  exact skipSpace_cons hspace tail

theorem Numeral.opens {text : List Char} (h : Numeral text) : Opens text := by
  obtain ⟨c, tail, rfl, hc⟩ := h.first
  have hspace : isSpace c = false := by
    have hne := ne_of_digit hc (d := ' ') (by decide) (by decide)
    have hnewline := ne_of_digit hc (d := '\n') (by decide) (by decide)
    have htab := ne_of_digit hc (d := '\t') (by decide) (by decide)
    have hreturn := ne_of_digit hc (d := '\r') (by decide) (by decide)
    simp [isSpace, hne, hnewline, htab, hreturn]
  exact ⟨c, tail, rfl, hspace, ne_of_digit hc (by decide) (by decide)⟩

theorem Legible.opens {j : Json} (h : j.Legible) : Opens (write j) := by
  cases h with
  | null => exact ⟨'n', _, rfl, rfl, by decide⟩
  | bool b =>
    cases b with
    | false => exact ⟨'f', _, rfl, rfl, by decide⟩
    | true => exact ⟨'t', _, rfl, rfl, by decide⟩
  | number h => exact h.opens
  | string s => exact ⟨'"', _, by rw [write, quote]; rfl, rfl, by decide⟩
  | array h => exact ⟨'[', _, by rw [write]; rfl, rfl, by decide⟩
  | object h => exact ⟨'\x7b', _, by rw [write]; rfl, rfl, by decide⟩

/-- A document is read from its text, whatever comes behind, with fuel for each character. -/
def Reads (j : Json) : Prop :=
  ∀ fuel rest, (write j).length < fuel → Ends rest →
    readValue fuel (write j ++ rest) = some (j, rest)

theorem ends_cons {c : Char} (h : c = ',' ∨ c = ']' ∨ c = '\x7d') (cs : List Char) :
    Ends (c :: cs) := by
  intro d hd
  rw [List.head?_cons, Option.mem_some] at hd
  exact hd ▸ h

theorem readItems_write {items : List Json} (hne : items ≠ []) (h : ∀ item ∈ items, Reads item)
    (fuel : Nat) (rest : List Char) (hfuel : (writeItems items).length + 1 < fuel) :
    readItems fuel (writeItems items ++ ']' :: rest) = some (items, rest) := by
  induction items generalizing fuel with
  | nil => exact absurd rfl hne
  | cons item items ih =>
    obtain ⟨fuel, rfl⟩ : ∃ n, fuel = n + 1 := ⟨fuel - 1, by omega⟩
    have hitem := h item List.mem_cons_self
    by_cases hlast : items = []
    · subst hlast
      rw [writeItems] at hfuel ⊢
      rw [readItems, hitem fuel (']' :: rest) (by omega) (ends_cons (by decide) rest)]
      rfl
    · rw [writeItems.eq_3 item items hlast] at hfuel ⊢
      rw [List.length_append, List.length_cons] at hfuel
      have hitems := ih hlast (fun i hi ↦ h i (List.mem_cons_of_mem _ hi)) fuel (by omega)
      rw [List.append_assoc, List.cons_append, readItems,
        hitem fuel _ (by omega) (ends_cons (by decide) _)]
      simp only [Option.bind_eq_bind, Option.bind_some, skipSpace_cons (c := ',') rfl, hitems]
      rfl

theorem readEntries_write {entries : List (String × Json)} (hne : entries ≠ [])
    (h : ∀ entry ∈ entries, Reads entry.2) (fuel : Nat) (rest : List Char)
    (hfuel : (writeEntries entries).length + 1 < fuel) :
    readEntries fuel (writeEntries entries ++ '\x7d' :: rest) = some (some entries, rest) := by
  induction entries generalizing fuel with
  | nil => exact absurd rfl hne
  | cons entry entries ih =>
    obtain ⟨key, value⟩ := entry
    obtain ⟨fuel, rfl⟩ : ∃ n, fuel = n + 1 := ⟨fuel - 1, by omega⟩
    have hvalue : Reads value := h (key, value) List.mem_cons_self
    by_cases hlast : entries = []
    · subst hlast
      rw [writeEntries, List.length_append, List.length_cons] at hfuel
      have hread := hvalue fuel ('\x7d' :: rest) (by omega) (ends_cons (by decide) rest)
      rw [writeEntries, quote]
      simp only [List.cons_append, List.append_assoc, List.nil_append, readEntries,
        skipSpace_cons (c := '"') rfl, readText_quoted, Option.bind_eq_bind, Option.bind_some,
        skipSpace_cons (c := ':') rfl, hread, skipSpace_cons (c := '\x7d') rfl]
      rfl
    · rw [writeEntries.eq_3 key value entries hlast] at hfuel ⊢
      rw [List.length_append, List.length_append, List.length_cons, List.length_cons] at hfuel
      have hentries := ih hlast (fun e he ↦ h e (List.mem_cons_of_mem _ he)) fuel (by omega)
      have hread := hvalue fuel (',' :: (writeEntries entries ++ '\x7d' :: rest)) (by omega)
        (ends_cons (by decide) _)
      rw [quote]
      simp only [List.cons_append, List.append_assoc, List.nil_append, readEntries,
        skipSpace_cons (c := '"') rfl, readText_quoted, Option.bind_eq_bind, Option.bind_some,
        skipSpace_cons (c := ':') rfl, hread, skipSpace_cons (c := ',') rfl, hentries]
      rfl

theorem opens_writeItems {items : List Json} (hne : items ≠ [])
    (h : ∀ item ∈ items, Opens (write item)) : Opens (writeItems items) := by
  cases items with
  | nil => exact absurd rfl hne
  | cons item items =>
    have hitem := h item List.mem_cons_self
    by_cases hlast : items = []
    · subst hlast
      rwa [writeItems]
    · rw [writeItems.eq_3 item items hlast]
      exact hitem.append _

theorem writeEntries_eq_cons {entries : List (String × Json)} (hne : entries ≠ []) :
    ∃ tail, writeEntries entries = '"' :: tail := by
  cases entries with
  | nil => exact absurd rfl hne
  | cons entry entries =>
    obtain ⟨key, value⟩ := entry
    by_cases hlast : entries = []
    · subst hlast
      exact ⟨_, by rw [writeEntries, quote]; rfl⟩
    · exact ⟨_, by rw [writeEntries.eq_3 key value entries hlast, quote]; rfl⟩

/-- No other value begins like a number. -/
theorem readValue_numeral {c : Char} (hc : c = '-' ∨ c.isDigit = true) (fuel : Nat)
    {cs tail : List Char} (hskip : skipSpace cs = c :: tail) :
    readValue (fuel + 1) cs =
      (readNumber (c :: tail)).bind fun found ↦ some (.number found.1, found.2) := by
  have hne {d : Char} {cs : List Char} (heq : c :: tail = d :: cs) (hminus : d ≠ '-')
      (hdigit : d.isDigit = false) : False :=
    ne_of_digit hc hminus hdigit (List.cons.inj heq).1
  rw [readValue, hskip]
  split
  next heq => exact (hne heq (by decide) (by decide)).elim
  next heq => exact (hne heq (by decide) (by decide)).elim
  next heq => exact (hne heq (by decide) (by decide)).elim
  next heq => exact (hne heq (by decide) (by decide)).elim
  next heq => exact (hne heq (by decide) (by decide)).elim
  next heq => exact (hne heq (by decide) (by decide)).elim
  next => rfl

theorem reads_number {text : List Char} (h : Numeral text) : Reads (.number text) := by
  intro fuel rest hfuel hends
  obtain ⟨fuel, rfl⟩ : ∃ n, fuel = n + 1 := ⟨fuel - 1, by omega⟩
  have hread := h.reads rest hends
  have hskip := (h.opens.append rest).skipSpace_eq
  obtain ⟨c, tail, rfl, hc⟩ := h.first
  rw [List.cons_append] at hread hskip
  rw [write, List.cons_append, readValue_numeral hc fuel hskip, hread]
  rfl

theorem reads_string (s : String) : Reads (.string s) := by
  intro fuel rest hfuel hends
  obtain ⟨fuel, rfl⟩ : ∃ n, fuel = n + 1 := ⟨fuel - 1, by omega⟩
  rw [write, quote, List.cons_append, List.cons_append, List.append_assoc, List.singleton_append,
    readValue, skipSpace_cons rfl]
  simp only [readText_quoted]
  rfl

theorem reads_array {items : List Json} (hopens : ∀ item ∈ items, Opens (write item))
    (h : ∀ item ∈ items, Reads item) : Reads (.array items) := by
  intro fuel rest hfuel hends
  obtain ⟨fuel, rfl⟩ : ∃ n, fuel = n + 1 := ⟨fuel - 1, by omega⟩
  rw [write, List.length_append, List.length_cons, List.length_singleton] at hfuel
  rw [write, List.cons_append, List.cons_append, List.append_assoc, List.singleton_append,
    readValue, skipSpace_cons rfl]
  by_cases hnone : items = []
  · subst hnone
    rw [writeItems, List.nil_append]
    simp only [skipSpace_cons (c := ']') rfl]
  · have hitems := readItems_write hnone h fuel rest (by omega)
    have hfirst := (opens_writeItems hnone hopens).append (']' :: rest)
    simp only [hfirst.skipSpace_eq]
    obtain ⟨c, tail, hwritten, -, hcloses⟩ := hfirst
    rw [hwritten] at hitems ⊢
    split
    next heq => exact absurd (List.cons.inj heq).1 hcloses
    next => rw [hitems]; rfl

theorem reads_object {entries : List (String × Json)} (h : ∀ entry ∈ entries, Reads entry.2) :
    Reads (.object entries) := by
  intro fuel rest hfuel hends
  obtain ⟨fuel, rfl⟩ : ∃ n, fuel = n + 1 := ⟨fuel - 1, by omega⟩
  rw [write, List.length_append, List.length_cons, List.length_singleton] at hfuel
  rw [write, List.cons_append, List.cons_append, List.append_assoc, List.singleton_append,
    readValue, skipSpace_cons rfl]
  by_cases hnone : entries = []
  · subst hnone
    rw [writeEntries, List.nil_append]
    simp only [skipSpace_cons (c := '\x7d') rfl]
  · have hentries := readEntries_write hnone h fuel rest (by omega)
    obtain ⟨tail, hwritten⟩ := writeEntries_eq_cons hnone
    rw [hwritten, List.cons_append] at hentries ⊢
    simp only [skipSpace_cons (c := '"') rfl]
    split
    next heq => exact absurd (List.cons.inj heq).1 (by decide)
    next => rw [hentries]; rfl

/-- **A legible document is read back from its text.** -/
theorem Legible.reads {j : Json} (h : j.Legible) : Reads j := by
  induction h with
  | null =>
    intro fuel rest hfuel hends
    obtain ⟨fuel, rfl⟩ : ∃ n, fuel = n + 1 := ⟨fuel - 1, by omega⟩
    rfl
  | bool b =>
    intro fuel rest hfuel hends
    obtain ⟨fuel, rfl⟩ : ∃ n, fuel = n + 1 := ⟨fuel - 1, by omega⟩
    cases b with
    | false => rfl
    | true => rfl
  | number h => exact reads_number h
  | string s => exact reads_string s
  | array h ih => exact reads_array (fun item hitem ↦ (h item hitem).opens) ih
  | object h ih => exact reads_object ih

/-- **Reading undoes writing.** -/
theorem read?_render {j : Json} (h : j.Legible) : read? j.render = some j := by
  have hread := h.reads ((write j).length + 1) [] (by omega) (by simp [Ends])
  rw [List.append_nil] at hread
  rw [read?, render, String.toList_ofList, String.length_ofList, hread]
  rfl

end SqlGateway.Json
