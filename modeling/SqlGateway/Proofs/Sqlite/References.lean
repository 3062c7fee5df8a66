import SqlGateway.Proofs.Inference.Naming
import SqlGateway.Proofs.Sqlite.Parsing
import SqlGateway.Proofs.Text.Runs

/-!
# Queries of references

A reference is a sign and an identifier, and stands for a parameter in the text of a statement. A
query whose columns are references has a token for each of them, with the number of a parameter
that is spelt like it. References that are spelt alike share a number. Others do not, though they
may mean the same parameter: that is for the binder to find out.

## Main definitions

* `Reference`, `Reference.query`: references, and the text of a query of them.
* `Listing`: the tokens of references with commas between them, and their numbers.
* `Numbered`, `Gathers`: the numbers of references among the parameters of a statement.

## Main results

* `statements_query`: a query of references is a single statement that selects the parameters of
  their numbers.
-/

namespace SqlGateway.Sqlite

/-! ## References -/

/-- A reference to a parameter. -/
structure Reference where
  sign : Char
  first : Char
  others : List Char
  isMarker_sign : Parameter.isMarker sign = true
  begins : (first.isAlpha || first == '_') = true
  continues : ∀ c ∈ others, (c.isAlphanum || c == '_') = true

namespace Reference

/-- The name that is referred to. -/
def name (reference : Reference) : String := String.ofList (reference.first :: reference.others)

/-- The characters of a reference. -/
def written (reference : Reference) : List Char :=
  reference.sign :: reference.first :: reference.others

/-- The text of a reference. -/
def text (reference : Reference) : String := String.ofList reference.written

/-- The query of some references. -/
def query (references : List Reference) : String :=
  "SELECT " ++ ", ".intercalate (references.map text)

variable (reference : Reference)

theorem sign_cases : reference.sign = '@' ∨ reference.sign = ':' ∨ reference.sign = '$' :=
  Parameter.isMarker_iff.mp reference.isMarker_sign

theorem not_isMarker_first : Parameter.isMarker reference.first = false := by
  have hfirst := reference.begins
  rw [Bool.eq_false_iff]
  intro hmarker
  rcases Parameter.isMarker_iff.mp hmarker with h | h | h <;> rw [h] at hfirst <;>
    exact absurd hfirst (by decide)

/-- Without its sign a reference is a name. -/
theorem bareName_text : Parameter.bareName reference.text = reference.name := by
  rw [Parameter.bareName, text, written, String.toList_ofList, List.dropWhile_cons,
    if_pos reference.isMarker_sign, List.dropWhile_cons, reference.not_isMarker_first, name]
  rfl

theorem continuesWord_of_mem_name :
    ∀ c ∈ reference.first :: reference.others, continuesWord c = true := by
  intro c hc
  rcases List.mem_cons.mp hc with rfl | hc
  · have hbegins := reference.begins
    simp only [Bool.or_eq_true, beq_iff_eq] at hbegins
    rcases hbegins with h | h <;> simp [continuesWord, startsWord, h]
  · have hcontinues := reference.continues c hc
    simp only [Char.isAlphanum, Bool.or_eq_true, beq_iff_eq] at hcontinues
    rcases hcontinues with (h | h) | h <;> simp [continuesWord, startsWord, h]

end Reference

/-- What stands behind a reference: another one behind a comma, or nothing. -/
def furtherText (references : List Reference) : List Char :=
  references.flatMap fun reference ↦ ',' :: ' ' :: reference.written

theorem toList_query (reference : Reference) (references : List Reference) :
    (Reference.query (reference :: references)).toList =
      "SELECT ".toList ++ (reference.written ++ furtherText references) := by
  rw [Reference.query, String.toList_append]
  congr 1
  induction references generalizing reference with
  | nil => simp [furtherText, Reference.text]
  | cons next rest ih =>
    rw [List.map_cons, List.map_cons, String.intercalate_cons_cons, ← List.map_cons,
      String.toList_append, String.toList_append, ih, Reference.text, String.toList_ofList,
      List.append_assoc]
    rfl

/-! ## Numbers -/

/-- The number of the parameter that is spelt like a reference, and the parameters with it. -/
def numbered (names : Variables) (reference : Reference) : Nat × Variables :=
  match numberOf? names reference.text with
  | some number => (number, names)
  | none => (names.length + 1, names ++ [some reference.text])

/-- The number of a reference among the parameters of a statement. -/
structure Numbered (names : Variables) (reference : Reference) (number : Nat) : Prop where
  pos : 0 < number
  names_at : names[number - 1]? = some (some reference.text)

/-- Parameters keep their numbers when more are found. -/
theorem Numbered.of_longer {names names' : Variables} {reference : Reference} {number : Nat}
    (h : Numbered names reference number) (hlonger : names <+: names') :
    Numbered names' reference number where
  pos := h.pos
  names_at := by
    obtain ⟨more, rfl⟩ := hlonger
    obtain ⟨hlt, -⟩ := List.getElem?_eq_some_iff.mp h.names_at
    rw [List.getElem?_append_left hlt, h.names_at]

theorem mem_numbered {names : Variables} {reference : Reference} {written : Option String}
    (h : written ∈ (numbered names reference).2) :
    written ∈ names ∨ written = some reference.text := by
  rw [numbered] at h
  cases hnumber : numberOf? names reference.text with
  | some number =>
    rw [hnumber] at h
    exact .inl h
  | none =>
    rw [hnumber] at h
    exact (List.mem_append.mp h).imp_right List.mem_singleton.mp

theorem numbered_spec (names : Variables) (reference : Reference) :
    names <+: (numbered names reference).2 ∧
      Numbered (numbered names reference).2 reference (numbered names reference).1 := by
  rw [numbered]
  cases hnumber : numberOf? names reference.text with
  | some number =>
    obtain ⟨index, hindex, rfl⟩ := Option.map_eq_some_iff.mp hnumber
    obtain ⟨hlt, hfound, -⟩ := List.findIdx?_eq_some_iff_getElem.mp hindex
    refine ⟨List.prefix_rfl, Nat.succ_pos index, ?_⟩
    rw [Nat.add_sub_cancel, List.getElem?_eq_getElem hlt, beq_iff_eq.mp hfound]
  | none =>
    refine ⟨List.prefix_append _ _, Nat.succ_pos _, ?_⟩
    rw [Nat.add_sub_cancel, List.getElem?_concat_length]

/-- The parameters of a statement before and behind some references, and the numbers of these. -/
structure Gathers (names names' : Variables) (references : List Reference) (numbers : List Nat) :
    Prop where
  longer : names <+: names'
  forall_numbered : List.Forall₂ (Numbered names') references numbers
  mem_cases : ∀ written ∈ names',
    written ∈ names ∨ ∃ reference ∈ references, written = some reference.text

theorem Gathers.nil (names : Variables) : Gathers names names [] [] :=
  ⟨List.prefix_rfl, .nil, fun _ h ↦ .inl h⟩

theorem Gathers.cons {names names' : Variables} {reference : Reference}
    {references : List Reference} {numbers : List Nat}
    (h : Gathers (numbered names reference).2 names' references numbers) :
    Gathers names names' (reference :: references) ((numbered names reference).1 :: numbers) where
  longer := (numbered_spec names reference).1.trans h.longer
  forall_numbered := .cons ((numbered_spec names reference).2.of_longer h.longer) h.forall_numbered
  mem_cases := by
    intro written hwritten
    rcases h.mem_cases written hwritten with hnumbered | ⟨other, hother, htext⟩
    · exact (mem_numbered hnumbered).imp_right fun htext ↦ ⟨reference, List.mem_cons_self, htext⟩
    · exact .inr ⟨other, List.mem_cons_of_mem _ hother, htext⟩

/-! ## Tokens of references -/

/-- What may stand behind a reference: nothing, or a comma. -/
def Stops (cs : List Char) : Prop := ∀ c ∈ cs.head?, c = ','

theorem stops_furtherText (references : List Reference) : Stops (furtherText references) := by
  cases references with
  | nil => rintro c ⟨⟩
  | cons next rest => exact Text.forall_head?_cons rfl

theorem skipParameter_run {run more : List Char} (hrun : ∀ c ∈ run, continuesWord c = true)
    (hmore : Stops more) (named : Bool) :
    skipParameter named (run ++ more) = (more, named || !run.isEmpty) := by
  induction run generalizing named with
  | nil =>
    rw [List.nil_append, List.isEmpty_nil, Bool.not_true, Bool.or_false]
    cases more with
    | nil => rfl
    | cons c more =>
      obtain rfl := hmore c rfl
      rw [skipParameter_cons fun h ↦ absurd h (by decide), if_neg (by decide), if_neg (by simp)]
  | cons c run ih =>
    have hc := hrun c List.mem_cons_self
    rw [List.cons_append, skipParameter_cons fun h ↦ absurd h (ne_colon_of_continuesWord hc),
      if_pos hc, ih fun d hd ↦ hrun d (List.mem_cons_of_mem c hd)]
    simp

/-- A reference is read as the parameter that is spelt like it. -/
theorem readNext_reference (names : Variables) (reference : Reference) {more : List Char}
    (hmore : Stops more) :
    readNext names reference.sign (reference.written ++ more) =
      ((.variable (numbered names reference).1, (numbered names reference).2), more) := by
  have hvariable : startsVariable reference.sign = true := by
    rcases reference.sign_cases with h | h | h <;> rw [h] <;> rfl
  have hsign : reference.sign ≠ '?' ∧ reference.sign ≠ '#' := by
    rcases reference.sign_cases with h | h | h <;> rw [h] <;> decide
  have hparameter : readNext names reference.sign (reference.written ++ more) =
      readParameter names (reference.written ++ more) := by
    rw [readNext, if_pos hvariable]
    rfl
  have hwritten : (reference.written ++ more).take
      ((reference.written ++ more).length - more.length) = reference.written := by
    rw [List.length_append, Nat.add_sub_cancel, List.take_left]
  rw [Reference.written, List.cons_append] at hwritten hparameter ⊢
  rw [hparameter, readParameter_signed names hsign.1,
    skipParameter_run reference.continuesWord_of_mem_name hmore]
  simp only [namedParameter, hwritten, Bool.false_or, List.isEmpty_cons, Bool.not_false,
    Bool.not_true, Bool.false_eq_true, if_false, beq_eq_false_iff_ne.mpr hsign.2, Bool.false_and,
    numbered, Reference.text, Reference.written]
  cases numberOf? names (String.ofList
      (reference.sign :: reference.first :: reference.others)) <;> rfl

theorem readNext_comma (names : Variables) (more : List Char) :
    readNext names ',' (',' :: ' ' :: more) = ((.symbol ",", names), ' ' :: more) := rfl

theorem readNext_select (names : Variables) (more : List Char) :
    readNext names 'S' ("SELECT ".toList ++ more) = ((.word "SELECT", names), ' ' :: more) := by
  have hrun : ∀ c ∈ "SELECT".toList, continuesWord c = true := List.all_eq_true.mp rfl
  have hends : ∀ c ∈ (' ' :: more).head?, continuesWord c = false :=
    Text.forall_head?_cons (by decide)
  have hplain : readToken ("SELECT ".toList ++ more) = readPlain 'S' ("SELECT ".toList ++ more) :=
    readToken_plain (by decide) (fun h ↦ absurd h (by decide)) _
  have htake := Text.takeWhile_run hrun hends
  have hdrop := Text.dropWhile_run hrun hends
  have htext : "SELECT ".toList ++ more = "SELECT".toList ++ ' ' :: more := rfl
  rw [readNext, if_neg (by decide), hplain, readPlain, if_neg (by decide), if_pos (by decide),
    htext, htake, hdrop, String.ofList_toList]

/-! ## Tokens of a query -/

/-- A character that does not belong to what stands between tokens. -/
def isSolid (c : Char) : Bool := c != '-' && c != '/' && c != '\ufeff' && !Text.isAsciiSpace c

theorem Reference.isSolid_sign (reference : Reference) : isSolid reference.sign = true := by
  rcases reference.sign_cases with h | h | h <;> rw [h] <;> rfl

theorem skipFiller_solid {c : Char} (hc : isSolid c = true) (fuel : Nat) (rest : List Char) :
    skipFiller fuel (c :: rest) = c :: rest := by
  cases fuel with
  | zero => rfl
  | succ fuel =>
    simp only [isSolid, Bool.and_eq_true, bne_iff_ne, Bool.not_eq_true'] at hc
    obtain ⟨⟨⟨hminus, hslash⟩, hmark⟩, hspace⟩ := hc
    have hcomment : startsComment (c :: rest) = false := by simp [startsComment, hminus, hslash]
    have hstarts : startsSpace c = false := by simp [startsSpace, hmark, hspace]
    rw [skipFiller_plain hcomment, beq_eq_false_iff_ne.mpr hmark, hstarts]
    rfl

theorem skipFiller_space {c : Char} (hc : isSolid c = true) (fuel : Nat) (rest : List Char) :
    skipFiller (fuel + 1) (' ' :: c :: rest) = c :: rest := by
  have hspace : Text.isAsciiSpace c = false := by
    simp only [isSolid, Bool.and_eq_true, Bool.not_eq_true'] at hc
    exact hc.2
  have hcomment : startsComment (' ' :: c :: rest) = false := by simp [startsComment]
  rw [skipFiller_plain hcomment, if_neg (by decide), if_pos (by decide), List.dropWhile_cons,
    hspace]
  exact skipFiller_solid hc fuel rest

/-- The tokens of parameters with commas between them, up to the end of a text. -/
inductive Listing : List Token → List Nat → Prop
  | last {token finish : Token} {number : Nat} : token.lexeme = .variable number →
    finish.lexeme = .finish → Listing [token, finish] [number]
  | more {token comma : Token} {number : Nat} {tokens : List Token} {numbers : List Nat} :
    token.lexeme = .variable number → comma.lexeme = .symbol "," → Listing tokens numbers →
    Listing (token :: comma :: tokens) (number :: numbers)

theorem Listing.length_eq {tokens : List Token} {numbers : List Nat} (h : Listing tokens numbers) :
    tokens.length = 2 * numbers.length := by
  induction h with
  | last => rfl
  | more _ _ _ ih => simp only [List.length_cons, ih]; omega

theorem scanFrom_reference (total fuel : Nat) (names : Variables) {reference : Reference}
    {references : List Reference} {cs : List Char}
    (hcs : skipFiller (cs.length + 1) cs = reference.written ++ furtherText references) :
    ∃ token : Token, token.lexeme = .variable (numbered names reference).1 ∧
      scanFrom total (fuel + 1) names cs =
        { scanFrom total fuel (numbered names reference).2 (furtherText references) with
          tokens := token :: (scanFrom total fuel (numbered names reference).2
            (furtherText references)).tokens } := by
  have hread := readNext_reference names reference (stops_furtherText references)
  have hsemicolon : reference.sign ≠ ';' := by
    rcases reference.sign_cases with h | h | h <;> rw [h] <;> decide
  exact ⟨_, rfl, scanFrom_of_token hcs hsemicolon hread⟩

theorem scanFrom_comma (total fuel : Nat) (names : Variables) (cs : List Char) :
    ∃ token : Token, token.lexeme = .symbol "," ∧
      scanFrom total (fuel + 1) names (',' :: ' ' :: cs) =
        { scanFrom total fuel names (' ' :: cs) with
          tokens := token :: (scanFrom total fuel names (' ' :: cs)).tokens } :=
  ⟨_, rfl, scanFrom_of_token (skipFiller_solid (by decide) _ _) (by decide)
    (readNext_comma names cs)⟩

/-- A text of references is cut into the tokens of parameters that are spelt like them. -/
theorem scanFrom_references (total : Nat) (references : List Reference) (reference : Reference)
    (fuel : Nat) (names : Variables) (cs : List Char)
    (hcs : skipFiller (cs.length + 1) cs = reference.written ++ furtherText references)
    (hfuel : 2 * references.length + 2 ≤ fuel) :
    ∃ tokens names' numbers, scanFrom total fuel names cs = ⟨tokens, [], names'⟩ ∧
      Listing tokens numbers ∧ Gathers names names' (reference :: references) numbers := by
  induction references generalizing reference fuel names cs with
  | nil =>
    obtain ⟨fuel, rfl⟩ : ∃ left, fuel = left + 1 + 1 := Nat.exists_eq_add_of_le' hfuel
    obtain ⟨token, htoken, hscan⟩ := scanFrom_reference total (fuel + 1) names hcs
    have hend : scanFrom total (fuel + 1) (numbered names reference).2 (furtherText []) =
        ⟨[⟨.finish, total, []⟩], [], (numbered names reference).2⟩ :=
      scanFrom_of_nil (skipFiller_nil _)
    rw [hend] at hscan
    exact ⟨_, _, _, hscan, .last htoken rfl, .cons (.nil _)⟩
  | cons next rest ih =>
    obtain ⟨fuel, rfl⟩ : ∃ left, fuel = left + 1 + 1 := ⟨fuel - 2, by omega⟩
    obtain ⟨token, htoken, hscan⟩ := scanFrom_reference total (fuel + 1) names hcs
    obtain ⟨comma, hcomma, hbehind⟩ := scanFrom_comma total fuel (numbered names reference).2
      (next.written ++ furtherText rest)
    have hspace : skipFiller ((' ' :: (next.written ++ furtherText rest)).length + 1)
        (' ' :: (next.written ++ furtherText rest)) = next.written ++ furtherText rest :=
      skipFiller_space next.isSolid_sign _ _
    rw [List.length_cons] at hfuel
    obtain ⟨tokens, names', numbers, hrest, hlisting, hgathers⟩ :=
      ih next fuel (numbered names reference).2 _ hspace (by omega)
    have hfurther : furtherText (next :: rest) =
        ',' :: ' ' :: (next.written ++ furtherText rest) := rfl
    rw [hfurther, hbehind, hrest] at hscan
    exact ⟨_, _, _, hscan, .more htoken hcomma hlisting, hgathers.cons⟩

theorem length_le_length_furtherText (references : List Reference) :
    2 * references.length ≤ (furtherText references).length := by
  induction references with
  | nil => exact Nat.le_refl 0
  | cons next rest ih =>
    rw [furtherText] at ih ⊢
    rw [List.flatMap_cons, List.length_append, List.length_cons, List.length_cons,
      List.length_cons]
    omega

theorem Reference.ne_nul_of_mem_written (reference : Reference) {c : Char}
    (hc : c ∈ reference.written) : c ≠ '\x00' := by
  rcases List.mem_cons.mp hc with rfl | hc
  · rcases reference.sign_cases with h | h | h <;> rw [h] <;> decide
  · have hword := reference.continuesWord_of_mem_name c hc
    rintro rfl
    exact absurd hword (by decide)

theorem ne_nul_of_mem_query (reference : Reference) (references : List Reference) {c : Char}
    (hc : c ∈ "SELECT ".toList ++ (reference.written ++ furtherText references)) : c ≠ '\x00' := by
  rcases List.mem_append.mp hc with hc | hc
  · rintro rfl
    exact absurd hc (by decide)
  rcases List.mem_append.mp hc with hc | hc
  · exact reference.ne_nul_of_mem_written hc
  · obtain ⟨next, -, hnext⟩ := List.mem_flatMap.mp hc
    rcases List.mem_cons.mp hnext with rfl | hnext
    · decide
    rcases List.mem_cons.mp hnext with rfl | hnext
    · decide
    · exact next.ne_nul_of_mem_written hnext

/-- A query of references is a keyword and the tokens of its references. -/
theorem scanStatement_query (reference : Reference) (references : List Reference) :
    ∃ (select : Token) (tokens : List Token) (names : Variables) (numbers : List Nat),
      scanStatement (Reference.query (reference :: references)).toList =
        ⟨select :: tokens, [], names⟩ ∧
      select.lexeme = .word "SELECT" ∧ Listing tokens numbers ∧
      Gathers [] names (reference :: references) numbers := by
  have hseen := List.takeWhile_eq_self_iff.mpr fun c hc ↦
    bne_iff_ne.mpr (ne_nul_of_mem_query reference references hc)
  let behind := ' ' :: (reference.written ++ furtherText references)
  have hspace : skipFiller (behind.length + 1) behind =
      reference.written ++ furtherText references :=
    skipFiller_space reference.isSolid_sign _ _
  have hlength := length_le_length_furtherText references
  let text := "SELECT ".toList ++ (reference.written ++ furtherText references)
  have htext : text = 'S' :: ("ELECT ".toList ++ (reference.written ++ furtherText references)) :=
    rfl
  have hfuel : 2 * references.length + 2 ≤ text.length := by
    simp only [text, List.length_append, Reference.written, List.length_cons]
    omega
  obtain ⟨tokens, names, numbers, hbehind, hlisting, hgathers⟩ :=
    scanFrom_references text.length references reference text.length [] behind hspace hfuel
  have hsolid : skipFiller (text.length + 1) text = text := by
    rw [htext]
    exact skipFiller_solid (by decide) _ _
  have hempty : skipEmpty (text.length + 1) text = text := by
    rw [skipEmpty, hsolid, htext]
    rfl
  obtain ⟨select, hselect, hscan⟩ : ∃ select : Token, select.lexeme = .word "SELECT" ∧
      scanFrom text.length (text.length + 1) [] text =
        { scanFrom text.length text.length [] behind with
          tokens := select :: (scanFrom text.length text.length [] behind).tokens } :=
    ⟨_, rfl, scanFrom_of_token (hsolid.trans htext) (by decide) (readNext_select [] _)⟩
  rw [hbehind] at hscan
  refine ⟨select, tokens, names, numbers, ?_, hselect, hlisting, hgathers⟩
  rw [toList_query, scanStatement, hseen]
  simp only [text] at hempty hscan
  rw [hempty, hscan]
  simp only [List.length_nil, Nat.sub_zero, List.drop_length]

/-! ## Parsing -/

namespace Parser

variable {α β : Type} {token next : Token} {tokens : List Token} {number : Nat}

theorem bind_of_ok {p : Parser α} {a : α} {behind : List Token} (h : p tokens = .ok (a, behind))
    (f : α → Parser β) : (p >>= f) tokens = f a behind := by
  change Except.bind (p tokens) (fun done ↦ f done.1 done.2) = _
  rw [h]
  rfl

/-- The lexeme is neither a keyword nor a name, nor a comparison. -/
structure Inert (lexeme : Lexeme) : Prop where
  not_word : ∀ text, lexeme ≠ .word text
  comparisonOf?_eq : comparisonOf? lexeme = none
  aliasOf?_eq : aliasOf? lexeme = none

theorem inert_variable (number : Nat) : Inert (.variable number) :=
  ⟨fun _ h ↦ (nomatch h), rfl, rfl⟩

theorem inert_comma : Inert (.symbol ",") := ⟨fun _ h ↦ (nomatch h), rfl, rfl⟩

theorem inert_finish : Inert .finish := ⟨fun _ h ↦ (nomatch h), rfl, rfl⟩

theorem Inert.keyword? (h : Inert token.lexeme) (word : String) (tokens : List Token) :
    keyword? word (token :: tokens) = .ok (false, token :: tokens) := by
  have hword : isKeyword word token = false := by
    rw [isKeyword]
    split
    · next heq => exact absurd heq (h.not_word _)
    · rfl
  rw [Parser.keyword?, bind_of_ok rfl, List.headD_cons, hword]
  rfl

theorem symbol?_of_ne {text : String} (h : token.lexeme ≠ .symbol text) (tokens : List Token) :
    symbol? text (token :: tokens) = .ok (false, token :: tokens) := by
  rw [symbol?, bind_of_ok rfl, List.headD_cons, if_neg h]
  rfl

theorem symbol?_of_eq {text : String} (h : token.lexeme = .symbol text) (tokens : List Token) :
    symbol? text (token :: tokens) = .ok (true, tokens) := by
  rw [symbol?, bind_of_ok rfl, List.headD_cons, if_pos h]
  rfl

theorem primary_variable (inner : Parser (Expr ColumnName)) (h : token.lexeme = .variable number)
    (tokens : List Token) :
    primary inner (token :: tokens) = .ok (.parameter number, tokens) := by
  rw [primary, bind_of_ok rfl, List.headD_cons, h]
  rfl

theorem tests_inert (inner : Parser (Expr ColumnName)) (fuel : Nat) (left : Expr ColumnName)
    (h : Inert next.lexeme) (tokens : List Token) :
    tests inner (fuel + 1) left (next :: tokens) = .ok (left, next :: tokens) := by
  rw [tests, bind_of_ok rfl, List.headD_cons, h.comparisonOf?_eq]
  dsimp only
  rw [bind_of_ok (h.keyword? _ _), if_neg Bool.false_ne_true, bind_of_ok (h.keyword? _ _),
    if_neg Bool.false_ne_true, bind_of_ok (h.keyword? _ _), if_neg Bool.false_ne_true]
  rfl

theorem connected_inert (connective : String)
    (combine : Expr ColumnName → Expr ColumnName → Expr ColumnName)
    (operand : Parser (Expr ColumnName)) (fuel : Nat) (left : Expr ColumnName)
    (h : Inert next.lexeme) (tokens : List Token) :
    connected connective combine operand (fuel + 1) left (next :: tokens) =
      .ok (left, next :: tokens) := by
  rw [connected, bind_of_ok (h.keyword? _ _), if_neg Bool.false_ne_true]
  rfl

/-- A parameter with nothing behind it that would go on is an expression. -/
theorem expression_variable (fuel : Nat) (htoken : token.lexeme = .variable number)
    (hnext : Inert next.lexeme) (tokens : List Token) :
    expression (fuel + 1) (token :: next :: tokens) = .ok (.parameter number, next :: tokens) := by
  have hinert : Inert token.lexeme := htoken ▸ inert_variable number
  have hoperand : negation (expression fuel) (fuel + 1) (token :: next :: tokens) =
      .ok (.parameter number, next :: tokens) := by
    rw [negation, bind_of_ok (hinert.keyword? _ _), if_neg Bool.false_ne_true,
      bind_of_ok (primary_variable _ htoken _), tests_inert _ _ _ hnext]
  rw [expression, bind_of_ok]
  · exact connected_inert _ _ _ _ _ hnext _
  · rw [bind_of_ok hoperand, connected_inert _ _ _ _ _ hnext]

/-- The column is the parameter of a number, without a label. -/
def Shows (number : Nat) (column : ResultColumn) : Prop :=
  ∃ written, column = .expression (.parameter number) none written

theorem resultColumn_variable (text : List Char) (fuel : Nat)
    (htoken : token.lexeme = .variable number) (hnext : Inert next.lexeme)
    (tokens : List Token) : ∃ column, Shows number column ∧
      resultColumn text (fuel + 1) (token :: next :: tokens) = .ok (column, next :: tokens) := by
  have hstar : token.lexeme ≠ .symbol "*" := by
    rw [htoken]
    exact nofun
  refine ⟨_, ⟨between text token.start next.start, rfl⟩, ?_⟩
  rw [resultColumn, bind_of_ok (symbol?_of_ne hstar _), if_neg Bool.false_ne_true,
    bind_of_ok rfl, bind_of_ok (expression_variable fuel htoken hnext _), bind_of_ok rfl,
    bind_of_ok (hnext.keyword? _ _), if_neg Bool.false_ne_true, bind_of_ok rfl,
    List.headD_cons, hnext.aliasOf?_eq]
  rfl

/-- The columns are the parameters, one for each number. -/
theorem commaList_listing (text : List Char) (fuel : Nat) {tokens : List Token}
    {numbers : List Nat} (h : Listing tokens numbers) (count : Nat)
    (hcount : numbers.length ≤ count) :
    ∃ (columns : List ResultColumn) (finish : Token), finish.lexeme = .finish ∧
      List.Forall₂ Shows numbers columns ∧
      commaList (resultColumn text (fuel + 1)) count tokens = .ok (columns, [finish]) := by
  induction h generalizing count with
  | @last token finish number htoken hfinish =>
    obtain ⟨count, rfl⟩ := Nat.exists_eq_add_of_le' hcount
    obtain ⟨column, hshows, hcolumn⟩ :=
      resultColumn_variable text fuel htoken (hfinish ▸ inert_finish) []
    have hcomma : finish.lexeme ≠ .symbol "," := by
      rw [hfinish]
      exact nofun
    refine ⟨[column], finish, hfinish, .cons hshows .nil, ?_⟩
    rw [List.length_singleton, commaList, bind_of_ok hcolumn, bind_of_ok (symbol?_of_ne hcomma _),
      if_neg Bool.false_ne_true]
    rfl
  | @more token comma number tokens numbers htoken hcomma _ ih =>
    obtain ⟨count, rfl⟩ : ∃ left, count = left + 1 :=
      ⟨count - 1, by rw [List.length_cons] at hcount; omega⟩
    obtain ⟨column, hshows, hcolumn⟩ :=
      resultColumn_variable text fuel htoken (hcomma ▸ inert_comma) tokens
    obtain ⟨columns, finish, hfinish, hall, hrest⟩ := ih count (Nat.le_of_succ_le_succ hcount)
    refine ⟨column :: columns, finish, hfinish, .cons hshows hall, ?_⟩
    rw [commaList, bind_of_ok hcolumn, bind_of_ok (symbol?_of_eq hcomma _), if_pos rfl,
      bind_of_ok hrest]
    rfl

/-- A query of columns and nothing else. -/
def plainQuery (columns : List ResultColumn) : Query := ⟨columns, none, none, [], none, none⟩

theorem clause_inert (word : String) (body : Parser α) (h : Inert next.lexeme)
    (tokens : List Token) :
    clause word body (next :: tokens) = .ok (none, next :: tokens) := by
  rw [clause, bind_of_ok (h.keyword? _ _), if_neg Bool.false_ne_true]
  rfl

theorem query_listing (text : List Char) (fuel : Nat) {tokens : List Token} {numbers : List Nat}
    (h : Listing tokens numbers) (hfuel : numbers.length ≤ fuel + 1) :
    ∃ (columns : List ResultColumn) (finish : Token), finish.lexeme = .finish ∧
      List.Forall₂ Shows numbers columns ∧
      query text (fuel + 1) tokens = .ok (plainQuery columns, [finish]) := by
  obtain ⟨columns, finish, hfinish, hall, hcolumns⟩ :=
    commaList_listing text fuel h (fuel + 1) hfuel
  have hinert : Inert finish.lexeme := hfinish ▸ inert_finish
  refine ⟨columns, finish, hfinish, hall, ?_⟩
  rw [query, bind_of_ok hcolumns, bind_of_ok (clause_inert _ _ hinert _),
    bind_of_ok (clause_inert _ _ hinert _), bind_of_ok (clause_inert _ _ hinert _),
    bind_of_ok (clause_inert _ _ hinert _)]
  rfl

theorem statement_listing (text : List Char) (fuel : Nat) {select : Token} {tokens : List Token}
    {numbers : List Nat} (hselect : select.lexeme = .word "SELECT") (h : Listing tokens numbers)
    (hfuel : numbers.length ≤ fuel + 1) :
    ∃ (columns : List ResultColumn) (finish : Token), List.Forall₂ Shows numbers columns ∧
      statement text (fuel + 1) (select :: tokens) =
        .ok (.select (plainQuery columns), [finish]) := by
  obtain ⟨columns, finish, hfinish, hall, hquery⟩ := query_listing text fuel h hfuel
  have hkeyword : keyword? "select" (select :: tokens) = .ok (true, tokens) := by
    have hword : isKeyword "select" select = true := by
      rw [isKeyword, hselect]
      rfl
    rw [keyword?, bind_of_ok rfl, List.headD_cons, hword]
    rfl
  have hcommand : command text (fuel + 1) (select :: tokens) =
      .ok (.select (plainQuery columns), [finish]) := by
    rw [command, bind_of_ok hkeyword, if_pos rfl, map_eq_pure_bind, bind_of_ok hquery]
    rfl
  refine ⟨columns, finish, hall, ?_⟩
  rw [statement, bind_of_ok hcommand, bind_of_ok rfl, List.headD_cons, if_pos hfinish]
  rfl

end Parser

/-- **A query of references is a single statement**, which selects the parameters of their
numbers. -/
theorem statements_query (reference : Reference) (references : List Reference) :
    ∃ (names : Variables) (numbers : List Nat) (columns : List ResultColumn),
      Gathers [] names (reference :: references) numbers ∧
      List.Forall₂ Parser.Shows numbers columns ∧
      statements (Reference.query (reference :: references)) =
        [.ok ⟨.select (Parser.plainQuery columns), names,
          (Reference.query (reference :: references)).toList⟩] := by
  obtain ⟨select, tokens, names, numbers, hscan, hselect, hlisting, hgathers⟩ :=
    scanStatement_query reference references
  have hlength := hlisting.length_eq
  obtain ⟨columns, finish, hcolumns, hstatement⟩ := Parser.statement_listing
    (Reference.query (reference :: references)).toList (tokens.length + 1) hselect hlisting
    (by omega)
  refine ⟨names, numbers, columns, hgathers, hcolumns, ?_⟩
  have hparse : parseStatement (Reference.query (reference :: references)).toList
      ⟨select :: tokens, [], names⟩ = .ok ⟨.select (Parser.plainQuery columns), names,
        (Reference.query (reference :: references)).toList⟩ := by
    rw [parseStatement, StateT.run, List.length_cons, hstatement]
  -- There is fuel for a second statement, which is not there.
  have hnone (fuel : Nat) : statementsFrom fuel [] = [] := by
    cases fuel <;> rfl
  rw [statements, statementsFrom, hscan]
  simp only [not_isBlank_of_parsed hparse, hparse, hnone]
  rfl

end SqlGateway.Sqlite
