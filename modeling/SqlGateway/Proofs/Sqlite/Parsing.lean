import SqlGateway.Proofs.Sqlite.Scanning
import SqlGateway.Sqlite.Parser

/-!
# Parsing a text with more behind it

A statement is parsed from its tokens, and these are its own. But the parser is given the text, too,
for the columns of a query are called as they are written. What is written lies between two tokens,
so that it is the same in a longer text; that the parser cannot come to tokens of which nothing is
known is the law `Keeps`.

So a batch that is put together from texts of single statements, as the templates do it, has exactly
these statements, one after the other.

## Lines

`Line` is a text of a single statement with the evidence for it. A new line in front of a statement
belongs to its text, since a text ends with its semicolon.
-/

namespace SqlGateway.Sqlite

namespace Parser

variable {α β : Type}

/-! ## Tokens that are left -/

/-- A parser takes tokens off the front only. -/
def Keeps (p : Parser α) : Prop :=
  ∀ ⦃tokens a rest⦄, p tokens = .ok (a, rest) → rest <:+ tokens

theorem Keeps.pure (a : α) : Keeps (pure a : Parser α) := by
  intro tokens b rest h
  obtain ⟨-, rfl⟩ := Prod.mk.inj (Except.ok.inj h)
  exact List.suffix_rfl

theorem Keeps.throw (refusal : Refusal) : Keeps (throw refusal : Parser α) := by
  intro tokens b rest h
  cases h

theorem keeps_peek : Keeps peek := by
  intro tokens b rest h
  obtain ⟨-, rfl⟩ := Prod.mk.inj (Except.ok.inj h)
  exact List.suffix_rfl

theorem keeps_advance : Keeps advance := by
  intro tokens b rest h
  obtain ⟨-, rfl⟩ := Prod.mk.inj (Except.ok.inj h)
  exact List.drop_suffix 1 tokens

theorem keeps_refuse : Keeps (refuse : Parser α) := by
  intro tokens b rest h
  cases h

theorem bind_eq_ok {p : Parser α} {f : α → Parser β} {tokens rest : List Token} {b : β} :
    (p >>= f) tokens = .ok (b, rest) ↔
      ∃ a behind, p tokens = .ok (a, behind) ∧ f a behind = .ok (b, rest) := by
  change Except.bind (p tokens) (fun done ↦ f done.1 done.2) = _ ↔ _
  rcases hp : p tokens with e | ⟨a, behind⟩
  · simp [Except.bind]
  · simp [Except.bind]

theorem Keeps.bind {p : Parser α} {f : α → Parser β} (hp : Keeps p) (hf : ∀ a, Keeps (f a)) :
    Keeps (p >>= f) := by
  intro tokens b rest h
  obtain ⟨a, behind, hfirst, hsecond⟩ := bind_eq_ok.mp h
  exact (hf a hsecond).trans (hp hfirst)

theorem Keeps.ite {condition : Prop} [Decidable condition] {p q : Parser α} (hp : Keeps p)
    (hq : Keeps q) : Keeps (if condition then p else q) := by
  split
  · exact hp
  · exact hq

theorem keeps_keyword? (word : String) : Keeps (keyword? word) :=
  keeps_peek.bind fun _ ↦ .ite (keeps_advance.bind fun _ ↦ .pure true) (.pure false)

theorem keeps_keyword (word : String) : Keeps (keyword word) :=
  (keeps_keyword? word).bind fun _ ↦ .ite (.pure ()) keeps_refuse

theorem keeps_symbol? (text : String) : Keeps (symbol? text) :=
  keeps_peek.bind fun _ ↦ .ite (keeps_advance.bind fun _ ↦ .pure true) (.pure false)

theorem keeps_symbol (text : String) : Keeps (symbol text) :=
  (keeps_symbol? text).bind fun _ ↦ .ite (.pure ()) keeps_refuse

theorem keeps_take (find : Lexeme → Option α) : Keeps (take find) := by
  refine keeps_peek.bind fun token ↦ ?_
  cases find token.lexeme with
  | some a => exact keeps_advance.bind fun _ ↦ .pure a
  | none => exact keeps_refuse

theorem keeps_name : Keeps name := keeps_take nameOf?

theorem keeps_parenthesized {inner : Parser α} (h : Keeps inner) : Keeps (parenthesized inner) :=
  (keeps_symbol "(").bind fun _ ↦ h.bind fun a ↦ (keeps_symbol ")").bind fun _ ↦ .pure a

theorem keeps_number (negative : Bool) : Keeps (number negative) := by
  refine keeps_peek.bind fun token ↦ ?_
  cases token.lexeme with
  | integer digits => exact keeps_advance.bind fun _ ↦ .pure _
  | hexadecimal digits =>
    dsimp only
    cases hexadecimalCell? digits negative with
    | some cell => exact keeps_advance.bind fun _ ↦ .pure cell
    | none => exact .throw _
  | decimal numeral => exact keeps_advance.bind fun _ ↦ .pure _
  | faulty message located => exact .throw _
  | _ => exact keeps_refuse

theorem keeps_named {operand : Parser (Expr ColumnName)} (h : Keeps operand) :
    Keeps (named operand) := by
  -- A name stands for one of three functions if it is called, and else for a column.
  refine keeps_peek.bind fun token ↦ keeps_name.bind fun first ↦
    (keeps_symbol? "(").bind fun call ↦ .ite (.ite ?_ (.ite ?_ (.ite ?_ keeps_refuse))) ?_
  · exact (keeps_symbol ")").bind fun _ ↦ .pure _
  · exact (keeps_symbol "*").bind fun _ ↦ (keeps_symbol ")").bind fun _ ↦ .pure _
  · exact h.bind fun _ ↦ (keeps_symbol ")").bind fun _ ↦ .pure _
  · exact (keeps_symbol? ".").bind fun _ ↦ .ite (keeps_name.bind fun _ ↦ .pure _) (.pure _)

theorem keeps_primary {inner : Parser (Expr ColumnName)} (h : Keeps inner) :
    Keeps (primary inner) := by
  refine keeps_peek.bind fun token ↦ ?_
  cases cellOf? token.lexeme with
  | some cell => exact keeps_advance.bind fun _ ↦ .pure _
  | none =>
    have hnumber (negative : Bool) :
        Keeps (do return (.literal (← number negative) : Expr ColumnName)) :=
      (keeps_number negative).bind fun _ ↦ .pure _
    dsimp only
    split
    · exact keeps_advance.bind fun _ ↦ .pure _
    · exact keeps_parenthesized h
    · exact keeps_advance.bind fun _ ↦ hnumber true
    · exact (keeps_keyword? "null").bind fun _ ↦ .ite (.pure _) (keeps_named h)
    · exact keeps_named h
    · exact hnumber false

theorem keeps_tests {inner : Parser (Expr ColumnName)} (h : Keeps inner) (fuel : Nat)
    (left : Expr ColumnName) : Keeps (tests inner fuel left) := by
  induction fuel generalizing left with
  | zero => exact keeps_refuse
  | succ fuel ih =>
    refine keeps_peek.bind fun token ↦ ?_
    cases comparisonOf? token.lexeme with
    | some comparison =>
      exact keeps_advance.bind fun _ ↦ (keeps_primary h).bind fun _ ↦ ih _
    | none =>
      refine (keeps_keyword? "isnull").bind fun _ ↦ .ite (ih _) <|
        (keeps_keyword? "notnull").bind fun _ ↦ .ite (ih _) <|
          (keeps_keyword? "is").bind fun _ ↦ .ite ?_ (.pure left)
      exact (keeps_keyword? "not").bind fun _ ↦ (keeps_keyword "null").bind fun _ ↦ ih _

theorem keeps_negation {inner : Parser (Expr ColumnName)} (h : Keeps inner) (fuel : Nat) :
    Keeps (negation inner fuel) := by
  induction fuel with
  | zero => exact keeps_refuse
  | succ fuel ih =>
    exact (keeps_keyword? "not").bind fun _ ↦ .ite (ih.bind fun _ ↦ .pure _) <|
      (keeps_primary h).bind fun left ↦ keeps_tests h (fuel + 1) left

theorem keeps_connected (connective : String)
    (combine : Expr ColumnName → Expr ColumnName → Expr ColumnName)
    {operand : Parser (Expr ColumnName)} (h : Keeps operand) (fuel : Nat)
    (left : Expr ColumnName) : Keeps (connected connective combine operand fuel left) := by
  induction fuel generalizing left with
  | zero => exact keeps_refuse
  | succ fuel ih =>
    exact (keeps_keyword? connective).bind fun _ ↦
      .ite (h.bind fun _ ↦ ih _) (.pure left)

theorem keeps_expression (fuel : Nat) : Keeps (expression fuel) := by
  induction fuel with
  | zero => exact keeps_refuse
  | succ fuel ih =>
    have hoperand := keeps_negation ih (fuel + 1)
    have hconjunction := hoperand.bind fun left ↦
      keeps_connected "and" .and hoperand (fuel + 1) left
    exact hconjunction.bind fun left ↦ keeps_connected "or" .or hconjunction (fuel + 1) left

/-! ## Texts that go on -/

theorem bind_congr_of_ok {p : Parser α} {f g : α → Parser β} {tokens : List Token}
    (h : ∀ a rest, p tokens = .ok (a, rest) → f a rest = g a rest) :
    (p >>= f) tokens = (p >>= g) tokens := by
  change Except.bind (p tokens) (fun done ↦ f done.1 done.2) =
    Except.bind (p tokens) (fun done ↦ g done.1 done.2)
  cases hp : p tokens with
  | error refusal => rfl
  | ok done => exact h done.1 done.2 hp

theorem bind_congr_first {p q : Parser α} {tokens : List Token} (h : p tokens = q tokens)
    (f : α → Parser β) : (p >>= f) tokens = (q >>= f) tokens := by
  change Except.bind (p tokens) (fun done ↦ f done.1 done.2) =
    Except.bind (q tokens) (fun done ↦ f done.1 done.2)
  rw [h]

theorem map_congr {p q : Parser α} {tokens : List Token} (h : p tokens = q tokens) (f : α → β) :
    (f <$> p) tokens = (f <$> q) tokens :=
  bind_congr_first h fun a ↦ pure (f a)

theorem ite_congr_run {condition : Prop} [Decidable condition] {p p' q q' : Parser α}
    {tokens : List Token} (hp : condition → p tokens = p' tokens)
    (hq : ¬condition → q tokens = q' tokens) :
    (if condition then p else q) tokens = (if condition then p' else q') tokens := by
  by_cases hcondition : condition
  · rw [if_pos hcondition, if_pos hcondition, hp hcondition]
  · rw [if_neg hcondition, if_neg hcondition, hq hcondition]

/-- Every token starts within a text. -/
def Within (text : List Char) (tokens : List Token) : Prop :=
  ∀ token ∈ tokens, token.start ≤ text.length

variable {text : List Char} {tokens rest : List Token}

theorem Within.of_suffix (h : Within text tokens) (hsuffix : rest <:+ tokens) :
    Within text rest :=
  fun token hmem ↦ h token (hsuffix.subset hmem)

theorem Within.head (h : Within text tokens) : (tokens.headD default).start ≤ text.length := by
  obtain _ | ⟨token, rest⟩ := tokens
  · exact Nat.zero_le _
  · exact h token List.mem_cons_self

theorem between_append {finish : Nat} (h : finish ≤ text.length) (start : Nat)
    (more : List Char) : between (text ++ more) start finish = between text start finish := by
  have htake : ((text ++ more).drop start).take (finish - start) =
      (text.drop start).take (finish - start) := by
    by_cases hstart : start ≤ text.length
    · rw [List.drop_append_of_le_length hstart, List.take_append_of_le_length]
      rw [List.length_drop]
      omega
    · rw [Nat.sub_eq_zero_of_le (by omega), List.take_zero, List.take_zero]
  rw [between, between, htake]

theorem keeps_aliased (value : Expr ColumnName) (written : String) : Keeps (do
    if ← keyword? "as" then return .expression value (some (← take aliasOf?)) written
    match aliasOf? (← peek).lexeme with
    | some label =>
      advance
      pure (.expression value (some label) written)
    | none => pure (.expression value none written) : Parser ResultColumn) := by
  refine (keeps_keyword? "as").bind fun _ ↦ .ite ((keeps_take aliasOf?).bind fun _ ↦ .pure _) ?_
  refine keeps_peek.bind fun token ↦ ?_
  cases aliasOf? token.lexeme with
  | some label => exact keeps_advance.bind fun _ ↦ .pure _
  | none => exact .pure _

theorem keeps_resultColumn (text : List Char) (fuel : Nat) : Keeps (resultColumn text fuel) :=
  (keeps_symbol? "*").bind fun _ ↦ .ite (.pure _) <|
    keeps_peek.bind fun _ ↦ (keeps_expression fuel).bind fun _ ↦
      keeps_peek.bind fun _ ↦ keeps_aliased _ _

theorem resultColumn_append (h : Within text tokens) (more : List Char) (fuel : Nat) :
    resultColumn (text ++ more) fuel tokens = resultColumn text fuel tokens := by
  refine bind_congr_of_ok fun star behindStar hstar ↦ ?_
  refine ite_congr_run (fun _ ↦ rfl) fun _ ↦ ?_
  refine bind_congr_of_ok fun first behindFirst hfirst ↦ ?_
  refine bind_congr_of_ok fun value behindValue hvalue ↦ ?_
  refine bind_congr_of_ok fun last behindLast hlast ↦ ?_
  -- The text is only looked at where the tokens behind the value begin.
  have hsuffix : behindValue <:+ tokens :=
    (keeps_expression fuel hvalue).trans ((keeps_peek hfirst).trans (keeps_symbol? "*" hstar))
  obtain ⟨rfl, rfl⟩ := Prod.mk.inj (Except.ok.inj hlast)
  rw [between_append (h.of_suffix hsuffix).head]

theorem commaList_append {item item' : Parser α} (hkeeps : Keeps item)
    (hitem : ∀ tokens, Within text tokens → item' tokens = item tokens) (h : Within text tokens)
    (fuel : Nat) : commaList item' fuel tokens = commaList item fuel tokens := by
  induction fuel generalizing tokens with
  | zero => rfl
  | succ fuel ih =>
    refine (bind_congr_first (hitem tokens h) _).trans ?_
    refine bind_congr_of_ok fun first behind hfirst ↦ ?_
    refine bind_congr_of_ok fun comma behindComma hcomma ↦ ?_
    refine ite_congr_run (fun _ ↦ bind_congr_first (ih (h.of_suffix ?_)) _) fun _ ↦ rfl
    exact (keeps_symbol? "," hcomma).trans (hkeeps hfirst)

theorem query_append (h : Within text tokens) (more : List Char) (fuel : Nat) :
    query (text ++ more) fuel tokens = query text fuel tokens := by
  refine bind_congr_first ?_ _
  exact commaList_append (keeps_resultColumn text fuel)
    (fun tokens htokens ↦ resultColumn_append htokens more fuel) h fuel

/-- Only of the columns of a query is it kept how they are written, and they end in the text. -/
theorem statement_append (h : Within text tokens) (more : List Char) (fuel : Nat) :
    statement (text ++ more) fuel tokens = statement text fuel tokens := by
  refine bind_congr_first ?_ _
  refine bind_congr_of_ok fun select behind hselect ↦ ite_congr_run (fun _ ↦ ?_) fun _ ↦ rfl
  have hquery := query_append (h.of_suffix (keeps_keyword? "select" hselect)) more fuel
  exact map_congr hquery Statement.select

end Parser

theorem parseStatement_append {text : List Char} {scanned : Scanned} {p : Prepared}
    (hwithin : Parser.Within text scanned.tokens) (h : parseStatement text scanned = .ok p)
    (more rest : List Char) :
    parseStatement (text ++ more) { scanned with rest := rest } =
      .ok { p with text := text ++ more } := by
  have happend := Parser.statement_append hwithin more (scanned.tokens.length + 1)
  rw [parseStatement] at h ⊢
  simp only [StateT.run] at h ⊢
  rw [happend]
  split at h
  · next hparsed =>
    obtain rfl := Except.ok.inj h
    rfl
  · cases h

/-! ## Lines -/

/-- A text that is a single statement, up to its semicolon. -/
structure Line where
  text : List Char
  statement : Statement
  names : Variables
  terminated : Terminated text
  plain : '\x00' ∉ text
  closed : (scanStatement text).Closed
  rest : (scanStatement text).rest = []
  parsed : parseStatement text (scanStatement text) = .ok ⟨statement, names, text⟩

/-- Lines one after the other. -/
def script (lines : List Line) : List Char := lines.flatMap Line.text

/-- The statement of a line that has more behind it. -/
def Line.prepared (line : Line) (more : List Char) : Except SqlError Prepared :=
  .ok ⟨line.statement, line.names, line.text ++ more⟩

/-- The statements of lines that have more behind them. -/
def prepared : List Line → List Char → List (Except SqlError Prepared)
  | [], _ => []
  | line :: rest, more => line.prepared (script rest ++ more) :: prepared rest more

theorem script_cons (line : Line) (lines : List Line) :
    script (line :: lines) = line.text ++ script lines := List.flatMap_cons

theorem script_singleton (line : Line) : script [line] = line.text := List.flatMap_singleton _ _

theorem script_append (lines others : List Line) :
    script (lines ++ others) = script lines ++ script others := List.flatMap_append

theorem prepared_append (lines others : List Line) (more : List Char) :
    prepared (lines ++ others) more = prepared lines (script others ++ more) ++
      prepared others more := by
  induction lines with
  | nil => rfl
  | cons line rest ih =>
    rw [List.cons_append, prepared, prepared, ih, script_append, List.append_assoc,
      List.cons_append]

theorem mem_prepared {lines : List Line} {more : List Char} {p : Prepared}
    (h : .ok p ∈ prepared lines more) : ∃ line ∈ lines, p.statement = line.statement := by
  induction lines with
  | nil => cases h
  | cons line rest ih =>
    rcases List.mem_cons.mp h with heq | hmem
    · exact ⟨line, List.mem_cons_self, congrArg Prepared.statement (Except.ok.inj heq)⟩
    · obtain ⟨found, hfound, hstatement⟩ := ih hmem
      exact ⟨found, List.mem_cons_of_mem _ hfound, hstatement⟩

theorem length_le_length_script (lines : List Line) : lines.length ≤ (script lines).length := by
  induction lines with
  | nil => exact Nat.le_refl 0
  | cons line rest ih =>
    have hline := List.length_pos_iff.mpr line.terminated.ne_nil
    rw [script_cons, List.length_append, List.length_cons]
    omega

/-- Nothing but the end is no statement. -/
theorem not_isBlank_of_parsed {text : List Char} {scanned : Scanned} {p : Prepared}
    (h : parseStatement text scanned = .ok p) : scanned.isBlank = false := by
  obtain ⟨_ | ⟨token, _ | ⟨next, rest⟩⟩, behind, names⟩ := scanned
  · rfl
  · obtain ⟨lexeme, start, written⟩ := token
    by_cases hfinish : lexeme = .finish
    · subst hfinish
      cases h
    · rw [Scanned.isBlank, beq_eq_false_iff_ne]
      exact hfinish
  · rfl

theorem Line.statementsFrom_append (line : Line) (fuel : Nat) (more : List Char) :
    statementsFrom (fuel + 1) (line.text ++ more) =
      line.prepared more :: statementsFrom fuel more := by
  have hscan := scanStatement_append line.terminated line.plain line.closed line.rest more
  have hparse := parseStatement_append (fun _ hmem ↦ start_le_of_mem_scanStatement hmem)
    line.parsed more more
  rw [statementsFrom, hscan]
  simp only [not_isBlank_of_parsed hparse, hparse]
  rfl

theorem statementsFrom_script (lines : List Line) (fuel : Nat) (more : List Char) :
    statementsFrom (lines.length + fuel) (script lines ++ more) =
      prepared lines more ++ statementsFrom fuel more := by
  induction lines with
  | nil =>
    rw [List.length_nil, Nat.zero_add]
    rfl
  | cons line rest ih =>
    rw [script_cons, List.append_assoc, List.length_cons,
      Nat.succ_add_eq_add_succ, Nat.add_succ, line.statementsFrom_append, ih, prepared,
      List.cons_append]

/-- **The statements of a batch of lines are those of the lines.** -/
theorem statements_of_script {sql : String} {lines : List Line} (h : sql.toList = script lines) :
    statements sql = prepared lines [] := by
  -- There is fuel for as many statements as there are characters.
  have hlength := length_le_length_script lines
  rw [← h, String.length_toList] at hlength
  obtain ⟨fuel, hfuel⟩ := Nat.exists_eq_add_of_le hlength
  have hscript := statementsFrom_script lines (fuel + 1) []
  rw [List.append_nil] at hscript
  rw [statements, h, hfuel, Nat.add_assoc, hscript]
  exact List.append_nil _

end SqlGateway.Sqlite
