import SqlGateway.Encoding
import SqlGateway.Proofs.Encoding.Kept
import SqlGateway.Proofs.Encoding.Uuid

/-!
# Nothing is lost in a document

Everything that is kept or sent can be read back from its text: values and tables of them, commands
with their parameters, operations and outputs, errors and settings. So two things that differ are
never written alike.

The one exception is a double. A number that is none is written as `null`, and a text of many digits
may read as a neighbour, so the law is about values in which there is no double.

The types nest in a fixed way, and each is kept because its parts are. Settings need one fact more:
their databases are written in the order of their names, in which each one that is read comes last.
-/

namespace SqlGateway

/-! ## Values without doubles -/

/-- The value is no double. -/
def Value.Floatless : Value → Prop
  | .float _ => False
  | _ => True

instance (v : Value) : Decidable v.Floatless :=
  match v with
  | .float _ => .isFalse id
  | .null | .bool _ | .int _ | .string _ | .bytes _ => .isTrue trivial

/-- The parameter holds no double. -/
def Parameter.Floatless (p : Parameter) : Prop := p.value.Floatless

/-- No cell holds a double. -/
def DataTable.Floatless (t : DataTable) : Prop := ∀ row ∈ t.rows, ∀ v ∈ row, v.Floatless

def DataSet.Floatless (set : DataSet) : Prop := ∀ t ∈ set.tables, t.Floatless

/-- No parameter of the command holds a double. -/
def Command.Floatless (command : Command) : Prop := ∀ p ∈ command.parameters, p.Floatless

def Output.Floatless : Output → Prop
  | .scalar value => value.Floatless
  | .rowsAffected _ => True
  | .table t => t.Floatless
  | .tableSet set => set.Floatless

/-! ## Enumerations and identifiers -/

theorem kept_dbType (ty : DbType) : Kept ty := kept_tag (by cases ty <;> rfl)

theorem kept_queryShape (shape : QueryShape) : Kept shape := kept_tag (by cases shape <;> rfl)

theorem kept_backendErrorKind (kind : BackendErrorKind) : Kept kind :=
  kept_tag (by cases kind <;> rfl)

theorem kept_uuid (u : Uuid) : Kept u := ⟨.string _, u.parse?_display⟩

/-! ## Values and parameters -/

theorem kept_value {v : Value} (h : v.Floatless) : Kept v := by
  cases v with
  | null => exact ⟨.string _, rfl⟩
  | bool b => exact (kept_bool b).variant rfl rfl
  | int i => exact (kept_int64 i).variant rfl rfl
  | float x => exact h.elim
  | string s => exact (kept_string s).variant rfl rfl
  | bytes bs => exact (Kept.list fun b _ ↦ kept_uint8 b).variant rfl rfl

theorem kept_size (size : Option UInt32) : Kept size := by
  cases size with
  | none => exact kept_none
  | some n => exact (kept_uint32 n).some Json.noConfusion

theorem kept_parameter {p : Parameter} (h : p.Floatless) : Kept p := by
  have hname := kept_string p.name
  have htype := kept_dbType p.dbType
  have hsize := kept_size p.size
  have hvalue := kept_value h
  refine ⟨hname.legible.field <| htype.legible.field <| hsize.legible.field <|
    hvalue.legible.field .empty, ?_⟩
  show (do pure ⟨← Json.required (some (encode p.name)),
    ← Json.required (some (encode p.dbType)), ← decode? (encode p.size),
    ← Json.required (some (encode p.value))⟩ : Option Parameter) = _
  rw [hname.required, htype.required, hsize.decoded, hvalue.required]
  rfl

/-! ## Tables -/

theorem kept_dataTable {t : DataTable} (h : t.Floatless) : Kept t := by
  have hname := kept_string t.name
  have hcolumns : Kept t.columns := .list fun column _ ↦ kept_string column
  have hrows : Kept t.rows :=
    .list fun row hrow ↦ .list fun v hv ↦ kept_value (h row hrow v hv)
  refine ⟨hname.legible.field <| hcolumns.legible.field <| hrows.legible.field .empty, ?_⟩
  show (do pure ⟨← Json.required (some (encode t.name)),
    ← Json.required (some (encode t.columns)),
    ← Json.required (some (encode t.rows))⟩ : Option DataTable) = _
  rw [hname.required, hcolumns.required, hrows.required]
  rfl

theorem kept_dataSet {set : DataSet} (h : set.Floatless) : Kept set := by
  have htables : Kept set.tables := .list fun t ht ↦ kept_dataTable (h t ht)
  refine ⟨htables.legible.field .empty, ?_⟩
  show (do pure ⟨← Json.required (some (encode set.tables))⟩ : Option DataSet) = _
  rw [htables.required]
  rfl

/-! ## Commands, operations and outputs -/

theorem kept_transaction (transaction : Option Uuid) : Kept transaction := by
  cases transaction with
  | none => exact kept_none
  | some u => exact (kept_uuid u).some Json.noConfusion

theorem kept_command {command : Command} (h : command.Floatless) : Kept command := by
  have hsql := kept_string command.sql
  have hconnection := kept_string command.connection
  have hparameters : Kept command.parameters := .list fun p hp ↦ kept_parameter (h p hp)
  have htransaction := kept_transaction command.transaction
  refine ⟨hsql.legible.field <| hconnection.legible.field <| hparameters.legible.field <|
    htransaction.legible.field .empty, ?_⟩
  show (do pure ⟨← Json.required (some (encode command.sql)),
    ← Json.required (some (encode command.connection)),
    ← Json.required (some (encode command.parameters)),
    ← decode? (encode command.transaction)⟩ : Option Command) = _
  rw [hsql.required, hconnection.required, hparameters.required, htransaction.decoded]
  rfl

theorem kept_operation (operation : Operation) : Kept operation := by
  cases operation with
  | scalar => exact ⟨.string _, rfl⟩
  | nonQuery => exact ⟨.string _, rfl⟩
  | table => exact ⟨.string _, rfl⟩
  | tableSet names =>
    have hnames : Kept names := .list fun name _ ↦ kept_string name
    refine ⟨legible_variant (legible_variant hnames.legible), ?_⟩
    show (do pure (.tableSet (← Json.required (some (encode names)))) : Option Operation) = _
    rw [hnames.required]
    rfl

theorem kept_output {output : Output} (h : output.Floatless) : Kept output := by
  cases output with
  | scalar value => exact (kept_value h).variant rfl rfl
  | rowsAffected rows => exact (kept_uint64 rows).variant rfl rfl
  | table t => exact (kept_dataTable h).variant rfl rfl
  | tableSet set => exact (kept_dataSet h).variant rfl rfl

/-! ## Errors -/

theorem kept_backendError (e : BackendError) : Kept e := by
  have hkind := kept_backendErrorKind e.kind
  have hmessage := kept_string e.message
  refine ⟨hkind.legible.field (hmessage.legible.field .empty), ?_⟩
  · show (do pure ⟨← Json.required (some (encode e.kind)),
      ← Json.required (some (encode e.message))⟩ : Option BackendError) = _
    rw [hkind.required, hmessage.required]
    rfl

theorem legible_encodeRefusal (dialect : String) (shape : QueryShape) :
    (encodeRefusal dialect shape).Legible :=
  (kept_string dialect).legible.field <| (kept_queryShape shape).legible.field .empty

theorem decodeRefusal?_encodeRefusal (dialect : String) (shape : QueryShape) :
    decodeRefusal? (encodeRefusal dialect shape) = some (dialect, shape) := by
  show (do pure (← Json.required (some (encode dialect)),
    ← Json.required (some (encode shape))) : Option (String × QueryShape)) = _
  rw [(kept_string dialect).required, (kept_queryShape shape).required]
  rfl

theorem kept_dialectError (e : DialectError) : Kept e := by
  cases e with
  | notImplementedYet dialect shape =>
    exact ⟨legible_variant (legible_encodeRefusal dialect shape),
      congrArg (Option.map fun refusal : String × QueryShape ↦
        DialectError.notImplementedYet refusal.1 refusal.2)
        (decodeRefusal?_encodeRefusal dialect shape)⟩

theorem kept_error (e : Error) : Kept e := by
  cases e with
  | serverTypeNotImplementedYet serverType =>
    exact ⟨legible_variant (legible_variant (.string serverType)), rfl⟩
  | notImplementedYet dialect shape =>
    exact ⟨legible_variant (legible_encodeRefusal dialect shape),
      congrArg (Option.map fun refusal : String × QueryShape ↦
        Error.notImplementedYet refusal.1 refusal.2)
        (decodeRefusal?_encodeRefusal dialect shape)⟩
  | config reason => exact ⟨legible_variant (legible_variant (.string reason)), rfl⟩
  | connection cause => exact (kept_backendError cause).variant rfl rfl
  | transactionAlreadyStarted => exact ⟨.string _, rfl⟩
  | transaction cause => exact (kept_backendError cause).variant rfl rfl
  | execution code message sql parameters =>
    exact ⟨legible_variant <| .field (.string code) <| .field (.string message) <|
      .field (.string sql) <| .field (.string parameters) .empty, rfl⟩
  | unexpectedOutput expected actual =>
    exact ⟨legible_variant <| .field (.string expected) <| .field (.string actual) .empty, rfl⟩
  | internal reason => exact ⟨legible_variant (legible_variant (.string reason)), rfl⟩

/-! ## Settings -/

theorem kept_dbConfig (config : DbConfig) : Kept config :=
  ⟨.field (.string config.serverType) <| .field (.string config.connectionString) .empty, rfl⟩

/-- Databases are read in the order in which they are written. -/
theorem mapM_decode?_databases (databases : List (String × DbConfig)) :
    (databases.map fun entry ↦ (entry.1, encode entry.2)).mapM (fun entry ↦
      (decode? entry.2).map fun config : DbConfig ↦ (entry.1, config)) = some databases := by
  have hread (entry : String × DbConfig) :
      (decode? (encode entry.2)).map (fun config : DbConfig ↦ (entry.1, config)) = pure entry := by
    rw [(kept_dbConfig entry.2).decoded]
    rfl
  rw [List.mapM_map]
  simp only [Function.comp_def, hread]
  rw [List.mapM_pure, List.map_id']
  rfl

theorem kept_settings (settings : Settings) : Kept settings := by
  refine ⟨legible_variant (.object fun entry hentry ↦ ?_), ?_⟩
  · obtain ⟨database, -, rfl⟩ := List.mem_map.mp hentry
    exact (kept_dbConfig database.2).legible
  · show ((settings.databases.map fun entry ↦ (entry.1, encode entry.2)).mapM fun entry ↦
      (decode? entry.2).map fun config : DbConfig ↦ (entry.1, config)).bind
        (fun databases ↦ some (Settings.ofList databases)) = _
    rw [mapM_decode?_databases, Option.bind_some, Settings.ofList_databases]

/-! ## All of them -/

/-- Nothing is lost of the values of a class: each of them is read back from its text, and no two of
them have the same text. -/
structure Lossless (α : Type) [JsonCodec α] (p : α → Prop) : Prop where
  read_back : ∀ a, p a → ofJsonText? α (toJsonText a) = some a
  distinct : ∀ a b, p a → p b → toJsonText a = toJsonText b → a = b

theorem Lossless.of_kept {α : Type} [JsonCodec α] {p : α → Prop} (h : ∀ a, p a → Kept a) :
    Lossless α p where
  read_back a ha := (h a ha).ofJsonText?
  distinct a b ha hb htext := by
    have hread := (h a ha).ofJsonText?
    rw [htext, (h b hb).ofJsonText?] at hread
    exact (Option.some.inj hread).symm

/-- **Nothing is lost in a document**, of whatever type, as long as there is no double in it. -/
theorem documents_lossless :
    (Lossless Value Value.Floatless ∧ Lossless Parameter Parameter.Floatless ∧
      Lossless DataTable DataTable.Floatless ∧ Lossless DataSet DataSet.Floatless ∧
      Lossless Command Command.Floatless ∧ Lossless Output Output.Floatless) ∧
    (Lossless BackendError (fun _ ↦ True) ∧ Lossless DialectError (fun _ ↦ True) ∧
      Lossless Error (fun _ ↦ True) ∧ Lossless Operation (fun _ ↦ True) ∧
      Lossless DbConfig (fun _ ↦ True) ∧ Lossless Settings (fun _ ↦ True)) ∧
    Lossless DbType (fun _ ↦ True) ∧ Lossless QueryShape (fun _ ↦ True) ∧
      Lossless BackendErrorKind (fun _ ↦ True) :=
  ⟨⟨.of_kept fun _ ↦ kept_value, .of_kept fun _ ↦ kept_parameter,
      .of_kept fun _ ↦ kept_dataTable, .of_kept fun _ ↦ kept_dataSet,
      .of_kept fun _ ↦ kept_command, .of_kept fun _ ↦ kept_output⟩,
    ⟨.of_kept fun e _ ↦ kept_backendError e, .of_kept fun e _ ↦ kept_dialectError e,
      .of_kept fun e _ ↦ kept_error e, .of_kept fun operation _ ↦ kept_operation operation,
      .of_kept fun config _ ↦ kept_dbConfig config,
      .of_kept fun settings _ ↦ kept_settings settings⟩,
    .of_kept fun ty _ ↦ kept_dbType ty, .of_kept fun shape _ ↦ kept_queryShape shape,
    .of_kept fun kind _ ↦ kept_backendErrorKind kind⟩

/-- A command in a transaction, with the least of all whole numbers, bytes, and a name that needs
escapes. -/
theorem documents_lossless_command :
    let command : Command :=
      ⟨"SELECT '\'", "main",
        [⟨"a\"\n", .bigInt, none, .int (-9223372036854775808)⟩,
          ⟨"b", .varBinary, some 2, .bytes [0, 255]⟩],
        some (.ofNat 0x0123456789abcdef0123456789abcdef)⟩
    command.Floatless ∧ ofJsonText? Command (toJsonText command) = some command := by
  intro command
  have hfloatless : command.Floatless := by
    simp only [Command.Floatless, command, List.forall_mem_cons]
    exact ⟨trivial, trivial, nofun⟩
  obtain ⟨⟨-, -, -, -, hcommand, -⟩, -⟩ := documents_lossless
  exact ⟨hfloatless, hcommand.read_back command hfloatless⟩

end SqlGateway
