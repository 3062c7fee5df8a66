import SqlGateway.Factory
import SqlGateway.Proofs.Transaction.Disposal

/-!
# Making executors and testing connections

An executor is made in steps, the server type, its connector, the connection and the opening of it,
and the first step that fails is the last one taken. What connectors and connections do is arbitrary
here, so a step that is not taken shows in the world: a creation that ends at the server type leaves
every world as it was, whatever the connectors of the registry would have done to it.

A creation takes the connection's word for it that it is open. An opening that is answered well is
not checked, and whether the connection reports to be open from then on is its own affair: that is
what the test of a connection reads, which closes the connection in any case.
-/

namespace SqlGateway

open Trace

variable {W : Type}

/-! ## Server types -/

namespace ServerType

/-- The texts that stand for a server type, in any case and with whitespace around them. -/
def Names (text : String) : ServerType → Prop
  | .sqlServer =>
    Text.sameName (Text.trim text) "SqlServer" ∨ Text.sameName (Text.trim text) "MsSql"
  | .sqlite => Text.sameName (Text.trim text) "Sqlite"

/-- A server type is read exactly from the texts that stand for it. -/
theorem parse?_eq_some_iff {text : String} {serverType : ServerType} :
    parse? text = some serverType ↔ serverType.Names text := by
  have htrim : (Text.trimBlank text.toList).map Char.toLower = Text.folded (Text.trim text) := by
    rw [Text.folded, Text.trim, String.toList_ofList]
  rw [parse?, htrim]
  constructor
  · intro h
    obtain ⟨entry, hfind, rfl⟩ := Option.map_eq_some_iff.mp h
    have hkey : entry.1.toList = Text.folded (Text.trim text) := by
      simpa only [beq_iff_eq] using List.find?_some hfind
    have hentry : entry = ("sqlserver", sqlServer) ∨ entry = ("mssql", sqlServer) ∨
        entry = ("sqlite", sqlite) := by
      simpa [names] using List.mem_of_find?_eq_some hfind
    rcases hentry with rfl | rfl | rfl
    · exact .inl (Text.sameName_iff.mpr (hkey.symm.trans (by decide)))
    · exact .inr (Text.sameName_iff.mpr (hkey.symm.trans (by decide)))
    · exact Text.sameName_iff.mpr (hkey.symm.trans (by decide))
  · intro h
    cases serverType with
    | sqlServer =>
      rcases h with h | h
      · rw [Text.sameName_iff.mp h]
        decide
      · rw [Text.sameName_iff.mp h]
        decide
    | sqlite =>
      rw [Text.sameName_iff.mp h]
      decide

theorem parse_of_names {text : String} {serverType : ServerType} (h : serverType.Names text) :
    parse text = .ok serverType := by
  rw [parse, parse?_eq_some_iff.mpr h]

theorem parse_of_not_names {text : String} (h : ∀ serverType : ServerType, ¬serverType.Names text) :
    parse text = .error (.serverTypeNotImplementedYet text) := by
  have hnone : parse? text = none := by
    refine Option.eq_none_iff_forall_not_mem.mpr fun serverType hmem ↦ ?_
    exact h serverType (parse?_eq_some_iff.mp hmem)
  rw [parse, hnone]

end ServerType

/-! ## Registries -/

namespace Registry

/-- Connectors registered one after the other. -/
def registerAll (start : Registry W) (entries : List (ServerType × Connector W)) : Registry W :=
  entries.foldl (fun registry entry ↦ registry.register entry.1 entry.2) start

/-- The connector that was registered last for a type, or else the one that was there before. -/
def lastRegistered (start : Registry W) (entries : List (ServerType × Connector W))
    (serverType : ServerType) : Option (Connector W) :=
  match entries.reverse.find? fun entry ↦ entry.1 = serverType with
  | some entry => some entry.2
  | none => start.connector? serverType

theorem connector?_registerAll (start : Registry W) (entries : List (ServerType × Connector W))
    (serverType : ServerType) :
    (start.registerAll entries).connector? serverType =
      start.lastRegistered entries serverType := by
  induction entries generalizing start with
  | nil => rfl
  | cons entry entries ih =>
    have hcons : start.registerAll (entry :: entries) =
        (start.register entry.1 entry.2).registerAll entries := rfl
    rw [hcons, ih, lastRegistered, lastRegistered, List.reverse_cons, List.find?_append]
    cases entries.reverse.find? fun entry ↦ entry.1 = serverType with
    | some last => rfl
    | none =>
      by_cases htype : entry.1 = serverType
      · have hlook : (start.register entry.1 entry.2).connector? serverType = some entry.2 :=
          if_pos htype.symm
        rw [hlook, Option.none_or, List.find?_cons_of_pos (by simpa using htype)]
      · have hlook : (start.register entry.1 entry.2).connector? serverType =
            start.connector? serverType := if_neg (Ne.symm htype)
        rw [hlook, Option.none_or, List.find?_cons_of_neg (by simpa using htype), List.find?_nil]

end Registry

/-! ## Connections -/

namespace Backend

/-- A connection is found open by one of two looks, or answers its opening well. -/
def Opens (backend : Backend W) (world : W) : Prop :=
  let first := backend.state.run world
  let second := backend.state.run first.2
  first.1 = .open ∨ second.1 = .open ∨ (backend.establish.run second.2).1 = .ok ()

/-- A connection that, once it was opened or was found open, reports to be open when it is asked
next. -/
structure Candid (backend : Backend W) : Prop where
  of_opened : ∀ world, (backend.establish.run world).1 = .ok () →
    (backend.state.run (backend.establish.run world).2).1 = .open
  of_found : ∀ world, (backend.state.run world).1 = .open →
    (backend.state.run (backend.state.run world).2).1 = .open

end Backend

namespace Executor

variable {scene left : Scene W} {events : List Event} {answer : Result Unit}

theorem Ensuring.opens_iff (h : Ensuring scene events answer left) :
    answer = .ok () ↔ scene.executor.backend.Opens scene.world := by
  rw [Backend.Opens]
  cases h with
  | found hlook => simp [hlook]
  | foundLate hfirst hsecond => simp [hfirst, hsecond]
  | opened hfirst hsecond hopen => simp [hfirst, hsecond, hopen]
  | failed hfirst hsecond hopen => simp [hfirst, hsecond, hopen]

/-- A candid connection that has been opened reports to be open. -/
theorem Ensuring.state_eq (h : Ensuring scene events (.ok ()) left)
    (hcandid : scene.executor.backend.Candid) :
    (scene.executor.backend.state.run left.world).1 = .open := by
  cases h with
  | found hlook =>
    have hnext := hcandid.of_found scene.world
    rw [hlook] at hnext
    exact hnext rfl
  | @foundLate world₁ _ hfirst hsecond =>
    have hnext := hcandid.of_found world₁
    rw [hsecond] at hnext
    exact hnext rfl
  | @opened _ world₂ _ hfirst hsecond hopen =>
    have hnext := hcandid.of_opened world₂
    rw [hopen] at hnext
    exact hnext rfl

end Executor

/-! ## Recorded connectors -/

/-- The same connector, of which every connection notes its calls. -/
def Connector.recorded (connector : Connector W) : Connector (Recorded W) where
  connect connectionString := fun recorded ↦
    let (answer, world) := (connector.connect connectionString).run recorded.world
    (answer.map Backend.recorded, ⟨world, recorded.log⟩)
  dialect := connector.dialect

theorem Connector.run_recorded {connector : Connector W} {connectionString : String}
    {world left : W} {answer : BackendResult (Backend W)}
    (h : (connector.connect connectionString).run world = (answer, left)) (log : List Event) :
    (connector.recorded.connect connectionString).run ⟨world, log⟩ =
      (answer.map Backend.recorded, ⟨left, log⟩) := by
  let made := (connector.connect connectionString).run world
  change (made.1.map Backend.recorded, (⟨made.2, log⟩ : Recorded W)) = _
  have hmade : made = (answer, left) := h
  rw [hmade]

/-- The same registry, of which every connection notes its calls. -/
def Registry.recorded (registry : Registry W) : Registry (Recorded W) :=
  ⟨fun serverType ↦ (registry.connector? serverType).map Connector.recorded⟩

theorem Registry.connector?_recorded {registry : Registry W} {serverType : ServerType}
    {connector : Connector W} (h : registry.connector? serverType = some connector) :
    registry.recorded.connector? serverType = some connector.recorded := by
  have hmap : registry.recorded.connector? serverType =
      (registry.connector? serverType).map Connector.recorded := rfl
  rw [hmap, h, Option.map_some]

namespace Factory

open Executor

/-! ## Creations -/

/-- How a creation can go: what is noted of the connection, the answer and the world that is left.
A step that fails leaves the world as it found it but for what it did itself. -/
inductive Creation (registered : ServerType → Option (Connector W)) (config : DbConfig)
    (world : W) : List Event → Result (Executor W) → W → Prop where
  /-- The text stands for no server type. -/
  | unknown (hnames : ∀ serverType : ServerType, ¬serverType.Names config.serverType) :
      Creation registered config world []
        (.error (.serverTypeNotImplementedYet config.serverType)) world
  | unregistered {serverType : ServerType} (hnames : serverType.Names config.serverType)
      (hnone : registered serverType = none) :
      Creation registered config world []
        (.error (.serverTypeNotImplementedYet serverType.name)) world
  /-- The connector refuses the connection string. -/
  | rejected {serverType : ServerType} {connector : Connector W} {e : BackendError} {left : W}
      (hnames : serverType.Names config.serverType) (hsome : registered serverType = some connector)
      (hconnect : (connector.connect config.connectionString).run world = (.error e, left)) :
      Creation registered config world [] (.error (.connection e)) left
  /-- The connection is closed, at a second look too, and cannot be opened. -/
  | unopened {serverType : ServerType} {connector : Connector W} {backend : Backend W}
      {e : BackendError} {connected world₁ world₂ left : W}
      (hnames : serverType.Names config.serverType) (hsome : registered serverType = some connector)
      (hconnect : (connector.connect config.connectionString).run world = (.ok backend, connected))
      (hfirst : backend.state.run connected = (.closed, world₁))
      (hsecond : backend.state.run world₁ = (.closed, world₂))
      (hopen : backend.establish.run world₂ = (.error e, left)) :
      Creation registered config world [.looked .closed, .looked .closed, .opened (.error e)]
        (.error (.connection e)) left
  | made {serverType : ServerType} {connector : Connector W} {backend : Backend W}
      {connected : W} {events : List Event} {left : Scene W}
      (hnames : serverType.Names config.serverType) (hsome : registered serverType = some connector)
      (hconnect : (connector.connect config.connectionString).run world = (.ok backend, connected))
      (hopen : Ensuring ⟨fresh serverType connector.dialect backend, connected⟩ events (.ok ())
        left) :
      Creation registered config world events
        (.ok (fresh serverType connector.dialect backend)) left.world

/-- A creation over a world and the same creation over the world with a log agree, and add these
events to the log. -/
structure Creates (registry : Registry W) (config : DbConfig) (world : W) (events : List Event)
    (answer : Result (Executor W)) (left : W) : Prop where
  run_bare : (create registry config).run world = (answer, left)
  run_noted (log : List Event) : (create registry.recorded config).run ⟨world, log⟩ =
    (answer.map Executor.recorded, ⟨left, log ++ events⟩)

section

variable {registry : Registry W} {config : DbConfig} {world : W} {serverType : ServerType}

theorem creates_unknown (hnames : ∀ serverType : ServerType, ¬serverType.Names config.serverType) :
    Creates registry config world [] (.error (.serverTypeNotImplementedYet config.serverType))
      world where
  run_bare := by
    rw [create, ServerType.parse_of_not_names hnames]
    rfl
  run_noted log := by
    rw [create, ServerType.parse_of_not_names hnames, List.append_nil]
    rfl

theorem creates_unregistered (hnames : serverType.Names config.serverType)
    (hnone : registry.connector? serverType = none) :
    Creates registry config world [] (.error (.serverTypeNotImplementedYet serverType.name))
      world where
  run_bare := by
    simp only [create, ServerType.parse_of_names hnames, Registry.get, hnone]
    rfl
  run_noted log := by
    simp only [create, ServerType.parse_of_names hnames, Registry.get, Registry.recorded, hnone,
      List.append_nil]
    rfl

theorem run_create_of_rejected (hnames : serverType.Names config.serverType)
    {connector : Connector W} (hsome : registry.connector? serverType = some connector)
    {e : BackendError} {left : W}
    (hconnect : (connector.connect config.connectionString).run world = (.error e, left)) :
    (create registry config).run world = (.error (.connection e), left) := by
  simp only [create, ServerType.parse_of_names hnames, Registry.get, hsome]
  rw [StateT.run_bind, hconnect]
  rfl

/-- What is left to do of a creation with a connection is to open it. -/
theorem run_create_of_connected (hnames : serverType.Names config.serverType)
    {connector : Connector W} (hsome : registry.connector? serverType = some connector)
    {backend : Backend W} {connected : W}
    (hconnect : (connector.connect config.connectionString).run world = (.ok backend, connected)) :
    (create registry config).run world =
      (Executor.create serverType connector.dialect backend).run connected := by
  simp only [create, ServerType.parse_of_names hnames, Registry.get, hsome]
  rw [StateT.run_bind, hconnect]
  rfl

theorem creates_rejected (hnames : serverType.Names config.serverType) {connector : Connector W}
    (hsome : registry.connector? serverType = some connector) {e : BackendError} {left : W}
    (hconnect : (connector.connect config.connectionString).run world = (.error e, left)) :
    Creates registry config world [] (.error (.connection e)) left where
  run_bare := run_create_of_rejected hnames hsome hconnect
  run_noted log := by
    rw [run_create_of_rejected hnames (Registry.connector?_recorded hsome)
      (Connector.run_recorded hconnect log), List.append_nil]
    rfl

/-- What is made of a connection, whether or not it can be opened. -/
theorem creates_connected (hnames : serverType.Names config.serverType) {connector : Connector W}
    (hsome : registry.connector? serverType = some connector) {backend : Backend W} {connected : W}
    (hconnect : (connector.connect config.connectionString).run world = (.ok backend, connected)) :
    ∃ events answer left,
      Ensuring ⟨fresh serverType connector.dialect backend, connected⟩ events answer left ∧
        Creates registry config world events
          (answer.map fun () ↦ fresh serverType connector.dialect backend) left.world := by
  obtain ⟨events, answer, left, hopen, hbare, hnoted⟩ :=
    create_ensuring serverType connector.dialect backend connected
  rw [hopen.executor_eq] at hbare hnoted
  refine ⟨events, answer, left, hopen, ?_, fun log ↦ ?_⟩
  · rw [run_create_of_connected hnames hsome hconnect, hbare]
  · rw [run_create_of_connected hnames (Registry.connector?_recorded hsome)
      (Connector.run_recorded hconnect log)]
    refine (hnoted log).trans ?_
    cases answer with
    | error => rfl
    | ok => rfl

/-- A creation always goes one of its ways. -/
theorem create_goes (registry : Registry W) (config : DbConfig) (world : W) :
    ∃ events answer left, Creation registry.connector? config world events answer left ∧
      Creates registry config world events answer left := by
  by_cases hknown : ∃ serverType : ServerType, serverType.Names config.serverType
  swap
  · have hnames := not_exists.mp hknown
    exact ⟨_, _, _, .unknown hnames, creates_unknown hnames⟩
  obtain ⟨serverType, hnames⟩ := hknown
  cases hconnector : registry.connector? serverType with
  | none => exact ⟨_, _, _, .unregistered hnames hconnector, creates_unregistered hnames hconnector⟩
  | some connector =>
    rcases hconnect : (connector.connect config.connectionString).run world with
      ⟨e | backend, connected⟩
    · exact ⟨_, _, _, .rejected hnames hconnector hconnect,
        creates_rejected hnames hconnector hconnect⟩
    · obtain ⟨events, answer, left, hopen, hcreates⟩ :=
        creates_connected hnames hconnector hconnect
      refine ⟨events, _, left.world, ?_, hcreates⟩
      cases answer with
      | ok => exact .made hnames hconnector hconnect hopen
      | error e =>
        cases hopen with
        | failed hfirst hsecond hopen =>
          exact .unopened hnames hconnector hconnect hfirst hsecond hopen

end

/-! ## Executors that were made -/

/-- What is had of an executor that was made. -/
structure Made (registered : ServerType → Option (Connector W)) (config : DbConfig) (world : W)
    (executor : Executor W) (left : W) : Prop where
  names : executor.serverType.Names config.serverType
  connector : ∃ connector connected, registered executor.serverType = some connector ∧
    executor.dialect = connector.dialect ∧
    (connector.connect config.connectionString).run world = (.ok executor.backend, connected) ∧
    executor.backend.Opens connected
  transaction_eq : executor.transaction = none
  inUse : executor.InUse
  state_eq : executor.backend.Candid → (connectionState.run ⟨executor, left⟩).1 = .open

/-- Whether every step of a creation succeeds. -/
def Succeeds (registered : ServerType → Option (Connector W)) (config : DbConfig) (world : W) :
    Prop :=
  ∃ (serverType : ServerType) (connector : Connector W) (backend : Backend W) (connected : W),
    serverType.Names config.serverType ∧ registered serverType = some connector ∧
    (connector.connect config.connectionString).run world = (.ok backend, connected) ∧
    backend.Opens connected

section

variable {registered : ServerType → Option (Connector W)} {config : DbConfig} {world left : W}
  {events : List Event}

theorem Creation.made_executor {executor : Executor W}
    (h : Creation registered config world events (.ok executor) left) :
    Made registered config world executor left ∧ ∀ event ∈ events, event.isClosing = false := by
  cases h with
  | made hnames hsome hconnect hopen =>
    have hopens := hopen.opens_iff.mp rfl
    refine ⟨⟨hnames, ⟨_, _, hsome, rfl, hconnect, hopens⟩, rfl, ⟨rfl, rfl⟩, ?_⟩, ?_⟩
    · exact hopen.state_eq
    · exact hopen.ensuredOpen.not_isClosing

/-- A creation that fails has opened nothing, and has closed nothing. -/
theorem Creation.not_opened {e : Error}
    (h : Creation registered config world events (.error e) left) :
    ∀ event ∈ events, event ≠ .opened (.ok ()) ∧ event.isClosing = false := by
  cases h with
  | unknown | unregistered | rejected => simp
  | unopened => simp [Event.isClosing]

theorem Creates.isOk_iff {registry : Registry W} {answer : Result (Executor W)}
    (h : Creates registry config world events answer left)
    (hcreation : Creation registry.connector? config world events answer left) :
    (∃ executor, answer = .ok executor) ↔ Succeeds registry.connector? config world := by
  constructor
  · rintro ⟨executor, rfl⟩
    have hmade := hcreation.made_executor.1
    obtain ⟨connector, connected, hsome, -, hconnect, hopens⟩ := hmade.connector
    exact ⟨_, connector, _, connected, hmade.names, hsome, hconnect, hopens⟩
  · rintro ⟨serverType, connector, backend, connected, hnames, hsome, hconnect, hopens⟩
    obtain ⟨events', answer', left', hopen, hcreates⟩ := creates_connected hnames hsome hconnect
    have hanswer : answer' = .ok () := hopen.opens_iff.mpr hopens
    -- One creation does not go two ways.
    have hsame := h.run_bare.symm.trans hcreates.run_bare
    rw [hanswer] at hsame
    exact ⟨_, (Prod.mk.inj hsame).1⟩

end

/-! ## Tests of a connection -/

/-- A test over a world and the same test over the world with a log agree, and add these events to
the log. -/
structure Tests (registry : Registry W) (config : DbConfig) (world : W) (events : List Event)
    (answer : Bool) (left : W) : Prop where
  run_bare : (testConnection registry config).run world = (answer, left)
  run_noted (log : List Event) : (testConnection registry.recorded config).run ⟨world, log⟩ =
    (answer, ⟨left, log ++ events⟩)

theorem run_testConnection (registry : Registry W) (config : DbConfig) (world : W) :
    (testConnection registry config).run world =
      match (create registry config).run world with
      | (.error _, left) => (false, left)
      | (.ok executor, left) =>
        let looked := connectionState.run ⟨executor, left⟩
        (looked.1 == .open, (dispose.run looked.2).2.world) := rfl

section

variable {registry : Registry W} {config : DbConfig} {world left : W} {events : List Event}

theorem tests_unmade {e : Error} (h : Creates registry config world events (.error e) left) :
    Tests registry config world events false left where
  run_bare := by rw [run_testConnection, h.run_bare]
  run_noted log := by
    rw [run_testConnection, h.run_noted]
    rfl

theorem tests_read {executor : Executor W} (huse : executor.InUse)
    (hidle : executor.isActive = false)
    (h : Creates registry config world events (.ok executor) left) {state : ConnectionState}
    (hlook : (executor.backend.state.run left).1 = state) :
    ∃ closing last, Tests registry config world (events ++ [.looked state, .closed closing])
      (state == .open) last := by
  let looked : Scene W := ⟨executor, (executor.backend.state.run left).2⟩
  have hstate : Notes connectionState connectionState ⟨executor, left⟩ state [.looked state]
      looked := connectionState_notes (Prod.ext hlook rfl)
  obtain ⟨ending, disposed, last, hending, -, hdispose⟩ := dispose_notes looked huse
  have hending : Ending executor.isActive ending := hending
  rw [hidle] at hending
  cases hending with
  | idle closing =>
    refine ⟨closing, last, ?_, fun log ↦ ?_⟩
    · rw [run_testConnection, h.run_bare]
      simp only [hstate.run_bare, hdispose.run_bare]
    · have hread : connectionState.run ⟨executor.recorded, ⟨left, log ++ events⟩⟩ =
          (state, looked.recorded (log ++ events ++ [.looked state])) := hstate.run_noted _
      rw [run_testConnection, h.run_noted]
      simp only [Except.map, hread, hdispose.run_noted, List.append_assoc]
      rfl

end

/-- What the test of a connection makes of a creation that noted these events. -/
structure Judges (events : List Event) (answer : Result (Executor W)) (left : W)
    (probing : List Event) (verdict : Bool) : Prop where
  verdict_iff : verdict = true ↔
    ∃ executor, answer = .ok executor ∧ (connectionState.run ⟨executor, left⟩).1 = .open
  /-- The connection is closed once, after everything else. -/
  of_made : ∀ executor, answer = .ok executor →
    (∃ state closing, probing = events ++ [.looked state, .closed closing]) ∧
      probing.countP Event.isClosing = 1
  of_unmade : ∀ e, answer = .error e → probing = events ∧
    ∀ event ∈ probing, event ≠ .opened (.ok ()) ∧ event.isClosing = false

theorem judges_unmade {e : Error} {left : W} {events : List Event}
    (hevents : ∀ event ∈ events, event ≠ .opened (.ok ()) ∧ event.isClosing = false) :
    Judges (W := W) events (.error e) left events false where
  verdict_iff := by simp
  of_made := by simp
  of_unmade _ _ := ⟨rfl, hevents⟩

theorem judges_made {executor : Executor W} {left : W} {events : List Event}
    (hevents : ∀ event ∈ events, event.isClosing = false) (closing : BackendResult Unit) :
    let state := (executor.backend.state.run left).1
    Judges events (.ok executor) left (events ++ [.looked state, .closed closing])
      (state == .open) := by
  intro state
  refine ⟨?_, fun _ _ ↦ ⟨⟨state, closing, rfl⟩, ?_⟩, by simp⟩
  · rw [beq_iff_eq]
    constructor
    · intro hstate
      exact ⟨executor, rfl, hstate⟩
    · rintro ⟨other, hother, hstate⟩
      obtain rfl := Except.ok.inj hother
      exact hstate
  · have hnone : events.countP Event.isClosing = 0 := by
      refine List.countP_eq_zero.mpr fun event hmem ↦ ?_
      rw [hevents event hmem]
      exact Bool.false_ne_true
    rw [List.countP_append, hnone]
    rfl

/-- **A creation succeeds exactly if each of its steps does, and a test leaves nothing open.** The
registry is one that any connectors were registered in, whatever it knew at the start: nothing, or
SQLite, or more. -/
theorem create_and_test (start : Registry W) (entries : List (ServerType × Connector W))
    (config : DbConfig) (world : W) :
    let registry := start.registerAll entries
    let registered := start.lastRegistered entries
    ∃ events answer left, Creation registered config world events answer left ∧
      Creates registry config world events answer left ∧
      ((∃ executor, answer = .ok executor) ↔ Succeeds registered config world) ∧
      (∀ executor, answer = .ok executor → Made registered config world executor left) ∧
      ∃ probing verdict last, Tests registry config world probing verdict last ∧
        Judges events answer left probing verdict := by
  intro registry registered
  have hlookup : registry.connector? = registered :=
    funext (Registry.connector?_registerAll start entries)
  obtain ⟨events, answer, left, hcreation, hcreates⟩ := create_goes registry config world
  have hok := hcreates.isOk_iff hcreation
  rw [hlookup] at hcreation hok
  refine ⟨events, answer, left, hcreation, hcreates, hok, ?_, ?_⟩
  · rintro executor rfl
    exact hcreation.made_executor.1
  cases answer with
  | error e =>
    exact ⟨events, false, left, tests_unmade hcreates, judges_unmade hcreation.not_opened⟩
  | ok executor =>
    obtain ⟨hmade, hevents⟩ := hcreation.made_executor
    have hidle : executor.isActive = false := by rw [isActive, hmade.transaction_eq]; rfl
    obtain ⟨closing, last, htests⟩ := tests_read hmade.inUse hidle hcreates rfl
    exact ⟨_, _, last, htests, judges_made hevents closing⟩

/-- A connector of connections that waver. -/
def wavering : Connector Wavering := ⟨fun _ ↦ pure (.ok Wavering.backend), .sqlServer⟩

/-- A connector that refuses every connection string. -/
def refusing : Connector Wavering := ⟨fun _ ↦ pure (.error (.opening "refused")), .sqlite⟩

/-- The connector that was registered last is the one that is asked. Its connection is found open
and is lost before the test reads its state, so the test says no; it is closed all the same. -/
theorem create_and_test_lost :
    let config : DbConfig := ⟨"\tMSSQL ", "c"⟩
    ∃ executor left probing last,
      Made (Registry.empty.lastRegistered [(.sqlServer, refusing), (.sqlServer, wavering)]) config
        ⟨[.closed, .open]⟩ executor left ∧
      Tests (Registry.empty.registerAll [(.sqlServer, refusing), (.sqlServer, wavering)]) config
        ⟨[.closed, .open]⟩ probing false last ∧
      probing.countP Event.isClosing = 1 := by
  intro config
  obtain ⟨events, answer, left, -, hcreates, -, hmade, probing, verdict, last, htests, hjudges⟩ :=
    create_and_test .empty [(.sqlServer, refusing), (.sqlServer, wavering)] config
      ⟨[.closed, .open]⟩
  have hnames : ServerType.sqlServer.Names config.serverType := .inr (by decide)
  have hrun := hcreates.run_bare
  rw [run_create_of_connected hnames rfl rfl] at hrun
  obtain ⟨rfl, rfl⟩ := Prod.mk.inj hrun
  have hverdict : verdict = false := by
    refine Bool.eq_false_iff.mpr fun hverdict ↦ ?_
    obtain ⟨executor, hexecutor, hstate⟩ := hjudges.verdict_iff.mp hverdict
    obtain rfl := Except.ok.inj hexecutor
    cases hstate
  rw [hverdict] at htests
  exact ⟨_, _, probing, last, hmade _ rfl, htests, (hjudges.of_made _ rfl).2⟩

/-- An executor is made of a connection that answers its opening well and is never found open. -/
theorem create_closed : ∃ executor,
    (create (Registry.empty.register .sqlServer wavering) ⟨"SqlServer", "c"⟩).run ⟨[]⟩ =
        (.ok executor, ⟨[]⟩) ∧
      (connectionState.run ⟨executor, ⟨[]⟩⟩).1 = .closed :=
  ⟨fresh .sqlServer .sqlServer Wavering.backend, rfl, rfl⟩

end Factory

end SqlGateway
