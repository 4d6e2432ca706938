import NodeRedBull.Connections
import NodeRedBull.Library.Registers
import NodeRedBull.Js.Decimal

/-! The edit dialog of a queue configuration (`bull-queue.html`): which rows it shows, and the one
port field that serves both backends. -/

namespace NodeRedBull.EditorDialog
open Js Library Connections

/-! ## The dialog -/

/-- The inputs that the script of the dialog reads or writes. A select has no value when it was
given one that is none of its options. -/
structure Inputs where
  backend : Option Backend
  deployment : Option Deployment
  port : String
  tls : Bool
  telemetry : Bool
  migrate : Bool

/-- The classes of the rows that are hidden at times. -/
inductive RowClass where
  | redis
  | postgres
  | single
  | cluster
  | sentinel
  | db
  | tls
  | telemetry
  deriving DecidableEq

structure Dialog where
  inputs : Inputs
  rows : RowClass → Bool
  activeBackend : Backend
  portValues : Backend → String

def isPostgresBackend (inputs : Inputs) : Bool := decide (inputs.backend = some .postgres)

/-- The class toggles of `updateBullQueueServerRows` -/
def toggledRows (inputs : Inputs) : RowClass → Bool :=
  let postgres := isPostgresBackend inputs
  let deployment := inputs.deployment.getD .single
  fun
  | .redis => !postgres
  | .postgres => postgres
  | .single => postgres || decide (deployment = .single)
  | .cluster => !postgres && decide (deployment = .cluster)
  | .sentinel => !postgres && decide (deployment = .sentinel)
  | .db => !postgres && decide (deployment ≠ .cluster)
  | .tls => inputs.tls
  | .telemetry => inputs.telemetry

def updateBullQueueServerRows (dialog : Dialog) : Dialog :=
  { dialog with rows := toggledRows dialog.inputs }

/-- `isPostgresBackend() ? "postgres" : "redis"` -/
def shownBackend (inputs : Inputs) : Backend :=
  if isPostgresBackend inputs then .postgres else .redis

def defaultPortText : Backend → String
  | .redis => "6379"
  | .postgres => "5432"

/-- The dialog is opened for a saved node, with the inputs as Node-RED has filled them in. -/
def oneditprepare (savedBackend savedMigrate : JsValue) (inputs : Inputs) : Dialog :=
  let seeded := if savedBackend.truthy then inputs else { inputs with backend := some .redis }
  let prepared := if savedMigrate.isUndefined then { seeded with migrate := true } else seeded
  let activeBackend := shownBackend prepared
  { inputs := prepared
    rows := toggledRows prepared
    activeBackend
    portValues := fun backend =>
      if activeBackend = backend then prepared.port else defaultPortText backend }

/-- The `change` handler of the backend select -/
def onBackendChange (dialog : Dialog) : Dialog :=
  let nextBackend := shownBackend dialog.inputs
  if nextBackend ≠ dialog.activeBackend then
    let portValues :=
      Function.update dialog.portValues dialog.activeBackend dialog.inputs.port
    updateBullQueueServerRows { dialog with
      inputs := { dialog.inputs with port := portValues nextBackend }
      activeBackend := nextBackend
      portValues }
  else updateBullQueueServerRows dialog

/-- What the user does. The browser fires `change` when an option is selected or a box is checked;
Node-RED fires it at other times too, when nothing has changed. -/
inductive DialogEvent where
  | selectBackend (backend : Backend)
  | selectDeployment (deployment : Deployment)
  | checkTls (checked : Bool)
  | checkTelemetry (checked : Bool)
  | checkMigrate (checked : Bool)
  | typePort (text : String)
  | backendChange
  | rowChange

def Dialog.step (dialog : Dialog) : DialogEvent → Dialog
  | .selectBackend backend =>
    onBackendChange { dialog with inputs := { dialog.inputs with backend := some backend } }
  | .selectDeployment deployment => updateBullQueueServerRows
      { dialog with inputs := { dialog.inputs with deployment := some deployment } }
  | .checkTls checked =>
    updateBullQueueServerRows { dialog with inputs := { dialog.inputs with tls := checked } }
  | .checkTelemetry checked =>
    updateBullQueueServerRows { dialog with inputs := { dialog.inputs with telemetry := checked } }
  | .checkMigrate checked => { dialog with inputs := { dialog.inputs with migrate := checked } }
  | .typePort text => { dialog with inputs := { dialog.inputs with port := text } }
  | .backendChange => onBackendChange dialog
  | .rowChange => updateBullQueueServerRows dialog

def Dialog.run (dialog : Dialog) (events : List DialogEvent) : Dialog := events.foldl step dialog

/-! ## Every session -/

/-- Between two events the rows and the active backend are those of the inputs. -/
structure Settled (dialog : Dialog) : Prop where
  rows : dialog.rows = toggledRows dialog.inputs
  active : dialog.activeBackend = shownBackend dialog.inputs

/-- The port field is a register for each backend. -/
def ports (dialog : Dialog) : Multiplexer Backend String :=
  ⟨dialog.activeBackend, dialog.inputs.port, dialog.portValues⟩

def portEvent : DialogEvent → Option (RegisterEvent Backend String)
  | .selectBackend backend => some (.select backend)
  | .typePort text => some (.write text)
  | _ => none

theorem shownBackend_selected (inputs : Inputs) (backend : Backend) :
    shownBackend { inputs with backend := some backend } = backend := by
  cases backend <;> rfl

theorem settled_onBackendChange (dialog : Dialog) : Settled (onBackendChange dialog) := by
  unfold onBackendChange
  dsimp only
  split
  next => exact ⟨rfl, rfl⟩
  next same => exact ⟨rfl, (not_not.mp same).symm⟩

theorem settled_step {dialog : Dialog} (settled : Settled dialog) (event : DialogEvent) :
    Settled (dialog.step event) := by
  cases event with
  | selectBackend backend => exact settled_onBackendChange _
  | backendChange => exact settled_onBackendChange _
  | selectDeployment deployment => exact ⟨rfl, settled.active⟩
  | checkTls checked => exact ⟨rfl, settled.active⟩
  | checkTelemetry checked => exact ⟨rfl, settled.active⟩
  | rowChange => exact ⟨rfl, settled.active⟩
  -- These inputs are read by no row
  | checkMigrate checked => exact ⟨settled.rows, settled.active⟩
  | typePort text => exact ⟨settled.rows, settled.active⟩

theorem ports_onBackendChange (dialog : Dialog) :
    ports (onBackendChange dialog) = (ports dialog).step (.select (shownBackend dialog.inputs)) := by
  unfold onBackendChange Multiplexer.step
  dsimp only
  split
  next other => exact (if_neg other).symm
  next same => exact (if_pos (not_not.mp same)).symm

/-- Of all that happens, the port field sees the selected backends and what is typed into it. -/
theorem ports_step {dialog : Dialog} (settled : Settled dialog) (event : DialogEvent) :
    ports (dialog.step event) = (ports dialog).run (portEvent event).toList := by
  cases event with
  | selectBackend backend =>
    have selected := ports_onBackendChange
      { dialog with inputs := { dialog.inputs with backend := some backend } }
    rw [shownBackend_selected] at selected
    exact selected
  | backendChange =>
    have fired := ports_onBackendChange dialog
    rw [← settled.active] at fired
    exact fired.trans (if_pos rfl)
  | _ => rfl

theorem session {dialog : Dialog} (settled : Settled dialog) (events : List DialogEvent) :
    Settled (dialog.run events) ∧
      ports (dialog.run events) = (ports dialog).run (events.filterMap portEvent) := by
  induction events generalizing dialog with
  | nil => exact ⟨settled, rfl⟩
  | cons event rest ih =>
    have later := ih (settled_step settled event)
    have seen : (event :: rest).filterMap portEvent =
        (portEvent event).toList ++ rest.filterMap portEvent := by
      rw [List.filterMap_cons]
      cases portEvent event <;> rfl
    refine ⟨later.1, ?_⟩
    rw [seen, Multiplexer.run, List.foldl_append]
    exact later.2.trans (congrArg (fun start => Multiplexer.run start (rest.filterMap portEvent))
      (ports_step settled event))

theorem settled_oneditprepare (savedBackend savedMigrate : JsValue) (inputs : Inputs) :
    Settled (oneditprepare savedBackend savedMigrate inputs) := ⟨rfl, rfl⟩

/-! ## What the runtime reads -/

def defaultPort : Backend → Port
  | .redis => defaultRedisPort
  | .postgres => defaultPostgresPort

/-- What the runtime makes of the text in the port field. -/
def portOf (backend : Backend) (text : String) : Except JsError Port :=
  match backend with
  | .redis => toPort (.string text) defaultRedisPort
  | .postgres => toPort (.string text) defaultPostgresPort "PostgreSQL"

theorem portOf_defaultPortText (backend : Backend) :
    portOf backend (defaultPortText backend) = .ok (defaultPort backend) := by
  cases backend with
  | redis =>
    have number : (JsValue.string "6379").toNumber = .finite 6379 :=
      JsNumber.parse_toDigits (by decide : 0 < 6379) (by decide)
    change toPort (.string "6379") defaultRedisPort = _
    unfold toPort
    rw [number]
    rfl
  | postgres =>
    have number : (JsValue.string "5432").toNumber = .finite 5432 :=
      JsNumber.parse_toDigits (by decide : 0 < 5432) (by decide)
    change toPort (.string "5432") defaultPostgresPort "PostgreSQL" = _
    unfold toPort
    rw [number]
    rfl

/-- The texts that were typed into the port field while this backend was selected. -/
def typedFor (backend opened : Backend) (events : List DialogEvent) : List String :=
  Registers.writesTo backend opened (events.filterMap portEvent)

/-- Opening the dialog leaves the port as it is. -/
theorem port_oneditprepare (savedBackend savedMigrate : JsValue) (inputs : Inputs) :
    (oneditprepare savedBackend savedMigrate inputs).inputs.port = inputs.port := by
  unfold oneditprepare
  cases savedBackend.truthy <;> cases savedMigrate.isUndefined <;> rfl

/-- The port that the dialog shows for a backend as long as nothing is typed for it. -/
def firstPort (savedBackend savedMigrate : JsValue) (inputs : Inputs) (backend : Backend) : String :=
  if (oneditprepare savedBackend savedMigrate inputs).activeBackend = backend then inputs.port
  else defaultPortText backend

theorem values_opened (savedBackend savedMigrate : JsValue) (inputs : Inputs) :
    (ports (oneditprepare savedBackend savedMigrate inputs)).registers.values =
      firstPort savedBackend savedMigrate inputs := by
  have kept := port_oneditprepare savedBackend savedMigrate inputs
  funext backend
  unfold firstPort
  by_cases active : (oneditprepare savedBackend savedMigrate inputs).activeBackend = backend
  · rw [if_pos active, ← active]
    exact (Multiplexer.values_active _).trans kept
  · rw [if_neg active]
    exact (Function.update_of_ne (Ne.symm active) _ _).trans (if_neg active)

/-- In every session the rows are those of the selected options, and the port field has what was
typed last while the backend was selected that is selected now. If nothing was, it has the saved
port, or the port that the runtime takes for its default. -/
theorem dialog_session (savedBackend savedMigrate : JsValue) (inputs : Inputs)
    (events : List DialogEvent) :
    let opened := oneditprepare savedBackend savedMigrate inputs
    let dialog := opened.run events
    let backend := shownBackend dialog.inputs
    let typed := typedFor backend opened.activeBackend events
    dialog.rows = toggledRows dialog.inputs ∧
      dialog.inputs.port = typed.getLast?.getD (firstPort savedBackend savedMigrate inputs backend) ∧
      portOf backend dialog.inputs.port = (typed.getLast?.map (portOf backend)).getD
        (if opened.activeBackend = backend then portOf backend inputs.port
          else .ok (defaultPort backend)) := by
  intro opened dialog backend typed
  obtain ⟨settled, seen⟩ := session (settled_oneditprepare savedBackend savedMigrate inputs) events
  have shown : dialog.inputs.port =
      typed.getLast?.getD (firstPort savedBackend savedMigrate inputs backend) := by
    have last := Multiplexer.shown_run (ports opened) (events.filterMap portEvent)
    rw [← seen, values_opened] at last
    have active : dialog.activeBackend = backend := settled.active
    change dialog.inputs.port = _ at last
    rw [last]
    change (typedFor dialog.activeBackend opened.activeBackend events).getLast?.getD
      (firstPort savedBackend savedMigrate inputs dialog.activeBackend) = _
    rw [active]
  refine ⟨settled.rows, shown, ?_⟩
  rw [shown]
  cases typed.getLast? with
  | some text => rfl
  | none =>
    change portOf backend (firstPort savedBackend savedMigrate inputs backend) = ite _ _ _
    unfold firstPort
    split
    next => rfl
    next => exact portOf_defaultPortText backend

/-! A custom Redis port survives a round trip through PostgreSQL. -/

def savedInputs : Inputs where
  backend := some .redis
  deployment := some .single
  port := "6380"
  tls := false
  telemetry := false
  migrate := true

example : ((oneditprepare (.string "redis") (.bool true) savedInputs).run
    [.selectBackend .postgres, .typePort "5433", .backendChange, .selectBackend .redis]).inputs.port =
      "6380" := by decide

end NodeRedBull.EditorDialog
