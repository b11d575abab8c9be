/- module: Ledger/Commits
   source: crates/jw-opsd/src/ledger.rs
   digest: What a committed ledger transaction changes, and that no other change is possible. -/
import JwOps.Foundation.Chain
import JwOps.Ledger.Writes

set_option autoImplicit false

namespace JwOps.Ledger.Commits

open Contracts Foundation Operation Digest Schema Writes Keyed Transaction
open Chain (bind_ok)

variable {operationId : String}

variable {post : Except OpsError Unit → LedgerState → Prop} {α : Type} {sequence : Int}

/-- The calls that write to the ledger. -/
inductive LedgerWrite where
  | createOrReusePlan (plan : StoredPlan)
  | beginOperation (approval : Approval)
  | attachSnapshot (operationId : String) (snapshot : SnapshotRecord) (nowMs : Int)
  | transition (operationId : String) (change : Transition)
      (diagnostics : Option StoredDiagnostics) (command : Option OperationCommandEvidenceView)
  deriving DecidableEq, Repr

inductive Reply where
  | plan (value : StoredPlan)
  | operation (value : StoredOperation)
  deriving DecidableEq, Repr

def LedgerWrite.run (codec : Codec) : LedgerWrite → Sql Reply
  | .createOrReusePlan plan => do
      let stored ← Writes.createOrReusePlan codec plan
      pure (.plan stored)
  | .beginOperation approval => do
      let operation ← Writes.beginOperation codec approval
      pure (.operation operation)
  | .attachSnapshot operationId snapshot nowMs => do
      let operation ← Writes.attachSnapshot codec operationId snapshot nowMs
      pure (.operation operation)
  | .transition operationId change diagnostics command => do
      let operation ← transitionInternal codec operationId change diagnostics command
      pure (.operation operation)

/-! ### The tables after a commit -/

/-- The keys that an operation of this plan holds until it is terminal. -/
def lockKeys (plan : StoredPlan) : List String :=
  plan.resourceKey :: if skipsReloadLock plan.operationType then [] else [nginxReloadKey]

def lockRows (plan : StoredPlan) (approval : Approval) : List LockRow :=
  (lockKeys plan).map fun key => ⟨key, approval.operationId, approval.nowMs⟩

def diagnosticsRows (sequence : Int) (diagnostics : Option StoredDiagnostics) :
    List DiagnosticsRow :=
  diagnostics.toList.map fun value =>
    ⟨sequence, value.diagnostics, value.digest, value.validatorEvidenceDigest⟩

def commandRows (sequence : Int) (command : Option OperationCommandEvidenceView) :
    List CommandRow :=
  command.toList.map fun value => ⟨sequence, value⟩

/-- The locks that remain after a transition of an operation. -/
def remainingLocks (operationId : String) (next : OperationStage) (locks : List LockRow) :
    List LockRow :=
  if next.isTerminal then locks.filter fun row => row.operationId != operationId else locks

def approvedRow (plan : StoredPlan) (approval : Approval) : OperationRow where
  operationId := approval.operationId
  planId := approval.planId
  stage := .approved
  beforeDigest := plan.beforeDigest
  afterDigest := plan.beforeDigest
  rollbackResult := none
  snapshot := none
  createdAtMs := approval.nowMs
  updatedAtMs := approval.nowMs

def planEvent (plan : StoredPlan) : EventInput :=
  ⟨"", plan.planId, .planned, "planned", plan.createdAtMs, plan.planHash⟩

def approvalEvent (approval : Approval) : EventInput :=
  ⟨approval.operationId, approval.planId, .approved, "approved", approval.nowMs,
    approval.planHash⟩

def snapshotEvent (operationId planId : String) (snapshot : SnapshotRecord) (nowMs : Int) :
    EventInput :=
  ⟨operationId, planId, .snapshotted, "snapshot_durable", nowMs, snapshot.digest⟩

def transitionEvent (operationId planId : String) (change : Transition) : EventInput :=
  ⟨operationId, planId, change.next, change.resultCode, change.nowMs, change.evidenceDigest⟩

def planned (tables : Tables) (plan : StoredPlan) (event : EventRow) : Tables :=
  { tables with
    plans := tables.plans ++ [plan]
    idempotency := tables.idempotency ++
      [⟨plan.idempotencyKey, plan.requestDigest, plan.planId, none⟩]
    ledgerEvents := tables.ledgerEvents ++ [event] }

def begun (tables : Tables) (plan : StoredPlan) (approval : Approval) (event : EventRow) :
    Tables :=
  { tables with
    operations := tables.operations ++ [approvedRow plan approval]
    resourceLocks := tables.resourceLocks ++ lockRows plan approval
    idempotency := updateAt IdempotencyRow.idempotencyKey approval.idempotencyKey
      (fun row => { row with operationId := some approval.operationId }) tables.idempotency
    ledgerEvents := tables.ledgerEvents ++ [event] }

def attached (tables : Tables) (operationId : String) (snapshot : SnapshotRecord) (nowMs : Int)
    (event : EventRow) : Tables :=
  { tables with
    operations := updateRows operationId (snapshotRow snapshot nowMs) tables.operations
    ledgerEvents := tables.ledgerEvents ++ [event] }

def moved (tables : Tables) (current : StoredOperation) (change : Transition)
    (diagnostics : Option StoredDiagnostics) (command : Option OperationCommandEvidenceView)
    (event : EventRow) : Tables :=
  { tables with
    operations := updateRows current.operationId (moveRow change current) tables.operations
    resourceLocks := remainingLocks current.operationId change.next tables.resourceLocks
    ledgerEvents := tables.ledgerEvents ++ [event]
    managedConfigDiagnostics := tables.managedConfigDiagnostics ++
      diagnosticsRows event.sequence diagnostics
    operationCommandEvidence := tables.operationCommandEvidence ++
      commandRows event.sequence command }

/-- `event` is the row that `append_event` computes and the constraints of its table admit. -/
def Appended (codec : Codec) (tables : Tables) (input : EventInput) (event : EventRow) : Prop :=
  nextEvent codec tables.lastEvent input = .ok event ∧
    ∀ other ∈ tables.ledgerEvents,
      other.sequence ≠ event.sequence ∧ other.eventDigest ≠ event.eventDigest

/-- The events after which a checkpoint is due. -/
def dueAfter (event : EventRow) : Bool :=
  event.stage.isTerminal || event.sequence % checkpointInterval == 0

theorem Appended.due {codec : Codec} {tables : Tables} {input : EventInput} {event : EventRow}
    (appended : Appended codec tables input event) :
    dueAfter event = (input.stage.isTerminal || event.sequence % checkpointInterval == 0) := by
  obtain ⟨digest, -, done⟩ := bind_ok.mp appended.1
  obtain rfl := Except.ok.inj done
  rfl

/-- The approval names exactly this plan and comes before its expiry. -/
structure Approves (approval : Approval) (plan : StoredPlan) : Prop where
  hash : plan.planHash = approval.planHash
  key : plan.idempotencyKey = approval.idempotencyKey
  actor : plan.actor = approval.actor
  inTime : approval.nowMs < plan.expiresAtMs

/-- Everything that a committed write can do to the tables. -/
inductive Commit (codec : Codec) (tables : Tables) : LedgerWrite → Tables → Prop where
  | planned (plan : StoredPlan) (event : EventRow)
      (unbound : tables.findIdempotency plan.idempotencyKey = none)
      (fresh : ∀ other ∈ tables.plans, other.planId ≠ plan.planId ∧
        other.planHash ≠ plan.planHash ∧ other.idempotencyKey ≠ plan.idempotencyKey)
      (appended : Appended codec tables (planEvent plan) event) :
      Commit codec tables (.createOrReusePlan plan) (planned tables plan event)
  | begun (approval : Approval) (plan : StoredPlan) (event : EventRow)
      (stored : tables.findPlan approval.planId = some plan)
      (approves : Approves approval plan)
      (fresh : ∀ row ∈ tables.operations, row.operationId ≠ approval.operationId ∧
        row.planId ≠ approval.planId)
      (free : ∀ lock ∈ tables.resourceLocks, lock.resourceKey ∉ lockKeys plan)
      (distinct : (lockKeys plan).Nodup)
      (appended : Appended codec tables (approvalEvent approval) event) :
      Commit codec tables (.beginOperation approval) (begun tables plan approval event)
  | attached (operationId : String) (snapshot : SnapshotRecord) (nowMs : Int)
      (current : StoredOperation) (event : EventRow)
      (stored : loadOperationFrom tables operationId = .ok current)
      (approved : ∃ row ∈ tables.operations, row.operationId = operationId ∧ row.stage = .approved)
      (appended : Appended codec tables
        (snapshotEvent operationId current.plan.planId snapshot nowMs) event) :
      Commit codec tables (.attachSnapshot operationId snapshot nowMs)
        (attached tables operationId snapshot nowMs event)
  | moved (operationId : String) (change : Transition) (diagnostics : Option StoredDiagnostics)
      (command : Option OperationCommandEvidenceView) (current : StoredOperation)
      (event : EventRow)
      (stored : loadOperationFrom tables operationId = .ok current)
      (expected : current.stage ∈ change.expected)
      (eligible : diagnostics.isSome → takesDiagnostics current.plan.operationType)
      (appended : Appended codec tables
        (transitionEvent operationId current.plan.planId change) event) :
      Commit codec tables (.transition operationId change diagnostics command)
        (moved tables current change diagnostics command event)

theorem Commit.begun_cases {codec : Codec} {tables after : Tables} {approval : Approval}
    (commit : Commit codec tables (.beginOperation approval) after) :
    ∃ plan event, tables.findPlan approval.planId = some plan ∧ Approves approval plan ∧
      after = Commits.begun tables plan approval event := by
  cases commit with
  | begun _ plan event stored approves => exact ⟨plan, event, stored, approves, rfl⟩

/-! ### Rows under updates -/

@[simp] theorem snapshotRow_operationId (snapshot : SnapshotRecord) (nowMs : Int)
    (row : OperationRow) : (snapshotRow snapshot nowMs row).operationId = row.operationId := by
  unfold snapshotRow; split <;> rfl

@[simp] theorem snapshotRow_planId (snapshot : SnapshotRecord) (nowMs : Int)
    (row : OperationRow) : (snapshotRow snapshot nowMs row).planId = row.planId := by
  unfold snapshotRow; split <;> rfl

@[simp] theorem moveRow_operationId (change : Transition) (current : StoredOperation)
    (row : OperationRow) : (moveRow change current row).operationId = row.operationId := rfl

@[simp] theorem moveRow_planId (change : Transition) (current : StoredOperation)
    (row : OperationRow) : (moveRow change current row).planId = row.planId := rfl

/-- An operation is loaded exactly when its row and its plan's row are there. -/
theorem loadOperationFrom_ok_iff {tables : Tables} {operationId : String}
    {operation : StoredOperation} :
    loadOperationFrom tables operationId = .ok operation ↔
      ∃ row plan, tables.findOperation operationId = some row ∧
        tables.findPlan row.planId = some plan ∧
        operation = ⟨operationId, plan, row.stage, row.beforeDigest, row.afterDigest,
          row.rollbackResult, row.snapshot⟩ := by
  unfold loadOperationFrom
  cases found : tables.findOperation operationId with
  | none => simp [throw, throwThe, MonadExceptOf.throw]
  | some row =>
    unfold loadPlanFrom
    cases stored : tables.findPlan row.planId with
    | none => simp [stored, bind, Except.bind]
    | some plan => simp [stored, bind, Except.bind, pure, Except.pure, eq_comm]

/-! ### Outcomes of the statements -/

section Statements

variable {codec : Codec} {ledger : LedgerState}

theorem outcome_select {read : Tables → α} {post : Except OpsError α → LedgerState → Prop}
    (failed : post (.error sqlError) ledger) (done : post (.ok (read ledger.tables)) ledger) :
    Outcome (select read) ledger post :=
  Outcome.query failed done

theorem outcome_load {read : Tables → Except OpsError α}
    {post : Except OpsError α → LedgerState → Prop} (failed : post (.error sqlError) ledger)
    (done : post (read ledger.tables) ledger) :
    Outcome (load read) ledger post :=
  Outcome.query failed done

theorem outcome_write {refused : OpsError} {admitted : Tables → Bool} {change : Tables → Tables}
    (failed : post (.error refused) ledger)
    (done : admitted ledger.tables = true →
      post (.ok ()) { ledger with tables := change ledger.tables }) :
    Outcome (write refused admitted change) ledger post := by
  refine Outcome.statement failed ?_
  cases allowed : admitted ledger.tables with
  | true => simpa [allowed] using done allowed
  | false => simpa [allowed] using failed

theorem outcome_check {result : Except OpsError α}
    {post : Except OpsError α → LedgerState → Prop} (holds : post result ledger) :
    Outcome (check result) ledger post := by
  cases result with
  | error error => exact Outcome.fail error holds
  | ok value => exact Outcome.ret value holds

theorem outcome_appendEvent {input : EventInput} {post : Except OpsError Int → LedgerState → Prop}
    (failed : ∀ error, post (.error error) ledger)
    (done : ∀ event, Appended codec ledger.tables input event →
      post (.ok event.sequence) { ledger with tables :=
        { ledger.tables with ledgerEvents := ledger.tables.ledgerEvents ++ [event] } }) :
    Outcome (appendEvent codec input) ledger post := by
  refine Outcome.bind (outcome_select (failed _) (Outcome.bind (outcome_check ?_)))
  cases computed : nextEvent codec ledger.tables.lastEvent input with
  | error error => exact failed error
  | ok event =>
    refine Outcome.bind (outcome_write (failed _) fun admitted => Outcome.ret _ ?_)
    exact done event ⟨computed, by simpa using admitted⟩

theorem outcome_mark {terminal : Bool} (failed : post (.error sqlError) ledger)
    (done : post (.ok ()) { ledger with
      metadata := if terminal || sequence % checkpointInterval == 0 then some sequence
        else ledger.metadata }) :
    Outcome (markCheckpointIfNeeded sequence terminal) ledger post := by
  refine Outcome.runIf (fun needed => ?_) fun unneeded => ?_
  · rw [needed, if_pos rfl] at done
    exact Outcome.execute failed done
  · rw [unneeded] at done
    exact done

theorem outcome_acquireLocks {plan : StoredPlan} {approval : Approval}
    (failed : ∀ after, post (.error (.rejected "resource_busy")) after)
    (done : (∀ lock ∈ ledger.tables.resourceLocks, lock.resourceKey ∉ lockKeys plan) →
      (lockKeys plan).Nodup →
      post (.ok ())
        { ledger with tables := { ledger.tables with
          resourceLocks := ledger.tables.resourceLocks ++ lockRows plan approval } }) :
    Outcome (acquireLocks plan approval) ledger post := by
  refine Outcome.bind (outcome_write (failed _) fun free => ?_)
  have resourceFree : ∀ lock ∈ ledger.tables.resourceLocks,
      lock.resourceKey ≠ plan.resourceKey := by simpa using free
  refine Outcome.runIf (fun holds => ?_) fun skips => ?_
  · refine outcome_write (failed _) fun free => ?_
    have reloadFree : (∀ lock ∈ ledger.tables.resourceLocks, lock.resourceKey ≠ nginxReloadKey) ∧
        plan.resourceKey ≠ nginxReloadKey := by
      simpa [or_imp, forall_and] using free
    have keys : lockKeys plan = [plan.resourceKey, nginxReloadKey] := by
      simpa [lockKeys] using holds
    simp only [lockRows, keys] at done ⊢
    have disjoint : ∀ lock ∈ ledger.tables.resourceLocks,
        lock.resourceKey ∉ [plan.resourceKey, nginxReloadKey] := by
      intro lock member
      simpa using ⟨resourceFree lock member, reloadFree.1 lock member⟩
    simpa using done disjoint (by simpa using reloadFree.2)
  · have keys : lockKeys plan = [plan.resourceKey] := by
      simpa [lockKeys] using skips
    simp only [lockRows, keys] at done ⊢
    simpa using done (by simpa using resourceFree) (by simp)

theorem outcome_diagnostics {diagnostics : Option StoredDiagnostics}
    (failed : post (.error sqlError) ledger)
    (done : post (.ok ())
      { ledger with tables := { ledger.tables with
        managedConfigDiagnostics :=
          ledger.tables.managedConfigDiagnostics ++ diagnosticsRows sequence diagnostics } }) :
    Outcome (runSome diagnostics fun value => insertDiagnostics
      ⟨sequence, value.diagnostics, value.digest, value.validatorEvidenceDigest⟩) ledger post := by
  refine Outcome.runSome (fun value present => ?_) fun absent => ?_
  · subst present
    exact outcome_write failed fun _ => by simpa [diagnosticsRows] using done
  · subst absent
    simpa [diagnosticsRows] using done

theorem outcome_command {command : Option OperationCommandEvidenceView}
    (failed : post (.error sqlError) ledger)
    (done : post (.ok ())
      { ledger with tables := { ledger.tables with
        operationCommandEvidence :=
          ledger.tables.operationCommandEvidence ++ commandRows sequence command } }) :
    Outcome (runSome command fun value => insertCommand ⟨sequence, value⟩) ledger post := by
  refine Outcome.runSome (fun value present => ?_) fun absent => ?_
  · subst present
    exact outcome_write failed fun _ => by simpa [commandRows] using done
  · subst absent
    simpa [commandRows] using done

theorem outcome_deleteLocks {operationId : String} {next : OperationStage}
    (failed : post (.error sqlError) ledger)
    (done : post (.ok ())
      { ledger with tables := { ledger.tables with
        resourceLocks := remainingLocks operationId next ledger.tables.resourceLocks } }) :
    Outcome (runIf next.isTerminal (deleteLocks operationId)) ledger post := by
  refine Outcome.runIf (fun terminal => ?_) fun running => ?_
  · exact outcome_write failed fun _ => by simpa [remainingLocks, terminal] using done
  · simpa [remainingLocks, running] using done

/-- Completing a checkpoint touches the marker and the checkpoint file, never a table. -/
theorem outcome_completePendingCheckpoint :
    Outcome completePendingCheckpoint ledger fun _ after => after.tables = ledger.tables := by
  refine Outcome.bind (Outcome.query rfl ?_)
  cases ledger.metadata with
  | none => exact Outcome.ret _ rfl
  | some required =>
    refine Outcome.bind (outcome_load rfl ?_)
    cases ledger.tables.lastEvent with
    | none => rfl
    | some last =>
      refine Outcome.bind (Outcome.rejectIf rfl fun _ => Outcome.bind ?_)
      refine Outcome.bind (Outcome.execute rfl (Outcome.bind
        (Outcome.execute rfl (Outcome.execute rfl ?_))))
      exact Outcome.execute rfl rfl

end Statements

/-! ### Outcomes of the transactions -/

section Transactions

variable {codec : Codec} {ledger : LedgerState}

/-- The block of a transaction commits exactly the change described for its write. -/
def BlockPost (codec : Codec) (ledger : LedgerState) (call : LedgerWrite) {β : Type}
    (reused : β → Prop) (result : Except OpsError (Ending β Unit)) (after : LedgerState) : Prop :=
  match result with
  | .ok (.committed ()) => Commit codec ledger.tables call after.tables
  | .ok (.dropped value) => reused value
  | .error _ => True

/-- What a committed block leaves beside the rows of its write. -/
def MarkPost (ledger : LedgerState) {β : Type} (result : Except OpsError (Ending β Unit))
    (after : LedgerState) : Prop :=
  match result with
  | .ok (.committed ()) => after.checkpoint = ledger.checkpoint ∧
      ∃ event, after.tables.ledgerEvents = ledger.tables.ledgerEvents ++ [event] ∧
        after.metadata = if dueAfter event then some event.sequence else ledger.metadata
  | _ => True

/-- What is known of a block that ends. -/
def BlockEnd (codec : Codec) (ledger : LedgerState) (call : LedgerWrite) {β : Type}
    (reused : β → Prop) (result : Except OpsError (Ending β Unit)) (after : LedgerState) : Prop :=
  BlockPost codec ledger call reused result after ∧ MarkPost ledger result after

theorem blockEnd_error {call : LedgerWrite} {β : Type} {reused : β → Prop} {error : OpsError}
    {after : LedgerState} : BlockEnd codec ledger call reused (.error error) after :=
  ⟨trivial, trivial⟩

theorem outcome_createPlanTransaction {plan : StoredPlan} :
    Outcome (createPlanTransaction codec plan) ledger
      (BlockEnd codec ledger (.createOrReusePlan plan) fun stored =>
        ∃ row, ledger.tables.findIdempotency plan.idempotencyKey = some row ∧
          row.requestDigest = plan.requestDigest ∧
          ledger.tables.findPlan row.planId = some stored) := by
  refine Outcome.bind (outcome_select blockEnd_error ?_)
  cases bound : ledger.tables.findIdempotency plan.idempotencyKey with
  | some row =>
    refine Outcome.bind (Outcome.rejectIf blockEnd_error fun same => ?_)
    refine Outcome.bind (outcome_load blockEnd_error ?_)
    unfold loadPlanFrom
    cases found : ledger.tables.findPlan row.planId with
    | none => exact blockEnd_error
    | some stored => exact Outcome.ret _ ⟨⟨row, rfl, not_not.mp same, found⟩, trivial⟩
  | none =>
    refine Outcome.bind (outcome_write blockEnd_error fun fresh => ?_)
    refine Outcome.bind (outcome_write blockEnd_error fun _ => ?_)
    refine Outcome.bind (outcome_appendEvent (fun _ => blockEnd_error) fun event appended => ?_)
    refine Outcome.bind (outcome_mark blockEnd_error (Outcome.ret _ ⟨?_, rfl, event, rfl, ?_⟩))
    · exact .planned plan event bound (by simpa [and_assoc] using fresh) appended
    · rw [appended.due]
      rfl

theorem outcome_attachTransaction {snapshot : SnapshotRecord} {nowMs : Int} :
    Outcome (attachTransaction codec operationId snapshot nowMs) ledger
      (BlockEnd codec ledger (.attachSnapshot operationId snapshot nowMs) fun _ => False) := by
  refine Outcome.bind (outcome_write blockEnd_error fun approved => ?_)
  refine Outcome.bind (outcome_load blockEnd_error ?_)
  cases read : loadOperationFrom _ operationId with
  | error error => exact blockEnd_error
  | ok operation =>
    obtain ⟨row, plan, found, stored, rfl⟩ := loadOperationFrom_ok_iff.mp read
    refine Outcome.bind (outcome_appendEvent (fun _ => blockEnd_error) fun event appended => ?_)
    refine Outcome.bind (outcome_mark blockEnd_error (Outcome.ret _ ⟨?_, rfl, event, rfl, ?_⟩))
    · unfold Tables.findOperation at found
      rw [updateRows, lookup_updateAt_self (snapshotRow_operationId snapshot nowMs)] at found
      obtain ⟨old, oldFound, rfl⟩ := Option.map_eq_some_iff.mp found
      rw [snapshotRow_planId] at stored
      exact .attached operationId snapshot nowMs _ event
        (loadOperationFrom_ok_iff.mpr ⟨old, plan, oldFound, stored, rfl⟩)
        (by simpa [and_assoc] using approved) appended
    · rw [appended.due]
      rfl

theorem outcome_beginTransaction {approval : Approval} :
    Outcome (beginTransaction codec approval) ledger
      (BlockEnd codec ledger (.beginOperation approval) fun operation =>
        ∃ plan row, ledger.tables.findPlan approval.planId = some plan ∧ Approves approval plan ∧
          ledger.tables.findOperationOfPlan approval.planId = some row ∧
          loadOperationFrom ledger.tables row.operationId = .ok operation) := by
  refine Outcome.bind (outcome_load blockEnd_error ?_)
  unfold loadPlanFrom
  cases stored : ledger.tables.findPlan approval.planId with
  | none => exact blockEnd_error
  | some plan =>
    refine Outcome.bind (Outcome.rejectIf blockEnd_error fun matching => ?_)
    refine Outcome.bind (Outcome.rejectIf blockEnd_error fun inTime => ?_)
    have approves : Approves approval plan := by
      simp only [ne_eq, not_or, not_not] at matching
      exact ⟨matching.1, matching.2.1, matching.2.2, Int.not_le.mp inTime⟩
    refine Outcome.bind (outcome_select blockEnd_error ?_)
    cases existing : ledger.tables.findOperationOfPlan approval.planId with
    | some row =>
      refine Outcome.bind (outcome_load blockEnd_error ?_)
      cases read : loadOperationFrom ledger.tables row.operationId with
      | error error => exact blockEnd_error
      | ok operation => exact Outcome.ret _ ⟨⟨plan, row, rfl, approves, rfl, read⟩, trivial⟩
    | none =>
      refine Outcome.bind (outcome_write blockEnd_error fun fresh => ?_)
      refine Outcome.bind (outcome_acquireLocks (fun _ => blockEnd_error) fun free distinct => ?_)
      refine Outcome.bind (outcome_write blockEnd_error fun _ => ?_)
      refine Outcome.bind (outcome_appendEvent (fun _ => blockEnd_error) fun event appended => ?_)
      refine Outcome.bind (outcome_mark blockEnd_error (Outcome.ret _ ⟨?_, rfl, event, rfl, ?_⟩))
      · exact .begun approval plan event stored approves (by simpa using fresh) free distinct
          appended
      · rw [appended.due]
        rfl

theorem outcome_transitionTransaction {change : Transition}
    {diagnostics : Option StoredDiagnostics} {command : Option OperationCommandEvidenceView} :
    Outcome (transitionTransaction codec operationId change diagnostics command) ledger
      (BlockEnd codec ledger (.transition operationId change diagnostics command)
        fun _ => False) := by
  refine Outcome.bind (outcome_load blockEnd_error ?_)
  cases read : loadOperationFrom ledger.tables operationId with
  | error error => exact blockEnd_error
  | ok current =>
    refine Outcome.bind (Outcome.rejectIf blockEnd_error fun eligible => ?_)
    refine Outcome.bind (Outcome.rejectIf blockEnd_error fun expected => ?_)
    refine Outcome.bind (outcome_write blockEnd_error fun _ => ?_)
    refine Outcome.bind (outcome_appendEvent (fun _ => blockEnd_error) fun event appended => ?_)
    refine Outcome.bind
      (outcome_diagnostics blockEnd_error (Outcome.bind (outcome_command blockEnd_error ?_)))
    refine Outcome.bind (outcome_deleteLocks blockEnd_error (Outcome.bind ?_))
    refine outcome_mark blockEnd_error (Outcome.ret _ ⟨?_, rfl, event, rfl, ?_⟩)
    · obtain ⟨row, plan, found, stored, rfl⟩ := loadOperationFrom_ok_iff.mp read
      exact .moved operationId change diagnostics command _ event read (by simpa using expected)
        (by simpa using eligible) appended
    · rw [appended.due]

/-- What a caller learns from a write: nothing changed, or exactly its commit happened. An error
after the commit, from the checkpoint or from the last read, is possible as well. -/
def CallPost (codec : Codec) (ledger : LedgerState) (call : LedgerWrite) {α : Type}
    (reused : α → Prop) (reply : Tables → Except OpsError α) (result : Except OpsError α)
    (after : LedgerState) : Prop :=
  (after = ledger ∧ ((∃ error, result = .error error) ∨ ∃ value, result = .ok value ∧
    reused value)) ∨
  (Commit codec ledger.tables call after.tables ∧
    ((∃ error, result = .error error) ∨ result = reply after.tables))

theorem outcome_committing {call : LedgerWrite} {block : Sql (Ending α Unit)} {tail : Sql α}
    {reused : α → Prop} {reply : Tables → Except OpsError α}
    (committed : Outcome block ledger (BlockEnd codec ledger call reused))
    (answered : ∀ reached, Outcome tail reached fun result after => after = reached ∧
      ((∃ error, result = .error error) ∨ result = reply reached.tables)) :
    Outcome (committing block tail) ledger (CallPost codec ledger call reused reply) := by
  refine Outcome.bind (Outcome.transaction (.inl ⟨rfl, .inl ⟨_, rfl⟩⟩) (committed.mono ?_))
  rintro result reached ⟨holds, -⟩
  match result, holds with
  | .error error, _ => exact .inl ⟨rfl, .inl ⟨error, rfl⟩⟩
  | .ok (.dropped value), reuse => exact Outcome.ret _ (.inl ⟨rfl, .inr ⟨value, rfl, reuse⟩⟩)
  | .ok (.committed ()), change =>
    refine Outcome.bind (outcome_completePendingCheckpoint.mono ?_)
    intro result marked same
    have commit : Commit codec ledger.tables call marked.tables := by rw [same]; exact change
    match result with
    | .error error => exact .inr ⟨commit, .inl ⟨error, rfl⟩⟩
    | .ok () =>
      refine (answered marked).mono ?_
      rintro result after ⟨rfl, outcome⟩
      exact .inr ⟨commit, outcome⟩

theorem outcome_createOrReusePlan {plan : StoredPlan} :
    Outcome (createOrReusePlan codec plan) ledger
      (CallPost codec ledger (.createOrReusePlan plan)
        (fun stored => ∃ row, ledger.tables.findIdempotency plan.idempotencyKey = some row ∧
          row.requestDigest = plan.requestDigest ∧
          ledger.tables.findPlan row.planId = some stored)
        fun _ => .ok plan) :=
  outcome_committing outcome_createPlanTransaction fun _ => Outcome.ret _ ⟨rfl, .inr rfl⟩

private theorem outcome_loadOperation (operationId : String) (reached : LedgerState) :
    Outcome (loadOperation operationId) reached fun result after => after = reached ∧
      ((∃ error, result = .error error) ∨
        result = loadOperationFrom reached.tables operationId) :=
  outcome_load ⟨rfl, .inl ⟨_, rfl⟩⟩ ⟨rfl, .inr rfl⟩

theorem outcome_beginOperation {approval : Approval} :
    Outcome (beginOperation codec approval) ledger
      (CallPost codec ledger (.beginOperation approval)
        (fun operation => ∃ plan row, ledger.tables.findPlan approval.planId = some plan ∧
          Approves approval plan ∧
          ledger.tables.findOperationOfPlan approval.planId = some row ∧
          loadOperationFrom ledger.tables row.operationId = .ok operation)
        fun tables => loadOperationFrom tables approval.operationId) :=
  outcome_committing outcome_beginTransaction (outcome_loadOperation _)

theorem outcome_attachSnapshot {snapshot : SnapshotRecord} {nowMs : Int} :
    Outcome (attachSnapshot codec operationId snapshot nowMs) ledger
      (CallPost codec ledger (.attachSnapshot operationId snapshot nowMs) (fun _ => False)
        fun tables => loadOperationFrom tables operationId) :=
  outcome_committing outcome_attachTransaction
    (outcome_loadOperation _)

theorem outcome_transitionInternal {change : Transition} {diagnostics : Option StoredDiagnostics}
    {command : Option OperationCommandEvidenceView} :
    Outcome (transitionInternal codec operationId change diagnostics command) ledger
      (CallPost codec ledger (.transition operationId change diagnostics command)
        (fun _ => False) fun tables => loadOperationFrom tables operationId) :=
  outcome_committing outcome_transitionTransaction
    (outcome_loadOperation _)

/-- No write changes the tables other than by its commit. -/
theorem outcome_run {call : LedgerWrite} :
    Outcome (call.run codec) ledger fun _ after =>
      after = ledger ∨ Commit codec ledger.tables call after.tables := by
  have weaken {α : Type} {reused : α → Prop} {reply : Tables → Except OpsError α}
      {program : Sql α} {wrap : α → Reply}
      (holds : Outcome program ledger (CallPost codec ledger call reused reply)) :
      Outcome (program >>= fun value => pure (wrap value)) ledger fun _ after =>
        after = ledger ∨ Commit codec ledger.tables call after.tables := by
    refine Outcome.bind (holds.mono fun result after post => ?_)
    have reached : after = ledger ∨ Commit codec ledger.tables call after.tables :=
      post.imp And.left And.left
    cases result with
    | error error => exact reached
    | ok value => exact Outcome.ret _ reached
  cases call with
  | createOrReusePlan plan => exact weaken outcome_createOrReusePlan
  | beginOperation approval => exact weaken outcome_beginOperation
  | attachSnapshot operationId snapshot nowMs =>
    exact weaken outcome_attachSnapshot
  | transition operationId change diagnostics command =>
    exact weaken outcome_transitionInternal

end Transactions

end JwOps.Ledger.Commits
