/- module: Ledger/Writes
   source: crates/jw-opsd/src/ledger.rs, crates/jw-opsd/src/ledger/{command_evidence,diagnostics}.rs
   digest: The ledger's transactions, statement by statement, under an arbitrary fault schedule. -/
import JwOps.Foundation.Transaction
import JwOps.Ledger.Schema
import Mathlib.Algebra.Group.Int.Defs

set_option autoImplicit false

namespace JwOps.Ledger.Writes

open Contracts Foundation Operation Digest Schema Keyed Transaction

/-- A computation against the ledger database. -/
abbrev Sql (α : Type) := SessionM LedgerState OpsError α

/-- Any `rusqlite::Error`; the text of the database library is not modelled. -/
def sqlError : OpsError := .storage "database statement failed"

def genesisDigest : String :=
  "sha256:0000000000000000000000000000000000000000000000000000000000000000"

def nginxReloadKey : String := "nginx/reload"

/-! ### Statements -/

def select {α : Type} (read : Tables → α) : Sql α :=
  query sqlError fun ledger => .ok (read ledger.tables)

/-- Reads a typed row; a missing row is the error that `read` gives. -/
def load {α : Type} (read : Tables → Except OpsError α) : Sql α :=
  query sqlError fun ledger => read ledger.tables

/-- An `INSERT` or `UPDATE` that the tables' constraints may refuse. Foreign keys never bind: each
referenced row is read or inserted earlier in the same transaction. -/
def write (refused : OpsError) (admitted : Tables → Bool) (change : Tables → Tables) : Sql Unit :=
  statement refused fun ledger =>
    if admitted ledger.tables then .ok ((), { ledger with tables := change ledger.tables })
    else .error refused

/-- A pure check in the middle of a transaction. -/
def check {α : Type} (result : Except OpsError α) : Sql α :=
  match result with
  | .ok value => pure value
  | .error error => throw error

def insertPlan (plan : StoredPlan) : Sql Unit :=
  write sqlError
    (fun tables => !tables.plans.any fun other =>
      other.planId == plan.planId || other.planHash == plan.planHash ||
        other.idempotencyKey == plan.idempotencyKey)
    fun tables => { tables with plans := tables.plans ++ [plan] }

def insertIdempotency (row : IdempotencyRow) : Sql Unit :=
  write sqlError
    (fun tables => !tables.idempotency.any fun other => other.idempotencyKey == row.idempotencyKey)
    fun tables => { tables with idempotency := tables.idempotency ++ [row] }

def insertOperation (row : OperationRow) : Sql Unit :=
  write sqlError
    (fun tables => !tables.operations.any fun other =>
      other.operationId == row.operationId || other.planId == row.planId)
    fun tables => { tables with operations := tables.operations ++ [row] }

/-- Both lock insertions report every database error as a busy resource. -/
def insertLock (row : LockRow) : Sql Unit :=
  write (.rejected "resource_busy")
    (fun tables => !tables.resourceLocks.any fun other => other.resourceKey == row.resourceKey)
    fun tables => { tables with resourceLocks := tables.resourceLocks ++ [row] }

def bindIdempotency (operationId key : String) : Sql Unit :=
  write sqlError (fun _ => true) fun tables =>
    { tables with
      idempotency := updateAt IdempotencyRow.idempotencyKey key
        (fun row => { row with operationId := some operationId }) tables.idempotency }

/-- `UPDATE operations … WHERE operation_id = ?`. -/
def updateRows (operationId : String) (change : OperationRow → OperationRow)
    (rows : List OperationRow) : List OperationRow :=
  updateAt OperationRow.operationId operationId change rows

def insertEvent (row : EventRow) : Sql Unit :=
  write sqlError
    (fun tables => !tables.ledgerEvents.any fun other =>
      other.sequence == row.sequence || other.eventDigest == row.eventDigest)
    fun tables => { tables with ledgerEvents := tables.ledgerEvents ++ [row] }

def insertDiagnostics (row : DiagnosticsRow) : Sql Unit :=
  write sqlError
    (fun tables => !tables.managedConfigDiagnostics.any fun other => other.sequence == row.sequence)
    fun tables =>
      { tables with managedConfigDiagnostics := tables.managedConfigDiagnostics ++ [row] }

def insertCommand (row : CommandRow) : Sql Unit :=
  write sqlError
    (fun tables => !tables.operationCommandEvidence.any fun other => other.sequence == row.sequence)
    fun tables =>
      { tables with operationCommandEvidence := tables.operationCommandEvidence ++ [row] }

def deleteLocks (operationId : String) : Sql Unit :=
  write sqlError (fun _ => true) fun tables =>
    { tables with resourceLocks := tables.resourceLocks.filter fun row =>
        row.operationId != operationId }

/-! ### Events and checkpoints -/

structure EventInput where
  operationId : String
  planId : String
  stage : OperationStage
  resultCode : String
  recordedAtMs : Int
  evidenceDigest : String
  deriving DecidableEq, Repr

def i64Max : Int := 2 ^ 63 - 1

/-- `i64::saturating_add(1)`. -/
def saturatingSucc (value : Int) : Int := min (value + 1) i64Max

def checkpointInterval : Int := 128

section Ledger

variable (codec : Codec)

/-- The row that `append_event` inserts after `previous`. -/
def nextEvent (previous : Option EventRow) (event : EventInput) : Except OpsError EventRow := do
  let lastSequence := previous.elim 0 EventRow.sequence
  let previousDigest := previous.elim genesisDigest EventRow.eventDigest
  let sequence := saturatingSucc lastSequence
  let canonical := codec.eventJson {
    schemaVersion := 1
    sequence := sequence
    previousDigest := previousDigest
    operationId := event.operationId
    planId := event.planId
    stage := event.stage.asStorageValue
    resultCode := event.resultCode
    recordedAtMs := event.recordedAtMs
    evidenceDigest := event.evidenceDigest }
  let digest ← ledgerEventDigest codec previousDigest canonical
  pure {
    sequence := sequence
    operationId := event.operationId
    planId := event.planId
    stage := event.stage
    resultCode := event.resultCode
    recordedAtMs := event.recordedAtMs
    evidenceDigest := event.evidenceDigest
    previousDigest := previousDigest
    eventDigest := digest }

def appendEvent (event : EventInput) : Sql Int := do
  let previous ← select Tables.lastEvent
  let row ← check (nextEvent codec previous event)
  insertEvent row
  pure row.sequence

def markCheckpointIfNeeded (sequence : Int) (terminal : Bool) : Sql Unit :=
  runIf (terminal || sequence % checkpointInterval == 0)
    (execute sqlError fun ledger => { ledger with metadata := some sequence })

/-- The private-file check and everything before the rename may fail with the old file in place;
the directory sync after the rename may fail with the new one in place. -/
def writeCheckpoint (checkpoint : Checkpoint) : Sql Unit := do
  execute .forensicLockdown id
  execute (.storage "checkpoint write failed") fun ledger =>
    { ledger with checkpoint := some checkpoint }
  execute (.storage "checkpoint directory sync failed") id

def completePendingCheckpoint : Sql Unit := do
  match ← query sqlError fun ledger => .ok ledger.metadata with
  | none => pure ()
  | some requiredSequence =>
    let last ← load fun tables =>
      match tables.lastEvent with
      | some row => .ok row
      | none => .error sqlError
    rejectIf (last.sequence < requiredSequence) .forensicLockdown
    writeCheckpoint ⟨1, last.sequence, last.eventDigest⟩
    -- the deletion names the completed sequence, so a newer marker would survive it
    execute sqlError fun ledger =>
      { ledger with metadata :=
          if ledger.metadata = some requiredSequence then none else ledger.metadata }

/-! ### Transactions -/

def loadOperation (operationId : String) : Sql StoredOperation :=
  load fun tables => loadOperationFrom tables operationId

def loadPlan (planId : String) : Sql StoredPlan :=
  load fun tables => loadPlanFrom tables planId

/-- The shape of every write: one transaction and, once it is committed, the checkpoint that may be
due and then `reply`. A block that is left early answers without a commit. -/
def committing {α : Type} (block : Sql (Ending α Unit)) (reply : Sql α) : Sql α := do
  match ← transaction sqlError block with
  | .dropped value => pure value
  | .committed () =>
    completePendingCheckpoint
    reply

def createPlanTransaction (plan : StoredPlan) : Sql (Ending StoredPlan Unit) := do
  match ← select fun tables => tables.findIdempotency plan.idempotencyKey with
  | some row =>
    rejectIf (row.requestDigest ≠ plan.requestDigest) (.rejected "idempotency_conflict")
    let stored ← loadPlan row.planId
    pure (.dropped stored)
  | none =>
    insertPlan plan
    insertIdempotency ⟨plan.idempotencyKey, plan.requestDigest, plan.planId, none⟩
    let sequence ← appendEvent codec
      ⟨"", plan.planId, .planned, "planned", plan.createdAtMs, plan.planHash⟩
    markCheckpointIfNeeded sequence false
    pure (.committed ())

def createOrReusePlan (plan : StoredPlan) : Sql StoredPlan :=
  committing (createPlanTransaction codec plan) (pure plan)

/-- Operation types that take no part in the nginx reload lock. -/
def skipsReloadLock : OperationType → Bool
  | .certbotRenewTest | .certbotIssue => true
  | _ => false

structure Approval where
  operationId : String
  planId : String
  planHash : String
  idempotencyKey : String
  actor : Subject
  nowMs : Int
  deriving DecidableEq, Repr

/-- The lock rows of a new operation: its resource and, for most types, the reload lock. -/
def acquireLocks (plan : StoredPlan) (approval : Approval) : Sql Unit := do
  insertLock ⟨plan.resourceKey, approval.operationId, approval.nowMs⟩
  runIf (!skipsReloadLock plan.operationType)
    (insertLock ⟨nginxReloadKey, approval.operationId, approval.nowMs⟩)

def beginTransaction (approval : Approval) : Sql (Ending StoredOperation Unit) := do
  let plan ← loadPlan approval.planId
  rejectIf (plan.planHash ≠ approval.planHash ∨ plan.idempotencyKey ≠ approval.idempotencyKey ∨
    plan.actor ≠ approval.actor) (.rejected "approval_mismatch")
  rejectIf (plan.expiresAtMs ≤ approval.nowMs) (.rejected "plan_expired")
  match ← select fun tables => tables.findOperationOfPlan approval.planId with
  | some row =>
    let stored ← loadOperation row.operationId
    pure (.dropped stored)
  | none =>
    insertOperation {
      operationId := approval.operationId
      planId := approval.planId
      stage := .approved
      beforeDigest := plan.beforeDigest
      afterDigest := plan.beforeDigest
      rollbackResult := none
      snapshot := none
      createdAtMs := approval.nowMs
      updatedAtMs := approval.nowMs }
    acquireLocks plan approval
    bindIdempotency approval.operationId approval.idempotencyKey
    let sequence ← appendEvent codec
      ⟨approval.operationId, approval.planId, .approved, "approved", approval.nowMs,
        approval.planHash⟩
    markCheckpointIfNeeded sequence false
    pure (.committed ())

def beginOperation (approval : Approval) : Sql StoredOperation :=
  committing (beginTransaction codec approval) (loadOperation approval.operationId)

/-- The columns set by `attach_snapshot`, on a row that is still approved. -/
def snapshotRow (snapshot : SnapshotRecord) (nowMs : Int) (row : OperationRow) : OperationRow :=
  if row.stage = .approved then
    { row with stage := .snapshotted, snapshot := some snapshot, updatedAtMs := nowMs }
  else row

def attachTransaction (operationId : String) (snapshot : SnapshotRecord) (nowMs : Int) :
    Sql (Ending StoredOperation Unit) := do
  write sqlError
    (fun tables => tables.operations.any fun row =>
      row.operationId == operationId && row.stage == .approved)
    fun tables =>
      { tables with
        operations := updateRows operationId (snapshotRow snapshot nowMs) tables.operations }
  let operation ← loadOperation operationId
  let sequence ← appendEvent codec
    ⟨operationId, operation.plan.planId, .snapshotted, "snapshot_durable", nowMs, snapshot.digest⟩
  markCheckpointIfNeeded sequence false
  pure (.committed ())

def attachSnapshot (operationId : String) (snapshot : SnapshotRecord) (nowMs : Int) :
    Sql StoredOperation :=
  committing (attachTransaction codec operationId snapshot nowMs) (loadOperation operationId)

structure Transition where
  expected : List OperationStage
  next : OperationStage
  resultCode : String
  evidenceDigest : String
  afterDigest : Option String
  rollbackResult : Option String
  nowMs : Int
  deriving DecidableEq, Repr

structure StoredDiagnostics where
  diagnostics : List ManagedConfigDiagnosticView
  digest : String
  validatorEvidenceDigest : String
  deriving DecidableEq, Repr

def takesDiagnostics : OperationType → Bool
  | .managedConfig | .managedConfigRestore => true
  | _ => false

/-- The columns set by a transition from the operation as it was read. -/
def moveRow (change : Transition) (current : StoredOperation) (row : OperationRow) :
    OperationRow :=
  { row with
    stage := change.next
    afterDigest := change.afterDigest.getD current.afterDigest
    rollbackResult := change.rollbackResult.or current.rollbackResult
    updatedAtMs := change.nowMs }

def transitionTransaction (operationId : String) (change : Transition)
    (diagnostics : Option StoredDiagnostics) (command : Option OperationCommandEvidenceView) :
    Sql (Ending StoredOperation Unit) := do
  let current ← loadOperation operationId
  rejectIf (diagnostics.isSome && !takesDiagnostics current.plan.operationType)
    (.rejected "diagnostic_operation")
  rejectIf (!change.expected.contains current.stage) (.rejected "stage_conflict")
  write sqlError (fun _ => true) fun tables =>
    { tables with operations := updateRows operationId (moveRow change current) tables.operations }
  let sequence ← appendEvent codec
    ⟨operationId, current.plan.planId, change.next, change.resultCode, change.nowMs,
      change.evidenceDigest⟩
  runSome diagnostics fun value =>
    insertDiagnostics ⟨sequence, value.diagnostics, value.digest, value.validatorEvidenceDigest⟩
  runSome command fun value => insertCommand ⟨sequence, value⟩
  runIf change.next.isTerminal (deleteLocks operationId)
  markCheckpointIfNeeded sequence change.next.isTerminal
  pure (.committed ())

def transitionInternal (operationId : String) (change : Transition)
    (diagnostics : Option StoredDiagnostics) (command : Option OperationCommandEvidenceView) :
    Sql StoredOperation :=
  committing (transitionTransaction codec operationId change diagnostics command)
    (loadOperation operationId)

end Ledger

end JwOps.Ledger.Writes
