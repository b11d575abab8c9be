/- module: Ledger/Reads
   source: crates/jw-opsd/src/ledger.rs, crates/jw-opsd/src/ledger/{command_evidence,diagnostics}.rs
   digest: Opening the ledger, its queries, and the evidence that is prepared for a write. -/
import Mathlib.Data.List.Sort
import JwOps.Ledger.Writes

set_option autoImplicit false

namespace JwOps.Ledger.Reads

open Contracts Foundation Operation Digest Schema Writes Keyed Transaction

/-! ### Queries -/

/-- `ORDER BY created_at_ms, operation_id`. -/
def byCreation (first second : OperationRow) : Prop :=
  first.createdAtMs < second.createdAtMs ∨
    (first.createdAtMs = second.createdAtMs ∧ first.operationId ≤ second.operationId)

instance : DecidableRel byCreation := fun _ _ => inferInstanceAs (Decidable (_ ∨ _))

/-- `ORDER BY expires_at_ms, plan_id`. -/
def byExpiry (first second : StoredPlan) : Prop :=
  first.expiresAtMs < second.expiresAtMs ∨
    (first.expiresAtMs = second.expiresAtMs ∧ first.planId ≤ second.planId)

instance : DecidableRel byExpiry := fun _ _ => inferInstanceAs (Decidable (_ ∨ _))

def incompleteRows (tables : Tables) : List OperationRow :=
  (tables.operations.filter fun row => !row.stage.isTerminal).insertionSort byCreation

def incompleteOperationsFrom (tables : Tables) : Except OpsError (List StoredOperation) :=
  (incompleteRows tables).mapM fun row => loadOperationFrom tables row.operationId

/-- Plan types whose plans keep a proposal file. -/
def keepsProposal : OperationType → Bool
  | .managedConfig | .managedConfigRestore | .certbotIssue => true
  | _ => false

def expiredUnexecutedProposalPlansFrom (tables : Tables) (nowMs : Int) :
    Except OpsError (List StoredPlan) :=
  let rows := tables.plans.filter fun plan =>
    keepsProposal plan.operationType && plan.expiresAtMs ≤ nowMs &&
      (tables.findOperationOfPlan plan.planId).isNone
  (rows.insertionSort byExpiry).mapM fun plan => loadPlanFrom tables plan.planId

def hasRecentStagingEvidenceFrom (tables : Tables) (evidenceKey : String) (notBeforeMs : Int) :
    Bool :=
  tables.plans.any fun plan =>
    plan.operationType == .certbotIssue &&
    (tables.operations.any fun row =>
      row.planId == plan.planId && row.stage == .succeeded && notBeforeMs ≤ row.updatedAtMs) &&
    plan.certbotIssue.any fun payload =>
      payload.environment == .staging && payload.stagingEvidenceKey == evidenceKey

/-! ### Evidence beside events -/

section Evidence

variable (codec : Codec)

def prepareCommandEvidence (command : OperationCommandEvidenceView) (expectedDigest : String) :
    Except OpsError OperationCommandEvidenceView :=
  if command.validateShape.toBool = false ∨ commandEvidenceDigest codec command ≠ expectedDigest
  then .error (.rejected "invalid_command_evidence")
  else .ok command

def prepareDiagnostics (validatorEvidenceDigest : String)
    (diagnostics : List ManagedConfigDiagnosticView) :
    Except OpsError (StoredDiagnostics × String) :=
  if diagnostics = [] ∨ managedConfigDiagnosticMaxEntries < diagnostics.length ∨
      diagnostics.any (fun diagnostic => !diagnostic.validateShape.toBool) ∨
      (validateDigest validatorEvidenceDigest).toBool = false
  then .error (.rejected "invalid_diagnostic")
  else
    let digest := sha256Digest codec (codec.diagnosticsJson diagnostics)
    .ok (⟨diagnostics, digest, validatorEvidenceDigest⟩,
      diagnosticEvidenceDigest codec validatorEvidenceDigest digest)

def loadCommandEvidence (command : Option OperationCommandEvidenceView)
    (eventEvidenceDigest : String) (validatorEvidenceDigest : Option String) :
    Except OpsError (Option OperationCommandEvidenceView) :=
  match command with
  | none => .ok none
  | some view =>
    if view.validateShape.toBool = false ∨
        commandEvidenceDigest codec view ≠ validatorEvidenceDigest.getD eventEvidenceDigest
    then .error .forensicLockdown
    else .ok (some view)

def loadDiagnostics (row : Option DiagnosticsRow) (eventEvidenceDigest : String) :
    Except OpsError (List ManagedConfigDiagnosticView) :=
  match row with
  | none => .ok []
  | some row =>
    if (validateDigest row.diagnosticsDigest).toBool = false ∨
        (validateDigest row.validatorEvidenceDigest).toBool = false ∨
        sha256Digest codec (codec.diagnosticsJson row.diagnostics) ≠ row.diagnosticsDigest ∨
        row.diagnostics = [] ∨ managedConfigDiagnosticMaxEntries < row.diagnostics.length ∨
        row.diagnostics.any (fun diagnostic => !diagnostic.validateShape.toBool) ∨
        diagnosticEvidenceDigest codec row.validatorEvidenceDigest row.diagnosticsDigest ≠
          eventEvidenceDigest
    then .error .forensicLockdown
    else .ok row.diagnostics

def diagnosticsOf (tables : Tables) (sequence : Int) : Option DiagnosticsRow :=
  lookup DiagnosticsRow.sequence sequence tables.managedConfigDiagnostics

def commandOf (tables : Tables) (sequence : Int) : Option OperationCommandEvidenceView :=
  (lookup CommandRow.sequence sequence tables.operationCommandEvidence).map CommandRow.command

/-! ### Receipts -/

structure OperationStageEvidenceView where
  sequence : Nat
  stage : OperationStage
  recordedAt : String
  resultCode : String
  evidenceDigest : String
  command : Option OperationCommandEvidenceView
  diagnostics : List ManagedConfigDiagnosticView
  deriving DecidableEq, Repr

/-- The receipt without its fixed texts (assurance and recovery path). -/
structure OperationReceiptView where
  operationType : OperationType
  operationId : String
  displayName : String
  recordedAt : String
  planId : String
  planHash : String
  actor : Subject
  terminalState : OperationStage
  beforeDigest : String
  afterDigest : String
  stages : List OperationStageEvidenceView
  rollbackResult : Option String
  resourceId : Option String
  restoreAvailable : Bool
  deriving DecidableEq, Repr

def stageEvidence (tables : Tables) (event : EventRow) :
    Except OpsError OperationStageEvidenceView := do
  let row := diagnosticsOf tables event.sequence
  let command ← loadCommandEvidence codec (commandOf tables event.sequence) event.evidenceDigest
    (row.map DiagnosticsRow.validatorEvidenceDigest)
  let diagnostics ← loadDiagnostics codec row event.evidenceDigest
  if event.sequence < 0 then throw .forensicLockdown
  let recordedAt ← formatTime codec event.recordedAtMs
  pure ⟨event.sequence.toNat, event.stage, recordedAt, event.resultCode, event.evidenceDigest,
    command, diagnostics⟩

def receiptFrom (tables : Tables) (operationId : String) :
    Except OpsError OperationReceiptView := do
  let operation ← loadOperationFrom tables operationId
  let stages ← (tables.eventsOf operationId).mapM (stageEvidence codec tables)
  match stages.getLast? with
  | none => throw .forensicLockdown
  | some last =>
    let managed := takesDiagnostics operation.plan.operationType
    pure {
      operationType := operation.plan.operationType
      operationId := operation.operationId
      displayName := operation.plan.displayName
      recordedAt := last.recordedAt
      planId := operation.plan.planId
      planHash := operation.plan.planHash
      actor := operation.plan.actor
      terminalState := operation.stage
      beforeDigest := operation.beforeDigest
      afterDigest := operation.afterDigest
      stages := stages
      rollbackResult := operation.rollbackResult
      resourceId := if managed then some operation.plan.siteId else none
      restoreAvailable := managed && operation.stage == .succeeded && operation.snapshot.isSome }

/-! ### Opening -/

/-- One event of the chain, checked against the sequence and the digest before it. -/
def validateEvent (tables : Tables) (expectedSequence : Int) (previous : String)
    (event : EventRow) : Except OpsError Unit := do
  if event.sequence ≠ expectedSequence ∨ event.previousDigest ≠ previous then
    throw .forensicLockdown
  let expectedDigest ← ledgerEventDigest codec previous (codec.eventJson {
    schemaVersion := 1
    sequence := event.sequence
    previousDigest := previous
    operationId := event.operationId
    planId := event.planId
    stage := event.stage.asStorageValue
    resultCode := event.resultCode
    recordedAtMs := event.recordedAtMs
    evidenceDigest := event.evidenceDigest })
  if event.eventDigest ≠ expectedDigest then throw .forensicLockdown
  let row := diagnosticsOf tables event.sequence
  let _ ← loadCommandEvidence codec (commandOf tables event.sequence) event.evidenceDigest
    (row.map DiagnosticsRow.validatorEvidenceDigest)
  let _ ← loadDiagnostics codec row event.evidenceDigest

def validateChain (tables : Tables) : Int → String → List EventRow → Except OpsError Int
  | expectedSequence, _, [] => .ok (expectedSequence - 1)
  | expectedSequence, previous, event :: rest => do
    validateEvent codec tables expectedSequence previous event
    validateChain tables (saturatingSucc expectedSequence) event.eventDigest rest

def validateCheckpoint (ledger : LedgerState) (latestSequence : Int) : Except OpsError Unit :=
  let terminalSequence := ((ledger.tables.ledgerEvents.filter fun event =>
    event.stage.isTerminal).getLast?.map EventRow.sequence).getD 0
  let periodicSequence := latestSequence - latestSequence.emod checkpointInterval
  let requiredSequence := max terminalSequence periodicSequence
  if ledger.metadata.any fun sequence => sequence ≤ 0 || latestSequence < sequence then
    .error .forensicLockdown
  else
    match ledger.checkpoint with
    | none =>
      if requiredSequence = 0 ∨ ledger.metadata.any fun sequence => requiredSequence ≤ sequence
      then .ok ()
      else .error .forensicLockdown
    | some checkpoint =>
      if checkpoint.schemaVersion ≠ 1 ∨ latestSequence < checkpoint.sequence ∨
          (checkpoint.sequence < requiredSequence ∧
            !(ledger.metadata.any fun sequence => requiredSequence ≤ sequence))
      then .error .forensicLockdown
      else if (lookup EventRow.sequence checkpoint.sequence ledger.tables.ledgerEvents).map
          EventRow.eventDigest = some checkpoint.eventDigest then .ok ()
      else .error .forensicLockdown

def validateContinuity (ledger : LedgerState) : Except OpsError Unit := do
  let latestSequence ← validateChain codec ledger.tables 1 genesisDigest
    ledger.tables.ledgerEvents
  validateCheckpoint ledger latestSequence

/-- Opening: the state directory, the pragmas, the migrations and `PRAGMA integrity_check` are one
statement that may fail in any way; the chain and the checkpoint are checked after it. -/
def openLedger (failure : OpsError) : Sql Unit := do
  execute failure id
  query sqlError fun ledger => validateContinuity codec ledger
  completePendingCheckpoint

end Evidence

end JwOps.Ledger.Reads
