/- module: Ledger/Schema
   source: crates/jw-opsd/src/ledger.rs, crates/jw-opsd/migrations/*.sql,
     plan payloads of crates/jw-opsd/src/{managed_config,certificate,ufw}.rs
   digest: Stored plans and operations, the tables of the ledger and the reads over them. -/
import JwOps.Contracts.Digest
import JwOps.Foundation.Keyed

set_option autoImplicit false

namespace JwOps.Ledger.Schema

open Contracts Operation Digest Foundation.Keyed

/-! ### Plans and operations -/

structure ManagedConfigPlanPayload where
  proposalRelativePath : String
  proposalDigest : String
  basename : Option String
  proposedContentDigest : String
  currentBytes : UInt32
  proposedBytes : UInt32
  addedLines : UInt32
  removedLines : UInt32
  diffSummary : List String
  serviceAction : ServiceAction
  deriving DecidableEq, Repr

structure CertbotRenewPlanPayload where
  inventoryDigest : String
  timerEnabled : Bool
  timerActive : Bool
  certificateCount : UInt32
  deriving DecidableEq, Repr

structure CertbotIssuePlanPayload where
  primaryDomain : String
  domains : List String
  accountEmailProposalRelativePath : String
  accountEmailProposalDigest : String
  maskedAccountEmail : String
  environment : CertificateEnvironment
  siteId : String
  siteDigest : String
  inventoryDigest : String
  preflightObservedAtMs : Int
  resolvedAddresses : List String
  localPort80Reachable : Bool
  localPort443Reachable : Bool
  stagingEvidenceValid : Bool
  stagingEvidenceKey : String
  deriving DecidableEq, Repr

structure CertbotAttachPlanPayload where
  primaryDomain : String
  siteId : String
  siteDigest : String
  metadataDigest : String
  inventoryDigest : String
  certificateFingerprint : String
  sans : List String
  notAfter : String
  currentCertificatePath : String
  targetCertificatePath : String
  proposedContentDigest : String
  timerEnabled : Bool
  timerActive : Bool
  deriving DecidableEq, Repr

structure UfwRuleSpec where
  mutation : UfwRuleMutation
  protocol : UfwProtocol
  port : UInt16
  source : String
  ruleId : String
  deriving DecidableEq, Repr

structure UfwPlanPayload where
  requestedMutation : UfwRuleMutation
  rule : UfwRuleSpec
  deleteSequences : List UInt16
  deriving DecidableEq, Repr

structure StoredPlan where
  operationType : OperationType
  planId : String
  planHash : String
  actor : Subject
  siteId : String
  displayName : String
  currentState : NginxSiteState
  targetState : NginxSiteState
  availableDigest : String
  enabledStateDigest : String
  createdAtMs : Int
  expiresAtMs : Int
  idempotencyKey : String
  requestDigest : String
  resourceKey : String
  managedConfig : Option ManagedConfigPlanPayload
  certbotRenew : Option CertbotRenewPlanPayload
  certbotIssue : Option CertbotIssuePlanPayload
  certbotAttach : Option CertbotAttachPlanPayload
  ufwRule : Option UfwPlanPayload
  deriving DecidableEq, Repr

def StoredPlan.beforeDigest (plan : StoredPlan) : String :=
  match plan.operationType with
  | .managedConfig | .managedConfigRestore | .certbotAttach => plan.availableDigest
  | _ => plan.enabledStateDigest

structure SnapshotRecord where
  relativePath : String
  digest : String
  deriving DecidableEq, Repr

structure StoredOperation where
  operationId : String
  plan : StoredPlan
  stage : OperationStage
  beforeDigest : String
  afterDigest : String
  rollbackResult : Option String
  snapshot : Option SnapshotRecord
  deriving DecidableEq, Repr

/-! ### Tables -/

/-- A row of `operations`; both snapshot columns are written together or not at all. -/
structure OperationRow where
  operationId : String
  planId : String
  stage : OperationStage
  beforeDigest : String
  afterDigest : String
  rollbackResult : Option String
  snapshot : Option SnapshotRecord
  createdAtMs : Int
  updatedAtMs : Int
  deriving DecidableEq, Repr

structure IdempotencyRow where
  idempotencyKey : String
  requestDigest : String
  planId : String
  operationId : Option String
  deriving DecidableEq, Repr

structure LockRow where
  resourceKey : String
  operationId : String
  acquiredAtMs : Int
  deriving DecidableEq, Repr

structure EventRow where
  sequence : Int
  operationId : String
  planId : String
  stage : OperationStage
  resultCode : String
  recordedAtMs : Int
  evidenceDigest : String
  previousDigest : String
  eventDigest : String
  deriving DecidableEq, Repr

structure DiagnosticsRow where
  sequence : Int
  diagnostics : List ManagedConfigDiagnosticView
  diagnosticsDigest : String
  validatorEvidenceDigest : String
  deriving DecidableEq, Repr

structure CommandRow where
  sequence : Int
  command : OperationCommandEvidenceView
  deriving DecidableEq, Repr

structure Checkpoint where
  schemaVersion : Nat
  sequence : Int
  eventDigest : String
  deriving DecidableEq, Repr

/-- The SQL tables, `metadata` apart. `ledgerEvents` is kept in the order of its key `sequence`. -/
structure Tables where
  plans : List StoredPlan
  operations : List OperationRow
  idempotency : List IdempotencyRow
  resourceLocks : List LockRow
  ledgerEvents : List EventRow
  managedConfigDiagnostics : List DiagnosticsRow
  operationCommandEvidence : List CommandRow
  deriving DecidableEq, Repr

/-- What a ledger keeps on disk. `metadata` is the value under the only key ever used in that
table, the sequence for which a checkpoint is still due; `checkpoint` is the checkpoint file. -/
structure LedgerState where
  tables : Tables
  metadata : Option Int
  checkpoint : Option Checkpoint
  deriving DecidableEq, Repr

def emptyTables : Tables := ⟨[], [], [], [], [], [], []⟩

def emptyLedger : LedgerState := ⟨emptyTables, none, none⟩

/-! ### Reads -/

namespace Tables

def findPlan (tables : Tables) (planId : String) : Option StoredPlan :=
  lookup StoredPlan.planId planId tables.plans

def findOperation (tables : Tables) (operationId : String) : Option OperationRow :=
  lookup OperationRow.operationId operationId tables.operations

def findOperationOfPlan (tables : Tables) (planId : String) : Option OperationRow :=
  lookup OperationRow.planId planId tables.operations

def findIdempotency (tables : Tables) (key : String) : Option IdempotencyRow :=
  lookup IdempotencyRow.idempotencyKey key tables.idempotency

def lastEvent (tables : Tables) : Option EventRow := tables.ledgerEvents.getLast?

/-- The rows of `resource_locks` owned by an operation. -/
def locksOf (tables : Tables) (operationId : String) : List LockRow :=
  tables.resourceLocks.filter fun row => row.operationId == operationId

/-- The chained events of an operation, oldest first. -/
def eventsOf (tables : Tables) (operationId : String) : List EventRow :=
  tables.ledgerEvents.filter fun row => row.operationId == operationId

end Tables

def loadPlanFrom (tables : Tables) (planId : String) : Except OpsError StoredPlan :=
  match tables.findPlan planId with
  | some plan => .ok plan
  | none => .error (.rejected "plan_missing")

def loadOperationFrom (tables : Tables) (operationId : String) :
    Except OpsError StoredOperation := do
  match tables.findOperation operationId with
  | none => throw (.rejected "operation_missing")
  | some row =>
    let plan ← loadPlanFrom tables row.planId
    pure {
      operationId := operationId
      plan := plan
      stage := row.stage
      beforeDigest := row.beforeDigest
      afterDigest := row.afterDigest
      rollbackResult := row.rollbackResult
      snapshot := row.snapshot }

end JwOps.Ledger.Schema
