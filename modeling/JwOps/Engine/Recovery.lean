/- module: Engine/Recovery
   source: crates/jw-opsd/src/engine.rs
   digest: Dispatch of an execution to its executor, and recovery of interrupted operations. -/
import JwOps.Engine.ManagedConfig
import JwOps.Engine.ServiceControl
import JwOps.Engine.Ufw

set_option autoImplicit false

namespace JwOps.Engine.Recovery

open Ledger Contracts.Operation Schema Writes Reads Interface Nginx Certbot Attach ManagedConfig
open ServiceControl Ufw Foundation.Program

variable (runtime : Runtime)

/-! ### Executing -/

/-- The executor of an approved operation. -/
def executeApproved (operation : StoredOperation) (nowMs : Int) : Ops OperationReceiptView :=
  match operation.plan.operationType with
  | .certbotIssue => executeCertbotIssue runtime operation nowMs
  | .certbotRenewTest => executeCertbotRenewTest runtime operation nowMs
  | .certbotAttach => executeCertbotAttach runtime operation nowMs
  | .managedConfig | .managedConfigRestore => executeManagedConfig runtime operation nowMs
  | .serviceControl => executeServiceControl runtime operation nowMs
  | .ufwRule => executeUfwRule runtime operation nowMs
  | .nginxSiteState => executeNginxSiteState runtime operation nowMs
  | .unregistered _ => throw .forensicLockdown

def executeOperation (actor : Subject) (operationId : String) (nowMs : Int) :
    Ops OperationReceiptView := do
  openLedger
  let operation ← loadOperation operationId
  rejectIf (operation.plan.actor ≠ actor) (.rejected "operation_access_denied")
  if operation.stage ≠ .approved then receipt operation.operationId
  else do
  mark operation.operationId
  executeApproved runtime operation nowMs

/-! ### Recovering -/

def recoverBeforeApply (operation : StoredOperation) (nowMs : Int) : Ops Unit := do
  let terminal ← transition operation.operationId (advance [operation.stage]
    .cancelledBeforeApply "recovered_before_apply" (codeDigest runtime "recovered_before_apply")
    nowMs)
  rejectIf (terminal.stage.isTerminal = false) .forensicLockdown
  removePlanProposal terminal.plan

/-- What an interrupted certbot command did outside the host is unknown. -/
def recoverCertbot (operation : StoredOperation) (resultCode : String) (nowMs : Int) :
    Ops Unit := do
  match operation.snapshot with
  | none => throw .forensicLockdown
  | some record => do
  -- an unusable snapshot leaves the operation where it is
  let _ ← readSnapshot runtime .certificateInventory record
  let terminal ← transition operation.operationId {
    expected := [operation.stage]
    next := .recoveryRequired
    resultCode := resultCode
    evidenceDigest := record.digest
    afterDigest := none
    rollbackResult := some "not_applicable_external_status_unknown"
    nowMs := nowMs }
  removePlanProposal terminal.plan

/-- The receipt of a rollback is dropped. -/
def dropReceipt (program : Ops OperationReceiptView) : Ops Unit := do
  let _ ← program

def recoverApplied (operation : StoredOperation) (nowMs : Int) : Ops Unit :=
  let cause := "restart_recovery"
  let evidence := codeDigest runtime cause
  let operationId := operation.operationId
  match operation.plan.operationType with
  | .certbotIssue => recoverCertbot runtime operation "certificate_issue_interrupted" nowMs
  | .certbotRenewTest => recoverCertbot runtime operation "renewal_test_interrupted" nowMs
  | .certbotAttach => dropReceipt (rollbackCertbotAttach runtime operationId cause evidence nowMs)
  | .managedConfig | .managedConfigRestore =>
    dropReceipt (rollbackManagedConfig runtime operationId cause evidence nowMs)
  | .serviceControl => dropReceipt (rollbackServiceControl runtime operationId cause evidence nowMs)
  | .ufwRule => dropReceipt (rollbackUfwRule runtime operationId cause evidence nowMs)
  | .nginxSiteState | .unregistered _ =>
    dropReceipt (rollback runtime operationId cause evidence nowMs)

/-- The branches of `recover_operation`. -/
def recoverStage (operation : StoredOperation) (nowMs : Int) : Ops Unit :=
  match operation.stage with
  | .approved | .snapshotted => recoverBeforeApply runtime operation nowMs
  | .applying | .validating | .reloading | .verifying | .rollingBack =>
    recoverApplied runtime operation nowMs
  | .planned => throw .forensicLockdown
  | .succeeded | .rolledBack | .recoveryRequired | .rejected | .expired
  | .cancelledBeforeApply => pure ()

def recoverOperation (operation : StoredOperation) (nowMs : Int) : Ops Unit := do
  mark operation.operationId
  recoverStage runtime operation nowMs

/-- The first error ends the loop and with it the start of the daemon. -/
def recoverAll (nowMs : Int) : List StoredOperation → Ops Unit
  | [] => pure ()
  | operation :: rest => do
    recoverOperation runtime operation nowMs
    recoverAll nowMs rest

def removeExpiredProposals (nowMs : Int) : Ops Unit := do
  let plans ← ledger (.expiredUnexecutedProposalPlans nowMs)
  plans.forM removePlanProposal

/-- `initialize`: a ledger that fails its own checks starts the daemon in lockdown. -/
def initializeService (nowMs : Int) : Ops Unit := do
  perform (.host .cleanupInternalTemporaries) id
  onError (ledger .openLedger)
    (fun error =>
      if error = .forensicLockdown then perform (.host .setForensicLockdown) .ok
      else throw error)
    fun _ => do
  let operations ← ledger .incompleteOperations
  recoverAll runtime nowMs operations
  removeExpiredProposals nowMs

end JwOps.Engine.Recovery
