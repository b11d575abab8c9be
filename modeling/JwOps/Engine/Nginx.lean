/- module: Engine/Nginx
   source: crates/jw-opsd/src/engine.rs
   digest: Executing and rolling back a change of an nginx site's enabled state. -/
import JwOps.Engine.Replace

set_option autoImplicit false

namespace JwOps.Engine.Nginx

open Contracts Ledger Operation Digest Config Schema Writes Reads Interface Replace
open Foundation.Program

variable (runtime : Runtime)

/-- The evidence digest of a bare result code. -/
def codeDigest (code : String) : String := sha256Digest runtime.toCodec (utf8Bytes code)

def digestOf (evidence : CommandEvidence) : String := commandDigest runtime.toCodec evidence

/-- Ends an approved operation before it had any effect. -/
def cancelApproved (operation : StoredOperation) (resultCode evidenceDigest : String)
    (nowMs : Int) : Ops OperationReceiptView := do
  let terminal ← transition operation.operationId
    (advance [.approved] .cancelledBeforeApply resultCode evidenceDigest nowMs)
  receipt terminal.operationId

def recoveryRequired (operationId reason : String) (nowMs : Int) : Ops OperationReceiptView := do
  let terminal ← transition operationId {
    expected := [.rollingBack]
    next := .recoveryRequired
    resultCode := reason
    evidenceDigest := codeDigest runtime reason
    afterDigest := none
    rollbackResult := some "failed"
    nowMs := nowMs }
  let answer ← receipt terminal.operationId
  removePlanProposal terminal.plan
  pure answer

def validatePrecondition (operation : StoredOperation) : Ops NginxSite := do
  let site ← discoverSite operation.plan.siteId
  rejectIf (site.isProtected = true) (.rejected "protected_resource")
  rejectIf (site.availableDigest ≠ operation.plan.availableDigest ∨
    site.enabledStateDigest ≠ operation.plan.enabledStateDigest ∨
    site.state ≠ operation.plan.currentState) (.rejected "precondition_changed")
  pure site

/-! ### No change required -/

def cancelNoop (operation : StoredOperation) (resultCode evidenceDigest : String)
    (nowMs : Int) : Ops OperationReceiptView := do
  let cancelled ← transition operation.operationId
    (advance [.verifying] .cancelledBeforeApply resultCode evidenceDigest nowMs)
  receipt cancelled.operationId

def finishNoop (operation : StoredOperation) (nowMs : Int) : Ops OperationReceiptView := do
  let _ ← transition operation.operationId
    (advance [.snapshotted] .verifying "no_change_required" operation.plan.enabledStateDigest nowMs)
  onError (run .nginxConfigTest)
    (fun error => cancelNoop operation error.code (codeDigest runtime error.code) nowMs)
    fun config => do
  onError (run .nginxActive)
    (fun error => cancelNoop operation error.code (codeDigest runtime error.code) nowMs)
    fun active => do
  if !config.success || !active.success then
    cancelNoop operation "preexisting_validation_failed" (digestOf runtime active) nowMs
  else do
  let succeeded ← transition operation.operationId {
    expected := [.verifying]
    next := .succeeded
    resultCode := "verified_noop"
    evidenceDigest := digestOf runtime active
    afterDigest := some operation.plan.enabledStateDigest
    rollbackResult := none
    nowMs := nowMs }
  receipt succeeded.operationId

/-! ### Rolling back -/

/-- The stages from which every rollback but the one of services starts. -/
def rollbackStages : List OperationStage :=
  [.applying, .validating, .reloading, .verifying, .rollingBack]

/-- Enters `ROLLING_BACK`, unless a rollback was already under way. -/
def startRollback (operationId : String) (expected : List OperationStage)
    (cause causeEvidenceDigest : String) (nowMs : Int) : Ops StoredOperation := do
  let operation ← loadOperation operationId
  if operation.stage = .rollingBack then pure operation
  else transition operationId (advance expected .rollingBack cause causeEvidenceDigest nowMs)

def failedEvidence (class_ : CommandClass) : CommandEvidence where
  class_ := class_
  success := false
  exitCode := none
  timedOut := false
  stdout := ⟨sha256Digest runtime.toCodec [], [], false⟩
  stderr := ⟨sha256Digest runtime.toCodec [], [], false⟩

/-- Runs a command only after the one before it succeeded. -/
def runAfter (previous : CommandEvidence) (command : CommandClass) : Ops CommandEvidence :=
  if previous.success then run command else pure (failedEvidence runtime command)

def rollback (operationId cause causeEvidenceDigest : String) (nowMs : Int) :
    Ops OperationReceiptView := do
  let rolling ← startRollback operationId rollbackStages cause causeEvidenceDigest nowMs
  match rolling.snapshot with
  | none => recoveryRequired runtime operationId "snapshot_missing" nowMs
  | some record => do
  onError (readSnapshot runtime .nginxLink record)
    (fun error => recoveryRequired runtime operationId error.code nowMs) fun snapshot => do
  onError (discoverSite snapshot.siteId)
    (fun error => recoveryRequired runtime operationId error.code nowMs) fun current => do
  onError (setEnabled runtime.paths current snapshot.enabled)
    (fun _ => recoveryRequired runtime operationId "rollback_link_failed" nowMs) fun _ => do
  onError (run .nginxConfigTest)
    (fun error => recoveryRequired runtime operationId error.code nowMs) fun config => do
  onError (runAfter runtime config .nginxReload)
    (fun error => recoveryRequired runtime operationId error.code nowMs) fun reload => do
  onError (runAfter runtime reload .nginxActive)
    (fun error => recoveryRequired runtime operationId error.code nowMs) fun active => do
  let restored ← attempt (discoverSite snapshot.siteId)
  let restoredMatches := match restored with
    | .ok site => site.availableDigest == snapshot.availableDigest &&
        site.enabledStateDigest == snapshot.enabledStateDigest
    | .error _ => false
  if !(restoredMatches && config.success && reload.success && active.success) then
    recoveryRequired runtime operationId "rollback_verify_failed" nowMs
  else do
  let terminal ← transition operationId {
    expected := [.rollingBack]
    next := .rolledBack
    resultCode := "rollback_verified"
    evidenceDigest := digestOf runtime active
    afterDigest := some snapshot.enabledStateDigest
    rollbackResult := some "verified"
    nowMs := nowMs }
  let answer ← receipt terminal.operationId
  removePlanProposal terminal.plan
  pure answer

/-! ### Executing -/

/-- From the reload on; every failure rolls back. -/
def reloadAndVerify (snapshotted : StoredOperation) (nowMs : Int) : Ops OperationReceiptView := do
  let back (cause evidence : String) :=
    rollback runtime snapshotted.operationId cause evidence nowMs
  onError (run .nginxReload)
    (fun error => back "nginx_reload_unavailable" (codeDigest runtime error.code)) fun reload => do
  if !reload.success then back "nginx_reload_failed" (digestOf runtime reload)
  else do
  let _ ← transition snapshotted.operationId
    (advance [.reloading] .verifying "nginx_reloaded" (digestOf runtime reload) nowMs)
  onError (discoverSite snapshotted.plan.siteId)
    (fun error => back "read_back_unavailable" (codeDigest runtime error.code)) fun after => do
  onError (run .nginxActive)
    (fun error => back "nginx_active_unavailable" (codeDigest runtime error.code)) fun active => do
  if after.state ≠ snapshotted.plan.targetState ∨
      after.availableDigest ≠ snapshotted.plan.availableDigest ∨ active.success = false then
    back "read_back_failed" (digestOf runtime active)
  else do
  let succeeded ← transition snapshotted.operationId {
    expected := [.verifying]
    next := .succeeded
    resultCode := "verified"
    evidenceDigest := digestOf runtime active
    afterDigest := some after.enabledStateDigest
    rollbackResult := none
    nowMs := nowMs }
  receipt succeeded.operationId

/-- From the link change to the configuration test. -/
def applySiteState (preflight : NginxSite) (snapshotted : StoredOperation) (nowMs : Int) :
    Ops OperationReceiptView := do
  let back (cause evidence : String) :=
    rollback runtime snapshotted.operationId cause evidence nowMs
  let target := snapshotted.plan.targetState == .enabled
  let _ ← transition snapshotted.operationId
    (advance [.snapshotted] .applying "apply_started" preflight.enabledStateDigest nowMs)
  onError (setEnabled runtime.paths preflight target)
    (fun error => back error.code (codeDigest runtime error.code)) fun _ => do
  let _ ← transition snapshotted.operationId
    (advance [.applying] .validating "link_applied"
      (nginxEnabledStateDigest runtime.toCodec target) nowMs)
  onError (run .nginxConfigTest)
    (fun error => back "nginx_config_test_unavailable" (codeDigest runtime error.code))
    fun configTest => do
  if !configTest.success then back "nginx_config_test_failed" (digestOf runtime configTest)
  else do
  let _ ← transition snapshotted.operationId
    (advance [.validating] .reloading "nginx_config_valid" (digestOf runtime configTest) nowMs)
  reloadAndVerify runtime snapshotted nowMs

/-- The part of `execute_operation` that follows the dispatch on the operation type. -/
def executeNginxSiteState (operation : StoredOperation) (nowMs : Int) :
    Ops OperationReceiptView := do
  let cancel (error : OpsError) :=
    cancelApproved operation error.code (codeDigest runtime error.code) nowMs
  onError (validatePrecondition operation) cancel fun preflight => do
  let snapshot : NginxLinkSnapshot := {
    schemaVersion := 1
    siteId := preflight.siteId
    basename := preflight.basename
    enabled := preflight.state == .enabled
    availableDigest := preflight.availableDigest
    enabledStateDigest := preflight.enabledStateDigest }
  onError (writeSnapshot runtime .nginxLink operation.operationId snapshot) cancel fun record => do
  let snapshotted ← attachSnapshot operation.operationId record nowMs
  if snapshotted.plan.currentState = snapshotted.plan.targetState then
    finishNoop runtime snapshotted nowMs
  else applySiteState runtime preflight snapshotted nowMs

end JwOps.Engine.Nginx
