/- module: Engine/ManagedConfig
   source: crates/jw-opsd/src/engine.rs, crates/jw-opsd/src/engine/managed_config_rollback.rs,
     crates/jw-opsd/src/managed_config.rs
   digest: Executing and rolling back the replacement of a managed configuration file. -/
import JwOps.Engine.Attach

set_option autoImplicit false

namespace JwOps.Engine.ManagedConfig

open Contracts Ledger Operation Digest Config Schema Writes Reads Interface Replace Nginx Attach
open Foundation.Program

variable (runtime : Runtime)

def managedConfigTestSucceeded (adapter : ManagedConfigAdapter) (evidence : CommandEvidence) :
    Bool :=
  match adapter.service with
  | .nginx | .apache => evidence.success
  | .phpFpm83 => evidence.success && !runtime.phpSyntaxReported evidence

def validateManagedConfigCandidate (adapter : ManagedConfigAdapter) (current proposed : Bytes) :
    Except OpsError Unit :=
  match adapter with
  | .phpFpm83Ini => runtime.validatePhpIniCandidate current proposed
  | .phpFpm83Global | .phpFpm83PoolWww | .phpFpm83Pool =>
    runtime.validatePhpFpmCandidate current proposed
  | _ => .ok ()

/-- At most 32 of the parsed diagnostics are looked at, and only well-shaped ones are kept. -/
def managedConfigDiagnostics (resource : ManagedConfigResource) (evidence : CommandEvidence)
    (changedLines : List UInt32) (proposed : Bytes) : List ManagedConfigDiagnosticView :=
  ((runtime.diagnosticCandidates resource evidence changedLines proposed).take
    managedConfigDiagnosticMaxEntries).filter fun view => view.validateShape.toBool

/-! ### Ends that leave the file alone -/

def cancelManagedBeforeApply (operation : StoredOperation) (resultCode : String) (nowMs : Int) :
    Ops OperationReceiptView := do
  let terminal ← transition operation.operationId
    (advance [.approved] .cancelledBeforeApply resultCode (codeDigest runtime resultCode) nowMs)
  let answer ← receipt terminal.operationId
  removePlanProposal operation.plan
  pure answer

/-- The active check of a reload plan; a validate-only plan has none. -/
def runActive (adapter : ManagedConfigAdapter) (action : ServiceAction) :
    Ops (Option (Except OpsError CommandEvidence)) :=
  if action = .reload then do
    let active ← attempt (run adapter.active)
    pure (some active)
  else pure none

def serviceVerified : Option (Except OpsError CommandEvidence) → Bool
  | none => true
  | some result => succeeded result

def finishManagedNoop (operation : StoredOperation) (proposal : ProposalRecord)
    (adapter : ManagedConfigAdapter) (nowMs : Int) : Ops OperationReceiptView := do
  let _ ← transition operation.operationId
    (advance [.snapshotted] .verifying "no_change_required" operation.plan.availableDigest nowMs)
  let config ← attempt (run adapter.configTest)
  match operation.plan.managedConfig with
  | none => throw .forensicLockdown
  | some payload => do
  let active ← runActive adapter payload.serviceAction
  let configValid := match config with
    | .ok evidence => managedConfigTestSucceeded runtime adapter evidence
    | .error _ => false
  if !(configValid && serviceVerified active) then do
    let cancelled ← transition operation.operationId
      (advance [.verifying] .cancelledBeforeApply "preexisting_validation_failed"
        (codeDigest runtime "preexisting_validation_failed") nowMs)
    let answer ← receipt cancelled.operationId
    removePlanProposal operation.plan
    pure answer
  else do
  let evidence ← lift (active.getD config)
  let succeeded ← transition operation.operationId {
    expected := [.verifying]
    next := .succeeded
    resultCode := "verified_noop"
    evidenceDigest := digestOf runtime evidence
    afterDigest := some operation.plan.availableDigest
    rollbackResult := none
    nowMs := nowMs }
  let answer ← receipt succeeded.operationId
  cleanupProposal proposal
  pure answer

/-! ### Rolling back -/

structure ManagedConfigRollbackEvidence where
  cause : String
  digest : String
  diagnostics : List ManagedConfigDiagnosticView
  command : Option OperationCommandEvidenceView
  deriving DecidableEq, Repr

/-- Enters `ROLLING_BACK` together with the evidence at hand. -/
def startManagedRollback (operationId : String) (evidence : ManagedConfigRollbackEvidence)
    (nowMs : Int) : Ops StoredOperation := do
  let operation ← loadOperation operationId
  let change := advance rollbackStages .rollingBack evidence.cause evidence.digest nowMs
  if operation.stage = .rollingBack then pure operation
  else
    match evidence.diagnostics, evidence.command with
    | [], none => transition operationId change
    | [], some command =>
      transitionWithCommandEvidence runtime.toCodec operationId change command
    | diagnostics, none =>
      transitionWithDiagnostics runtime.toCodec operationId change diagnostics
    | diagnostics, some command =>
      transitionWithDiagnosticsAndCommand runtime.toCodec operationId change diagnostics command

/-- The last transition of a rollback that was verified. -/
def finishManagedRollback (operationId : String) (snapshot : ManagedConfigSnapshot)
    (evidence : CommandEvidence) (nowMs : Int) : Ops OperationReceiptView := do
  let terminal ← transitionWithCommandEvidence runtime.toCodec operationId {
    expected := [.rollingBack]
    next := .rolledBack
    resultCode := "rollback_verified"
    evidenceDigest := digestOf runtime evidence
    afterDigest := some snapshot.contentDigest
    rollbackResult := some "verified"
    nowMs := nowMs } (commandEvidenceView evidence)
  let answer ← receipt terminal.operationId
  (terminal.plan.managedConfig.toList.map fun payload =>
    ProposalRecord.mk payload.proposalRelativePath payload.proposalDigest).forM cleanupProposal
  pure answer

/-- Whether the restored file is the one of the snapshot and its test succeeded. -/
def restoredMatches (restored : ManagedConfigResource) (snapshot : ManagedConfigSnapshot)
    (config : CommandEvidence) : Bool :=
  restored.contentDigest == snapshot.contentDigest &&
    restored.metadataDigest == snapshot.metadataDigest && config.success

/-- From the restored file on. -/
def verifyManagedRollback (rolling : StoredOperation) (operationId : String)
    (snapshot : ManagedConfigSnapshot) (restored : ManagedConfigResource) (nowMs : Int) :
    Ops OperationReceiptView := do
  let required (reason : String) := recoveryRequired runtime operationId reason nowMs
  onError (run restored.adapter.configTest) (fun _ => required "rollback_syntax_failed")
    fun config => do
  if !managedConfigTestSucceeded runtime restored.adapter config then
    required "rollback_syntax_failed"
  else do
  if rolling.plan.managedConfig.any fun payload => payload.serviceAction = .validateOnly then
    if !restoredMatches restored snapshot config then required "rollback_verify_failed"
    else finishManagedRollback runtime operationId snapshot config nowMs
  else do
  onError (run restored.adapter.reload) (fun _ => required "rollback_reload_failed")
    fun reload => do
  if !reload.success then required "rollback_reload_failed"
  else do
  onError (run restored.adapter.active) (fun _ => required "rollback_active_failed")
    fun active => do
  if !active.success then required "rollback_active_failed"
  else if !restoredMatches restored snapshot config then required "rollback_verify_failed"
  else finishManagedRollback runtime operationId snapshot active nowMs

def rollbackManagedConfigWithEvidence (operationId : String)
    (evidence : ManagedConfigRollbackEvidence) (nowMs : Int) : Ops OperationReceiptView := do
  let rolling ← startManagedRollback runtime operationId evidence nowMs
  match rolling.snapshot with
  | none => recoveryRequired runtime operationId "snapshot_missing" nowMs
  | some record => do
  onError (readSnapshot runtime .managedConfig record)
    (fun error => recoveryRequired runtime operationId error.code nowMs) fun snapshot => do
  onError (restoreManagedConfig snapshot.resourceId snapshot.basename snapshot.content
      snapshot.mode snapshot.uid snapshot.gid)
    (fun _ => recoveryRequired runtime operationId "rollback_replace_failed" nowMs)
    fun restored => do
  verifyManagedRollback runtime rolling operationId snapshot restored nowMs

def rollbackManagedConfig (operationId cause causeEvidenceDigest : String) (nowMs : Int) :
    Ops OperationReceiptView :=
  rollbackManagedConfigWithEvidence runtime operationId ⟨cause, causeEvidenceDigest, [], none⟩
    nowMs

/-! ### Executing -/

/-- The replaced file as the read-back before success has to find it. -/
def contentVerified (plan : StoredPlan) (payload : ManagedConfigPlanPayload)
    (readBack : Except OpsError ManagedConfigResource) : Bool :=
  match readBack with
  | .ok resource => resource.contentDigest == payload.proposedContentDigest &&
      resource.metadataDigest == plan.enabledStateDigest
  | .error _ => false

/-- The read-back and the active check; `config` is the successful configuration test and
`verificationDigest` the digest of the last command before. -/
def verifyManagedConfig (snapshotted : StoredOperation) (payload : ManagedConfigPlanPayload)
    (proposal : ProposalRecord) (adapter : ManagedConfigAdapter) (config : CommandEvidence)
    (verificationDigest : String) (nowMs : Int) : Ops OperationReceiptView := do
  let readBack ← attempt (discoverManagedConfig snapshotted.plan.siteId)
  let active ← runActive adapter payload.serviceAction
  if !(contentVerified snapshotted.plan payload readBack && serviceVerified active) then
    match active with
    | some (.ok value) =>
      rollbackManagedConfigWithEvidence runtime snapshotted.operationId
        ⟨"read_back_failed", digestOf runtime value, [], some (commandEvidenceView value)⟩ nowMs
    | some (.error _) =>
      rollbackManagedConfig runtime snapshotted.operationId "read_back_failed"
        (codeDigest runtime adapter.active.asStr) nowMs
    | none =>
      rollbackManagedConfig runtime snapshotted.operationId "read_back_failed"
        verificationDigest nowMs
  else do
  let command ← lift (active.getD (.ok config))
  let succeeded ← transitionWithCommandEvidence runtime.toCodec snapshotted.operationId {
    expected := [.verifying]
    next := .succeeded
    resultCode := "config_verified"
    evidenceDigest := digestOf runtime command
    afterDigest := some payload.proposedContentDigest
    rollbackResult := none
    nowMs := nowMs } (commandEvidenceView command)
  let answer ← receipt succeeded.operationId
  cleanupProposal proposal
  pure answer

/-- The reload of a reload plan. -/
def reloadManagedConfig (snapshotted : StoredOperation) (payload : ManagedConfigPlanPayload)
    (proposal : ProposalRecord) (adapter : ManagedConfigAdapter) (config : CommandEvidence)
    (nowMs : Int) : Ops OperationReceiptView := do
  onError (run adapter.reload)
    (fun error => rollbackManagedConfig runtime snapshotted.operationId
      (adapter.reload.asStr ++ "_unavailable") (codeDigest runtime error.code) nowMs)
    fun reload => do
  if !reload.success then
    rollbackManagedConfigWithEvidence runtime snapshotted.operationId
      ⟨adapter.reload.asStr ++ "_failed", digestOf runtime reload, [],
        some (commandEvidenceView reload)⟩ nowMs
  else do
  let _ ← transitionWithCommandEvidence runtime.toCodec snapshotted.operationId
    (advance [.reloading] .verifying adapter.reloadedCode (digestOf runtime reload) nowMs)
    (commandEvidenceView reload)
  verifyManagedConfig runtime snapshotted payload proposal adapter config
    (digestOf runtime reload) nowMs

/-- From the replacement to the configuration test. -/
def applyManagedConfig (snapshotted : StoredOperation) (payload : ManagedConfigPlanPayload)
    (proposal : ProposalRecord) (preflight : ManagedConfigResource) (proposed : Bytes)
    (nowMs : Int) : Ops OperationReceiptView := do
  let _ ← transition snapshotted.operationId (advance [.snapshotted] .applying
    "config_apply_started" preflight.contentDigest nowMs)
  onError (replaceManagedConfig runtime.toCodec preflight proposed)
    (fun error => rollbackManagedConfig runtime snapshotted.operationId error.code
      (codeDigest runtime error.code) nowMs) fun applied => do
  let _ ← transition snapshotted.operationId (advance [.applying] .validating
    "config_replaced" applied.contentDigest nowMs)
  onError (run preflight.adapter.configTest)
    (fun error => rollbackManagedConfig runtime snapshotted.operationId
      (preflight.adapter.configTest.asStr ++ "_unavailable") (codeDigest runtime error.code)
      nowMs) fun configTest => do
  if !managedConfigTestSucceeded runtime preflight.adapter configTest then
    rollbackManagedConfigWithEvidence runtime snapshotted.operationId
      ⟨runtime.managedConfigFailureCode preflight.adapter configTest preflight.basename,
        digestOf runtime configTest,
        managedConfigDiagnostics runtime preflight configTest
          (runtime.changedCandidateLines preflight.content proposed) proposed,
        some (commandEvidenceView configTest)⟩ nowMs
  else do
  let reloads := payload.serviceAction = .reload
  let _ ← transitionWithCommandEvidence runtime.toCodec snapshotted.operationId
    (advance [.validating] (if reloads then .reloading else .verifying)
      preflight.adapter.configValidCode (digestOf runtime configTest) nowMs)
    (commandEvidenceView configTest)
  if reloads then
    reloadManagedConfig runtime snapshotted payload proposal preflight.adapter configTest nowMs
  else
    verifyManagedConfig runtime snapshotted payload proposal preflight.adapter configTest
      (digestOf runtime configTest) nowMs

/-- Whether a validate-only plan meets a running service, which then has to be reloaded. -/
def activeServiceBlocks (preflight : ManagedConfigResource) (payload : ManagedConfigPlanPayload) :
    Ops Bool :=
  if payload.serviceAction = .validateOnly then do
    let active ← attempt (run preflight.adapter.active)
    pure (succeeded active)
  else pure false

def executeManagedConfig (operation : StoredOperation) (nowMs : Int) :
    Ops OperationReceiptView := do
  match operation.plan.managedConfig with
  | none => throw .forensicLockdown
  | some payload => do
  let cancel (code : String) := cancelManagedBeforeApply runtime operation code nowMs
  onError (discoverManagedConfig operation.plan.siteId) (fun error => cancel error.code)
    fun preflight => do
  if preflight.contentDigest ≠ operation.plan.availableDigest ∨
      preflight.metadataDigest ≠ operation.plan.enabledStateDigest then cancel "stale_resource"
  else do
  let blocks ← activeServiceBlocks preflight payload
  if blocks then cancel "reload_required_for_active_service"
  else do
  let proposal : ProposalRecord := ⟨payload.proposalRelativePath, payload.proposalDigest⟩
  onError (readProposal runtime proposal) (fun error => cancel error.code) fun proposed => do
  if sha256Digest runtime.toCodec proposed ≠ payload.proposedContentDigest then
    cancel "proposal_digest_mismatch"
  else do
  onError (lift (validateManagedConfigCandidate runtime preflight.adapter preflight.content
      proposed)) (fun error => cancel error.code) fun _ => do
  onError (writeSnapshot runtime .managedConfig operation.operationId (snapshotOf preflight))
    (fun error => cancel error.code) fun record => do
  let snapshotted ← attachSnapshot operation.operationId record nowMs
  if preflight.contentDigest = payload.proposedContentDigest then
    finishManagedNoop runtime snapshotted proposal preflight.adapter nowMs
  else applyManagedConfig runtime snapshotted payload proposal preflight proposed nowMs

end JwOps.Engine.ManagedConfig
