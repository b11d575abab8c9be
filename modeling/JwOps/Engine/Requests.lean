/- module: Engine/Requests
   source: crates/jw-opsd/src/engine.rs, crates/jw-opsd/src/engine/managed_config_plan.rs
   digest: The requests that change the ledger: planning, approving and executing. -/
import JwOps.Engine.Recovery

set_option autoImplicit false

namespace JwOps.Engine.Requests

open Contracts Ledger Operation Digest Config Certificate Schema Writes Reads Interface Replace
open Certbot ManagedConfig Recovery Foundation.Program

/-! ### Shared checks -/

/-- A tag, an underscore and the lower-case digits of random bytes. -/
def idOf (start : String) (bytes : Bytes) : String :=
  start ++ "_" ++ String.ofList (bytes.flatMap hexByte)

def randomId (start : String) : Ops String := do
  let bytes ← perform (.host .randomBytes) id
  pure (idOf start bytes)

def requireWriteAvailable : Ops Unit := do
  let locked ← perform (.host .forensicLockdown) .ok
  rejectIf (locked = true) .forensicLockdown

def requireOperator (actor : Subject) : Ops Unit :=
  rejectIf (actor.role ≠ .admin ∧ actor.role ≠ .operator) (.rejected "role_denied")

variable (runtime : Runtime)

/-! ### Planning a configuration change -/

structure ManagedPlanStorage where
  planId : String
  proposal : ProposalRecord
  operationType : OperationType
  requestDigest : String

def i64SaturatingAdd (value amount : Int) : Int := max (min (value + amount) i64Max) i64Min

def managedConfigPlanHash (plan : StoredPlan) : Except OpsError String := do
  if plan.managedConfig.isNone then throw .forensicLockdown
  let _ ← managedConfigAdapter runtime.toCodec plan.siteId
  pure (canonicalDigest runtime.toCodec "jw-agent/operation-plan/v1"
    (runtime.managedPlanJson plan))

/-- The plan that is stored, without its hash. -/
def managedConfigPlan (actor : Subject) (request : ManagedConfigPlanRequest)
    (resource : ManagedConfigResource) (storage : ManagedPlanStorage) (nowMs : Int) :
    StoredPlan :=
  let stats := runtime.diffStats resource.content request.proposedContent
  let payload : ManagedConfigPlanPayload := {
    proposalRelativePath := storage.proposal.relativePath
    proposalDigest := storage.proposal.digest
    basename := some resource.basename
    proposedContentDigest := sha256Digest runtime.toCodec request.proposedContent
    currentBytes := UInt32.ofNat resource.content.length
    proposedBytes := UInt32.ofNat request.proposedContent.length
    addedLines := stats.addedLines
    removedLines := stats.removedLines
    diffSummary := stats.summary
    serviceAction := request.serviceAction }
  { operationType := storage.operationType
    planId := storage.planId
    planHash := ""
    actor := actor
    siteId := resource.resourceId
    displayName := resource.displayName
    currentState := .disabled
    targetState := .disabled
    availableDigest := resource.contentDigest
    enabledStateDigest := resource.metadataDigest
    createdAtMs := nowMs
    expiresAtMs := i64SaturatingAdd nowMs runtime.planTtlMs
    idempotencyKey := request.idempotencyKey
    requestDigest := storage.requestDigest
    resourceKey := "config/" ++ resource.adapter.adapterId ++ "/" ++ request.resourceId
    managedConfig := some payload
    certbotRenew := none
    certbotIssue := none
    certbotAttach := none
    ufwRule := none }

def storeManagedConfigPlan (actor : Subject) (request : ManagedConfigPlanRequest)
    (resource : ManagedConfigResource) (storage : ManagedPlanStorage) (nowMs : Int) :
    Ops StoredPlan := do
  rejectIf (i64Max < runtime.planTtlMs) (.storage "plan ttl overflow")
  rejectIf (2 ^ 32 ≤ resource.content.length ∨ 2 ^ 32 ≤ request.proposedContent.length)
    (.rejected "size_limit")
  let plan := managedConfigPlan runtime actor request resource storage nowMs
  let planHash ← lift (managedConfigPlanHash runtime plan)
  openLedger
  ledger (.createOrReusePlan { plan with planHash := planHash })

/-- What is answered for a stored plan; the texts of the view are left out. -/
def managedConfigPlanView (plan : StoredPlan) : Except OpsError StoredPlan :=
  if plan.operationType ≠ .managedConfig ∧ plan.operationType ≠ .managedConfigRestore then
    .error (.rejected "operation_type")
  else if plan.managedConfig.isNone then .error .forensicLockdown
  else do
  let _ ← managedConfigAdapter runtime.toCodec plan.siteId
  let _ ← formatTime runtime.toCodec plan.createdAtMs
  let _ ← formatTime runtime.toCodec plan.expiresAtMs
  pure plan

/-- A plan that was not stored under the new identifier drops the proposal written for it. -/
def keepOrDropProposal (proposal : ProposalRecord) (planId : String)
    (result : Except OpsError StoredPlan) : Ops StoredPlan :=
  match result with
  | .ok stored =>
    if stored.planId ≠ planId then do
      cleanupProposal proposal
      openLedger
      lift (managedConfigPlanView runtime stored)
    else do
      openLedger
      lift (managedConfigPlanView runtime stored)
  | .error error => do
    cleanupProposal proposal
    throw error

def planManagedConfig (actor : Subject) (request : ManagedConfigPlanRequest) (nowMs : Int) :
    Ops StoredPlan := do
  lift ((request.validate runtime.toCodec).mapError .rejected)
  openLedger
  removeExpiredProposals nowMs
  let resource ← discoverManagedConfig request.resourceId
  rejectIf (resource.adapter.maximumBytes < request.proposedContent.length)
    (.rejected "size_limit")
  rejectIf (resource.contentDigest ≠ request.expectedContentDigest ∨
    resource.metadataDigest ≠ request.expectedMetadataDigest) (.rejected "stale_resource")
  lift (validateManagedConfigCandidate runtime resource.adapter resource.content
    request.proposedContent)
  let planId ← randomId "plan"
  let proposal ← writeProposal runtime planId request.proposedContent
  let requestDigest := canonicalDigest runtime.toCodec "jw-agent/operation-request/v1"
    (runtime.managedRequestJson actor request)
  let result ← attempt (storeManagedConfigPlan runtime actor request resource
    ⟨planId, proposal, .managedConfig, requestDigest⟩ nowMs)
  keepOrDropProposal runtime proposal planId result

/-- The snapshot that a succeeded configuration operation of the same user left behind. -/
def restoreSource (actor : Subject) (source : StoredOperation) :
    Except OpsError SnapshotRecord :=
  if source.plan.actor.uid ≠ actor.uid ∨
      (source.plan.operationType ≠ .managedConfig ∧
        source.plan.operationType ≠ .managedConfigRestore) ∨ source.stage ≠ .succeeded then
    .error (.rejected "restore_source_unavailable")
  else
    match source.snapshot with
    | some record => .ok record
    | none => .error (.rejected "restore_source_unavailable")

def planManagedConfigRestore (actor : Subject) (request : ManagedConfigRestorePlanRequest)
    (nowMs : Int) : Ops StoredPlan := do
  lift (request.validate.mapError .rejected)
  openLedger
  let source ← loadOperation request.sourceOperationId
  let record ← lift (restoreSource actor source)
  let snapshot ← readSnapshot runtime .managedConfig record
  let resource ← discoverManagedConfig snapshot.resourceId
  rejectIf (resource.contentDigest ≠ request.expectedContentDigest ∨
    resource.metadataDigest ≠ request.expectedMetadataDigest) (.rejected "stale_resource")
  lift (validateManagedConfigCandidate runtime resource.adapter resource.content snapshot.content)
  let planId ← randomId "plan"
  let proposal ← writeProposal runtime planId snapshot.content
  let internal : ManagedConfigPlanRequest := {
    schemaVersion := request.schemaVersion
    operationType := .managedConfig
    resourceId := snapshot.resourceId
    expectedContentDigest := request.expectedContentDigest
    expectedMetadataDigest := request.expectedMetadataDigest
    proposedContent := snapshot.content
    serviceAction := .reload
    idempotencyKey := request.idempotencyKey }
  let requestDigest := canonicalDigest runtime.toCodec "jw-agent/operation-request/v1"
    (runtime.managedRestoreRequestJson actor request)
  let result ← attempt (storeManagedConfigPlan runtime actor internal resource
    ⟨planId, proposal, .managedConfigRestore, requestDigest⟩ nowMs)
  keepOrDropProposal runtime proposal planId result

/-! ### Planning a certificate -/

/-- What a rehearsal and the issue that relies on it have in common. -/
def stagingEvidenceKey (domains : List String) (siteDigest : String)
    (resolvedAddresses : List String) : String :=
  canonicalDigest runtime.toCodec "jw-agent/certbot-staging-evidence/v1"
    (runtime.stagingEvidenceJson domains siteDigest resolvedAddresses)

/-- The site that must serve the challenge. -/
def validateIssuePreconditions (input : CertbotIssuePlanInput) (nowMs : Int) : Ops NginxSite := do
  lift ((input.validate runtime.parseIpAddr nowMs).mapError .rejected)
  validateIssueSite runtime input.request.siteId input.request.expectedSiteDigest
    input.request.domains

def certbotIssuePlanPayload (input : CertbotIssuePlanInput) (site : NginxSite)
    (inventory : CertificateInventoryView) (proposal : ProposalRecord)
    (stagingEvidenceValid : Bool) : CertbotIssuePlanPayload where
  primaryDomain := input.request.primaryDomain
  domains := input.request.domains
  accountEmailProposalRelativePath := proposal.relativePath
  accountEmailProposalDigest := proposal.digest
  maskedAccountEmail := maskAccountEmail input.request.accountEmail
  environment := input.request.environment
  siteId := site.siteId
  siteDigest := site.availableDigest
  inventoryDigest := inventory.inventoryDigest
  preflightObservedAtMs := input.preflight.observedAtUnixMs
  resolvedAddresses := input.preflight.resolvedAddresses
  localPort80Reachable := input.preflight.localPort80Reachable
  localPort443Reachable := input.preflight.localPort443Reachable
  stagingEvidenceValid := stagingEvidenceValid
  stagingEvidenceKey := stagingEvidenceKey runtime input.request.domains site.availableDigest
    input.preflight.resolvedAddresses

/-- The digest by which a repeated request is told from another one under the same key. -/
def certbotIssueRequestDigest (actor : Subject) (input : CertbotIssuePlanInput) : String :=
  canonicalDigest runtime.toCodec "jw-agent/operation-request/v1"
    (runtime.issueRequestJson actor input)

/-- The plan that is stored, with its hash. -/
def certbotIssuePlan (actor : Subject) (input : CertbotIssuePlanInput) (planId : String)
    (payload : CertbotIssuePlanPayload) (nowMs : Int) : StoredPlan :=
  let plan : StoredPlan := {
    operationType := .certbotIssue
    planId := planId
    planHash := ""
    actor := actor
    siteId := payload.siteId
    displayName := input.request.primaryDomain
    currentState := .disabled
    targetState := .disabled
    availableDigest := payload.inventoryDigest
    enabledStateDigest := payload.inventoryDigest
    createdAtMs := nowMs
    expiresAtMs := i64SaturatingAdd nowMs runtime.planTtlMs
    idempotencyKey := input.request.idempotencyKey
    requestDigest := certbotIssueRequestDigest runtime actor input
    resourceKey := "certbot/global"
    managedConfig := none
    certbotRenew := none
    certbotIssue := some payload
    certbotAttach := none
    ufwRule := none }
  let planHash := canonicalDigest runtime.toCodec "jw-agent/operation-plan/v1"
    (runtime.issuePlanJson plan)
  { plan with planHash := planHash }

/-- The view of a stored plan, which only fails on a plan of another type or a time without a
text; its data are those of the plan. -/
def certbotIssuePlanView (plan : StoredPlan) : Except OpsError StoredPlan :=
  if plan.operationType ≠ .certbotIssue then .error (.rejected "operation_type")
  else if plan.certbotIssue.isNone then .error .forensicLockdown
  else do
  let _ ← formatTime runtime.toCodec plan.createdAtMs
  let _ ← formatTime runtime.toCodec plan.expiresAtMs
  pure plan

def storeCertbotIssuePlan (plan : StoredPlan) : Ops StoredPlan := do
  openLedger
  let stored ← ledger (.createOrReusePlan plan)
  lift (certbotIssuePlanView runtime stored)

/-- From the random identifier on. -/
def proposeCertbotIssue (actor : Subject) (input : CertbotIssuePlanInput) (site : NginxSite)
    (inventory : CertificateInventoryView) (stagingEvidenceValid : Bool) (nowMs : Int) :
    Ops StoredPlan := do
  rejectIf (i64Max < runtime.planTtlMs) (.storage "plan ttl overflow")
  let planId ← randomId "plan"
  let proposal ← writeProposal runtime planId (utf8Bytes input.request.accountEmail)
  let plan := certbotIssuePlan runtime actor input planId
    (certbotIssuePlanPayload runtime input site inventory proposal stagingEvidenceValid) nowMs
  let result ← attempt (storeCertbotIssuePlan runtime plan)
  match result with
  | .ok stored =>
    if stored.planId ≠ planId then do
      cleanupProposal proposal
      pure stored
    else pure stored
  | .error error => do
    cleanupProposal proposal
    throw error

def planCertbotIssue (actor : Subject) (input : CertbotIssuePlanInput) (nowMs : Int) :
    Ops StoredPlan := do
  openLedger
  removeExpiredProposals nowMs
  let site ← validateIssuePreconditions runtime input nowMs
  let inventory ← certificateInventory runtime nowMs
  rejectIf (inventory.certbotInstalled = false) (.rejected "unsupported_environment")
  rejectIf (inventory.inventoryDigest ≠ input.request.expectedInventoryDigest)
    (.rejected "stale_inventory")
  let nginxTest ← run .nginxConfigTest
  let nginxActive ← run .nginxActive
  rejectIf (nginxTest.success = false ∨ nginxActive.success = false)
    (.rejected "unsupported_environment")
  openLedger
  let stagingEvidenceValid ← ledger (.hasRecentStagingEvidence
    (stagingEvidenceKey runtime input.request.domains site.availableDigest
      input.preflight.resolvedAddresses) (saturatingSub nowMs stagingEvidenceTtlMs))
  rejectIf (input.request.environment = .production ∧ stagingEvidenceValid = false)
    (.rejected "staging_required")
  proposeCertbotIssue runtime actor input site inventory stagingEvidenceValid nowMs

/-! ### Approving -/

/-- The parts of an approval that all types share. -/
structure ApprovalRequest where
  planId : String
  planHash : String
  idempotencyKey : String
  deriving DecidableEq, Repr

def requireType (operationType : OperationType) (plan : StoredPlan) : Except OpsError Unit :=
  if plan.operationType ≠ operationType then .error (.rejected "approval_mismatch") else .ok ()

def requireConfirmed (confirmed : Bool) (code : String) : Ops Unit :=
  rejectIf (confirmed = false) (.rejected code)

/-- The approval of every type but managed configurations: `accepts` is the type's check of the
stored plan. -/
def approvePlan (accepts : StoredPlan → Except OpsError Unit) (actor : Subject)
    (request : ApprovalRequest) (nowMs : Int) : Ops OperationReceiptView := do
  openLedger
  let plan ← ledger (.loadPlan request.planId)
  lift (accepts plan)
  let operationId ← randomId "op"
  let operation ← ledger (.beginOperation ⟨operationId, request.planId, request.planHash,
    request.idempotencyKey, actor, nowMs⟩)
  receipt operation.operationId

def approveNginx : Subject → ApprovalRequest → Int → Ops OperationReceiptView :=
  approvePlan (requireType .nginxSiteState)

def approveServiceControl : Subject → ApprovalRequest → Int → Ops OperationReceiptView :=
  approvePlan (requireType .serviceControl)

def approveUfwRule : Subject → ApprovalRequest → Int → Ops OperationReceiptView :=
  approvePlan fun plan =>
    if plan.operationType ≠ .ufwRule ∨ plan.ufwRule.isNone then
      .error (.rejected "approval_mismatch")
    else .ok ()

def approveCertbotIssue (externalEffectConfirmed localAttachDeferredConfirmed : Bool)
    (actor : Subject) (request : ApprovalRequest) (nowMs : Int) : Ops OperationReceiptView := do
  requireConfirmed externalEffectConfirmed "external_effect_confirmation"
  requireConfirmed localAttachDeferredConfirmed "local_attach_deferred_confirmation"
  approvePlan (fun plan => do
    requireType .certbotIssue plan
    match plan.certbotIssue with
    | none => throw .forensicLockdown
    | some payload =>
      if 60000 < saturatingSub nowMs payload.preflightObservedAtMs then
        throw (.rejected "preflight_stale")) actor request nowMs

def approveCertbotRenewTest (externalEffectConfirmed : Bool) (actor : Subject)
    (request : ApprovalRequest) (nowMs : Int) : Ops OperationReceiptView := do
  requireConfirmed externalEffectConfirmed "external_effect_confirmation"
  approvePlan (requireType .certbotRenewTest) actor request nowMs

def approveCertbotAttach (configReplaceConfirmed serviceReloadConfirmed : Bool)
    (actor : Subject) (request : ApprovalRequest) (nowMs : Int) : Ops OperationReceiptView := do
  requireConfirmed configReplaceConfirmed "config_replace_confirmation"
  requireConfirmed serviceReloadConfirmed "service_reload_confirmation"
  approvePlan (requireType .certbotAttach) actor request nowMs

/-- An expired plan of this type also loses its proposal. -/
def approveManagedConfig (validationConfirmed serviceActionConfirmed : Bool) (actor : Subject)
    (request : ApprovalRequest) (nowMs : Int) : Ops OperationReceiptView := do
  requireConfirmed (validationConfirmed && serviceActionConfirmed) "approval_intent"
  openLedger
  let plan ← ledger (.loadPlan request.planId)
  rejectIf (plan.operationType ≠ .managedConfig ∧ plan.operationType ≠ .managedConfigRestore)
    (.rejected "approval_mismatch")
  let operationId ← randomId "op"
  onError (ledger (.beginOperation ⟨operationId, request.planId, request.planHash,
      request.idempotencyKey, actor, nowMs⟩))
    (fun error =>
      if error = .rejected "plan_expired" then do
        removePlanProposal plan
        throw error
      else throw error)
    fun operation => receipt operation.operationId

/-! ### Requests -/

inductive ApprovalKind where
  | nginx
  | managedConfig (validationConfirmed serviceActionConfirmed : Bool)
  | serviceControl (impactConfirmed : Bool)
  | ufwRule (impactConfirmed : Bool)
  | certbotIssue (externalEffectConfirmed localAttachDeferredConfirmed : Bool)
  | certbotRenewTest (externalEffectConfirmed : Bool)
  | certbotAttach (configReplaceConfirmed serviceReloadConfirmed : Bool)
  deriving DecidableEq, Repr

/-- The requests that can write to the ledger. `storePlan` is what the planners other than those of
managed configurations and of certificates to be issued end in, with any plan at all. -/
inductive Request where
  | storePlan (actor : Subject) (plan : StoredPlan)
  | planManagedConfig (actor : Subject) (request : ManagedConfigPlanRequest)
  | planManagedConfigRestore (actor : Subject) (request : ManagedConfigRestorePlanRequest)
  | planCertbotIssue (actor : Subject) (input : CertbotIssuePlanInput)
  | approve (actor : Subject) (kind : ApprovalKind) (request : ApprovalRequest)
  | execute (actor : Subject) (operationId : String)
  deriving DecidableEq, Repr

def Request.actor : Request → Subject
  | storePlan actor _ | planManagedConfig actor _ | planManagedConfigRestore actor _
  | planCertbotIssue actor _ | approve actor _ _ | execute actor _ => actor

/-- A response without its body. -/
def answered {α : Type} (program : Ops α) : Ops Unit := do
  let _ ← program

def storePlan (plan : StoredPlan) : Ops StoredPlan := do
  openLedger
  ledger (.createOrReusePlan plan)

def approve (actor : Subject) (kind : ApprovalKind) (request : ApprovalRequest) (nowMs : Int) :
    Ops OperationReceiptView :=
  match kind with
  | .nginx => approveNginx actor request nowMs
  | .managedConfig validation action => approveManagedConfig validation action actor request nowMs
  | .serviceControl impact => do
    requireConfirmed impact "impact_confirmation"
    approveServiceControl actor request nowMs
  | .ufwRule impact => do
    requireConfirmed impact "impact_confirmation"
    approveUfwRule actor request nowMs
  | .certbotIssue effect deferred => approveCertbotIssue effect deferred actor request nowMs
  | .certbotRenewTest effect => approveCertbotRenewTest effect actor request nowMs
  | .certbotAttach replace reload => approveCertbotAttach replace reload actor request nowMs

def handleBody (request : Request) (nowMs : Int) : Ops Unit := do
  requireWriteAvailable
  requireOperator request.actor
  match request with
  | .storePlan _ plan => answered (storePlan plan)
  | .planManagedConfig actor body => answered (planManagedConfig runtime actor body nowMs)
  | .planManagedConfigRestore actor body =>
    answered (planManagedConfigRestore runtime actor body nowMs)
  | .planCertbotIssue actor input => answered (planCertbotIssue runtime actor input nowMs)
  | .approve actor kind body => answered (approve actor kind body nowMs)
  | .execute actor operationId => answered (executeOperation runtime actor operationId nowMs)

end JwOps.Engine.Requests
