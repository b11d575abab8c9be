/- module: Engine/Certbot
   source: crates/jw-opsd/src/engine.rs, crates/jw-opsd/src/certificate.rs
   digest: Issuing, attaching and renew-testing certificates. -/
import JwOps.Engine.Nginx

set_option autoImplicit false

namespace JwOps.Engine.Certbot

open Contracts Operation Digest Config
open Contracts.Certificate (sortDedup)
open Ledger.Schema Ledger.Writes Ledger.Reads Engine.Interface Engine.Replace Engine.Nginx
open Foundation.Program

variable (runtime : Runtime)

/-! ### Inventory -/

/-- The inventory of what the four reads found. -/
def inventoryView (observedAt : String) (certbotInstalled timerEnabled timerActive : Bool)
    (certificates : List CertificateSummaryView) (found : List String) :
    CertificateInventoryView :=
  let problems := sortDedup (found ++
    (if certbotInstalled then [] else ["certbot_not_installed"]) ++
    (if timerEnabled then [] else ["certbot_timer_disabled"]) ++
    (if timerActive then [] else ["certbot_timer_inactive"]))
  { observedAt := observedAt
    certbotInstalled := certbotInstalled
    timerEnabled := timerEnabled
    timerActive := timerActive
    inventoryDigest := sha256Digest runtime.toCodec (runtime.inventoryJson
      ⟨certbotInstalled, timerEnabled, timerActive, certificates, problems⟩)
    certificates := certificates
    problems := problems }

/-- The module-level `certificate_inventory`. -/
def readInventory (nowMs : Int) : Ops CertificateInventoryView := do
  let certbotInstalled ← perform (.host .certbotInstalled) .ok
  let timerEnabled ← attempt (run .certbotTimerEnabled)
  let timerActive ← attempt (run .certbotTimerActive)
  let (certificates, problems) ← perform (.host .discoverCertificates) id
  let observedAt ← lift (formatTime runtime.toCodec nowMs)
  pure (inventoryView runtime observedAt certbotInstalled (succeeded timerEnabled)
    (succeeded timerActive) certificates problems)

/-- The method of the service: it also opens the ledger, only to decide which operation types it
advertises, and these are not part of the inventory modelled here. -/
def certificateInventory (nowMs : Int) : Ops CertificateInventoryView := do
  let inventory ← readInventory runtime nowMs
  let locked ← perform (.host .forensicLockdown) .ok
  if inventory.certbotInstalled && !locked then do
    let _ ← attempt (ledger .openLedger)
    pure inventory
  else pure inventory

/-! ### Shared ends -/

def cancelCertbotBeforeApply (operation : StoredOperation) (reason : String) (nowMs : Int) :
    Ops OperationReceiptView := do
  let terminal ← transition operation.operationId
    (advance [.approved] .cancelledBeforeApply reason (codeDigest runtime reason) nowMs)
  let answer ← receipt terminal.operationId
  removePlanProposal terminal.plan
  pure answer

def rejectCertbotExecution (operationId : String) (expected : OperationStage)
    (reason evidenceDigest : String) (nowMs : Int) : Ops OperationReceiptView := do
  let terminal ← transition operationId
    (advance [expected] .rejected reason evidenceDigest nowMs)
  let answer ← receipt terminal.operationId
  removePlanProposal terminal.plan
  pure answer

/-- A success that carries the digest found as evidence and as after digest. -/
def succeedWith (operationId : String) (expected : OperationStage) (resultCode digest : String)
    (nowMs : Int) : Ops OperationReceiptView := do
  let terminal ← transition operationId {
    expected := [expected]
    next := .succeeded
    resultCode := resultCode
    evidenceDigest := digest
    afterDigest := some digest
    rollbackResult := none
    nowMs := nowMs }
  let answer ← receipt terminal.operationId
  removePlanProposal terminal.plan
  pure answer

def certbotCommandDigest (evidence : CertbotCommandEvidence) : String :=
  canonicalDigest runtime.toCodec "jw-agent/certbot-command-evidence/v1"
    (runtime.certbotEvidenceJson evidence)

def inventorySnapshot (inventory : CertificateInventoryView) : CertificateInventorySnapshot where
  schemaVersion := 1
  inventoryDigest := inventory.inventoryDigest
  timerEnabled := inventory.timerEnabled
  timerActive := inventory.timerActive
  certificateCount := UInt32.ofNat inventory.certificates.length

/-! ### Issuing -/

def validateIssueSite (siteId expectedSiteDigest : String) (domains : List String) :
    Ops NginxSite := do
  let site ← discoverSite siteId
  rejectIf (site.isProtected = false ∨ site.state ≠ .enabled)
    (.rejected "unsupported_environment")
  rejectIf (site.availableDigest ≠ expectedSiteDigest) (.rejected "stale_site")
  let content ← perform (.host (.readAvailableContent site.basename)) id
  rejectIf (containsBytes (utf8Bytes "include /usr/share/jw-agent/nginx/acme-challenge.conf;")
    content = false ∨ runtime.serverNamesCover content domains = false)
    (.rejected "wrong_webroot")
  mapError (perform (.host .validateAcmeWebroot) id) fun _ => .rejected "wrong_webroot"
  pure site

def stagingEvidenceTtlMs : Int := 24 * 60 * 60 * 1000

def i64Min : Int := -(2 ^ 63)

/-- `i64::saturating_sub`. -/
def saturatingSub (value amount : Int) : Int := min (max (value - amount) i64Min) i64Max

/-- Staging leaves the inventory as it was; production shows the new certificate, under the
account's webroot, and a running timer. -/
def issueVerified (payload : CertbotIssuePlanPayload) (readBack : CertificateInventoryView) :
    Bool :=
  match payload.environment with
  | .staging => readBack.inventoryDigest == payload.inventoryDigest
  | .production =>
    ((readBack.certificates.find? fun certificate =>
        certificate.primaryDomain == payload.primaryDomain).any fun certificate =>
      certificate.sans == payload.domains && certificate.webrootManaged) &&
    readBack.timerEnabled && readBack.timerActive

/-- From the certbot command on. -/
def issueAndVerify (operationId : String) (payload : CertbotIssuePlanPayload)
    (accountEmail : Bytes) (record : SnapshotRecord) (nowMs : Int) :
    Ops OperationReceiptView := do
  let _ ← transition operationId (advance [.snapshotted] .applying
    (match payload.environment with
      | .staging => "certbot_staging_dry_run_started"
      | .production => "certbot_production_issue_started") record.digest nowMs)
  onError (certbot (.issue payload.primaryDomain payload.domains accountEmail
      payload.environment true) nowMs)
    (fun error => rejectCertbotExecution operationId .applying "issuance_unavailable"
      (codeDigest runtime error.code) nowMs) fun evidence => do
  let evidenceDigest := certbotCommandDigest runtime evidence
  let _ ← transition operationId (advance [.applying] .validating
    (if evidence.success then "certbot_issue_command_completed"
      else "certbot_issue_command_failed") evidenceDigest nowMs)
  if !evidence.success then
    rejectCertbotExecution operationId .validating "issuance_failed" evidenceDigest nowMs
  else do
  onError (certificateInventory runtime nowMs)
    (fun error => rejectCertbotExecution operationId .validating "certificate_invalid"
      (codeDigest runtime error.code) nowMs) fun readBack => do
  if !issueVerified payload readBack then
    rejectCertbotExecution operationId .validating "certificate_invalid"
      readBack.inventoryDigest nowMs
  else
    succeedWith operationId .validating
      (match payload.environment with
        | .staging => "staging_challenge_verified"
        | .production => "production_certificate_verified")
      readBack.inventoryDigest nowMs

/-- From the inventory to the attached snapshot. -/
def snapshotAndIssue (operation : StoredOperation) (payload : CertbotIssuePlanPayload)
    (accountEmail : Bytes) (nowMs : Int) : Ops OperationReceiptView := do
  let cancel (reason : String) := cancelCertbotBeforeApply runtime operation reason nowMs
  onError (validateIssueSite runtime payload.siteId payload.siteDigest payload.domains)
    (fun _ => cancel "precondition_changed") fun _ => do
  onError (certificateInventory runtime nowMs) (fun error => cancel error.code)
    fun inventory => do
  if inventory.certbotInstalled = false ∨ inventory.inventoryDigest ≠ payload.inventoryDigest then
    cancel "precondition_changed"
  else do
  rejectIf (2 ^ 32 ≤ inventory.certificates.length) (.rejected "certificate_inventory_too_large")
  onError (writeSnapshot runtime .certificateInventory operation.operationId
      (inventorySnapshot inventory))
    (fun error => cancel error.code) fun record => do
  let snapshotted ← attachSnapshot operation.operationId record nowMs
  issueAndVerify runtime snapshotted.operationId payload accountEmail record nowMs

def executeCertbotIssue (operation : StoredOperation) (nowMs : Int) :
    Ops OperationReceiptView := do
  match operation.plan.certbotIssue with
  | none => throw .forensicLockdown
  | some payload => do
  let cancel (reason : String) := cancelCertbotBeforeApply runtime operation reason nowMs
  onError (readProposal runtime ⟨payload.accountEmailProposalRelativePath,
      payload.accountEmailProposalDigest⟩)
    (fun error => cancel error.code) fun accountEmail => do
  if payload.environment = .production then do
    let recent ← ledger (.hasRecentStagingEvidence payload.stagingEvidenceKey
      (saturatingSub nowMs stagingEvidenceTtlMs))
    if !recent then cancel "staging_required"
    else snapshotAndIssue runtime operation payload accountEmail nowMs
  else snapshotAndIssue runtime operation payload accountEmail nowMs

/-! ### Testing renewal -/

/-- From the dry run on. -/
def renewAndVerify (operationId : String) (record : SnapshotRecord) (nowMs : Int) :
    Ops OperationReceiptView := do
  let _ ← transition operationId (advance [.snapshotted] .applying
    "certbot_renew_dry_run_started" record.digest nowMs)
  onError (certbot .renewDryRun nowMs)
    (fun error => rejectCertbotExecution operationId .applying "renewal_test_unavailable"
      (codeDigest runtime error.code) nowMs) fun evidence => do
  let evidenceDigest := certbotCommandDigest runtime evidence
  let _ ← transition operationId (advance [.applying] .validating
    (if evidence.success then "certbot_renew_dry_run_completed"
      else "certbot_renew_dry_run_failed") evidenceDigest nowMs)
  if !evidence.success then
    rejectCertbotExecution operationId .validating "renewal_test_failed" evidenceDigest nowMs
  else do
  onError (certificateInventory runtime nowMs)
    (fun error => rejectCertbotExecution operationId .validating "renewal_read_back_failed"
      (codeDigest runtime error.code) nowMs) fun readBack => do
  if !(readBack.certbotInstalled && readBack.timerEnabled && readBack.timerActive) then
    rejectCertbotExecution operationId .validating "renewal_timer_unhealthy"
      readBack.inventoryDigest nowMs
  else succeedWith operationId .validating "renewal_test_verified" readBack.inventoryDigest nowMs

def executeCertbotRenewTest (operation : StoredOperation) (nowMs : Int) :
    Ops OperationReceiptView := do
  match operation.plan.certbotRenew with
  | none => throw .forensicLockdown
  | some payload => do
  let cancel (reason : String) := cancelCertbotBeforeApply runtime operation reason nowMs
  onError (certificateInventory runtime nowMs) (fun error => cancel error.code)
    fun inventory => do
  if inventory.certbotInstalled = false ∨ inventory.inventoryDigest ≠ payload.inventoryDigest then
    cancel "precondition_changed"
  else do
  rejectIf (2 ^ 32 ≤ inventory.certificates.length) (.rejected "certificate_inventory_too_large")
  onError (writeSnapshot runtime .certificateInventory operation.operationId
      (inventorySnapshot inventory))
    (fun error => cancel error.code) fun record => do
  let snapshotted ← attachSnapshot operation.operationId record nowMs
  renewAndVerify runtime snapshotted.operationId record nowMs

end JwOps.Engine.Certbot
