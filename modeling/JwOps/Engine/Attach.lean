/- module: Engine/Attach
   source: crates/jw-opsd/src/engine.rs, crates/jw-opsd/src/certificate.rs
   digest: Attaching a certificate to the protected management site, and rolling that back. -/
import JwOps.Engine.Certbot

set_option autoImplicit false

namespace JwOps.Engine.Attach

open Contracts Ledger Operation Digest Config Schema Writes Reads Interface Replace Nginx Certbot
open Foundation.Program

variable (runtime : Runtime)

structure TlsAttachmentResource where
  config : ManagedConfigResource
  proposedContent : Bytes
  proposedContentDigest : String
  currentCertificatePath : String
  deriving DecidableEq, Repr

/-- The check of the certificate paths for blanks is part of `replaceTlsDirectives`, which is given
the domain that both paths are built from. -/
def prepareTlsAttachment (primaryDomain siteId expectedSiteDigest : String) :
    Ops TlsAttachmentResource := do
  lift ((runtime.validateDomain primaryDomain).mapError .rejected)
  let config ← discoverProtectedConfig siteId
  rejectIf (config.contentDigest ≠ expectedSiteDigest) (.rejected "stale_site")
  rejectIf (runtime.serverNamesCover config.content [primaryDomain] = false)
    (.rejected "invalid_domain")
  let (proposedContent, currentCertificatePath) ←
    lift (runtime.replaceTlsDirectives config.content primaryDomain)
  pure ⟨config, proposedContent, sha256Digest runtime.toCodec proposedContent,
    currentCertificatePath⟩

def snapshotOf (config : ManagedConfigResource) : ManagedConfigSnapshot where
  schemaVersion := 1
  resourceId := config.resourceId
  basename := config.basename
  content := config.content
  contentDigest := config.contentDigest
  metadataDigest := config.metadataDigest
  mode := config.mode
  uid := config.uid
  gid := config.gid

/-! ### Rolling back -/

def rollbackCertbotAttach (operationId cause causeEvidenceDigest : String) (nowMs : Int) :
    Ops OperationReceiptView := do
  let rolling ← startRollback operationId rollbackStages cause causeEvidenceDigest nowMs
  match rolling.snapshot with
  | none => recoveryRequired runtime operationId "snapshot_missing" nowMs
  | some record => do
  onError (readSnapshot runtime .managedConfig record)
    (fun error => recoveryRequired runtime operationId error.code nowMs) fun snapshot => do
  onError (restoreProtectedConfig snapshot.resourceId snapshot.basename snapshot.content
      snapshot.mode snapshot.uid snapshot.gid)
    (fun _ => recoveryRequired runtime operationId "rollback_replace_failed" nowMs)
    fun restored => do
  let config ← attempt (run .nginxConfigTest)
  let reload ← attempt (run .nginxReload)
  let active ← attempt (run .nginxActive)
  if !(restored.contentDigest == snapshot.contentDigest &&
      restored.metadataDigest == snapshot.metadataDigest &&
      succeeded config && succeeded reload && succeeded active) then
    recoveryRequired runtime operationId "rollback_verify_failed" nowMs
  else do
  let active ← lift active
  let terminal ← transition operationId {
    expected := [.rollingBack]
    next := .rolledBack
    resultCode := "rollback_verified"
    evidenceDigest := digestOf runtime active
    afterDigest := some snapshot.contentDigest
    rollbackResult := some "verified"
    nowMs := nowMs }
  receipt terminal.operationId

/-! ### Executing -/

/-- The certificate found for the planned domain is still the planned one. -/
def attachableCertificate (payload : CertbotAttachPlanPayload)
    (inventory : CertificateInventoryView) : Bool :=
  inventory.inventoryDigest == payload.inventoryDigest && inventory.timerEnabled &&
    inventory.timerActive &&
    (inventory.certificates.find? fun certificate =>
        certificate.primaryDomain == payload.primaryDomain).any fun certificate =>
      certificate.fingerprintSha256 == payload.certificateFingerprint &&
        certificate.sans == payload.sans && certificate.notAfter == payload.notAfter &&
        certificate.privateKeyPresent && certificate.renewalConfigPresent &&
        certificate.webrootManaged

def inventoryVerified (payload : CertbotAttachPlanPayload)
    (inventory : CertificateInventoryView) : Bool :=
  inventory.inventoryDigest == payload.inventoryDigest && inventory.timerEnabled &&
    inventory.timerActive &&
    inventory.certificates.any fun certificate =>
      certificate.primaryDomain == payload.primaryDomain &&
        certificate.fingerprintSha256 == payload.certificateFingerprint &&
        certificate.webrootManaged

/-- All four read-backs, none of which ends the operation by itself. -/
def attachmentVerified (payload : CertbotAttachPlanPayload)
    (config : Except OpsError ManagedConfigResource) (active : Except OpsError CommandEvidence)
    (inventory : Except OpsError CertificateInventoryView)
    (tls : Except OpsError CertbotCommandEvidence) : Bool :=
  (match config with
    | .ok config => config.contentDigest == payload.proposedContentDigest &&
        config.metadataDigest == payload.metadataDigest
    | .error _ => false) &&
  succeeded active &&
  (match inventory with
    | .ok inventory => inventoryVerified payload inventory
    | .error _ => false) &&
  (match tls with
    | .ok evidence => evidence.success
    | .error _ => false)

def verifyCertbotAttach (operation : StoredOperation) (payload : CertbotAttachPlanPayload)
    (nowMs : Int) : Ops OperationReceiptView := do
  let config ← attempt (discoverProtectedConfig payload.siteId)
  let active ← attempt (run .nginxActive)
  let inventory ← attempt (certificateInventory runtime nowMs)
  let tls ← attempt (certbot
    (.verifyLocalTls payload.primaryDomain payload.certificateFingerprint) nowMs)
  if !attachmentVerified payload config active inventory tls then
    rollbackCertbotAttach runtime operation.operationId "tls_read_back_failed"
      (match tls with
        | .ok evidence => certbotCommandDigest runtime evidence
        | .error _ => codeDigest runtime "tls_probe_unavailable") nowMs
  else do
  let tls ← lift tls
  let terminal ← transition operation.operationId {
    expected := [.verifying]
    next := .succeeded
    resultCode := "tls_attachment_verified"
    evidenceDigest := certbotCommandDigest runtime tls
    afterDigest := some payload.proposedContentDigest
    rollbackResult := none
    nowMs := nowMs }
  receipt terminal.operationId

/-- From the replacement to the reload; every failure rolls back. -/
def replaceAndReload (snapshotted : StoredOperation) (payload : CertbotAttachPlanPayload)
    (attachment : TlsAttachmentResource) (record : SnapshotRecord) (nowMs : Int) :
    Ops OperationReceiptView := do
  let back (cause evidence : String) :=
    rollbackCertbotAttach runtime snapshotted.operationId cause evidence nowMs
  let _ ← transition snapshotted.operationId (advance [.snapshotted] .applying
    "tls_directives_replace_started" record.digest nowMs)
  onError (replaceProtectedConfig runtime.toCodec attachment.config attachment.proposedContent)
    (fun error => back error.code (codeDigest runtime error.code)) fun applied => do
  if applied.contentDigest ≠ payload.proposedContentDigest then
    back "config_read_back_failed" (codeDigest runtime "config_read_back_failed")
  else do
  let _ ← transition snapshotted.operationId (advance [.applying] .validating
    "tls_directives_replaced" applied.contentDigest nowMs)
  onError (run .nginxConfigTest)
    (fun error => back "nginx_config_test_unavailable" (codeDigest runtime error.code))
    fun configTest => do
  if !configTest.success then back "nginx_config_test_failed" (digestOf runtime configTest)
  else do
  let _ ← transition snapshotted.operationId (advance [.validating] .reloading
    "nginx_config_valid" (digestOf runtime configTest) nowMs)
  onError (run .nginxReload)
    (fun error => back "nginx_reload_unavailable" (codeDigest runtime error.code)) fun reload => do
  if !reload.success then back "nginx_reload_failed" (digestOf runtime reload)
  else do
  let _ ← transition snapshotted.operationId (advance [.reloading] .verifying
    "nginx_reloaded" (digestOf runtime reload) nowMs)
  verifyCertbotAttach runtime snapshotted payload nowMs

def executeCertbotAttach (operation : StoredOperation) (nowMs : Int) :
    Ops OperationReceiptView := do
  match operation.plan.certbotAttach with
  | none => throw .forensicLockdown
  | some payload => do
  let cancel (reason : String) := cancelCertbotBeforeApply runtime operation reason nowMs
  onError (certificateInventory runtime nowMs) (fun error => cancel error.code)
    fun inventory => do
  if !attachableCertificate payload inventory then cancel "precondition_changed"
  else do
  onError (prepareTlsAttachment runtime payload.primaryDomain payload.siteId payload.siteDigest)
    (fun error => cancel error.code) fun attachment => do
  if attachment.config.metadataDigest ≠ payload.metadataDigest ∨
      attachment.proposedContentDigest ≠ payload.proposedContentDigest then
    cancel "precondition_changed"
  else do
  onError (writeSnapshot runtime .managedConfig operation.operationId
      (snapshotOf attachment.config))
    (fun error => cancel error.code) fun record => do
  let snapshotted ← attachSnapshot operation.operationId record nowMs
  if attachment.config.contentDigest = attachment.proposedContentDigest then do
    let _ ← transition operation.operationId (advance [.snapshotted] .verifying
      "certificate_already_attached" attachment.proposedContentDigest nowMs)
    verifyCertbotAttach runtime snapshotted payload nowMs
  else replaceAndReload runtime snapshotted payload attachment record nowMs

end JwOps.Engine.Attach
