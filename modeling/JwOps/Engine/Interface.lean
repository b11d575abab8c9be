/- module: Engine/Interface
   source: crates/jw-opsd/src/{engine,runner,snapshot,certificate,ufw}.rs,
     crates/jw-opsd/src/managed_config/proposal.rs
   digest: The calls by which the engine reaches the ledger and the host, and their answers. -/
import JwOps.Contracts.Certificate
import JwOps.Contracts.Config
import JwOps.Engine.PhpFpm
import JwOps.Foundation.Program
import JwOps.Ledger.Reads

set_option autoImplicit false

namespace JwOps.Engine.Interface

open Contracts Operation Digest Config
open Contracts.Certificate (CertbotIssuePlanInput IpAddr)
open Ledger.Schema Ledger.Writes Ledger.Reads Foundation.Program

/-! ### Data exchanged with the host -/

inductive UfwCommand where
  | status
  | add (rule : UfwRuleSpec)
  | delete (sequence : UInt16)
  deriving DecidableEq, Repr

inductive UfwStatus where
  | active | inactive | notInstalled | unsupportedPlatform | unavailable
  deriving DecidableEq, Repr

structure UfwRuleView where
  sequence : UInt16
  ruleId : Option String
  action : String
  protocol : Option UfwProtocol
  port : Option UInt16
  source : String
  destination : String
  ipv6 : Bool
  owned : Bool
  isProtected : Bool
  summary : String
  deriving DecidableEq, Repr

structure UfwView where
  observedAt : String
  status : UfwStatus
  rules : List UfwRuleView
  stateDigest : String
  truncated : Bool
  mutationAvailable : Bool
  deriving DecidableEq, Repr

inductive CertbotCommand where
  | issue (primaryDomain : String) (domains : List String) (accountEmail : Bytes)
      (environment : CertificateEnvironment) (tosAgreed : Bool)
  | renewDryRun
  | verifyLocalTls (serverName expectedFingerprint : String)
  deriving DecidableEq, Repr

inductive CertbotCommandClass where
  | issueStaging | issueProduction | renewDryRun | verifyLocalTls
  deriving DecidableEq, Repr

structure CertbotCommandEvidence where
  commandClass : CertbotCommandClass
  success : Bool
  exitCode : Option Int
  timedOut : Bool
  stdoutDigest : String
  stdoutTruncated : Bool
  stderrDigest : String
  stderrTruncated : Bool
  deriving DecidableEq, Repr

structure CertificateSummaryView where
  primaryDomain : String
  sans : List String
  notAfter : String
  fingerprintSha256 : String
  certificatePath : String
  privateKeyPresent : Bool
  renewalConfigPresent : Bool
  webrootManaged : Bool
  deriving DecidableEq, Repr

structure InventoryDigest where
  certbotInstalled : Bool
  timerEnabled : Bool
  timerActive : Bool
  certificates : List CertificateSummaryView
  problems : List String
  deriving DecidableEq, Repr

structure CertificateInventoryView where
  observedAt : String
  certbotInstalled : Bool
  timerEnabled : Bool
  timerActive : Bool
  inventoryDigest : String
  certificates : List CertificateSummaryView
  problems : List String
  deriving DecidableEq, Repr

structure NginxLinkSnapshot where
  schemaVersion : Nat
  siteId : String
  basename : String
  enabled : Bool
  availableDigest : String
  enabledStateDigest : String
  deriving DecidableEq, Repr

structure ManagedConfigSnapshot where
  schemaVersion : Nat
  resourceId : String
  basename : String
  content : Bytes
  contentDigest : String
  metadataDigest : String
  mode : Nat
  uid : Nat
  gid : Nat
  deriving DecidableEq, Repr

structure CertificateInventorySnapshot where
  schemaVersion : Nat
  inventoryDigest : String
  timerEnabled : Bool
  timerActive : Bool
  certificateCount : UInt32
  deriving DecidableEq, Repr

structure ServiceStateSnapshot where
  schemaVersion : Nat
  serviceId : String
  unitName : String
  active : Bool
  stateDigest : String
  deriving DecidableEq, Repr

structure UfwSnapshot where
  schemaVersion : Nat
  stateDigest : String
  rules : List UfwRuleView
  deriving DecidableEq, Repr

structure DiffStats where
  addedLines : UInt32
  removedLines : UInt32
  summary : List String
  deriving DecidableEq, Repr

/-- The five families of snapshot files. -/
inductive SnapshotKind where
  | nginxLink | managedConfig | certificateInventory | serviceState | ufwRules
  deriving DecidableEq, Repr

namespace SnapshotKind

abbrev Data : SnapshotKind → Type
  | nginxLink => NginxLinkSnapshot
  | managedConfig => ManagedConfigSnapshot
  | certificateInventory => CertificateInventorySnapshot
  | serviceState => ServiceStateSnapshot
  | ufwRules => UfwSnapshot

def fileName : SnapshotKind → String
  | nginxLink => "nginx-link.json"
  | managedConfig => "managed-config.json"
  | certificateInventory => "certificate-inventory.json"
  | serviceState => "service-state.json"
  | ufwRules => "ufw-rules.json"

def maxBytes : SnapshotKind → Nat
  | managedConfig => 2 * 1024 * 1024
  | ufwRules => 256 * 1024
  | _ => 64 * 1024

end SnapshotKind

/-- The configured paths, the libraries of the daemon and, file by file, text functions of the
repository on whose results the executors only branch. Every result holds for any of them. -/
structure Runtime extends Codec where
  paths : OpsPaths
  snapshotJson : (kind : SnapshotKind) → kind.Data → Bytes
  parseSnapshot : (kind : SnapshotKind) → Bytes → Option kind.Data
  inventoryJson : InventoryDigest → Bytes
  certbotEvidenceJson : CertbotCommandEvidence → Bytes
  digestsJson : List String → Bytes
  managedPlanJson : StoredPlan → Bytes
  managedRequestJson : Subject → ManagedConfigPlanRequest → Bytes
  managedRestoreRequestJson : Subject → ManagedConfigRestorePlanRequest → Bytes
  issuePlanJson : StoredPlan → Bytes
  issueRequestJson : Subject → CertbotIssuePlanInput → Bytes
  stagingEvidenceJson : (domains : List String) → (siteDigest : String) →
    (resolvedAddresses : List String) → Bytes
  parseIpAddr : String → Option IpAddr
  planTtlMs : Nat
  -- php_fpm_diagnostic.rs
  phpSyntaxReported : CommandEvidence → Bool
  validatePhpIniCandidate : Bytes → Bytes → Except OpsError Unit
  validatePhpFpmCandidate : Bytes → Bytes → Except OpsError Unit
  -- nginx_diagnostic.rs, config_diagnostic.rs and managed_config/text.rs
  managedConfigFailureCode : ManagedConfigAdapter → CommandEvidence → String → String
  changedCandidateLines : Bytes → Bytes → List UInt32
  diffStats : Bytes → Bytes → DiffStats
  diagnosticCandidates : ManagedConfigResource → CommandEvidence → List UInt32 → Bytes →
    List ManagedConfigDiagnosticView
  -- certificate.rs
  validateDomain : String → Except String Unit
  serverNamesCover : Bytes → List String → Bool
  replaceTlsDirectives : Bytes → String → Except OpsError (Bytes × String)
  -- ufw.rs, on the captured standard output
  ufwStatusOf : Bytes → UfwStatus
  ufwRulesOf : Bytes → List UfwRuleView

/-- A daemon whose libraries are trivial, to run samples with. -/
def sampleRuntime : Runtime where
  toCodec := sampleCodec
  paths := .default
  snapshotJson _ _ := []
  parseSnapshot _ _ := none
  inventoryJson _ := []
  certbotEvidenceJson _ := []
  digestsJson _ := []
  managedPlanJson _ := []
  managedRequestJson _ _ := []
  managedRestoreRequestJson _ _ := []
  issuePlanJson _ := []
  issueRequestJson _ _ := []
  stagingEvidenceJson _ _ _ := []
  parseIpAddr _ := none
  planTtlMs := 0
  phpSyntaxReported _ := false
  validatePhpIniCandidate _ _ := .ok ()
  validatePhpFpmCandidate _ _ := .ok ()
  managedConfigFailureCode _ _ _ := ""
  changedCandidateLines _ _ := []
  diffStats _ _ := ⟨0, 0, []⟩
  diagnosticCandidates _ _ _ _ := []
  validateDomain _ := .ok ()
  serverNamesCover _ _ := true
  replaceTlsDirectives content _ := .ok (content, "")
  ufwStatusOf _ := .active
  ufwRulesOf _ := []

/-! ### Calls -/

inductive LedgerCall where
  | openLedger
  | loadPlan (planId : String)
  | loadOperation (operationId : String)
  | createOrReusePlan (plan : StoredPlan)
  | beginOperation (approval : Approval)
  | attachSnapshot (operationId : String) (snapshot : SnapshotRecord) (nowMs : Int)
  | transition (operationId : String) (change : Transition)
      (diagnostics : Option StoredDiagnostics) (command : Option OperationCommandEvidenceView)
  | receipt (operationId : String)
  | incompleteOperations
  | expiredUnexecutedProposalPlans (nowMs : Int)
  | hasRecentStagingEvidence (evidenceKey : String) (notBeforeMs : Int)
  deriving DecidableEq, Repr

abbrev LedgerCall.Value : LedgerCall → Type
  | .openLedger => Unit
  | .loadPlan _ | .createOrReusePlan _ => StoredPlan
  | .loadOperation _ | .beginOperation _ | .attachSnapshot _ _ _ | .transition _ _ _ _ =>
    StoredOperation
  | .receipt _ => OperationReceiptView
  | .incompleteOperations => List StoredOperation
  | .expiredUnexecutedProposalPlans _ => List StoredPlan
  | .hasRecentStagingEvidence _ _ => Bool

/-- Calls that leave the process. Reads come first, then the private files of the daemon, then
whatever changes the administered host. -/
inductive HostCall where
  | run (command : CommandClass)
  | runUfw (command : UfwCommand)
  | managementEdgeReady
  | certbot (command : CertbotCommand) (nowMs : Int)
  | discoverSite (siteId : String)
  | readEnabled (basename : String)
  | readAvailableContent (basename : String)
  | validateAcmeWebroot
  | discoverManagedConfig (resourceId : String)
  | discoverProtectedConfig (siteId : String)
  | certbotInstalled
  | ufwMissing
  | discoverCertificates
  | forensicLockdown
  | setForensicLockdown
  | randomBytes
  | randomSuffix
  | storeSnapshotFile (operationId fileName : String) (bytes : Bytes)
  | readSnapshotFile (relativePath : String) (maxBytes : Nat)
  | storeProposalFile (planId : String) (content : Bytes)
  | readProposalFile (relativePath : String)
  | removeProposalFile (relativePath : String)
  | cleanupInternalTemporaries
  | createLink (basename : String)
  | removeLink (basename : String)
  | createNew (path : Path)
  | setFileMode (path : Path) (mode : Nat)
  | setFileOwner (path : Path) (uid gid : Nat)
  | writeAll (path : Path) (content : Bytes)
  | rename (source destination : Path)
  | removeFile (path : Path)
  | syncDirectory (path : Path)
  deriving DecidableEq, Repr

/-- Answers of the host; a call that cannot fail has a plain value. -/
abbrev HostCall.Answer : HostCall → Type
  | .run _ | .runUfw _ => Except OpsError CommandEvidence
  | .managementEdgeReady => Except OpsError Bool
  | .certbot _ _ => Except OpsError CertbotCommandEvidence
  | .discoverSite _ => Except OpsError NginxSite
  | .readEnabled _ => Except OpsError Bool
  | .readAvailableContent _ => Except OpsError Bytes
  | .discoverManagedConfig _ | .discoverProtectedConfig _ => Except OpsError ManagedConfigResource
  | .certbotInstalled | .ufwMissing | .forensicLockdown => Bool
  | .setForensicLockdown => Unit
  | .discoverCertificates => Except OpsError (List CertificateSummaryView × List String)
  | .randomBytes => Except OpsError Bytes
  | .randomSuffix => Except OpsError UInt64
  | .storeSnapshotFile _ _ _ | .readSnapshotFile _ _ | .readProposalFile _ =>
    Except OpsError Bytes
  | .validateAcmeWebroot | .storeProposalFile _ _ | .removeProposalFile _
  | .cleanupInternalTemporaries | .createLink _ | .removeLink _ | .createNew _
  | .setFileMode _ _ | .setFileOwner _ _ _ | .writeAll _ _ | .rename _ _ | .removeFile _
  | .syncDirectory _ => Except OpsError Unit

/-- `mark` is bookkeeping: it names the operation on whose behalf the following calls are made. -/
inductive Call where
  | ledger (call : LedgerCall)
  | host (call : HostCall)
  | mark (operationId : String)
  deriving DecidableEq, Repr

abbrev Call.Answer : Call → Type
  | .ledger call => Except OpsError call.Value
  | .host call => call.Answer
  | .mark _ => Unit

/-- A fragment of the engine. -/
abbrev Ops (α : Type) := Fallible Call Call.Answer OpsError α

/-- Issues a call and continues with what `view` makes of its answer. -/
def perform {α : Type} (call : Call) (view : call.Answer → Except OpsError α) : Ops α :=
  ExceptT.mk (issue call >>= fun answer => .ret (view answer))

def ledger (call : LedgerCall) : Ops call.Value := perform (.ledger call) id

def mark (operationId : String) : Ops Unit := perform (.mark operationId) .ok

def run (command : CommandClass) : Ops CommandEvidence := perform (.host (.run command)) id

def runUfw (command : UfwCommand) : Ops CommandEvidence := perform (.host (.runUfw command)) id

def certbot (command : CertbotCommand) (nowMs : Int) : Ops CertbotCommandEvidence :=
  perform (.host (.certbot command nowMs)) id

/-- Whether a command could be run and succeeded, as `is_ok_and(|evidence| evidence.success)`. -/
def succeeded (result : Except OpsError CommandEvidence) : Bool :=
  match result with
  | .ok evidence => evidence.success
  | .error _ => false

/-! ### Ledger calls of the engine -/

def openLedger : Ops Unit :=
  onError (ledger .openLedger)
    (fun error =>
      if error = .forensicLockdown then do
        perform (.host .setForensicLockdown) .ok
        throw error
      else throw error)
    pure

def loadOperation (operationId : String) : Ops StoredOperation :=
  ledger (.loadOperation operationId)

def attachSnapshot (operationId : String) (record : SnapshotRecord) (nowMs : Int) :
    Ops StoredOperation :=
  ledger (.attachSnapshot operationId record nowMs)

def transition (operationId : String) (change : Transition) : Ops StoredOperation :=
  ledger (.transition operationId change none none)

def receipt (operationId : String) : Ops OperationReceiptView := ledger (.receipt operationId)

/-- A transition that leaves the after digest and the rollback result as they are. -/
def advance (expected : List OperationStage) (next : OperationStage) (resultCode : String)
    (evidenceDigest : String) (nowMs : Int) : Transition where
  expected := expected
  next := next
  resultCode := resultCode
  evidenceDigest := evidenceDigest
  afterDigest := none
  rollbackResult := none
  nowMs := nowMs

section Evidence

variable (codec : Codec)

def transitionWithCommandEvidence (operationId : String) (change : Transition)
    (command : OperationCommandEvidenceView) : Ops StoredOperation := do
  let stored ← lift (prepareCommandEvidence codec command change.evidenceDigest)
  ledger (.transition operationId change none (some stored))

def transitionWithDiagnostics (operationId : String) (change : Transition)
    (diagnostics : List ManagedConfigDiagnosticView) : Ops StoredOperation :=
  if diagnostics = [] then transition operationId change
  else do
    let (stored, combined) ← lift (prepareDiagnostics codec change.evidenceDigest diagnostics)
    ledger (.transition operationId { change with evidenceDigest := combined } (some stored) none)

def transitionWithDiagnosticsAndCommand (operationId : String) (change : Transition)
    (diagnostics : List ManagedConfigDiagnosticView) (command : OperationCommandEvidenceView) :
    Ops StoredOperation :=
  if diagnostics = [] then transitionWithCommandEvidence codec operationId change command
  else do
    let storedCommand ← lift (prepareCommandEvidence codec command change.evidenceDigest)
    let (stored, combined) ← lift (prepareDiagnostics codec change.evidenceDigest diagnostics)
    ledger (.transition operationId { change with evidenceDigest := combined } (some stored)
      (some storedCommand))

end Evidence

/-! ### Private files of the daemon -/

section Files

variable (runtime : Runtime)

/-- A relative path with an absolute start, an empty component, `.` or `..`. -/
def relativePathRejected (value : String) : Bool :=
  startsWith value "/" ||
    (value.toList.splitOn '/').any fun component => [[], ['.'], ['.', '.']].contains component

def writeSnapshot (kind : SnapshotKind) (operationId : String) (snapshot : kind.Data) :
    Ops SnapshotRecord := do
  let bytes := runtime.snapshotJson kind snapshot
  let digest := sha256Digest runtime.toCodec bytes
  let readBack ← perform (.host (.storeSnapshotFile operationId kind.fileName bytes)) id
  rejectIf (sha256Digest runtime.toCodec readBack ≠ digest)
    (.rejected "snapshot_read_back_mismatch")
  pure ⟨operationId ++ "/" ++ kind.fileName, digest⟩

/-- The checks made on the bytes of a snapshot file. -/
def decodeSnapshot (kind : SnapshotKind) (record : SnapshotRecord) (bytes : Bytes) :
    Except OpsError kind.Data :=
  if sha256Digest runtime.toCodec bytes ≠ record.digest then .error .forensicLockdown
  else
    match runtime.parseSnapshot kind bytes with
    | some snapshot => .ok snapshot
    | none => .error (.filesystem "snapshot is not valid JSON")

def readSnapshot (kind : SnapshotKind) (record : SnapshotRecord) : Ops kind.Data := do
  rejectIf (relativePathRejected record.relativePath) (.rejected "snapshot_path_rejected")
  let bytes ← perform (.host (.readSnapshotFile record.relativePath kind.maxBytes)) id
  lift (decodeSnapshot runtime kind record bytes)

def writeProposal (planId : String) (content : Bytes) : Ops ProposalRecord := do
  rejectIf (128 * 1024 < content.length) (.rejected "size_limit")
  rejectIf (managedConfigBytesSupported runtime.toCodec content = false)
    (.rejected "invalid_encoding")
  perform (.host (.storeProposalFile planId content)) id
  pure ⟨planId ++ "/content", sha256Digest runtime.toCodec content⟩

def readProposal (record : ProposalRecord) : Ops Bytes := do
  rejectIf (relativePathRejected record.relativePath) (.rejected "proposal_path_rejected")
  let bytes ← perform (.host (.readProposalFile record.relativePath)) id
  rejectIf (sha256Digest runtime.toCodec bytes ≠ record.digest ∨
    managedConfigBytesSupported runtime.toCodec bytes = false) .forensicLockdown
  pure bytes

def removeProposal (record : ProposalRecord) : Ops Unit := do
  rejectIf (relativePathRejected record.relativePath) (.rejected "proposal_path_rejected")
  perform (.host (.removeProposalFile record.relativePath)) id

/-- `let _cleanup = remove_proposal(..)`: the result is dropped. -/
def cleanupProposal (record : ProposalRecord) : Ops Unit := do
  let _ ← attempt (removeProposal record)

/-- The proposal files that a plan owns. -/
def planProposals (plan : StoredPlan) : List ProposalRecord :=
  (plan.managedConfig.toList.map fun payload =>
    ⟨payload.proposalRelativePath, payload.proposalDigest⟩) ++
  plan.certbotIssue.toList.map fun payload =>
    ⟨payload.accountEmailProposalRelativePath, payload.accountEmailProposalDigest⟩

def removePlanProposal (plan : StoredPlan) : Ops Unit :=
  (planProposals plan).forM cleanupProposal

end Files

end JwOps.Engine.Interface
