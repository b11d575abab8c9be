/- module: Contracts/Operation
   source: crates/jw-contracts/src/operation.rs, crates/jw-contracts/src/operation/*.rs,
     crates/jw-contracts/src/auth.rs
   digest: Wire types of privileged operations, their stages and the shape checks on them. -/
import Mathlib.Logic.Basic

set_option autoImplicit false

namespace JwOps.Contracts.Operation

/-- File contents, captured output and everything else that the source keeps as `Vec<u8>`. -/
abbrev Bytes := List UInt8

/-- The `operation_type` texts that the engine dispatches on. -/
inductive OperationType where
  | nginxSiteState
  | managedConfig
  | managedConfigRestore
  | serviceControl
  | certbotIssue
  | certbotRenewTest
  | certbotAttach
  | ufwRule
  | unregistered (name : String)
  deriving DecidableEq, Repr

namespace OperationType

def asStr : OperationType → String
  | nginxSiteState => "nginx.site_state.set/v1"
  | managedConfig => "service.config_file.set/v1"
  | managedConfigRestore => "service.config_file.restore/v1"
  | serviceControl => "service.lifecycle.set/v1"
  | certbotIssue => "certbot.certificate.issue/v1"
  | certbotRenewTest => "certbot.certificate.renew_test/v1"
  | certbotAttach => "certbot.certificate.attach/v1"
  | ufwRule => "ufw.rule.set/v1"
  | unregistered name => name

end OperationType

inductive OperationStage where
  | planned
  | approved
  | snapshotted
  | applying
  | validating
  | reloading
  | verifying
  | rollingBack
  | succeeded
  | rolledBack
  | recoveryRequired
  | rejected
  | expired
  | cancelledBeforeApply
  deriving DecidableEq, Repr

namespace OperationStage

def isTerminal : OperationStage → Bool
  | succeeded | rolledBack | recoveryRequired | rejected | expired | cancelledBeforeApply => true
  | _ => false

def asStorageValue : OperationStage → String
  | planned => "PLANNED"
  | approved => "APPROVED"
  | snapshotted => "SNAPSHOTTED"
  | applying => "APPLYING"
  | validating => "VALIDATING"
  | reloading => "RELOADING"
  | verifying => "VERIFYING"
  | rollingBack => "ROLLING_BACK"
  | succeeded => "SUCCEEDED"
  | rolledBack => "ROLLED_BACK"
  | recoveryRequired => "RECOVERY_REQUIRED"
  | rejected => "REJECTED"
  | expired => "EXPIRED"
  | cancelledBeforeApply => "CANCELLED_BEFORE_APPLY"

end OperationStage

inductive Role where
  | admin
  | operator
  | viewer
  deriving DecidableEq, Repr

structure Subject where
  uid : UInt32
  username : String
  role : Role
  deriving DecidableEq, Repr

inductive NginxSiteState where
  | enabled
  | disabled
  deriving DecidableEq, Repr

inductive ServiceAction where
  | validateOnly
  | reload
  | restart
  deriving DecidableEq, Repr

inductive ManagedServiceAction where
  | start
  | stop
  | restart
  | reload
  deriving DecidableEq, Repr

def ManagedServiceAction.asStorageValue : ManagedServiceAction → String
  | start => "start"
  | stop => "stop"
  | restart => "restart"
  | reload => "reload"

inductive CertificateEnvironment where
  | staging
  | production
  deriving DecidableEq, Repr

inductive UfwRuleMutation where
  | allow
  | deny
  | delete
  deriving DecidableEq, Repr

def UfwRuleMutation.asStr : UfwRuleMutation → String
  | allow => "allow"
  | deny => "deny"
  | delete => "delete"

inductive UfwProtocol where
  | tcp
  | udp
  deriving DecidableEq, Repr

def UfwProtocol.asStr : UfwProtocol → String
  | tcp => "tcp"
  | udp => "udp"

/-! ### Shape checks -/

def operationSchemaVersion : Nat := 1
def idempotencyKeyMinBytes : Nat := 16
def idempotencyKeyMaxBytes : Nat := 64
def digestBytes : Nat := 71
def planIdMaxBytes : Nat := 64
def operationIdMaxBytes : Nat := 64
def operationCommandClassMaxBytes : Nat := 64
def managedConfigDiagnosticMaxEntries : Nat := 32
def managedConfigDiagnosticMaxMessageBytes : Nat := 240
def managedConfigDiagnosticMaxRelatedLines : Nat := 16

/-- The text after `start`, if `value` starts with it. -/
def stripStart (value start : String) : Option (List Char) :=
  if start.toList.isPrefixOf value.toList then some (value.toList.drop start.toList.length)
  else none

def isAsciiDigit (c : Char) : Bool := '0' ≤ c && c ≤ '9'
def isAsciiLowercase (c : Char) : Bool := 'a' ≤ c && c ≤ 'z'
def isAsciiUppercase (c : Char) : Bool := 'A' ≤ c && c ≤ 'Z'
def isAsciiAlphanumeric (c : Char) : Bool :=
  isAsciiDigit c || isAsciiLowercase c || isAsciiUppercase c
def isAsciiGraphic (c : Char) : Bool := '!' ≤ c && c ≤ '~'
def isAsciiControl (c : Char) : Bool := c.toNat < 32 || c.toNat == 127
def isLowerHexDigit (c : Char) : Bool := isAsciiDigit c || ('a' ≤ c && c ≤ 'f')

def validateDigest (value : String) : Except String Unit :=
  match stripStart value "sha256:" with
  | none => .error "digest"
  | some hex =>
    if value.utf8ByteSize ≠ digestBytes || !hex.all isLowerHexDigit then .error "digest"
    else .ok ()

def validateAsciiRange (value : String) (minimum maximum : Nat) (error : String) :
    Except String Unit :=
  if value.utf8ByteSize < minimum || maximum < value.utf8ByteSize ||
      !value.toList.all isAsciiGraphic then .error error
  else .ok ()

def validateIdentifier (value start error : String) : Except String Unit :=
  if value.utf8ByteSize < start.utf8ByteSize + 8 || 64 < value.utf8ByteSize ||
      !start.toList.isPrefixOf value.toList ||
      !value.toList.all (fun c => isAsciiAlphanumeric c || c == '_' || c == '-') then .error error
  else .ok ()

/-- The resource-id families, in the order in which the source tries them. -/
def managedConfigResourceFamilies : List String :=
  ["ngc_", "ngf_", "ngm_", "ngd_", "apf_", "apm_", "app_", "apc_", "aps_", "php_"]

def validateManagedConfigResourceId (value : String) : Except String Unit :=
  match managedConfigResourceFamilies.find? (fun start => start.toList.isPrefixOf value.toList) with
  | some start => validateIdentifier value start "resource_id"
  | none => .error "resource_id"

/-! ### Evidence stored beside ledger events -/

structure OperationCommandEvidenceView where
  class_ : String
  success : Bool
  exitCode : Option Int
  timedOut : Bool
  stdoutDigest : String
  stdoutTruncated : Bool
  stderrDigest : String
  stderrTruncated : Bool
  deriving DecidableEq, Repr

def OperationCommandEvidenceView.validateShape (view : OperationCommandEvidenceView) :
    Except String Unit :=
  if view.class_.toList.isEmpty || operationCommandClassMaxBytes < view.class_.utf8ByteSize ||
      !view.class_.toList.all (fun c => isAsciiLowercase c || isAsciiDigit c || c == '_') then
    .error "command_class"
  else if view.success && (view.timedOut || view.exitCode ≠ some 0) then .error "command_success"
  else do
    validateDigest view.stdoutDigest
    validateDigest view.stderrDigest

inductive ManagedConfigDiagnosticSeverity where
  | error
  | warning
  deriving DecidableEq, Repr

structure ManagedConfigDiagnosticView where
  service : String
  validator : String
  resourceId : Option String
  maskedPath : Option String
  line : Option UInt32
  column : Option UInt32
  severity : ManagedConfigDiagnosticSeverity
  code : String
  message : String
  relatedChangedLines : List UInt32
  causeCandidateLines : List UInt32
  deriving DecidableEq, Repr

def ManagedConfigDiagnosticView.validateShape (view : ManagedConfigDiagnosticView) :
    Except String Unit := do
  validateAsciiRange view.service 1 32 "diagnostic_service"
  validateAsciiRange view.validator 1 64 "diagnostic_validator"
  match view.resourceId with
  | some resourceId => validateManagedConfigResourceId resourceId
  | none => pure ()
  match view.maskedPath with
  | some maskedPath =>
    if maskedPath.toList.isEmpty || 512 < maskedPath.utf8ByteSize ||
        maskedPath.toList.any isAsciiControl then throw "diagnostic_masked_path"
  | none => pure ()
  if view.line = some 0 then throw "diagnostic_line"
  if view.column = some 0 then throw "diagnostic_column"
  validateAsciiRange view.code 1 96 "diagnostic_code"
  if view.message.toList.isEmpty ||
      managedConfigDiagnosticMaxMessageBytes < view.message.utf8ByteSize ||
      view.message.toList.any isAsciiControl then throw "diagnostic_message"
  if managedConfigDiagnosticMaxRelatedLines < view.relatedChangedLines.length ||
      view.relatedChangedLines.contains 0 then throw "diagnostic_related_lines"
  if managedConfigDiagnosticMaxRelatedLines < view.causeCandidateLines.length ||
      view.causeCandidateLines.contains 0 then throw "diagnostic_cause_candidate_lines"

end JwOps.Contracts.Operation
