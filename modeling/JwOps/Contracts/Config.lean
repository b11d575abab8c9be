/- module: Contracts/Config
   source: crates/jw-opsd/src/{config,runner,managed_config}.rs,
     crates/jw-contracts/src/{operation,service_config,php_fpm}.rs
   digest: Paths, command classes and the thirteen adapters of managed configuration files. -/
import JwOps.Contracts.Digest

set_option autoImplicit false

namespace JwOps.Contracts.Config

open Operation Digest

/-! ### Paths -/

/-- One component of a path: text, or bytes that are no UTF-8. -/
inductive OsName where
  | text (value : String)
  | raw (bytes : Bytes)
  deriving DecidableEq, Repr

def OsName.toStr : OsName → Option String
  | .text value => some value
  | .raw _ => none

/-- An absolute path by its components, outermost first. -/
abbrev Path := List OsName

def joinPath (root : Path) (basename : String) : Path := root ++ [.text basename]

/-- `Path::parent`: the file-system root has none. -/
def parentPath (path : Path) : Option Path :=
  if path = [] then none else some path.dropLast

/-- The paths that the modelled functions read. -/
structure OpsPaths where
  nginxMain : Path
  nginxConfD : Path
  nginxAvailable : Path
  nginxEnabled : Path
  apacheMain : Path
  apachePorts : Path
  apacheConfAvailable : Path
  apacheConfEnabled : Path
  apacheSitesAvailable : Path
  apacheSitesEnabled : Path
  phpFpmIni : Path
  phpFpmGlobal : Path
  phpFpmPoolWww : Path
  phpFpmPoolDir : Path
  letsencryptLive : Path
  enforceRootOwnership : Bool
  deriving DecidableEq, Repr

def etcPath (components : List String) : Path := .text "etc" :: components.map .text

def OpsPaths.default : OpsPaths where
  nginxMain := etcPath ["nginx", "nginx.conf"]
  nginxConfD := etcPath ["nginx", "conf.d"]
  nginxAvailable := etcPath ["nginx", "sites-available"]
  nginxEnabled := etcPath ["nginx", "sites-enabled"]
  apacheMain := etcPath ["apache2", "apache2.conf"]
  apachePorts := etcPath ["apache2", "ports.conf"]
  apacheConfAvailable := etcPath ["apache2", "conf-available"]
  apacheConfEnabled := etcPath ["apache2", "conf-enabled"]
  apacheSitesAvailable := etcPath ["apache2", "sites-available"]
  apacheSitesEnabled := etcPath ["apache2", "sites-enabled"]
  phpFpmIni := etcPath ["php", "8.3", "fpm", "php.ini"]
  phpFpmGlobal := etcPath ["php", "8.3", "fpm", "php-fpm.conf"]
  phpFpmPoolWww := etcPath ["php", "8.3", "fpm", "pool.d", "www.conf"]
  phpFpmPoolDir := etcPath ["php", "8.3", "fpm", "pool.d"]
  letsencryptLive := etcPath ["letsencrypt", "live"]
  enforceRootOwnership := true

/-! ### Commands -/

inductive CommandClass where
  | nginxConfigTest | nginxReload | nginxStart | nginxStop | nginxRestart | nginxActive
  | apacheConfigTest | apacheReload | apacheStart | apacheStop | apacheRestart | apacheActive
  | jwEdgeActive | jwEdgeReady
  | phpFpm83ConfigTest | phpFpm83Reload | phpFpm83Start | phpFpm83Stop | phpFpm83Restart
  | phpFpm83Active
  | certbotTimerEnabled | certbotTimerActive
  | ufwStatus | ufwRuleAdd | ufwRuleDelete
  deriving DecidableEq, Repr

def CommandClass.asStr : CommandClass → String
  | nginxConfigTest => "nginx_config_test"
  | nginxReload => "nginx_reload"
  | nginxStart => "nginx_start"
  | nginxStop => "nginx_stop"
  | nginxRestart => "nginx_restart"
  | nginxActive => "nginx_active"
  | apacheConfigTest => "apache_config_test"
  | apacheReload => "apache_reload"
  | apacheStart => "apache_start"
  | apacheStop => "apache_stop"
  | apacheRestart => "apache_restart"
  | apacheActive => "apache_active"
  | jwEdgeActive => "jw_edge_active"
  | jwEdgeReady => "jw_edge_ready"
  | phpFpm83ConfigTest => "php_fpm_83_config_test"
  | phpFpm83Reload => "php_fpm_83_reload"
  | phpFpm83Start => "php_fpm_83_start"
  | phpFpm83Stop => "php_fpm_83_stop"
  | phpFpm83Restart => "php_fpm_83_restart"
  | phpFpm83Active => "php_fpm_83_active"
  | certbotTimerEnabled => "certbot_timer_enabled"
  | certbotTimerActive => "certbot_timer_active"
  | ufwStatus => "ufw_status"
  | ufwRuleAdd => "ufw_rule_add"
  | ufwRuleDelete => "ufw_rule_delete"

structure StreamEvidence where
  digest : String
  captured : Bytes
  truncated : Bool
  deriving DecidableEq, Repr

structure CommandEvidence where
  class_ : CommandClass
  success : Bool
  exitCode : Option Int
  timedOut : Bool
  stdout : StreamEvidence
  stderr : StreamEvidence
  deriving DecidableEq, Repr

def commandEvidenceView (evidence : CommandEvidence) : OperationCommandEvidenceView where
  class_ := evidence.class_.asStr
  success := evidence.success
  exitCode := evidence.exitCode
  timedOut := evidence.timedOut
  stdoutDigest := evidence.stdout.digest
  stdoutTruncated := evidence.stdout.truncated
  stderrDigest := evidence.stderr.digest
  stderrTruncated := evidence.stderr.truncated

def commandDigest (codec : Codec) (evidence : CommandEvidence) : String :=
  commandEvidenceDigest codec (commandEvidenceView evidence)

/-- What `execute_registered` can return: a success is an exit with code 0 before the timeout, and
both stream digests are the text of a SHA-256 value. -/
structure CommandEvidence.Produced (evidence : CommandEvidence) : Prop where
  success : evidence.success = true → evidence.timedOut = false ∧ evidence.exitCode = some 0
  stdout : validateDigest evidence.stdout.digest = .ok ()
  stderr : validateDigest evidence.stderr.digest = .ok ()

theorem CommandClass.validShape (class_ : CommandClass) :
    (class_.asStr.toList.isEmpty || operationCommandClassMaxBytes < class_.asStr.utf8ByteSize ||
      !class_.asStr.toList.all fun c => isAsciiLowercase c || isAsciiDigit c || c == '_') =
      false := by
  cases class_ <;> decide

/-- Evidence of the runner always passes the check made before it is stored. -/
theorem CommandEvidence.Produced.validateShape {evidence : CommandEvidence}
    (produced : evidence.Produced) :
    (commandEvidenceView evidence).validateShape = .ok () := by
  have outcome : ¬(evidence.success && (evidence.timedOut || evidence.exitCode ≠ some 0)) =
      true := by
    cases success : evidence.success with
    | false => exact Bool.false_ne_true
    | true =>
      obtain ⟨timely, code⟩ := produced.success success
      simp [timely, code]
  unfold OperationCommandEvidenceView.validateShape commandEvidenceView
  rw [if_neg (Bool.eq_false_iff.mp evidence.class_.validShape), if_neg outcome, produced.stdout,
    produced.stderr]
  rfl

/-! ### Adapters -/

inductive ManagedConfigAdapter where
  | nginx | nginxTree | nginxMain | nginxConfD
  | apacheTree | apacheMain | apachePorts | apacheConf | apacheSite
  | phpFpm83Ini | phpFpm83Global | phpFpm83PoolWww | phpFpm83Pool
  deriving DecidableEq, Repr

/-- The service an adapter belongs to: every command of an adapter depends on this alone. -/
inductive ConfigService where
  | nginx | apache | phpFpm83
  deriving DecidableEq, Repr

namespace ManagedConfigAdapter

def adapterId : ManagedConfigAdapter → String
  | nginx => "nginx/ubuntu-standard-v1"
  | nginxTree => "nginx/ubuntu-24.04-tree-v1"
  | nginxMain => "nginx/ubuntu-24.04-main-v1"
  | nginxConfD => "nginx/ubuntu-24.04-conf-d-v1"
  | apacheTree => "apache/ubuntu-24.04-tree-v1"
  | apacheMain => "apache/ubuntu-24.04-main-v1"
  | apachePorts => "apache/ubuntu-24.04-ports-v1"
  | apacheConf => "apache/ubuntu-24.04-conf-enabled-v1"
  | apacheSite => "apache/ubuntu-24.04-site-enabled-v1"
  | phpFpm83Ini => "php-fpm/ubuntu-24.04-8.3-v1"
  | phpFpm83Global => "php-fpm/ubuntu-24.04-8.3-global-v1"
  | phpFpm83PoolWww => "php-fpm/ubuntu-24.04-8.3-pool-www-v1"
  | phpFpm83Pool => "php-fpm/ubuntu-24.04-8.3-pool-v1"

def maximumBytes : ManagedConfigAdapter → Nat
  | nginx => 24 * 1024
  | _ => 128 * 1024

def service : ManagedConfigAdapter → ConfigService
  | nginx | nginxTree | nginxMain | nginxConfD => .nginx
  | apacheTree | apacheMain | apachePorts | apacheConf | apacheSite => .apache
  | phpFpm83Ini | phpFpm83Global | phpFpm83PoolWww | phpFpm83Pool => .phpFpm83

def configTest (adapter : ManagedConfigAdapter) : CommandClass :=
  match adapter.service with
  | .nginx => .nginxConfigTest
  | .apache => .apacheConfigTest
  | .phpFpm83 => .phpFpm83ConfigTest

def reload (adapter : ManagedConfigAdapter) : CommandClass :=
  match adapter.service with
  | .nginx => .nginxReload
  | .apache => .apacheReload
  | .phpFpm83 => .phpFpm83Reload

def active (adapter : ManagedConfigAdapter) : CommandClass :=
  match adapter.service with
  | .nginx => .nginxActive
  | .apache => .apacheActive
  | .phpFpm83 => .phpFpm83Active

def configValidCode (adapter : ManagedConfigAdapter) : String :=
  match adapter.service with
  | .nginx => "nginx_config_valid"
  | .apache => "apache_config_valid"
  | .phpFpm83 => "php_fpm_config_valid"

def reloadedCode (adapter : ManagedConfigAdapter) : String :=
  match adapter.service with
  | .nginx => "nginx_reloaded"
  | .apache => "apache_reloaded"
  | .phpFpm83 => "php_fpm_reloaded"

end ManagedConfigAdapter

structure ManagedConfigResource where
  adapter : ManagedConfigAdapter
  resourceId : String
  basename : String
  displayName : String
  root : Path
  content : Bytes
  contentDigest : String
  metadataDigest : String
  mode : Nat
  uid : Nat
  gid : Nat
  deriving DecidableEq, Repr

structure NginxSite where
  siteId : String
  basename : String
  availableDigest : String
  enabledStateDigest : String
  state : NginxSiteState
  isProtected : Bool
  deriving DecidableEq, Repr

structure ProposalRecord where
  relativePath : String
  digest : String
  deriving DecidableEq, Repr

/-! ### Resource identifiers -/

section Identifiers

variable (codec : Codec)

/-- A family tag followed by the first 18 bytes of a hash, as every resource identifier is. -/
def hashedId (family scope name : String) : String :=
  family ++ codec.base64Url
    ((codec.sha256 (utf8Bytes scope ++ [0] ++ utf8Bytes name)).1.take 18)

def nginxSiteId (layoutId basename : String) : String := hashedId codec "ngs_" layoutId basename

def nginxLayoutId : String := "ubuntu-nginx-sites-v1"

def nginxConfigResourceId (adapterId basename : String) : String :=
  hashedId codec "ngc_" adapterId basename

def managedServiceConfigResourceId (family adapterId logicalName : String) : String :=
  hashedId codec family adapterId logicalName

def phpFpmConfigResourceId (adapterId : String) : String :=
  hashedId codec "php_" adapterId "php.ini"

def phpFpmPoolConfigResourceId (basename : String) : String :=
  hashedId codec "php_" ManagedConfigAdapter.phpFpm83Pool.adapterId basename

def nginxEnabledStateDigest (enabled : Bool) : String :=
  sha256Digest codec (utf8Bytes "jw-agent/nginx/enabled-state/v1" ++ [0] ++
    utf8Bytes (if enabled then "enabled" else "disabled"))

def startsWith (value start : String) : Bool := start.toList.isPrefixOf value.toList

def managedConfigAdapter (resourceId : String) : Except OpsError ManagedConfigAdapter :=
  if startsWith resourceId "ngc_" then .ok .nginx
  else if startsWith resourceId "ngf_" then .ok .nginxTree
  else if startsWith resourceId "ngm_" then .ok .nginxMain
  else if startsWith resourceId "ngd_" then .ok .nginxConfD
  else if startsWith resourceId "apf_" then .ok .apacheTree
  else if startsWith resourceId "apm_" then .ok .apacheMain
  else if startsWith resourceId "app_" then .ok .apachePorts
  else if startsWith resourceId "apc_" then .ok .apacheConf
  else if startsWith resourceId "aps_" then .ok .apacheSite
  else if resourceId = phpFpmConfigResourceId codec ManagedConfigAdapter.phpFpm83Ini.adapterId then
    .ok .phpFpm83Ini
  else if resourceId =
      phpFpmConfigResourceId codec ManagedConfigAdapter.phpFpm83Global.adapterId then
    .ok .phpFpm83Global
  else if resourceId =
      phpFpmConfigResourceId codec ManagedConfigAdapter.phpFpm83PoolWww.adapterId then
    .ok .phpFpm83PoolWww
  else if startsWith resourceId "php_" then .ok .phpFpm83Pool
  else .error (.rejected "resource_missing")

/-! ### Checks on bytes -/

def isAsciiControlByte (byte : UInt8) : Bool := byte < 32 || byte == 127

def managedConfigBytesSupported (value : Bytes) : Bool :=
  codec.validUtf8 value &&
    value.all fun byte => !isAsciiControlByte byte || byte == 10 || byte == 13 || byte == 9

/-- Whether `needle` occurs in `value`, for a needle that is not empty. -/
def containsBytes (needle : Bytes) : Bytes → Bool
  | [] => false
  | byte :: rest => needle.isPrefixOf (byte :: rest) || containsBytes needle rest

def nginxManagementConfig (bytes : Bytes) : Bool :=
  containsBytes (utf8Bytes "jw-agent:protected-management-v1") bytes ||
    containsBytes (utf8Bytes "include /usr/share/jw-agent/nginx/proxy-common.conf;") bytes

end Identifiers

/-! ### Requests -/

def managedConfigMaxBytes : Nat := 128 * 1024

structure ManagedConfigPlanRequest where
  schemaVersion : Nat
  operationType : OperationType
  resourceId : String
  expectedContentDigest : String
  expectedMetadataDigest : String
  proposedContent : Bytes
  serviceAction : ServiceAction
  idempotencyKey : String
  deriving DecidableEq, Repr

def validateIdempotencyKey (value : String) : Except String Unit :=
  validateAsciiRange value idempotencyKeyMinBytes idempotencyKeyMaxBytes "idempotency_key"

def ManagedConfigPlanRequest.validate (codec : Codec) (request : ManagedConfigPlanRequest) :
    Except String Unit :=
  if request.schemaVersion ≠ operationSchemaVersion then .error "schema_version"
  else if request.operationType ≠ .managedConfig then .error "operation_type"
  else do
  validateManagedConfigResourceId request.resourceId
  validateDigest request.expectedContentDigest
  validateDigest request.expectedMetadataDigest
  if managedConfigMaxBytes < request.proposedContent.length then .error "size_limit"
  else if managedConfigBytesSupported codec request.proposedContent = false then
    .error "invalid_encoding"
  -- only the identifiers of enabled-site files are checked for the management configuration
  else if startsWith request.resourceId "ngc_" ∧ nginxManagementConfig request.proposedContent then
    .error "protected_content"
  else if request.serviceAction ≠ .reload ∧ request.serviceAction ≠ .validateOnly then
    .error "unsupported_service_action"
  else validateIdempotencyKey request.idempotencyKey

structure ManagedConfigRestorePlanRequest where
  schemaVersion : Nat
  operationType : OperationType
  sourceOperationId : String
  expectedContentDigest : String
  expectedMetadataDigest : String
  idempotencyKey : String
  deriving DecidableEq, Repr

def ManagedConfigRestorePlanRequest.validate (request : ManagedConfigRestorePlanRequest) :
    Except String Unit :=
  if request.schemaVersion ≠ operationSchemaVersion then .error "schema_version"
  else if request.operationType ≠ .managedConfigRestore then .error "operation_type"
  else do
  validateAsciiRange request.sourceOperationId 1 operationIdMaxBytes "source_operation_id"
  validateDigest request.expectedContentDigest
  validateDigest request.expectedMetadataDigest
  validateIdempotencyKey request.idempotencyKey

end JwOps.Contracts.Config
