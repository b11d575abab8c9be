/- module: Contracts/Certificate
   source: crates/jw-contracts/src/certificate.rs
   digest: Requests for a certificate and the checks made on them. -/
import JwOps.Contracts.Digest
import JwOps.Contracts.Text
import JwOps.Foundation.Chain
import Mathlib.Algebra.Group.Int.Defs
import Mathlib.Data.List.Sort
import Mathlib.Data.List.Dedup

set_option autoImplicit false

namespace JwOps.Contracts.Certificate

open Operation Digest Text Foundation.Chain

/-! ### Names -/

/-- A label is made of lower-case letters, digits and inner hyphens. -/
def labelAccepted (label : Bytes) : Bool :=
  !label.isEmpty && label.length ≤ 63 &&
    label.all (fun byte => isLowercaseByte byte || isDigitByte byte || byte == 45) &&
    label.head?.any isAlphanumericByte && label.getLast?.any isAlphanumericByte

def validateDomainBytes (domain : Bytes) : Except String Unit :=
  if domain.length < 4 || 253 < domain.length || !domain.all (· < 128) ||
      domain.any isUppercaseByte then .error "invalid_domain"
  else
    let labels := domain.splitOn 46
    if labels.length < 2 || !labels.getLast?.any (fun label => label.any isAlphabeticByte) then
      .error "invalid_domain"
    else if !labels.all labelAccepted then .error "invalid_domain"
    else .ok ()

def validateDomain (domain : String) : Except String Unit := validateDomainBytes (utf8Bytes domain)

/-- The punctuation allowed before the at sign, in the source's order: from the full stop and the
exclamation mark to the bar, the closing brace and the tilde. -/
def emailPunctuation : Bytes :=
  [46, 33, 35, 36, 37, 38, 39, 42, 43, 45, 47, 61, 63, 94, 95, 96, 123, 124, 125, 126]

def validateEmail (email : Bytes) : Except String Unit :=
  if email.length < 6 || 254 < email.length || !email.all (· < 128) then .error "invalid_email"
  else
    match splitOnce 64 email with
    | none => .error "invalid_email"
    | some (localPart, domain) =>
      if localPart.isEmpty || 64 < localPart.length || domain.contains 64 ||
          !localPart.all (fun byte =>
            isAlphanumericByte byte || emailPunctuation.contains byte) then
        .error "invalid_email"
      else (validateDomainBytes domain).mapError fun _ => "invalid_email"

def validateToken (value : String) (minimum maximum : Nat) (code : String) : Except String Unit :=
  if (utf8Bytes value).length < minimum || maximum < (utf8Bytes value).length ||
      !(utf8Bytes value).all (fun byte => isAlphanumericByte byte || byte == 95 || byte == 45) then
    .error code
  else .ok ()

/-! ### Lists of names -/

def certbotMaxDomains : Nat := 5

/-- Sorted without repetitions, as `sort` and `dedup`. -/
def sortDedup (values : List String) : List String :=
  (values.insertionSort (· ≤ ·)).dedup

theorem sortedLT_sortDedup (values : List String) : (sortDedup values).SortedLT := by
  have sorted : (values.insertionSort (· ≤ ·)).SortedLE := List.sortedLE_insertionSort
  exact (sorted.pairwise.sublist (List.dedup_sublist _)).sortedLE.sortedLT_of_nodup
    (List.nodup_dedup _)

/-- The primary name, then the others in order. -/
def canonicalDomains (primary : String) (alternatives : List String) : List String :=
  primary :: sortDedup (alternatives.filter fun domain => domain ≠ primary)

/-! ### Requests -/

structure CertbotIssuePlanRequest where
  schemaVersion : Nat
  operationType : String
  primaryDomain : String
  alternativeDomains : List String
  accountEmail : String
  environment : CertificateEnvironment
  siteId : String
  expectedSiteDigest : String
  expectedInventoryDigest : String
  tosAgreed : Bool
  idempotencyKey : String
  deriving DecidableEq, Repr

namespace CertbotIssuePlanRequest

def domains (request : CertbotIssuePlanRequest) : List String :=
  canonicalDomains request.primaryDomain request.alternativeDomains

def validate (request : CertbotIssuePlanRequest) : Except String Unit :=
  if request.schemaVersion ≠ operationSchemaVersion then .error "schema_version"
  else if request.operationType ≠ OperationType.certbotIssue.asStr then .error "operation_type"
  else if request.tosAgreed = false then .error "tos_not_agreed"
  else do
  validateDomain request.primaryDomain
  if certbotMaxDomains ≤ request.alternativeDomains.length then .error "domains"
  else if request.domains.length ≠ request.alternativeDomains.length + 1 ∨
      request.domains.tail ≠ request.alternativeDomains then .error "domains"
  else do
  request.alternativeDomains.forM validateDomain
  validateEmail (utf8Bytes request.accountEmail)
  validateToken request.siteId 12 64 "site_id"
  if !"ngs_".toList.isPrefixOf request.siteId.toList then .error "site_id"
  else do
  validateDigest request.expectedSiteDigest
  validateDigest request.expectedInventoryDigest
  validateToken request.idempotencyKey idempotencyKeyMinBytes idempotencyKeyMaxBytes
    "idempotency_key"

/-- What an accepted request says about the names and the account. -/
theorem validate_ok {request : CertbotIssuePlanRequest} (accepted : request.validate = .ok ()) :
    validateDomain request.primaryDomain = .ok () ∧
      request.alternativeDomains.length < certbotMaxDomains ∧
      request.domains = request.primaryDomain :: request.alternativeDomains ∧
      (∀ domain ∈ request.alternativeDomains, validateDomain domain = .ok ()) ∧
      validateEmail (utf8Bytes request.accountEmail) = .ok () := by
  unfold validate at accepted
  split at accepted
  · cases accepted
  split at accepted
  · cases accepted
  split at accepted
  · cases accepted
  obtain ⟨primary, accepted⟩ := check_ok.mp accepted
  split at accepted
  · cases accepted
  next few =>
  split at accepted
  · cases accepted
  next canonical =>
  obtain ⟨alternatives, accepted⟩ := check_ok.mp accepted
  obtain ⟨email, _⟩ := check_ok.mp accepted
  refine ⟨primary, by omega, ?_, forM_ok.mp alternatives, email⟩
  have same : request.domains.tail = request.alternativeDomains := by
    by_contra differs
    exact canonical (Or.inr differs)
  exact congrArg (request.primaryDomain :: ·) same

end CertbotIssuePlanRequest

/-! ### Preflight -/

/-- `std::net::IpAddr` with its order: every address of version four precedes those of version
six, and addresses of one version are ordered by their bytes. -/
inductive IpAddr where
  | v4 (address : BitVec 32)
  | v6 (address : BitVec 128)
  deriving DecidableEq, Repr

def IpAddr.below : IpAddr → IpAddr → Bool
  | v4 address, v4 other => address.toNat < other.toNat
  | v4 _, v6 _ => true
  | v6 _, v4 _ => false
  | v6 address, v6 other => address.toNat < other.toNat

/-- Whether `follows` allows each value after the one before it. -/
def chained {α : Type} (follows : α → α → Bool) : List α → Bool
  | first :: second :: rest => follows first second && chained follows (second :: rest)
  | _ => true

/-- At most eight addresses in ascending order; `parse` is the parser of the standard library. -/
def validateIpSet (parse : String → Option IpAddr) (addresses : List String) :
    Except String Unit :=
  if addresses.isEmpty || 8 < addresses.length then .error "dns_addresses"
  else
    match addresses.mapM parse with
    | some parsed => if chained IpAddr.below parsed then .ok () else .error "dns_addresses"
    | none => .error "dns_addresses"

structure CertbotIssuePreflightEvidence where
  observedAtUnixMs : Int
  resolvedAddresses : List String
  expectedAddresses : List String
  localPort80Reachable : Bool
  localPort443Reachable : Bool
  deriving DecidableEq, Repr

def CertbotIssuePreflightEvidence.validate (parse : String → Option IpAddr)
    (evidence : CertbotIssuePreflightEvidence) (nowUnixMs : Int) : Except String Unit :=
  if nowUnixMs < evidence.observedAtUnixMs ∨
      60000 < min (nowUnixMs - evidence.observedAtUnixMs) (2 ^ 63 - 1) then
    .error "preflight_stale"
  else do
  validateIpSet parse evidence.resolvedAddresses
  validateIpSet parse evidence.expectedAddresses
  if evidence.resolvedAddresses ≠ evidence.expectedAddresses then .error "dns_mismatch"
  else if evidence.localPort80Reachable = false then .error "challenge_unreachable"
  else .ok ()

structure CertbotIssuePlanInput where
  request : CertbotIssuePlanRequest
  preflight : CertbotIssuePreflightEvidence
  deriving DecidableEq, Repr

def CertbotIssuePlanInput.validate (parse : String → Option IpAddr)
    (input : CertbotIssuePlanInput) (nowUnixMs : Int) : Except String Unit := do
  input.request.validate
  input.preflight.validate parse nowUnixMs

/-- The first character of the local part and the whole domain. -/
def maskAccountEmail (email : String) : String :=
  match splitOnce '@' email.toList with
  | none => "***"
  | some (localPart, domain) => String.ofList (localPart.take 1 ++ "***@".toList ++ domain)

end JwOps.Contracts.Certificate
