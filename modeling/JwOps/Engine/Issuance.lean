/- module: Engine/Issuance
   source: crates/jw-contracts/src/certificate.rs, crates/jw-opsd/src/certificate.rs
   digest: A request for a certificate, the command made of it and the certificate read back. -/
import JwOps.Engine.Requests

set_option autoImplicit false

namespace JwOps.Engine.Interface.CertbotCommand

open Contracts Operation Digest Certificate Foundation.Chain

/-- Every name is valid and greater than the one before it. -/
def validateOrdered (previous : Option String) : List String → Except String Unit
  | [] => .ok ()
  | domain :: rest => do
    validateDomain domain
    if previous.any (domain ≤ ·) then .error "domains" else validateOrdered (some domain) rest

/-- The check of the certificate daemon. -/
def validate : CertbotCommand → Except String Unit
  | issue primaryDomain domains accountEmail _ tosAgreed =>
    if tosAgreed = false then .error "tos_not_agreed"
    else do
    validateDomain primaryDomain
    if domains.isEmpty ∨ certbotMaxDomains < domains.length ∨
        domains.head? ≠ some primaryDomain then .error "domains"
    else do
    validateOrdered none domains
    validateEmail accountEmail
  | renewDryRun => .ok ()
  | verifyLocalTls serverName expectedFingerprint => do
    validateDomain serverName
    validateDigest expectedFingerprint

theorem validateOrdered_ok {previous : Option String} {domains : List String} :
    validateOrdered previous domains = .ok () ↔
      (∀ domain ∈ domains, validateDomain domain = .ok ()) ∧
        (previous.toList ++ domains).IsChain (· < ·) := by
  induction domains generalizing previous with
  | nil => cases previous <;> simp [validateOrdered]
  | cons domain rest ih =>
    have step : validateOrdered previous (domain :: rest) = .ok () ↔
        validateDomain domain = .ok () ∧ (∀ value ∈ previous, value < domain) ∧
          validateOrdered (some domain) rest = .ok () := by
      rw [validateOrdered, check_ok]
      cases previous with
      | none => simp [-String.lt_iff_ltb]
      | some value =>
        by_cases below : domain ≤ value
        · simp [-String.lt_iff_ltb, below, not_lt.mpr below]
        · simp [-String.lt_iff_ltb, below, not_le.mp below]
    rw [step, ih, List.forall_mem_cons]
    cases previous with
    | none => simp [-String.lt_iff_ltb, and_assoc]
    | some value =>
      simp [-String.lt_iff_ltb]
      tauto

/-- The names of an issue are taken from the lowest to the highest. -/
theorem validate_issue_ok {primaryDomain : String} {alternatives : List String}
    {accountEmail : Bytes} {environment : CertificateEnvironment}
    (primary : validateDomain primaryDomain = .ok ())
    (few : alternatives.length < certbotMaxDomains)
    (names : ∀ domain ∈ alternatives, validateDomain domain = .ok ())
    (email : validateEmail accountEmail = .ok ()) :
    validate (issue primaryDomain (primaryDomain :: alternatives) accountEmail environment true) =
        .ok () ↔ (primaryDomain :: alternatives).SortedLT := by
  have fits : ¬ certbotMaxDomains < alternatives.length + 1 := by omega
  rw [validate, primary, List.sortedLT_iff_isChain]
  simp only [Bool.true_eq_false, ↓reduceIte, List.isEmpty_cons, List.length_cons, fits,
    List.head?_cons, ne_eq, not_true_eq_false, or_self, Bool.false_eq_true]
  rw [check_ok, check_ok, validateOrdered_ok, email]
  constructor
  · rintro ⟨_, ⟨_, ascending⟩, _⟩
    exact ascending
  · intro ascending
    exact ⟨rfl, ⟨List.forall_mem_cons.mpr ⟨primary, names⟩, ascending⟩, rfl⟩

end JwOps.Engine.Interface.CertbotCommand

namespace JwOps.Engine.Issuance

open Contracts.Operation Contracts.Digest Contracts.Config Contracts.Text Contracts.Certificate
open Ledger.Schema Engine.Interface Engine.Certbot Engine.Requests Foundation.Chain

/-! ### The certificate read back -/

/-- What has been found in the output so far. -/
structure X509Fields where
  fingerprint : Option String
  notAfter : Option String
  sans : List String

def fingerprintOf (value : List Char) : Option String :=
  let hex := toAsciiLowercase (value.filter (· ≠ ':'))
  if hex.length = 64 ∧ hex.all isLowerHexDigit then some ("sha256:" ++ String.ofList hex) else none

/-- A line can name a fingerprint, an end of validity and any number of alternative names; names
that are not valid domains are passed over. -/
def readX509Line (fields : X509Fields) (line : List Char) : X509Fields where
  fingerprint :=
    (((stripText "sha256 Fingerprint=" (trim line)).or
      (stripText "SHA256 Fingerprint=" (trim line))).bind fingerprintOf).or fields.fingerprint
  notAfter := ((stripText "notAfter=" (trim line)).map String.ofList).or fields.notAfter
  sans := fields.sans ++ ((trim line).splitOn ',').filterMap fun item =>
    ((stripText "DNS:" (trim item)).map String.ofList).filter fun domain =>
      (validateDomain domain).toBool

def parseX509Output (output : List Char) : Except OpsError (String × String × List String) :=
  let fields := (lines output).foldl readX509Line ⟨none, none, []⟩
  match fields.fingerprint, fields.notAfter with
  | some fingerprint, some notAfter =>
    if fields.sans.isEmpty then .error (.rejected "certificate_invalid")
    else .ok (fingerprint, notAfter, fields.sans)
  | _, _ => .error (.rejected "certificate_invalid")

/-- `inspect_lineage` from the texts of the renewal file and of the certificate on. -/
def inspectLineage (domain : String) (renewal output : List Char) :
    Except OpsError CertificateSummaryView := do
  let (fingerprint, notAfter, names) ← parseX509Output output
  let sans := sortDedup names
  if domain ∉ sans then throw (.rejected "certificate_invalid")
  let states (text : String) := (lines renewal).any fun line => trim line == text.toList
  pure {
    primaryDomain := domain
    sans := sans
    notAfter := notAfter
    fingerprintSha256 := fingerprint
    certificatePath := "…/live/" ++ domain ++ "/fullchain.pem"
    privateKeyPresent := true
    renewalConfigPresent := true
    webrootManaged := states "authenticator = webroot" &&
      states "webroot_path = /var/lib/jw-agent/acme-webroot" }

theorem inspectLineage_ok {domain : String} {renewal output : List Char}
    {certificate : CertificateSummaryView}
    (inspected : inspectLineage domain renewal output = .ok certificate) :
    certificate.primaryDomain = domain ∧ certificate.sans.SortedLT := by
  unfold inspectLineage at inspected
  cases parsed : parseX509Output output with
  | error error => rw [parsed] at inspected; cases inspected
  | ok found =>
    rw [parsed] at inspected
    by_cases listed : domain ∈ sortDedup found.2.2
    · simp only [bind, Except.bind, pure, Except.pure, listed, not_true_eq_false,
        ↓reduceIte] at inspected
      cases inspected
      exact ⟨rfl, sortedLT_sortDedup _⟩
    · simp only [bind, Except.bind, listed, not_false_eq_true, ↓reduceIte] at inspected
      cases inspected

/-! ### What the web daemon adds -/

/-- What the web daemon is configured with and can observe. -/
structure PreflightFacts where
  publicHost : Option String
  publicAddresses : List IpAddr
  /-- A lookup that fails or takes too long gives none. -/
  lookupHost : String → Option (List IpAddr)
  localPort80Reachable : Bool
  localPort443Reachable : Bool
  /-- The text of an address. -/
  display : IpAddr → String

def sortDedupAddresses (addresses : List IpAddr) : List IpAddr :=
  (addresses.insertionSort fun first second => second.below first = false).dedup

def observeCertbotIssuePreflight (facts : PreflightFacts) (domains : List String) (nowMs : Int) :
    Except String CertbotIssuePreflightEvidence :=
  let expected := sortDedupAddresses facts.publicAddresses
  if expected.isEmpty then .error "public_address_unconfigured"
  else do
  domains.forM fun domain =>
    match facts.lookupHost domain with
    | none => .error "dns_resolution_failed"
    | some resolved =>
      if sortDedupAddresses resolved ≠ expected then .error "dns_mismatch" else .ok ()
  if facts.localPort80Reachable = false then .error "challenge_unreachable"
  else .ok {
    observedAtUnixMs := nowMs
    resolvedAddresses := expected.map facts.display
    expectedAddresses := expected.map facts.display
    localPort80Reachable := facts.localPort80Reachable
    localPort443Reachable := facts.localPort443Reachable }

/-- What the web daemon sends for a request of the browser, once the session is accepted. -/
def certbotIssuePlanInput (facts : PreflightFacts) (request : CertbotIssuePlanRequest)
    (nowMs : Int) : Except String CertbotIssuePlanInput := do
  request.validate
  if facts.publicHost ≠ some request.primaryDomain then .error "invalid_domain"
  else do
  let preflight ← observeCertbotIssuePreflight facts request.domains nowMs
  pure ⟨request, preflight⟩

/-- All that the time adds is the time. -/
theorem certbotIssuePlanInput_ok {facts : PreflightFacts} {request : CertbotIssuePlanRequest}
    {nowMs : Int} {input : CertbotIssuePlanInput}
    (observed : certbotIssuePlanInput facts request nowMs = .ok input) :
    input = ⟨request, nowMs, (sortDedupAddresses facts.publicAddresses).map facts.display,
      (sortDedupAddresses facts.publicAddresses).map facts.display, facts.localPort80Reachable,
      facts.localPort443Reachable⟩ := by
  unfold certbotIssuePlanInput at observed
  obtain ⟨_, observed⟩ := check_ok.mp observed
  split at observed
  · cases observed
  obtain ⟨preflight, seen, same⟩ := bind_ok.mp observed
  obtain rfl := Except.ok.inj same
  unfold observeCertbotIssuePreflight at seen
  dsimp only at seen
  split at seen
  · cases seen
  obtain ⟨_, seen⟩ := check_ok.mp seen
  split at seen
  · cases seen
  · obtain rfl := Except.ok.inj seen
    rfl

/-! ### From the request to the certificate -/

variable (runtime : Runtime)

/-- The command that an accepted request becomes is accepted, and the certificate that lists exactly
the requested names is recognised, just if the primary name is the lowest. -/
theorem issue_carried_out_iff (input : CertbotIssuePlanInput)
    (accepted : input.request.validate = .ok ()) (site : NginxSite)
    (inventory : CertificateInventoryView) (proposal : ProposalRecord) (valid : Bool)
    (payload : CertbotIssuePlanPayload)
    (planned : payload = certbotIssuePlanPayload runtime input site inventory proposal valid) :
    (CertbotCommand.validate (.issue payload.primaryDomain payload.domains
        (utf8Bytes input.request.accountEmail) payload.environment true) = .ok () ↔
      ∀ alternative ∈ input.request.alternativeDomains,
        input.request.primaryDomain < alternative) ∧
    ∀ renewal output certificate readBack,
      inspectLineage payload.primaryDomain renewal output = .ok certificate →
      (∀ name, name ∈ certificate.sans ↔ name ∈ input.request.domains) →
      readBack.certificates.find? (fun found => found.primaryDomain == payload.primaryDomain) =
        some certificate →
      certificate.webrootManaged = true → readBack.timerEnabled = true →
      readBack.timerActive = true → payload.environment = .production →
      (issueVerified payload readBack = true ↔
        ∀ alternative ∈ input.request.alternativeDomains,
          input.request.primaryDomain < alternative) := by
  obtain ⟨primary, few, names, alternatives, email⟩ := CertbotIssuePlanRequest.validate_ok accepted
  have primaryDomain : payload.primaryDomain = input.request.primaryDomain := by rw [planned]; rfl
  have domains : payload.domains =
      input.request.primaryDomain ::
        input.request.alternativeDomains := by rw [planned, ← names]; rfl
  -- the alternatives of an accepted request are in order already
  have ordered : input.request.alternativeDomains.SortedLT := by
    have tail := (List.cons.inj names).2
    exact tail ▸ sortedLT_sortDedup _
  have lowest : (input.request.primaryDomain :: input.request.alternativeDomains).SortedLT ↔
      ∀ alternative ∈ input.request.alternativeDomains,
        input.request.primaryDomain < alternative := by
    rw [List.sortedLT_iff_pairwise, List.pairwise_cons]
    exact and_iff_left ordered.pairwise
  refine ⟨?_, ?_⟩
  · rw [primaryDomain, domains, ← lowest]
    exact CertbotCommand.validate_issue_ok primary few alternatives email
  · intro renewal output certificate readBack inspected listed found webroot enabled active
      production
    have sans := (inspectLineage_ok inspected).2
    have compared : issueVerified payload readBack = true ↔
        certificate.sans = input.request.primaryDomain :: input.request.alternativeDomains := by
      simp [issueVerified, production, found, webroot, enabled, active, domains]
    rw [compared, ← lowest]
    constructor
    · intro same
      exact same ▸ sans
    · intro ascending
      exact sans.eq_of_mem_iff ascending fun name => names ▸ listed name

/-! ### Samples -/

/-- A request for two names. -/
def sampleRequest (primaryDomain alternative : String) : CertbotIssuePlanRequest where
  schemaVersion := 1
  operationType := "certbot.certificate.issue/v1"
  primaryDomain := primaryDomain
  alternativeDomains := [alternative]
  accountEmail := "admin@example.com"
  environment := .production
  siteId := "ngs_00000000"
  expectedSiteDigest := "sha256:" ++ String.ofList (List.replicate 64 '0')
  expectedInventoryDigest := "sha256:" ++ String.ofList (List.replicate 64 '0')
  tosAgreed := true
  idempotencyKey := "0123456789abcdef"

def sampleOutput : String :=
  "sha256 Fingerprint=" ++ String.ofList (List.replicate 64 'A') ++
    "\nnotAfter=Nov 15 00:00:00 2026 GMT\nX509v3 Subject Alternative Name: \n" ++
    "    DNS:www.example.com, DNS:example.com\n"

def sampleRenewal : String :=
  "authenticator = webroot\nwebroot_path = /var/lib/jw-agent/acme-webroot\n"

def samplePayload (request : CertbotIssuePlanRequest) : CertbotIssuePlanPayload :=
  certbotIssuePlanPayload sampleRuntime ⟨request, ⟨0, [], [], true, true⟩⟩
    ⟨"ngs_00000000", "site", "", "", .enabled, true⟩ ⟨"", true, true, true, "", [], []⟩ ⟨"",
      ""⟩ true

def sampleReadBack (certificate : CertificateSummaryView) : CertificateInventoryView :=
  ⟨"", true, true, true, "", [certificate], []⟩

theorem sampleRequest_accepted :
    (sampleRequest "example.com" "www.example.com").validate = .ok () ∧
      (sampleRequest "www.example.com" "example.com").validate = .ok () := by
  decide +kernel

def sampleCertificate (domain : String) : CertificateSummaryView where
  primaryDomain := domain
  sans := ["example.com", "www.example.com"]
  notAfter := "Nov 15 00:00:00 2026 GMT"
  fingerprintSha256 := "sha256:" ++ String.ofList (List.replicate 64 'a')
  certificatePath := "…/live/" ++ domain ++ "/fullchain.pem"
  privateKeyPresent := true
  renewalConfigPresent := true
  webrootManaged := true

theorem sampleOutput_inspected : inspectLineage "example.com" sampleRenewal.toList
      sampleOutput.toList = .ok (sampleCertificate "example.com") ∧
    inspectLineage "www.example.com" sampleRenewal.toList sampleOutput.toList =
      .ok (sampleCertificate "www.example.com") := by
  -- the kernel reads lists faster than strings
  unfold sampleRenewal sampleOutput
  rw [String.toList_append, String.toList_append, String.toList_append]
  repeat rw [String.toList_ofList]
  decide +kernel

theorem issue_carried_out_of_lowest_primary :
    CertbotCommand.validate (.issue "example.com" ["example.com", "www.example.com"]
        (utf8Bytes "admin@example.com") .production true) = .ok () ∧
      issueVerified (samplePayload (sampleRequest "example.com" "www.example.com"))
        (sampleReadBack (sampleCertificate "example.com")) = true := by
  have domains : (sampleRequest "example.com" "www.example.com").domains =
      ["example.com", "www.example.com"] := by decide +kernel
  have lowest : ∀ alternative ∈ (sampleRequest "example.com" "www.example.com").alternativeDomains,
      "example.com" < alternative := by decide +kernel
  obtain ⟨command, verified⟩ := issue_carried_out_iff sampleRuntime
    ⟨sampleRequest "example.com" "www.example.com", ⟨0, [], [], true, true⟩⟩
    sampleRequest_accepted.1 _ _ _ _ (samplePayload (sampleRequest "example.com" "www.example.com"))
    rfl
  constructor
  · rw [← domains]
    exact command.mpr lowest
  · refine (verified sampleRenewal.toList sampleOutput.toList (sampleCertificate "example.com")
      (sampleReadBack (sampleCertificate "example.com")) sampleOutput_inspected.1 (fun name => ?_)
      ?_ rfl rfl rfl rfl).mpr lowest
    · exact domains.symm ▸ Iff.rfl
    · decide +kernel

/-- A request that puts the longer name first is accepted; its command is not, and neither is the
certificate that lists both names. -/
theorem higher_primary_not_carried_out :
    (sampleRequest "www.example.com" "example.com").validate = .ok () ∧
      CertbotCommand.validate (.issue "www.example.com"
        (sampleRequest "www.example.com" "example.com").domains (utf8Bytes "admin@example.com")
        .production true) = .error "domains" ∧
      inspectLineage "www.example.com" sampleRenewal.toList sampleOutput.toList =
        .ok (sampleCertificate "www.example.com") ∧
      (∀ name, name ∈ (sampleCertificate "www.example.com").sans ↔
        name ∈ (sampleRequest "www.example.com" "example.com").domains) ∧
      issueVerified (samplePayload (sampleRequest "www.example.com" "example.com"))
        (sampleReadBack (sampleCertificate "www.example.com")) = false := by
  have domains : (sampleRequest "www.example.com" "example.com").domains =
      ["www.example.com", "example.com"] := by decide +kernel
  refine ⟨sampleRequest_accepted.2, ?_, sampleOutput_inspected.2, fun name => ?_, ?_⟩
  · decide +kernel
  · rw [domains]
    simp [sampleCertificate, or_comm]
  · decide +kernel

end JwOps.Engine.Issuance
