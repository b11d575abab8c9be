/- module: Contracts/Firewall
   source: crates/jw-contracts/src/firewall.rs
   digest: Requests for firewall rules, the identifier made for a rule, and the addresses that the
   source of a rule denotes. -/
import JwOps.Contracts.Certificate
import Mathlib.Data.UInt

set_option autoImplicit false

namespace JwOps.Contracts.Firewall

open Operation Digest Certificate Text Foundation.Chain

structure UfwRulePlanRequest where
  schemaVersion : Nat
  operationType : String
  mutation : UfwRuleMutation
  protocol : Option UfwProtocol
  port : Option UInt16
  source : Option String
  ruleId : Option String
  expectedStateDigest : String
  idempotencyKey : String
  deriving DecidableEq, Repr

def ufwRuleIdPrefix : String := "ufr_"
def ufwProtectedTcpPorts : List UInt16 := [22, 443, 9443]

def validRuleId (value : String) : Bool :=
  value.utf8ByteSize == ufwRuleIdPrefix.utf8ByteSize + 24 &&
    ufwRuleIdPrefix.toList.isPrefixOf value.toList &&
    value.toList.all fun c => isAsciiAlphanumeric c || c == '_'

/-- The text of the address, and that of the length behind the first slash. -/
def splitSource (value : String) : String × Option (List Char) :=
  match splitOnce '/' value.toList with
  | none => (value, none)
  | some (address, length) => (String.ofList address, some length)

section Requests

/-! `parse` and `display` are `IpAddr::from_str` and `IpAddr::to_string`. -/

variable (parse : String → Option IpAddr) (display : IpAddr → String)

def validateSource (value : String) : Except String Unit :=
  match parse (splitSource value).1 with
  | none => .error "invalid_source"
  | some parsed =>
    if display parsed ≠ (splitSource value).1 then .error "invalid_source"
    else
      match (splitSource value).2 with
      | none => .ok ()
      | some digits =>
        let maximum := match parsed with
          | .v4 _ => 32
          | .v6 _ => 128
        if digits.isEmpty || (1 < digits.length && digits.head? == some '0') ||
            !digits.all isAsciiDigit then .error "invalid_source"
        -- a number that does not fit a byte has the same error
        else if maximum < Nat.ofDigitChars 10 digits 0 then .error "invalid_source"
        else .ok ()

namespace UfwRulePlanRequest

variable (request : UfwRulePlanRequest)

/-- The checks that depend on the mutation. -/
def validateRule : Except String Unit :=
  if request.mutation = .delete then
    if request.protocol.isSome || request.port.isSome || request.source.isSome ||
        !request.ruleId.any validRuleId then .error "delete_shape"
    else .ok ()
  else
    match request.protocol, request.port.filter (0 < ·) with
    | none, _ => .error "protocol"
    | some _, none => .error "port"
    | some protocol, some port =>
      if request.ruleId.isSome then .error "rule_id"
      else do
      request.source.forM (validateSource parse display)
      if request.mutation = .deny ∧ protocol = .tcp ∧ ufwProtectedTcpPorts.contains port then
        .error "protected_management_rule"
      else .ok ()

def validate : Except String Unit :=
  if request.schemaVersion ≠ operationSchemaVersion then .error "schema_version"
  else if request.operationType ≠ OperationType.ufwRule.asStr then .error "operation_type"
  else do
  validateDigest request.expectedStateDigest
  validateAsciiRange request.idempotencyKey idempotencyKeyMinBytes idempotencyKeyMaxBytes
    "idempotency_key"
  request.validateRule parse display

end UfwRulePlanRequest

/-! ### Identifiers -/

/-- What is hashed before the source. -/
def ruleFront (mutation : UfwRuleMutation) (protocol : UfwProtocol) (port : UInt16) : Bytes :=
  utf8Bytes "jw-agent/ufw-rule/v1" ++ [0] ++ utf8Bytes mutation.asStr ++ [0] ++
    utf8Bytes protocol.asStr ++ [0] ++ [UInt8.ofNat (port.toNat / 256), UInt8.ofNat port.toNat] ++
    [0]

/-- The bytes whose hash names a new rule. -/
def UfwRulePlanRequest.hashed (request : UfwRulePlanRequest) : Option Bytes := do
  let protocol ← request.protocol
  let port ← request.port
  some (ruleFront request.mutation protocol port ++ utf8Bytes (request.source.getD "any"))

/-- The hash is hashed once more, and 24 digits of the result are kept. -/
def ruleSuffix (codec : Codec) (content : Bytes) : List Char :=
  ((sha256Digest codec (codec.sha256 content).1).toList.drop "sha256:".length).take 24

def UfwRulePlanRequest.generatedRuleId (codec : Codec) (request : UfwRulePlanRequest) :
    Option String :=
  if request.mutation = .delete then request.ruleId
  else request.hashed.map fun content =>
    String.ofList (ufwRuleIdPrefix.toList ++ ruleSuffix codec content)

/-! ### Addresses -/

/-- The leading bits of an address, in its family. -/
def network (length : Nat) : IpAddr → IpAddr
  | .v4 address => .v4 (address >>> (32 - length))
  | .v6 address => .v6 (address >>> (128 - length))

/-- The addresses that a source stands for: without one, all of both families. -/
def Denotes (source : Option String) (address : IpAddr) : Prop :=
  match source with
  | none => True
  | some value =>
    match parse (splitSource value).1, (splitSource value).2 with
    | none, _ => False
    | some base, none => address = base
    | some base, some digits =>
      network (Nat.ofDigitChars 10 digits 0) address = network (Nat.ofDigitChars 10 digits 0) base

def SameAddresses (first second : Option String) : Prop :=
  ∀ address, Denotes parse first address ↔ Denotes parse second address

variable {parse display} {request : UfwRulePlanRequest}

/-- An accepted request for a new rule has all that its identifier is made of, and its source is
an address. -/
theorem validate_parts (accepted : request.validate parse display = .ok ())
    (adds : request.mutation ≠ .delete) :
    (∃ protocol, request.protocol = some protocol) ∧ (∃ port, request.port = some port) ∧
      ∀ source, request.source = some source → validateSource parse display source = .ok () := by
  unfold UfwRulePlanRequest.validate at accepted
  split_ifs at accepted
  have checked := (check_ok.mp (check_ok.mp accepted).2).2
  unfold UfwRulePlanRequest.validateRule at checked
  rw [if_neg adds] at checked
  split at checked
  · cases checked
  · cases checked
  · rename_i protocol port asked filtered
    refine ⟨⟨protocol, asked⟩, ⟨port, (Option.filter_eq_some_iff.mp filtered).1⟩, ?_⟩
    intro source named
    rw [named] at checked
    split at checked
    · cases checked
    · exact (check_ok.mp checked).1

/-- No source is the word that stands for a missing one. -/
theorem ne_any {source : String} (unnamed : parse "any" = none)
    (valid : validateSource parse display source = .ok ()) : source ≠ "any" := by
  rintro rfl
  have whole : splitSource "any" = ("any", none) := by decide
  unfold validateSource at valid
  rw [whole, unnamed] at valid
  cases valid

theorem source_eq_of_getD {first second : Option String} (unnamed : parse "any" = none)
    (valid : ∀ source, first = some source → validateSource parse display source = .ok ())
    (valid' : ∀ source, second = some source → validateSource parse display source = .ok ())
    (same : first.getD "any" = second.getD "any") : first = second := by
  cases first with
  | none =>
    cases second with
    | none => rfl
    | some source => exact absurd same.symm (ne_any unnamed (valid' source rfl))
  | some source =>
    cases second with
    | none => exact absurd same (ne_any unnamed (valid source rfl))
    | some other => exact congrArg some same

end Requests

/-! ### What an identifier tells of the addresses -/

/-- Two new rules that differ in their source at most: if the digits kept of the hash tell what was
hashed, equal identifiers mean equal addresses exactly when the sources are equal texts wherever
they denote the same addresses. The identifier is made of the text. -/
theorem rule_identity_iff (codec : Codec) (parse : String → Option IpAddr)
    (display : IpAddr → String) (first second : UfwRulePlanRequest)
    (unnamed : parse "any" = none)
    (accepted : first.validate parse display = .ok ())
    (accepted' : second.validate parse display = .ok ()) (adds : first.mutation ≠ .delete)
    (mutation : second.mutation = first.mutation) (protocol : second.protocol = first.protocol)
    (port : second.port = first.port)
    (injective : CollisionFree (ruleSuffix codec) (first.hashed.toList ++ second.hashed.toList)) :
    (first.generatedRuleId codec = second.generatedRuleId codec ↔
        SameAddresses parse first.source second.source) ↔
      (SameAddresses parse first.source second.source → first.source = second.source) := by
  obtain ⟨⟨asked, named⟩, ⟨number, numbered⟩, valid⟩ := validate_parts accepted adds
  obtain ⟨-, -, valid'⟩ := validate_parts accepted' (mutation ▸ adds)
  have before : first.hashed = some (ruleFront first.mutation asked number ++
      utf8Bytes (first.source.getD "any")) := by
    rw [UfwRulePlanRequest.hashed, named, numbered]
    rfl
  have after : second.hashed = some (ruleFront first.mutation asked number ++
      utf8Bytes (second.source.getD "any")) := by
    rw [UfwRulePlanRequest.hashed, protocol, port, named, numbered, mutation]
    rfl
  rw [before, after] at injective
  have identified : first.generatedRuleId codec = second.generatedRuleId codec ↔
      first.source = second.source := by
    unfold UfwRulePlanRequest.generatedRuleId
    rw [mutation, if_neg adds, if_neg adds, before, after]
    constructor
    · intro same
      have texts := String.ofList_injective (Option.some.inj same)
      have contents := injective _ (by simp) _ (by simp) (List.append_cancel_left texts)
      exact source_eq_of_getD unnamed valid valid'
        (utf8Bytes_injective (List.append_cancel_left contents))
    · intro same
      rw [same]
  have denoted : first.source = second.source → SameAddresses parse first.source second.source := by
    intro same
    rw [same]
    exact fun _ => Iff.rfl
  rw [identified]
  exact ⟨fun same => same.mpr, fun only => ⟨denoted, only⟩⟩

/-- The hash of bytes is their sum. -/
def summingCodec : Codec :=
  { sampleCodec with sha256 := fun bytes => ⟨bytes.sum :: List.replicate 31 0, rfl⟩ }

def sampleParse (text : String) : Option IpAddr :=
  if text = "10.0.0.0" then some (.v4 0x0A000000)
  else if text = "10.0.0.5" then some (.v4 0x0A000005)
  else none

def sampleDisplay (address : IpAddr) : String :=
  if address = .v4 0x0A000000 then "10.0.0.0" else "10.0.0.5"

/-- The port of web servers is opened. -/
def sampleRequest (source : Option String) : UfwRulePlanRequest :=
  ⟨1, "ufw.rule.set/v1", .allow, some .tcp, some 80, source, none,
    formatSha256 (List.replicate 32 0), "0123456789abcdef"⟩

theorem validate_sampleRequest {source : Option String}
    (checked : (sampleRequest source).validateRule sampleParse sampleDisplay = .ok ()) :
    (sampleRequest source).validate sampleParse sampleDisplay = .ok () := by
  have version : (sampleRequest source).schemaVersion = operationSchemaVersion := rfl
  have kind : (sampleRequest source).operationType = OperationType.ufwRule.asStr := rfl
  have digest : validateDigest (sampleRequest source).expectedStateDigest = .ok () :=
    validateDigest_formatSha256 rfl
  have key : validateAsciiRange (sampleRequest source).idempotencyKey idempotencyKeyMinBytes
      idempotencyKeyMaxBytes "idempotency_key" = .ok () := by
    change validateAsciiRange "0123456789abcdef" _ _ _ = _
    decide +kernel
  unfold UfwRulePlanRequest.validate
  rw [if_neg (not_not.mpr version), if_neg (not_not.mpr kind), digest, key, checked]
  rfl

theorem rule_identity_of_any :
    ((sampleRequest none).generatedRuleId summingCodec =
        (sampleRequest (some "10.0.0.0/24")).generatedRuleId summingCodec ↔
      SameAddresses sampleParse none (some "10.0.0.0/24")) ↔
    (SameAddresses sampleParse none (some "10.0.0.0/24") → none = some "10.0.0.0/24") :=
  rule_identity_iff summingCodec sampleParse sampleDisplay (sampleRequest none)
    (sampleRequest (some "10.0.0.0/24")) (by decide)
    (validate_sampleRequest (by decide +kernel)) (validate_sampleRequest (by decide +kernel))
    (by decide) rfl rfl rfl (by decide +kernel)

/-- Two spellings of one network have two identifiers. -/
theorem network_spelled_twice :
    (sampleRequest (some "10.0.0.0/24")).validate sampleParse sampleDisplay = .ok () ∧
    (sampleRequest (some "10.0.0.5/24")).validate sampleParse sampleDisplay = .ok () ∧
    SameAddresses sampleParse (some "10.0.0.0/24") (some "10.0.0.5/24") ∧
    (sampleRequest (some "10.0.0.0/24")).generatedRuleId summingCodec ≠
      (sampleRequest (some "10.0.0.5/24")).generatedRuleId summingCodec := by
  refine ⟨validate_sampleRequest (by decide +kernel), validate_sampleRequest (by decide +kernel),
    fun address => ?_, by decide +kernel⟩
  have same : network 24 (.v4 0x0A000000) = network 24 (.v4 0x0A000005) := by decide
  change network 24 address = network 24 (.v4 0x0A000000) ↔
    network 24 address = network 24 (.v4 0x0A000005)
  rw [same]

end JwOps.Contracts.Firewall
