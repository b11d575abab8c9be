/- module: Contracts/Digest
   source: crates/jw-opsd/src/digest.rs, crates/jw-opsd/src/error.rs
   digest: Digest texts, the error type, and the external encoders that digests are taken of. -/
import JwOps.Contracts.Operation
import Mathlib.Data.String.Basic

set_option autoImplicit false

namespace JwOps.Contracts.Digest

open Operation

inductive OpsError where
  | rejected (code : String)
  | storage (message : String)
  | filesystem (message : String)
  | command (message : String)
  | forensicLockdown
  deriving DecidableEq, Repr

/-- The code reported to the caller; `Rejected` and `RejectedOwned` are one constructor here. -/
def OpsError.code : OpsError → String
  | .rejected code => code
  | .storage _ => "ledger_failure"
  | .filesystem _ => "filesystem_failure"
  | .command _ => "command_failure"
  | .forensicLockdown => "forensic_lockdown"

def utf8Bytes (text : String) : Bytes := text.toList.flatMap String.utf8EncodeChar

theorem utf8Bytes_injective {text other : String} (same : utf8Bytes text = utf8Bytes other) :
    text = other := by
  have bytes : text.toList.utf8Encode = other.toList.utf8Encode := by
    unfold List.utf8Encode
    rw [show text.toList.flatMap String.utf8EncodeChar = _ from same]
    rfl
  rw [String.utf8Encode_toList, String.utf8Encode_toList] at bytes
  exact String.toByteArray_inj.mp bytes

/-- The raw output of SHA-256. -/
abbrev RawDigest := { bytes : Bytes // bytes.length = 32 }

structure CanonicalEvent where
  schemaVersion : Nat
  sequence : Int
  previousDigest : String
  operationId : String
  planId : String
  stage : String
  resultCode : String
  recordedAtMs : Int
  evidenceDigest : String
  deriving DecidableEq, Repr

structure DiagnosticEvidence where
  schemaVersion : Nat
  validatorEvidenceDigest : String
  diagnosticsDigest : String
  deriving DecidableEq, Repr

/-- The hash and the serialisers that the program takes from its libraries. Nothing is assumed
of them here; a result that needs one of them to be injective says so. -/
structure Codec where
  sha256 : Bytes → RawDigest
  eventJson : CanonicalEvent → Bytes
  commandJson : OperationCommandEvidenceView → Bytes
  diagnosticsJson : List ManagedConfigDiagnosticView → Bytes
  diagnosticEvidenceJson : DiagnosticEvidence → Bytes
  /-- RFC 3339 text of a time in milliseconds, where the calendar can represent it. -/
  rfc3339 : Int → Option String
  /-- Base 64 with the URL-safe alphabet, without padding. -/
  base64Url : Bytes → String
  /-- Whether `String::from_utf8` accepts the bytes. -/
  validUtf8 : Bytes → Bool

def hexDigit (n : Nat) : Char := if n < 10 then Char.ofNat (48 + n) else Char.ofNat (87 + n)

def hexByte (byte : UInt8) : List Char := [hexDigit (byte.toNat / 16), hexDigit (byte.toNat % 16)]

/-- A codec for evaluating the definitions on concrete inputs: the digest is the length of the input
and the encoding of an event grows with its sequence. -/
def sampleCodec : Codec where
  sha256 bytes := ⟨UInt8.ofNat (bytes.length / 256) :: UInt8.ofNat bytes.length ::
    List.replicate 30 0, rfl⟩
  eventJson event := List.replicate event.sequence.toNat 0
  commandJson _ := []
  diagnosticsJson diagnostics := List.replicate diagnostics.length 0
  diagnosticEvidenceJson _ := []
  rfc3339 milliseconds :=
    if -62167219200000 ≤ milliseconds ∧ milliseconds ≤ 253402300799999 then some "" else none
  base64Url bytes := String.ofList (bytes.flatMap hexByte)
  validUtf8 bytes := bytes.all (· < 128)

def formatSha256 (bytes : Bytes) : String :=
  String.ofList ("sha256:".toList ++ bytes.flatMap hexByte)

/-- `char::to_digit(16)`: both letter cases. -/
def hexValue (c : Char) : Option Nat :=
  if isAsciiDigit c then some (c.toNat - 48)
  else if 'a' ≤ c && c ≤ 'f' then some (c.toNat - 87)
  else if 'A' ≤ c && c ≤ 'F' then some (c.toNat - 55)
  else none

/-- `u8::from_str_radix` on two characters; like the library it takes a leading plus sign. -/
def fromStrRadix16 (high low : Char) : Option UInt8 :=
  match hexValue low with
  | none => none
  | some b =>
    if high == '+' then some (UInt8.ofNat b)
    else (hexValue high).map fun a => UInt8.ofNat (16 * a + b)

def decodePairs : List Char → Option Bytes
  | high :: low :: rest => do
    let byte ← fromStrRadix16 high low
    let bytes ← decodePairs rest
    pure (byte :: bytes)
  | [] => some []
  | [_] => none

/-- A character outside ASCII is refused as well: the two-byte slices around it are either no
character boundary or no digits. -/
def decodeSha256 (value : String) : Except OpsError Bytes :=
  match stripStart value "sha256:" with
  | none => .error .forensicLockdown
  | some hex =>
    if hex.length ≠ 64 then .error .forensicLockdown
    else
      match decodePairs hex with
      | none => .error .forensicLockdown
      | some bytes => .ok bytes

section Encoded

variable (codec : Codec)

def sha256Digest (bytes : Bytes) : String := formatSha256 (codec.sha256 bytes).1

def canonicalDigest (domain : String) (json : Bytes) : String :=
  sha256Digest codec (utf8Bytes domain ++ [0] ++ json)

def ledgerEventDigest (previous : String) (canonicalEvent : Bytes) : Except OpsError String := do
  let rawPrevious ← decodeSha256 previous
  pure (sha256Digest codec
    (utf8Bytes "jw-agent/ledger/v1" ++ [0] ++ rawPrevious ++ canonicalEvent))

def commandEvidenceDigest (command : OperationCommandEvidenceView) : String :=
  canonicalDigest codec "jw-agent/command-evidence/v1" (codec.commandJson command)

def diagnosticEvidenceDigest (validatorEvidenceDigest diagnosticsDigest : String) : String :=
  canonicalDigest codec "jw-agent/managed-config-diagnostic-evidence/v1"
    (codec.diagnosticEvidenceJson ⟨1, validatorEvidenceDigest, diagnosticsDigest⟩)

def formatTime (milliseconds : Int) : Except OpsError String :=
  match codec.rfc3339 milliseconds with
  | some text => .ok text
  | none => .error (.storage "time is out of range")

/-! ### Every digest passes its own check -/

theorem hexDigit_lower : ∀ n < 16, isLowerHexDigit (hexDigit n) = true := by decide

theorem hexDigit_utf8Size : ∀ n < 16, (hexDigit n).utf8Size = 1 := by decide

theorem mem_hexByte {c : Char} {byte : UInt8} (member : c ∈ hexByte byte) :
    ∃ n < 16, c = hexDigit n := by
  have bound := byte.toNat_lt
  simp only [hexByte, List.mem_cons, List.not_mem_nil, or_false] at member
  rcases member with rfl | rfl
  · exact ⟨byte.toNat / 16, by omega, rfl⟩
  · exact ⟨byte.toNat % 16, by omega, rfl⟩

theorem all_hexByte (bytes : Bytes) : (bytes.flatMap hexByte).all isLowerHexDigit = true := by
  refine List.all_eq_true.mpr fun c member => ?_
  obtain ⟨byte, _, inByte⟩ := List.mem_flatMap.mp member
  obtain ⟨n, small, rfl⟩ := mem_hexByte inByte
  exact hexDigit_lower n small

theorem lower_hexDigit {c : Char} (lower : isLowerHexDigit c = true) : ∃ n < 16, c = hexDigit n := by
  have ascii : ∀ code < 128, isLowerHexDigit (Char.ofNat code) = true →
      ∃ n < 16, Char.ofNat code = hexDigit n := by decide
  have small : c.toNat < 128 := by
    simp only [isLowerHexDigit, isAsciiDigit, Bool.or_eq_true, Bool.and_eq_true,
      decide_eq_true_eq] at lower
    rcases lower with ⟨_, high⟩ | ⟨_, high⟩ <;>
      exact lt_of_le_of_lt (Char.le_def.mp high) (by decide)
  obtain ⟨n, digit, same⟩ := ascii c.toNat small (by rwa [Char.ofNat_toNat])
  exact ⟨n, digit, by rw [← same, Char.ofNat_toNat]⟩

theorem utf8Len_lower {hex : List Char} (lower : hex.all isLowerHexDigit = true) :
    String.utf8Len hex = hex.length := by
  induction hex with
  | nil => rfl
  | cons c rest ih =>
    rw [List.all_cons, Bool.and_eq_true] at lower
    obtain ⟨n, small, rfl⟩ := lower_hexDigit lower.1
    rw [String.utf8Len_cons, ih lower.2, hexDigit_utf8Size n small, List.length_cons]

theorem stripStart_digest {value : String} {hex : List Char} :
    stripStart value "sha256:" = some hex ↔ value = String.ofList ("sha256:".toList ++ hex) := by
  unfold stripStart
  generalize "sha256:".toList = start
  constructor
  · intro stripped
    split_ifs at stripped with starts
    obtain ⟨rest, whole⟩ := List.isPrefixOf_iff_prefix.mp starts
    obtain rfl := Option.some.inj stripped
    rw [← whole, List.drop_left, whole, String.ofList_toList]
  · rintro rfl
    rw [String.toList_ofList, if_pos (List.isPrefixOf_iff_prefix.mpr (List.prefix_append _ _)),
      List.drop_left]

theorem validateDigest_ok_iff {value : String} :
    validateDigest value = .ok () ↔ ∃ hex, value = String.ofList ("sha256:".toList ++ hex) ∧
      hex.length = 64 ∧ hex.all isLowerHexDigit = true := by
  have label : String.utf8Len "sha256:".toList = 7 := by
    rw [← String.utf8ByteSize_ofList, String.ofList_toList]
    decide
  have size {hex : List Char} (lower : hex.all isLowerHexDigit = true) :
      (String.ofList ("sha256:".toList ++ hex)).utf8ByteSize = 7 + hex.length := by
    rw [String.utf8ByteSize_ofList, String.utf8Len_append, label, utf8Len_lower lower]
  simp only [← stripStart_digest]
  unfold validateDigest
  cases stripped : stripStart value "sha256:" with
  | none => simp
  | some hex =>
    obtain rfl := stripStart_digest.mp stripped
    cases lower : hex.all isLowerHexDigit with
    | false => simp [lower, -List.all_eq_true]
    | true =>
      have whole : 7 + hex.length = digestBytes ↔ hex.length = 64 := by
        unfold digestBytes
        omega
      rw [size lower]
      simp [lower, whole, -List.all_eq_true]

theorem validateDigest_formatSha256 {bytes : Bytes} (size : bytes.length = 32) :
    validateDigest (formatSha256 bytes) = .ok () := by
  have length_ : (bytes.flatMap hexByte).length = 64 := by
    simp [List.length_flatMap, hexByte, size]
  exact validateDigest_ok_iff.mpr ⟨_, rfl, length_, all_hexByte bytes⟩

theorem validateDigest_sha256Digest (bytes : Bytes) :
    validateDigest (sha256Digest codec bytes) = .ok () :=
  validateDigest_formatSha256 (codec.sha256 bytes).2

end Encoded

/-! ### A digest text names one digest -/

theorem decodePairs_length {hex : List Char} {bytes : Bytes}
    (decoded : decodePairs hex = some bytes) : hex.length = 2 * bytes.length := by
  induction hex using decodePairs.induct generalizing bytes with
  | case1 high low rest ih =>
    simp only [decodePairs, Option.bind_eq_bind, Option.bind_eq_some_iff] at decoded
    obtain ⟨byte, _, others, remaining, done⟩ := decoded
    obtain rfl : byte :: others = bytes := Option.some.inj done
    have := ih remaining
    simp only [List.length_cons]
    omega
  | case2 =>
    obtain rfl : [] = bytes := Option.some.inj decoded
    rfl
  | case3 single => cases decoded

theorem decodeSha256_ok_iff {value : String} {bytes : Bytes} :
    decodeSha256 value = .ok bytes ↔ ∃ hex, value = String.ofList ("sha256:".toList ++ hex) ∧
      hex.length = 64 ∧ decodePairs hex = some bytes := by
  simp only [← stripStart_digest]
  unfold decodeSha256
  cases stripStart value "sha256:" with
  | none => simp
  | some hex =>
    by_cases size : hex.length = 64
    · cases pairs : decodePairs hex <;> simp [size, pairs]
    · simp [size]

theorem decodeSha256_length {value : String} {bytes : Bytes}
    (decoded : decodeSha256 value = .ok bytes) : bytes.length = 32 := by
  obtain ⟨hex, _, size, pairs⟩ := decodeSha256_ok_iff.mp decoded
  have := decodePairs_length pairs
  omega

theorem hexDigit_read : ∀ n < 16, hexDigit n ≠ '+' ∧ hexValue (hexDigit n) = some n := by decide

theorem fromStrRadix16_hexByte (byte : UInt8) :
    fromStrRadix16 (hexDigit (byte.toNat / 16)) (hexDigit (byte.toNat % 16)) = some byte := by
  have bound := byte.toNat_lt
  obtain ⟨sign, high⟩ := hexDigit_read (byte.toNat / 16) (by omega)
  obtain ⟨_, low⟩ := hexDigit_read (byte.toNat % 16) (by omega)
  have whole : 16 * (byte.toNat / 16) + byte.toNat % 16 = byte.toNat := by omega
  unfold fromStrRadix16
  rw [low]
  dsimp only
  rw [if_neg (by simpa using sign), high, Option.map_some, whole, UInt8.ofNat_toNat]

theorem decodePairs_hex (bytes : Bytes) : decodePairs (bytes.flatMap hexByte) = some bytes := by
  induction bytes with
  | nil => rfl
  | cons byte rest ih =>
    change decodePairs (_ :: _ :: rest.flatMap hexByte) = _
    rw [decodePairs, fromStrRadix16_hexByte, ih]
    rfl

theorem formatSha256_injective {first second : Bytes}
    (same : formatSha256 first = formatSha256 second) : first = second := by
  have hex := List.append_cancel_left (String.ofList_injective same)
  have pairs := decodePairs_hex first
  rw [hex, decodePairs_hex] at pairs
  exact (Option.some.inj pairs).symm

/-- A digest text is read back as the bytes that it was written from. -/
theorem decodeSha256_formatSha256 {bytes : Bytes} (size : bytes.length = 32) :
    decodeSha256 (formatSha256 bytes) = .ok bytes := by
  have length_ := decodePairs_length (decodePairs_hex bytes)
  exact decodeSha256_ok_iff.mpr ⟨_, rfl, by omega, decodePairs_hex bytes⟩

theorem decodeSha256_error {value : String} {error : OpsError}
    (refused : decodeSha256 value = .error error) : error = .forensicLockdown := by
  unfold decodeSha256 at refused
  split at refused
  · exact (Except.error.inj refused).symm
  · split_ifs at refused
    · exact (Except.error.inj refused).symm
    · split at refused
      · exact (Except.error.inj refused).symm
      · cases refused

/-! ### Digest texts that are read and never written -/

/-- An even number of small digits is the text of some bytes. -/
theorem exists_hexBytes {hex : List Char} {count : Nat} (even : hex.length = 2 * count)
    (lower : hex.all isLowerHexDigit = true) : ∃ bytes : Bytes, hex = bytes.flatMap hexByte := by
  induction count generalizing hex with
  | zero => exact ⟨[], List.length_eq_zero_iff.mp even⟩
  | succ count ih =>
    match hex with
    | high :: low :: rest =>
      simp only [List.all_cons, Bool.and_eq_true] at lower
      obtain ⟨bytes, rfl⟩ := ih (by simpa [Nat.mul_succ] using even) lower.2.2
      obtain ⟨a, smallA, rfl⟩ := lower_hexDigit lower.1
      obtain ⟨b, smallB, rfl⟩ := lower_hexDigit lower.2.1
      have value : (UInt8.ofNat (16 * a + b)).toNat = 16 * a + b := by
        rw [UInt8.toNat_ofNat']
        omega
      refine ⟨UInt8.ofNat (16 * a + b) :: bytes, ?_⟩
      rw [List.flatMap_cons, hexByte, value, show (16 * a + b) / 16 = a by omega,
        show (16 * a + b) % 16 = b by omega]
      rfl

/-- What `u8::from_str_radix` takes, pair by pair. -/
def readablePairs : List Char → Bool
  | high :: low :: rest =>
    (high == '+' || (hexValue high).isSome) && (hexValue low).isSome && readablePairs rest
  | [] => true
  | [_] => false

theorem decodePairs_isSome (hex : List Char) : (decodePairs hex).isSome = readablePairs hex := by
  induction hex using decodePairs.induct with
  | case1 high low rest ih =>
    simp only [decodePairs, readablePairs, fromStrRadix16, ← ih]
    cases hexValue low with
    | none => simp
    | some b =>
      by_cases plus : high = '+'
      · cases decodePairs rest <;> simp [plus]
      · cases hexValue high <;> cases decodePairs rest <;> simp [plus]
  | case2 => rfl
  | case3 single => rfl

/-- A digest text with a capital letter, or with a plus sign before a digit. -/
def Lenient (value : String) : Prop :=
  ∃ hex, value = String.ofList ("sha256:".toList ++ hex) ∧ hex.length = 64 ∧
    readablePairs hex = true ∧ hex.all isLowerHexDigit = false

theorem written_or_lenient {value : String} {bytes : Bytes}
    (decoded : decodeSha256 value = .ok bytes) : value = formatSha256 bytes ∨ Lenient value := by
  obtain ⟨hex, rfl, size, pairs⟩ := decodeSha256_ok_iff.mp decoded
  cases lower : hex.all isLowerHexDigit with
  | false => exact .inr ⟨hex, rfl, size, by rw [← decodePairs_isSome, pairs]; rfl, lower⟩
  | true =>
    obtain ⟨others, rfl⟩ := @exists_hexBytes _ 32 size lower
    rw [decodePairs_hex] at pairs
    rw [← Option.some.inj pairs]
    exact .inl rfl

theorem Lenient.decoded {value : String} (lenient : Lenient value) :
    ∃ bytes, decodeSha256 value = .ok bytes ∧ value ≠ formatSha256 bytes := by
  obtain ⟨hex, rfl, size, readable, capital⟩ := lenient
  rw [← decodePairs_isSome] at readable
  obtain ⟨bytes, pairs⟩ := Option.isSome_iff_exists.mp readable
  refine ⟨bytes, decodeSha256_ok_iff.mpr ⟨hex, rfl, size, pairs⟩, fun written => ?_⟩
  rw [List.append_cancel_left (String.ofList_injective written), all_hexByte] at capital
  cases capital

/-- A digest text is the one written for its bytes, and passes the check of the contracts, unless
it is lenient; and of two texts of one digest one is lenient. -/
theorem digestText_canonical_iff (value : String) :
    ((∀ bytes : Bytes, bytes.length = 32 →
          (decodeSha256 value = .ok bytes ↔ value = formatSha256 bytes)) ∧
        ((∃ bytes, decodeSha256 value = .ok bytes) ↔ validateDigest value = .ok ()) ↔
      ¬Lenient value) ∧
    ∀ other bytes, decodeSha256 value = .ok bytes → decodeSha256 other = .ok bytes →
      value ≠ other → Lenient value ∨ Lenient other := by
  refine ⟨⟨?_, fun strict => ⟨fun bytes size => ⟨?_, ?_⟩, ?_, fun valid => ?_⟩⟩, ?_⟩
  · rintro ⟨texts, _⟩ lenient
    obtain ⟨bytes, decoded, unlike⟩ := lenient.decoded
    exact unlike ((texts bytes (decodeSha256_length decoded)).mp decoded)
  · exact fun decoded => (written_or_lenient decoded).resolve_right strict
  · rintro rfl
    exact decodeSha256_formatSha256 size
  · rintro ⟨bytes, decoded⟩
    rw [(written_or_lenient decoded).resolve_right strict]
    exact validateDigest_formatSha256 (decodeSha256_length decoded)
  · obtain ⟨hex, rfl, size, lower⟩ := validateDigest_ok_iff.mp valid
    obtain ⟨bytes, rfl⟩ := @exists_hexBytes _ 32 size lower
    exact ⟨bytes, decodeSha256_ok_iff.mpr ⟨_, rfl, size, decodePairs_hex bytes⟩⟩
  · intro other bytes first second differ
    by_contra none_
    obtain ⟨strict, strictOther⟩ := not_or.mp none_
    exact differ (((written_or_lenient first).resolve_right strict).trans
      ((written_or_lenient second).resolve_right strictOther).symm)

theorem capitals_read_alike :
    let capitals := String.ofList ("sha256:".toList ++ List.replicate 64 'A')
    let smalls := String.ofList ("sha256:".toList ++ List.replicate 64 'a')
    decodeSha256 capitals = decodeSha256 smalls ∧ (decodeSha256 capitals).toBool = true ∧
      capitals ≠ smalls ∧ validateDigest capitals ≠ .ok () := by
  decide

end JwOps.Contracts.Digest
