/- module: Agentd/Totp
   source: crates/jw-agentd/src/totp.rs, crates/jw-contracts/src/totp.rs
   digest: Enrolling for one-time codes, verifying them, and resetting the enrollment. -/
import JwOps.Agentd.Tables

set_option autoImplicit false

namespace JwOps.Agentd.Totp

open Contracts Operation Digest Tables Foundation.Transaction

def enrollmentTtlMs : Int := 10 * 60 * 1000

def claimTtlMs : Int := 5 * 60 * 1000

def totpPeriodMs : Int := 30 * 1000

def maxClockRollbackSteps : Int := 1

/-! ### Codes -/

def timeStep (now : Int) : Except AgentError Int :=
  if now < 0 then .error .clockRollback else .ok (now / totpPeriodMs)

/-- `to_be_bytes` of an unsigned integer of that many bytes. -/
def toBeBytes (width value : Nat) : Bytes :=
  (List.range width).reverse.map fun place => UInt8.ofNat (value / 256 ^ place)

/-- Six decimal digits. -/
def sixDigits (value : Nat) : String :=
  let digits := Nat.toDigits 10 value
  String.ofList (List.replicate (6 - digits.length) '0' ++ digits)

def totpCode (codec : AgentCodec) (secret : Bytes) (step : Int) : Except AgentError String :=
  if step < 0 then .error .clockRollback
  else
    let digest := (codec.hmacSha1 secret (toBeBytes 8 step.toNat)).1
    let byteAt (index : Nat) : Nat := (digest.getD index 0).toNat
    let offset := byteAt 19 % 16
    let binary := (byteAt offset % 128) * 2 ^ 24 + byteAt (offset + 1) * 2 ^ 16 +
      byteAt (offset + 2) * 2 ^ 8 + byteAt (offset + 3)
    .ok (sixDigits (binary % 1000000))

def validTotpCode (code : String) : Bool :=
  code.utf8ByteSize == 6 && code.toList.all isAsciiDigit

def validEnrollmentId (value : String) : Bool :=
  value.utf8ByteSize == 32 && value.toList.all fun c =>
    isAsciiDigit c || ('a' ≤ c && c ≤ 'f') || ('A' ≤ c && c ≤ 'F')

/-- `decrypt_secret`; `opened` is what the key file and the cipher make of the row, and nothing
when either fails. -/
def decryptSecret (opened : EnrollmentRow → Option Bytes) (row : EnrollmentRow) :
    Except AgentError Bytes :=
  if row.secretNonce.length ≠ 12 ∨ row.secretCiphertext.length ≠ 36 then .error .storage
  else
    match opened row with
    | none => .error .keyUnavailable
    | some plaintext => if plaintext.length ≠ 20 then .error .storage else .ok plaintext

variable (codec : AgentCodec)

/-- The candidate steps in the order in which they are tried; the last match counts. -/
def matchStep (secret : Bytes) (code : String) (current : Int) : Except AgentError (Option Int) :=
  [current, saturatingSub current 1, saturatingAdd current 1].foldlM (fun matched candidate => do
    let expected ← totpCode codec secret candidate
    pure (if expected = code then some candidate else matched)) none

/-- `INSERT OR IGNORE`: the key and the check of the column skip the row, a missing enrollment is
an error. -/
def reserveStep (subjectUid : UInt32) (step now : Int) : StoreM Bool :=
  statement .storage fun store =>
    if step < 0 || store.usedSteps.any fun row =>
        row.subjectUid == subjectUid && row.timeStep == step then
      .ok (false, store)
    else if store.enrollments.any fun row => row.subjectUid == subjectUid then
      .ok (true, { store with usedSteps := store.usedSteps ++ [⟨subjectUid, step, now⟩] })
    else .error .storage

def matchAndReserveStep (subjectUid : UInt32) (secret : Bytes) (code : String) (now : Int)
    (lastObservedStep : Option Int) : StoreM Int := do
  let current ← check (timeStep now)
  rejectIf (∃ last ∈ lastObservedStep, saturatingAdd current maxClockRollbackSteps < last)
    .clockRollback
  match ← check (matchStep codec secret code current) with
  | none => throw .invalidCode
  | some step =>
    let inserted ← reserveStep subjectUid step now
    rejectIf (inserted = false) .replay
    pure step

/-- `MAX(COALESCE(last_observed_step, step), step)`. -/
def observed (step : Int) (last : Option Int) : Option Int := some (max (last.getD step) step)

def updateEnrollments (meets : EnrollmentRow → Bool) (change : EnrollmentRow → EnrollmentRow) :
    StoreM Nat :=
  update Store.enrollments (fun store rows => { store with enrollments := rows }) meets change

def updateObservedStep (subjectUid : UInt32) (step : Int) : StoreM Unit := do
  let _ ← updateEnrollments (fun row => row.subjectUid == subjectUid && row.state == .active)
    fun row => { row with lastObservedStep := observed step row.lastObservedStep }

/-! ### Enrollments -/

def loadPendingEnrollment (store : Store) (subjectUid : UInt32) (enrollmentId : String) :
    Except AgentError EnrollmentRow :=
  match store.enrollments.find? fun row => row.subjectUid == subjectUid &&
      row.enrollmentId == enrollmentId && row.state == .pending with
  | some row => .ok row
  | none => .error .notConfigured

def loadActiveEnrollment (store : Store) (subjectUid : UInt32) : Except AgentError EnrollmentRow :=
  match store.enrollments.find? fun row => row.subjectUid == subjectUid && row.state == .active with
  | some row => .ok row
  | none => .error .notConfigured

inductive ProviderStatus where
  | notConfigured
  | ready
  | unavailable
  deriving DecidableEq, Repr

def providerStatus (opened : EnrollmentRow → Option Bytes) (subjectUid : UInt32) :
    StoreM ProviderStatus := do
  let found ← select fun store => loadActiveEnrollment store subjectUid
  match found with
  | .error _ => pure .notConfigured
  | .ok row =>
    match decryptSecret opened row with
    | .ok _ => pure .ready
    | .error _ => pure .unavailable

/-- The rows that go with deleted enrollments. -/
def deleteEnrollments (gone : EnrollmentRow → Bool) (store : Store) : Store :=
  let orphaned (uid : UInt32) : Bool :=
    store.enrollments.any fun row => row.subjectUid == uid && gone row
  { store with
    enrollments := store.enrollments.filter fun row => !gone row
    usedSteps := store.usedSteps.filter fun row => !orphaned row.subjectUid
    recoveryCodes := store.recoveryCodes.filter fun row => !orphaned row.subjectUid }

/-- The rows that a consumption may meet. -/
def meetsClaim (digest session : Bytes) (subjectUid : UInt32) (purpose : ClaimPurpose)
    (context : String) (now : Int) (row : ReauthClaimRow) : Bool :=
  row.tokenDigest == digest && row.sessionDigest == session && row.subjectUid == subjectUid &&
    row.purpose == purpose && row.contextDigest == context && now < row.expiresAt &&
    row.consumedAt.isNone

/-- One conditional `UPDATE` of a reauthentication claim that must meet exactly one row. -/
def consumeClaim (sessionToken : String) (subjectUid : UInt32) (purpose : ClaimPurpose)
    (context token : String) (now : Int) (refused : AgentError) : StoreM Unit := do
  let changed ← updateReauthClaims (meetsClaim (claimDigest codec token)
    (sessionDigest codec sessionToken) subjectUid purpose context now) now
  rejectIf (changed ≠ 1) refused

def consumeReauthClaim (sessionToken : String) (subjectUid : UInt32) (purpose : ClaimPurpose)
    (context token : String) (now : Int) : StoreM Unit :=
  consumeClaim codec sessionToken subjectUid purpose context token now .invalidClaim

def validateOperationReauthClaim (sessionToken : String) (subjectUid : UInt32)
    (reauthToken planHash : String) (now : Int) : StoreM Unit := do
  let found ← select fun store => store.reauthClaims.any (meetsClaim
    (claimDigest codec reauthToken) (sessionDigest codec sessionToken) subjectUid .operation
    planHash now)
  rejectIf (found = false) .invalidClaim

/-- What `begin_enrollment` draws, and the ciphertext under the key that it loads or creates. -/
structure EnrollmentMaterial where
  secret : Bytes
  secretNonce : Bytes
  secretCiphertext : Bytes
  identifier : Bytes
  recovery : List Bytes
  nonceBytes : secretNonce.length = 12
  ciphertextBytes : secretCiphertext.length = 36
  identifierBytes : identifier.length = 16
  recoveryCount : recovery.length = 10

structure TotpEnrollmentStartView where
  enrollmentId : String
  providerId : String
  manualKey : String
  otpauthUri : String
  recoveryCodes : List String
  expiresAt : String
  deriving DecidableEq, Repr

def base32Char (value : Nat) : Char :=
  "ABCDEFGHIJKLMNOPQRSTUVWXYZ234567".toList.getD (value % 32) 'A'

/-- The inner loop of `base32`: the letters of the buffered bits, and how many bits are left. -/
def drainBits (buffer : Nat) : Nat → List Char × Nat
  | bits + 5 =>
    let rest := drainBits buffer bits
    (base32Char (buffer / 2 ^ bits) :: rest.1, rest.2)
  | bits => ([], bits)

def base32Loop (buffer bits : Nat) : Bytes → List Char
  | [] => if 0 < bits then [base32Char (buffer * 2 ^ (5 - bits))] else []
  | byte :: rest =>
    let next := (buffer * 256 + byte.toNat) % 2 ^ 32
    let drained := drainBits next (bits + 8)
    drained.1 ++ base32Loop next drained.2 rest

def base32 (input : Bytes) : String := String.ofList (base32Loop 0 0 input)

def randomHexIdentifier (random : Bytes) : String := String.ofList (random.flatMap hexByte)

/-- Groups of five letters, joined by hyphens. -/
def recoveryCode (random : Bytes) : String :=
  String.ofList ((base32 random).toList.zipIdx.flatMap fun (letter, index) =>
    if index ≠ 0 ∧ index % 5 = 0 then ['-', letter] else [letter])

def percentEncode (value : String) : String :=
  String.ofList ((utf8Bytes value).flatMap fun byte =>
    let c := Char.ofNat byte.toNat
    if isAsciiAlphanumeric c || c == '-' || c == '.' || c == '_' || c == '~' then [c]
    else '%' :: (hexByte byte).map Char.toUpper)

def otpauthUri (username serverLabel secret : String) : String :=
  "otpauth://totp/" ++ percentEncode ("JW Agent:" ++ username ++ "@" ++ serverLabel) ++
    "?secret=" ++ secret ++ "&issuer=JW%20Agent&algorithm=SHA1&digits=6&period=30"

/-- `recovery_digest`: hyphens and white space do not count, nor does the case of letters. -/
def recoveryDigest (subjectUid : UInt32) (code : String) : Bytes :=
  let kept := (utf8Bytes code).filter fun byte =>
    byte ≠ 45 ∧ byte ≠ 9 ∧ byte ≠ 10 ∧ byte ≠ 12 ∧ byte ≠ 13 ∧ byte ≠ 32
  let upper := kept.map fun byte => if 97 ≤ byte ∧ byte ≤ 122 then byte - 32 else byte
  (codec.sha256 (utf8Bytes "jw-agent/totp-recovery/v1" ++ [0] ++
    toBeBytes 4 subjectUid.toNat ++ upper)).1

def insertEnrollment (row : EnrollmentRow) : StoreM Unit :=
  insert (fun store => row.subjectUid != 0 && row.enrollmentId.length == 32 &&
      row.secretNonce.length == 12 && row.secretCiphertext.length == 36 &&
      !store.enrollments.any fun other =>
        other.subjectUid == row.subjectUid || other.enrollmentId == row.enrollmentId)
    fun store => { store with enrollments := store.enrollments ++ [row] }

def insertRecoveryCode (row : RecoveryCodeRow) : StoreM Unit :=
  insert (fun store => row.subjectUid != 0 && row.codeDigest.length == 32 &&
      (store.enrollments.any fun enrollment => enrollment.subjectUid == row.subjectUid) &&
      !store.recoveryCodes.any fun other =>
        other.subjectUid == row.subjectUid && other.codeDigest == row.codeDigest)
    fun store => { store with recoveryCodes := store.recoveryCodes ++ [row] }

def insertRecoveryCodes (subjectUid : UInt32) : List String → StoreM Unit
  | [] => pure ()
  | code :: rest => do
    insertRecoveryCode ⟨subjectUid, recoveryDigest codec subjectUid code, none⟩
    insertRecoveryCodes subjectUid rest

/-- The enrollment as it is begun. -/
def pendingEnrollment (subjectUid : UInt32) (material : EnrollmentMaterial) (now : Int) :
    EnrollmentRow where
  subjectUid := subjectUid
  enrollmentId := randomHexIdentifier material.identifier
  secretNonce := material.secretNonce
  secretCiphertext := material.secretCiphertext
  state := .pending
  firstConfirmedStep := none
  lastObservedStep := none
  createdAt := now
  expiresAt := saturatingAdd now enrollmentTtlMs
  activatedAt := none

/-- The end of the enrollment is formatted after the commit, for the view. -/
def beginEnrollment (sessionToken : String) (subject : Subject) (ingress : IngressChannel)
    (reauthToken serverLabel : String) (now : Int) (material : Option EnrollmentMaterial) :
    StoreM TotpEnrollmentStartView := do
  rejectIf (ingress ≠ .recovery ∨ subject.role ≠ .admin ∨ subject.uid = 0) .denied
  match material with
  | none => throw .keyUnavailable
  | some material =>
    let recoveryCodes := material.recovery.map recoveryCode
    let _ ← transaction .storage do
      let active ← select fun store => store.enrollments.any fun row =>
        row.subjectUid == subject.uid && row.state == .active
      rejectIf (active = true) .alreadyConfigured
      consumeReauthClaim codec sessionToken subject.uid .totpEnrollment "totp/v1" reauthToken now
      execute .storage (deleteEnrollments fun row =>
        row.subjectUid == subject.uid && row.state == .pending)
      insertEnrollment (pendingEnrollment subject.uid material now)
      insertRecoveryCodes codec subject.uid recoveryCodes
      audit
      pure (Ending.committed () : Ending Unit Unit)
    let expiresAt ← check ((formatRfc3339 codec (saturatingAdd now enrollmentTtlMs)).mapError
      fun _ => .storage)
    pure {
      enrollmentId := randomHexIdentifier material.identifier
      providerId := "totp/v1"
      manualKey := base32 material.secret
      otpauthUri := otpauthUri subject.username serverLabel (base32 material.secret)
      recoveryCodes := recoveryCodes
      expiresAt := expiresAt }

inductive ConfirmState where
  | awaitingNextCode
  | ready
  deriving DecidableEq, Repr

/-- From the matched step on. -/
def confirmStep (subjectUid : UInt32) (enrollmentId : String) (record : EnrollmentRow)
    (step now : Int) : StoreM ConfirmState :=
  let meets (row : EnrollmentRow) : Bool := row.subjectUid == subjectUid &&
    row.enrollmentId == enrollmentId && row.state == .pending
  match record.firstConfirmedStep with
  | none => do
    let _ ← updateEnrollments meets fun row =>
      { row with
        firstConfirmedStep := some step
        lastObservedStep := observed step row.lastObservedStep }
    pure .awaitingNextCode
  | some first =>
    if step = saturatingAdd first 1 then do
      let _ ← updateEnrollments meets fun row =>
        { row with
          state := .active
          activatedAt := some now
          lastObservedStep := observed step row.lastObservedStep }
      pure .ready
    else throw .invalidCode

def confirmEnrollment (subject : Subject) (ingress : IngressChannel) (enrollmentId code : String)
    (now : Int) (opened : EnrollmentRow → Option Bytes) : StoreM ConfirmState := do
  rejectIf (ingress ≠ .recovery ∨ subject.role ≠ .admin) .denied
  rejectIf (validEnrollmentId enrollmentId = false) .invalidCode
  rejectIf (validTotpCode code = false) .invalidCode
  let ending ← transaction .storage do
    let found ← select fun store => loadPendingEnrollment store subject.uid enrollmentId
    let record ← check found
    rejectIf (record.expiresAt ≤ now) .enrollmentExpired
    let secret ← check (decryptSecret opened record)
    let step ← matchAndReserveStep codec subject.uid secret code now record.lastObservedStep
    let state ← confirmStep subject.uid enrollmentId record step now
    audit
    pure (Ending.committed state : Ending ConfirmState ConfirmState)
  match ending with
  | .dropped state | .committed state => pure state

/-! ### Codes of an active enrollment -/

/-- What both uses of an active enrollment have in common: the step of the code is used up. -/
def verifyActive (subjectUid : UInt32) (code : String) (now : Int)
    (opened : EnrollmentRow → Option Bytes) : StoreM Int := do
  let found ← select fun store => loadActiveEnrollment store subjectUid
  let record ← check found
  let secret ← check (decryptSecret opened record)
  let step ← matchAndReserveStep codec subjectUid secret code now record.lastObservedStep
  updateObservedStep subjectUid step
  pure step

structure VerificationView where
  additionalAuthClaim : String
  expiresAt : String
  deriving DecidableEq, Repr

/-- The claim's end is formatted after the commit. -/
def issueOperationClaim (sessionToken : String) (subject : Subject)
    (reauthToken planHash code : String) (now : Int)
    (opened : EnrollmentRow → Option Bytes) (random : Option String) :
    StoreM VerificationView := do
  rejectIf (validTotpCode code = false) .invalidCode
  rejectIf (planHash.isEmpty ∨ 128 < planHash.utf8ByteSize) .invalidClaim
  let ending ← transaction .storage do
    validateOperationReauthClaim codec sessionToken subject.uid reauthToken planHash now
    let _ ← verifyActive codec subject.uid code now opened
    let claim ← check ((drawn random).mapError fun _ => .keyUnavailable)
    insertAdditionalClaim ⟨additionalClaimDigest codec claim, claimDigest codec reauthToken,
      sessionDigest codec sessionToken, subject.uid, planHash, saturatingAdd now claimTtlMs, none⟩
    audit
    pure (Ending.committed claim : Ending String String)
  match ending with
  | .dropped claim | .committed claim =>
    let expiresAt ← check ((formatRfc3339 codec (saturatingAdd now claimTtlMs)).mapError
      fun _ => .storage)
    pure ⟨claim, expiresAt⟩

def verifyDirectContext (subject : Subject) (contextDigest code : String) (now : Int)
    (opened : EnrollmentRow → Option Bytes) : StoreM Unit := do
  rejectIf (validTotpCode code = false) .invalidCode
  rejectIf (contextDigest.isEmpty ∨ 128 < contextDigest.utf8ByteSize) .invalidClaim
  let _ ← transaction .storage do
    let _ ← verifyActive codec subject.uid code now opened
    audit
    pure (Ending.committed () : Ending Unit Unit)

/-! ### Resetting -/

def recoveryReset (sessionToken : String) (subject : Subject) (ingress : IngressChannel)
    (reauthToken recoveryCode : String) (now : Int) : StoreM Unit := do
  rejectIf (ingress ≠ .recovery ∨ subject.role ≠ .admin) .denied
  let _ ← transaction .storage do
    consumeReauthClaim codec sessionToken subject.uid .totpRecoveryReset "totp/v1" reauthToken now
    let changed ← update Store.recoveryCodes
      (fun store rows => { store with recoveryCodes := rows })
      (fun row => row.subjectUid == subject.uid &&
        row.codeDigest == recoveryDigest codec subject.uid recoveryCode && row.consumedAt.isNone)
      fun row => { row with consumedAt := some now }
    rejectIf (changed ≠ 1) .invalidCode
    audit
    execute .storage fun store => { store with
      additionalClaims := store.additionalClaims.filter fun row => row.subjectUid != subject.uid }
    execute .storage (deleteEnrollments fun row => row.subjectUid == subject.uid)
    execute .storage fun store => { store with additionalAuthPolicy := .disabled }
    let _ ← updateSessions (fun row => row.subject.uid == subject.uid && row.revokedAt.isNone)
      fun row => { row with revokedAt := some now }
    pure (Ending.committed () : Ending Unit Unit)

end JwOps.Agentd.Totp
