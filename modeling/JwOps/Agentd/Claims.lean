/- module: Agentd/Claims
   source: crates/jw-agentd/src/session.rs
   digest: Claims of a recent authentication: issuing them, and the calls that consume them. -/
import JwOps.Agentd.Totp

set_option autoImplicit false

namespace JwOps.Agentd.Claims

open Contracts.Operation Tables Totp Foundation.Transaction

def reauthClaimMs : Int := 5 * 60 * 1000

inductive ReauthPurpose where
  | operation (planHash : String)
  | securityPolicyChange (targetPolicy : AdditionalAuthPolicy)
  | totpEnrollment
  | totpRecoveryReset
  deriving DecidableEq, Repr

def reauthContext : ReauthPurpose → ClaimPurpose × String
  | .operation planHash => (.operation, planHash)
  | .securityPolicyChange targetPolicy => (.securityPolicyChange, targetPolicy.asStorageValue)
  | .totpEnrollment => (.totpEnrollment, "totp/v1")
  | .totpRecoveryReset => (.totpRecoveryReset, "totp/v1")

structure ReauthClaim where
  token : String
  expiresAt : String
  deriving DecidableEq, Repr

variable (codec : AgentCodec)

def issueReauthClaim (sessionToken : String) (subject : Subject) (purpose : ReauthPurpose)
    (now : Int) (random : Option String) : StoreM ReauthClaim := do
  let token ← check (drawn random)
  insertReauthClaim ⟨claimDigest codec token, sessionDigest codec sessionToken, subject.uid,
    (reauthContext purpose).1, (reauthContext purpose).2, saturatingAdd now reauthClaimMs, none⟩
  let expiresAt ← check (formatRfc3339 codec (saturatingAdd now reauthClaimMs))
  pure ⟨token, expiresAt⟩

def consumePolicyClaim (sessionToken : String) (uid : UInt32) (target : AdditionalAuthPolicy)
    (reauthToken : String) (now : Int) : StoreM Unit := do
  rejectIf (validTokenShape reauthToken = false) .invalidReauth
  consumeClaim codec sessionToken uid .securityPolicyChange target.asStorageValue reauthToken now
    .invalidReauth

/-- The provider must be ready for any policy but the one without additional claims. -/
def requireProvider (subject : Subject) (target : AdditionalAuthPolicy)
    (opened : EnrollmentRow → Option Bytes) : StoreM Unit :=
  if target = .disabled then pure ()
  else do
    let status ← mapError (fun _ => .providerUnavailable) (providerStatus opened subject.uid)
    rejectIf (status ≠ .ready) .providerUnavailable

def updateAdditionalAuthPolicy (sessionToken : String) (subject : Subject)
    (target : AdditionalAuthPolicy) (reauthToken : Option String) (now : Int)
    (opened : EnrollmentRow → Option Bytes) : StoreM Unit := do
  rejectIf (subject.role ≠ .admin) .denied
  requireProvider subject target opened
  let _ ← transaction .storage do
    let _ ← select Store.additionalAuthPolicy
    match reauthToken with
    | none => throw .reauthRequired
    | some token =>
      consumePolicyClaim codec sessionToken subject.uid target token now
      execute .storage fun store => { store with additionalAuthPolicy := target }
      pure (Ending.committed () : Ending Unit Unit)

structure OperationAuthorization where
  sessionToken : String
  subject : Subject
  planHash : String
  reauthToken : String
  additionalAuthClaim : Option String
  additionalAuthRequired : Bool
  now : Int

/-- The rows that an additional claim may meet. -/
def meetsAdditional (authorization : OperationAuthorization) (claim : String)
    (row : AdditionalClaimRow) : Bool :=
  row.tokenDigest == additionalClaimDigest codec claim &&
    row.reauthDigest == claimDigest codec authorization.reauthToken &&
    row.sessionDigest == sessionDigest codec authorization.sessionToken &&
    row.subjectUid == authorization.subject.uid &&
    row.contextDigest == authorization.planHash && authorization.now < row.expiresAt &&
    row.consumedAt.isNone

/-- The second half of the transaction. -/
def consumeAdditional (authorization : OperationAuthorization) : StoreM Unit :=
  match authorization.additionalAuthRequired, authorization.additionalAuthClaim with
  | false, none => pure ()
  | false, some _ => throw .invalidAdditional
  | true, none => throw .invalidAdditional
  | true, some claim => do
    rejectIf (validTokenShape claim = false) .invalidAdditional
    let consumed ← updateAdditionalClaims (meetsAdditional codec authorization claim)
      authorization.now
    rejectIf (consumed ≠ 1) .invalidAdditional

def consumeOperationClaims (authorization : OperationAuthorization) : StoreM Unit := do
  rejectIf (validTokenShape authorization.reauthToken = false ∨ authorization.planHash.isEmpty ∨
    128 < authorization.planHash.utf8ByteSize) .invalid
  let _ ← transaction .storage do
    consumeClaim codec authorization.sessionToken authorization.subject.uid .operation
      authorization.planHash authorization.reauthToken authorization.now .invalid
    consumeAdditional codec authorization
    pure (Ending.committed () : Ending Unit Unit)

/-- The part of `migrate` that touches these tables, at every start of the daemon. -/
def migrate (now : Int) : StoreM Unit := do
  let _ ← transaction .storage do
    execute .storage fun store => { store with
      additionalClaims := store.additionalClaims.filter fun row =>
        !(row.expiresAt ≤ now || row.consumedAt.isSome) }
    execute .storage (deleteEnrollments fun row => row.state == .pending && row.expiresAt ≤ now)
    pure (Ending.committed () : Ending Unit Unit)

end JwOps.Agentd.Claims
