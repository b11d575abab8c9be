/- module: Agentd/Tables
   source: crates/jw-agentd/migrations/*.sql, crates/jw-agentd/src/session.rs,
     crates/jw-agentd/src/totp.rs
   digest: The tables of the web daemon, the statements on them and the digests of its tokens. -/
import JwOps.Contracts.Digest
import JwOps.Foundation.Keyed
import JwOps.Foundation.Transaction
import Mathlib.Algebra.Group.Int.Defs

set_option autoImplicit false

namespace JwOps.Agentd.Tables

open Contracts Foundation Operation Digest Keyed Transaction

/-! ### Tables -/

inductive IngressChannel where
  | publicEdge
  | recovery
  deriving DecidableEq, Repr

inductive AdditionalAuthPolicy where
  | disabled
  | riskyOperations
  | allMutations
  deriving DecidableEq, Repr

def AdditionalAuthPolicy.asStorageValue : AdditionalAuthPolicy → String
  | .disabled => "disabled"
  | .riskyOperations => "risky_operations"
  | .allMutations => "all_mutations"

structure SessionRow where
  tokenDigest : Bytes
  ingress : IngressChannel
  subject : Subject
  authenticatedAt : Int
  lastSeenAt : Int
  idleExpiresAt : Int
  absoluteExpiresAt : Int
  revokedAt : Option Int
  deriving DecidableEq, Repr

structure AdministrativeRow where
  sessionDigest : Bytes
  subjectUid : UInt32
  grantedAt : Int
  expiresAt : Int
  revokedAt : Option Int
  deriving DecidableEq, Repr

inductive ClaimPurpose where
  | operation
  | securityPolicyChange
  | totpEnrollment
  | totpRecoveryReset
  deriving DecidableEq, Repr

structure ReauthClaimRow where
  tokenDigest : Bytes
  sessionDigest : Bytes
  subjectUid : UInt32
  purpose : ClaimPurpose
  contextDigest : String
  expiresAt : Int
  consumedAt : Option Int
  deriving DecidableEq, Repr

structure AdditionalClaimRow where
  tokenDigest : Bytes
  reauthDigest : Bytes
  sessionDigest : Bytes
  subjectUid : UInt32
  contextDigest : String
  expiresAt : Int
  consumedAt : Option Int
  deriving DecidableEq, Repr

inductive EnrollmentState where
  | pending
  | active
  deriving DecidableEq, Repr

structure EnrollmentRow where
  subjectUid : UInt32
  enrollmentId : String
  secretNonce : Bytes
  secretCiphertext : Bytes
  state : EnrollmentState
  firstConfirmedStep : Option Int
  lastObservedStep : Option Int
  createdAt : Int
  expiresAt : Int
  activatedAt : Option Int
  deriving DecidableEq, Repr

structure UsedStepRow where
  subjectUid : UInt32
  timeStep : Int
  usedAt : Int
  deriving DecidableEq, Repr

structure RecoveryCodeRow where
  subjectUid : UInt32
  codeDigest : Bytes
  consumedAt : Option Int
  deriving DecidableEq, Repr

/-- The database. Audit rows are only ever written, so they are left out. -/
structure Store where
  sessions : List SessionRow
  administrative : List AdministrativeRow
  reauthClaims : List ReauthClaimRow
  additionalClaims : List AdditionalClaimRow
  enrollments : List EnrollmentRow
  usedSteps : List UsedStepRow
  recoveryCodes : List RecoveryCodeRow
  additionalAuthPolicy : AdditionalAuthPolicy
  deriving DecidableEq, Repr

/-- The database after its migrations. -/
def emptyStore : Store := ⟨[], [], [], [], [], [], [], .disabled⟩

namespace Store

variable (store : Store)

def findSession (digest : Bytes) : Option SessionRow :=
  lookup SessionRow.tokenDigest digest store.sessions

def findAdministrative (digest : Bytes) : Option AdministrativeRow :=
  lookup AdministrativeRow.sessionDigest digest store.administrative

end Store

/-! ### Errors and statements -/

/-- The error values of the store's calls; texts that only a log would show are left out. -/
inductive AgentError where
  | storage
  | randomUnavailable
  | timeOutOfRange
  | rootForbidden
  | adminRoleRequired
  | identityInvalid
  | invalid
  | invalidAdditional
  | denied
  | reauthRequired
  | invalidReauth
  | providerUnavailable
  | notConfigured
  | alreadyConfigured
  | invalidClaim
  | invalidCode
  | replay
  | clockRollback
  | enrollmentExpired
  | keyUnavailable
  deriving DecidableEq, Repr

abbrev StoreM (α : Type) := SessionM Store AgentError α

def select {α : Type} (read : Store → α) : StoreM α := query .storage fun store => .ok (read store)

/-- A pure step between two statements. -/
def check {α : Type} (result : Except AgentError α) : StoreM α :=
  match result with
  | .ok value => pure value
  | .error error => throw error

/-- `map_err` on a call of another part of the daemon. -/
def mapError {α : Type} (change : AgentError → AgentError) (program : StoreM α) : StoreM α :=
  fun session =>
    match program session with
    | (.ok value, after) => (.ok value, after)
    | (.error error, after) => (.error (change error), after)

/-- An `INSERT` that the constraints of its table may refuse. -/
def insert (admitted : Store → Bool) (change : Store → Store) : StoreM Unit :=
  statement .storage fun store =>
    if admitted store then .ok ((), change store) else .error .storage

/-- An `UPDATE`, which answers the number of rows that it meets. -/
def update {Row : Type} (table : Store → List Row) (replace : Store → List Row → Store)
    (meets : Row → Bool) (change : Row → Row) : StoreM Nat :=
  statement .storage fun store =>
    .ok ((table store).countP meets,
      replace store ((table store).map fun row => if meets row then change row else row))

/-- A statement that changes nothing that is modelled. -/
def audit : StoreM Unit := execute .storage id

def insertSession (row : SessionRow) : StoreM Unit :=
  insert (fun store => row.subject.uid != 0 && 1 ≤ row.subject.username.length &&
      row.subject.username.length ≤ 64 && row.idleExpiresAt ≤ row.absoluteExpiresAt &&
      !store.sessions.any fun other => other.tokenDigest == row.tokenDigest)
    fun store => { store with sessions := store.sessions ++ [row] }

def insertAdministrative (row : AdministrativeRow) : StoreM Unit :=
  insert (fun store => row.subjectUid != 0 && row.grantedAt < row.expiresAt &&
      (store.sessions.any fun session => session.tokenDigest == row.sessionDigest) &&
      !store.administrative.any fun other => other.sessionDigest == row.sessionDigest)
    fun store => { store with administrative := store.administrative ++ [row] }

def insertReauthClaim (row : ReauthClaimRow) : StoreM Unit :=
  insert (fun store => row.subjectUid != 0 &&
      (store.sessions.any fun session => session.tokenDigest == row.sessionDigest) &&
      !store.reauthClaims.any fun other => other.tokenDigest == row.tokenDigest)
    fun store => { store with reauthClaims := store.reauthClaims ++ [row] }

def insertAdditionalClaim (row : AdditionalClaimRow) : StoreM Unit :=
  insert (fun store => row.subjectUid != 0 && 1 ≤ row.contextDigest.length &&
      row.contextDigest.length ≤ 128 &&
      (store.sessions.any fun session => session.tokenDigest == row.sessionDigest) &&
      !store.additionalClaims.any fun other => other.tokenDigest == row.tokenDigest)
    fun store => { store with additionalClaims := store.additionalClaims ++ [row] }

def updateSessions (meets : SessionRow → Bool) (change : SessionRow → SessionRow) : StoreM Nat :=
  update Store.sessions (fun store rows => { store with sessions := rows }) meets change

def updateReauthClaims (meets : ReauthClaimRow → Bool) (now : Int) : StoreM Nat :=
  update Store.reauthClaims (fun store rows => { store with reauthClaims := rows }) meets
    fun row => { row with consumedAt := some now }

def updateAdditionalClaims (meets : AdditionalClaimRow → Bool) (now : Int) : StoreM Nat :=
  update Store.additionalClaims (fun store rows => { store with additionalClaims := rows }) meets
    fun row => { row with consumedAt := some now }

/-! ### What the statements do -/

section Rules

variable {α : Type} {store : Store}

variable {post : Except AgentError α → Store → Prop}

theorem outcome_select {read : Store → α} (failed : post (.error .storage) store)
    (done : post (.ok (read store)) store) :
    Outcome (select read) store post :=
  Outcome.query failed done

theorem outcome_check {result : Except AgentError α} (done : post result store) :
    Outcome (check result) store post := by
  unfold check
  cases result with
  | ok value => exact Outcome.ret _ done
  | error error => exact Outcome.fail _ done

theorem outcome_mapError {change : AgentError → AgentError} {program : StoreM α}
    (inner : Outcome program store fun result after => post (result.mapError change) after) :
    Outcome (mapError change program) store post := by
  intro faults
  have reached := inner faults
  unfold mapError
  rcases run : program ⟨store, faults⟩ with ⟨error | value, after⟩
  · rw [run] at reached
    exact reached
  · rw [run] at reached
    exact reached

theorem outcome_insert {admitted : Store → Bool} {change : Store → Store}
    {post : Except AgentError Unit → Store → Prop} (failed : post (.error .storage) store)
    (done : admitted store = true → post (.ok ()) (change store)) :
    Outcome (insert admitted change) store post := by
  refine Outcome.statement failed ?_
  by_cases allowed : admitted store = true
  · rw [if_pos allowed]
    exact done allowed
  · rw [if_neg allowed]
    exact failed

theorem outcome_update {Row : Type} {table : Store → List Row}
    {replace : Store → List Row → Store} {meets : Row → Bool} {change : Row → Row}
    {post : Except AgentError Nat → Store → Prop} (failed : post (.error .storage) store)
    (done : post (.ok ((table store).countP meets))
      (replace store ((table store).map fun row => if meets row then change row else row))) :
    Outcome (update table replace meets change) store post :=
  Outcome.statement failed done

theorem outcome_audit {post : Except AgentError Unit → Store → Prop}
    (failed : post (.error .storage) store) (done : post (.ok ()) store) :
    Outcome audit store post :=
  Outcome.execute failed done

end Rules

/-! ### Runs without faults -/

/-- Without faults the program ends so. -/
def Yields {α : Type} (program : StoreM α) (store : Store) (result : Except AgentError α)
    (after : Store) : Prop :=
  program ⟨store, []⟩ = (result, ⟨after, []⟩)

section Yielding

variable {α β : Type} {store middle after : Store}

variable {program : StoreM α} {error fault : AgentError}

theorem Yields.ret (value : α) : Yields (pure value) store (.ok value) store := rfl

theorem Yields.bind {program : StoreM α} {next : α → StoreM β} {value : α}
    {result : Except AgentError β} (first : Yields program store (.ok value) middle)
    (rest : Yields (next value) middle result after) :
    Yields (program >>= next) store result after := by
  unfold Yields at first rest ⊢
  rw [run_bind, first]
  exact rest

theorem Yields.failed {next : α → StoreM β} (first : Yields program store (.error error) middle) :
    Yields (program >>= next) store (.error error) middle := by
  unfold Yields at first ⊢
  rw [run_bind, first]

theorem Yields.select (read : Store → α) : Yields (select read) store (.ok (read store)) store :=
  rfl

theorem Yields.check (result : Except AgentError α) :
    Yields (check result) store result store := by
  cases result <;> rfl

theorem Yields.checked {result : Except AgentError α} {value : Except AgentError α}
    (same : result = value) : Yields (Tables.check result) store value store := by
  rw [same]
  exact Yields.check value

theorem Yields.passes {condition : Prop} [Decidable condition] (passed : ¬condition) :
    Yields (rejectIf condition error) store (.ok ()) store := by
  unfold Yields rejectIf
  rw [if_neg passed]
  rfl

theorem Yields.insert {admitted : Store → Bool} {change : Store → Store}
    (allowed : admitted store = true) :
    Yields (insert admitted change) store (.ok ()) (change store) := by
  refine run_statement_quiet ?_
  rw [if_pos allowed]

theorem Yields.update {Row : Type} {table : Store → List Row}
    {replace : Store → List Row → Store} {meets : Row → Bool} {change : Row → Row} :
    Yields (update table replace meets change) store (.ok ((table store).countP meets))
      (replace store ((table store).map fun row => if meets row then change row else row)) :=
  rfl

theorem Yields.execute {write : Store → Store} :
    Yields (execute fault write) store (.ok ()) (write store) := rfl

/-- What is only written out at the end does not change the store. -/
theorem Yields.last (result : Except AgentError α) (answer : α → β) :
    ∃ outcome, Yields (Tables.check result >>= fun value => pure (answer value)) store outcome
      store := by
  cases result with
  | error error => exact ⟨_, Yields.failed (Yields.check _)⟩
  | ok value => exact ⟨_, (Yields.check (.ok value)).bind (Yields.ret _)⟩

theorem Yields.map {result : Except AgentError α} (answer : α → β)
    (ends : Yields program store result after) :
    Yields (answer <$> program) store (result.map answer) after := by
  rw [map_eq_pure_bind]
  cases result with
  | error error => exact Yields.failed ends
  | ok value => exact ends.bind (Yields.ret _)

theorem Yields.audit : Yields audit store (.ok ()) store := rfl

theorem Yields.transaction {block : StoreM (Ending α β)} {value : β}
    (inner : Yields block store (.ok (.committed value)) after) :
    Yields (transaction fault block) store (.ok (.committed value)) after :=
  run_transaction_committed inner

end Yielding

/-! ### Tokens and times -/

/-- The libraries of the web daemon: those of every daemon, and HMAC-SHA-1. -/
structure AgentCodec extends Codec where
  hmacSha1 : (key message : Bytes) → { bytes : Bytes // bytes.length = 20 }

variable (codec : AgentCodec)

def digestWithDomain (domain value : String) : Bytes :=
  (codec.sha256 (utf8Bytes domain ++ [0] ++ utf8Bytes value)).1

def sessionDigest (token : String) : Bytes := digestWithDomain codec "jw-agent/session/v1" token

def claimDigest (token : String) : Bytes := digestWithDomain codec "jw-agent/reauth/v1" token

def additionalClaimDigest (token : String) : Bytes :=
  digestWithDomain codec "jw-agent/additional-auth-claim/v1" token

def csrfToken (token : String) : String :=
  codec.base64Url (digestWithDomain codec "jw-agent/csrf/v1" token)

def validTokenShape (token : String) : Bool :=
  token.utf8ByteSize == 43 &&
    token.toList.all fun c => isAsciiAlphanumeric c || c == '-' || c == '_'

def formatRfc3339 (milliseconds : Int) : Except AgentError String :=
  match codec.rfc3339 milliseconds with
  | some text => .ok text
  | none => .error .timeOutOfRange

/-- `random_token`, from what the random source gave. -/
def drawn (random : Option String) : Except AgentError String :=
  match random with
  | some token => .ok token
  | none => .error .randomUnavailable

/-- `i64::saturating_add` of something that is not negative. -/
def saturatingAdd (value amount : Int) : Int := min (value + amount) (2 ^ 63 - 1)

/-- `i64::saturating_sub`. -/
def saturatingSub (value amount : Int) : Int :=
  max (min (value - amount) (2 ^ 63 - 1)) (-(2 ^ 63))

/-- A codec to evaluate the definitions with. -/
def sampleAgentCodec : AgentCodec where
  toCodec := { sampleCodec with
    sha256 := fun bytes => ⟨(bytes.foldl (fun sum byte => sum * 3 + byte) 0) ::
      UInt8.ofNat bytes.length :: List.replicate 30 0, rfl⟩ }
  hmacSha1 _ message := ⟨List.replicate 19 0 ++ [message.getLast?.getD 0], rfl⟩

end JwOps.Agentd.Tables
