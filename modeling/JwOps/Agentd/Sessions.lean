/- module: Agentd/Sessions
   source: crates/jw-agentd/src/session/lifecycle.rs, crates/jw-agentd/src/session.rs
   digest: Issuing, authenticating and revoking sessions and their administrative access. -/
import JwOps.Agentd.Tables

set_option autoImplicit false

namespace JwOps.Agentd.Sessions

open Contracts.Operation Tables Foundation.Transaction

def administrativeAccessMs : Int := 15 * 60 * 1000

def sessionTouchIntervalMs : Int := 60 * 1000

/-- Idle and absolute lifetime. -/
def sessionDurations : IngressChannel → Int × Int
  | .publicEdge => (15 * 60 * 1000, 8 * 60 * 60 * 1000)
  | .recovery => (10 * 60 * 1000, 2 * 60 * 60 * 1000)

/-! ### Views -/

inductive AdministrativeAccessState where
  | standard
  | administrative
  deriving DecidableEq, Repr

structure SessionView where
  subject : Subject
  ingress : IngressChannel
  authenticatedAt : String
  idleExpiresAt : String
  absoluteExpiresAt : String
  csrfToken : String
  additionalAuthPolicy : AdditionalAuthPolicy
  administrativeAccess : AdministrativeAccessState
  administrativeExpiresAt : Option String
  deriving DecidableEq, Repr

structure SessionViewInput where
  subject : Subject
  ingress : IngressChannel
  authenticatedAt : Int
  idleExpiresAt : Int
  absoluteExpiresAt : Int
  token : String
  policy : AdditionalAuthPolicy
  administrativeUntil : Option Int
  now : Int

structure IssuedSession where
  token : String
  view : SessionView
  deriving DecidableEq, Repr

/-- What `load_session` reads: the row, and the end of its administrative access unless that was
revoked. -/
structure SessionRecord where
  row : SessionRow
  administrativeUntil : Option Int

def loadSession (store : Store) (digest : Bytes) : Option SessionRecord :=
  (store.findSession digest).map fun row =>
    ⟨row, (store.findAdministrative row.tokenDigest).bind fun access =>
      if access.revokedAt.isNone then some access.expiresAt else none⟩

variable (codec : AgentCodec)

def sessionView (input : SessionViewInput) : Except AgentError SessionView := do
  let administrativeUntil := input.administrativeUntil.filter fun expiry => input.now < expiry
  let authenticatedAt ← formatRfc3339 codec input.authenticatedAt
  let idleExpiresAt ← formatRfc3339 codec input.idleExpiresAt
  let absoluteExpiresAt ← formatRfc3339 codec input.absoluteExpiresAt
  let administrativeExpiresAt ← administrativeUntil.mapM (formatRfc3339 codec)
  pure {
    subject := input.subject
    ingress := input.ingress
    authenticatedAt := authenticatedAt
    idleExpiresAt := idleExpiresAt
    absoluteExpiresAt := absoluteExpiresAt
    csrfToken := csrfToken codec input.token
    additionalAuthPolicy := input.policy
    administrativeAccess :=
      if administrativeUntil.isSome then .administrative else .standard
    administrativeExpiresAt := administrativeExpiresAt }

/-! ### Issuing -/

/-- An event of the audit table, of which only its checks matter. -/
def recordAdministrativeEvent (subjectUid : UInt32) (result : String) : StoreM Unit := do
  rejectIf (subjectUid = 0 ∨ result.isEmpty ∨ 64 < result.utf8ByteSize) .storage
  audit

/-- The row of a new session. -/
def newSession (digest : Bytes) (subject : Subject) (ingress : IngressChannel) (now : Int) :
    SessionRow where
  tokenDigest := digest
  ingress := ingress
  subject := subject
  authenticatedAt := now
  lastSeenAt := now
  idleExpiresAt := saturatingAdd now (sessionDurations ingress).1
  absoluteExpiresAt := saturatingAdd now (sessionDurations ingress).2
  revokedAt := none

/-- The end of the access that a new session gets: only for an administrator, only while it lasts,
and not beyond the session. -/
def grantedUntil (subject : Subject) (ingress : IngressChannel) (now : Int)
    (administrativeUntil : Option Int) : Option Int :=
  (administrativeUntil.filter fun expiry => subject.role = .admin ∧ now < expiry).map fun expiry =>
    min expiry (saturatingAdd now (sessionDurations ingress).2)

/-- The transaction that stores a session and its access. -/
def storeSession (digest : Bytes) (subject : Subject) (ingress : IngressChannel) (now : Int)
    (administrativeUntil : Option Int) (auditGrant : Bool) : StoreM (Ending Unit Unit) :=
  transaction .storage do
    insertSession (newSession digest subject ingress now)
    runSome (grantedUntil subject ingress now administrativeUntil) fun expiresAt => do
      insertAdministrative ⟨digest, subject.uid, now, expiresAt, none⟩
      runIf auditGrant (recordAdministrativeEvent subject.uid "granted")
    pure (.committed ())

def issueSessionWithAdministrativeAccess (subject : Subject) (ingress : IngressChannel)
    (now : Int) (administrativeUntil : Option Int) (auditGrant : Bool) (random : Option String) :
    StoreM IssuedSession := do
  rejectIf (subject.uid = 0) .rootForbidden
  let policy ← select Store.additionalAuthPolicy
  let token ← check (drawn random)
  let _ ← storeSession (sessionDigest codec token) subject ingress now administrativeUntil
    auditGrant
  let view ← check (sessionView codec {
    subject := subject
    ingress := ingress
    authenticatedAt := now
    idleExpiresAt := saturatingAdd now (sessionDurations ingress).1
    absoluteExpiresAt := saturatingAdd now (sessionDurations ingress).2
    token := token
    policy := policy
    administrativeUntil := grantedUntil subject ingress now administrativeUntil
    now := now })
  pure ⟨token, view⟩

def issueSession (subject : Subject) (ingress : IngressChannel) (now : Int)
    (random : Option String) : StoreM IssuedSession :=
  issueSessionWithAdministrativeAccess codec subject ingress now none false random

def issueAdministrativeSession (subject : Subject) (ingress : IngressChannel) (now : Int)
    (random : Option String) : StoreM IssuedSession := do
  rejectIf (subject.role ≠ .admin) .adminRoleRequired
  issueSessionWithAdministrativeAccess codec subject ingress now
    (some (saturatingAdd now administrativeAccessMs)) true random

/-- The end of the access of a token, of its own connection. -/
def administrativeExpiry (token : String) (now : Int) : StoreM (Option Int) :=
  if validTokenShape token = false then pure none
  else select fun store =>
    (store.findAdministrative (sessionDigest codec token)).bind fun access =>
      if access.revokedAt.isNone && now < access.expiresAt then some access.expiresAt else none

def issueReauthenticatedSession (priorToken : String) (subject : Subject)
    (ingress : IngressChannel) (now : Int) (random : Option String) : StoreM IssuedSession := do
  let administrativeUntil ← administrativeExpiry codec priorToken now
  issueSessionWithAdministrativeAccess codec subject ingress now administrativeUntil false random

/-! ### Authenticating -/

/-- The row after a touch. -/
def touched (now nextIdle : Int) (row : SessionRow) : SessionRow :=
  { row with lastSeenAt := now, idleExpiresAt := nextIdle }

/-- The end of the idle time, which a touch moves. -/
def touchSession (digest : Bytes) (record : SessionRecord) (ingress : IngressChannel) (now : Int) :
    StoreM Int :=
  if sessionTouchIntervalMs ≤ saturatingSub now record.row.lastSeenAt then do
    let nextIdle := min (saturatingAdd now (sessionDurations ingress).1)
      record.row.absoluteExpiresAt
    let _ ← updateSessions (fun row => row.tokenDigest == digest && row.revokedAt.isNone)
      (touched now nextIdle)
    pure nextIdle
  else pure record.row.idleExpiresAt

def authenticateTransaction (digest : Bytes) (ingress : IngressChannel) (now : Int) :
    StoreM (Ending Unit (SessionRecord × Int × AdditionalAuthPolicy)) := do
  match ← select fun store => loadSession store digest with
  | none => pure (.dropped ())
  | some record =>
    if record.row.ingress ≠ ingress ∨ record.row.revokedAt.isSome ∨
        record.row.idleExpiresAt ≤ now ∨ record.row.absoluteExpiresAt ≤ now then
      pure (.dropped ())
    else do
      let idleExpiresAt ← touchSession digest record ingress now
      let policy ← select Store.additionalAuthPolicy
      pure (.committed (record, idleExpiresAt, policy))

def authenticateSession (token : String) (ingress : IngressChannel) (now : Int) :
    StoreM (Option SessionView) :=
  if validTokenShape token = false then pure none
  else do
    match ← transaction .storage
        (authenticateTransaction (sessionDigest codec token) ingress now) with
    | .dropped () => pure none
    | .committed (record, idleExpiresAt, policy) =>
      let view ← check (sessionView codec {
        subject := record.row.subject
        ingress := ingress
        authenticatedAt := record.row.authenticatedAt
        idleExpiresAt := idleExpiresAt
        absoluteExpiresAt := record.row.absoluteExpiresAt
        token := token
        policy := policy
        administrativeUntil := record.administrativeUntil
        now := now })
      pure (some view)

/-! ### Revoking -/

def revokedRow (now : Int) (row : SessionRow) : SessionRow := { row with revokedAt := some now }

def revokeSession (token : String) (now : Int) : StoreM Unit :=
  if validTokenShape token = false then pure ()
  else do
    let _ ← updateSessions (fun row => row.tokenDigest == sessionDigest codec token)
      (revokedRow now)

def revokeAll (now : Int) : StoreM Nat :=
  updateSessions (fun row => row.revokedAt.isNone) (revokedRow now)

def revokeAdministrativeAccess (sessionToken : String) (subject : Subject) (now : Int) :
    StoreM Unit := do
  rejectIf (validTokenShape sessionToken = false ∨ subject.uid = 0) .identityInvalid
  let _ ← transaction .storage do
    let _ ← update Store.administrative (fun store rows => { store with administrative := rows })
      (fun row => row.sessionDigest == sessionDigest codec sessionToken &&
        row.subjectUid == subject.uid && row.revokedAt.isNone)
      fun row => { row with revokedAt := some now }
    recordAdministrativeEvent subject.uid "revoked"
    pure (Ending.committed () : Ending Unit Unit)

end JwOps.Agentd.Sessions
