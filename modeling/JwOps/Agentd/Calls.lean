/- module: Agentd/Calls
   source: crates/jw-agentd/src/session/lifecycle.rs, crates/jw-agentd/src/session.rs,
     crates/jw-agentd/src/totp.rs
   digest: The calls of the store, runs of them under any faults, and all that a call can do. -/
import JwOps.Agentd.Sessions
import JwOps.Agentd.Outcomes

set_option autoImplicit false

namespace JwOps.Agentd.Calls

open Foundation Contracts.Operation Tables Sessions Totp Claims Outcomes Keyed Transaction

/-- A call with what it draws or what the key file makes of a row; its time is in the attempt. -/
inductive Call where
  | issueSession (subject : Subject) (ingress : IngressChannel) (random : Option String)
  | issueAdministrativeSession (subject : Subject) (ingress : IngressChannel)
      (random : Option String)
  | issueReauthenticatedSession (priorToken : String) (subject : Subject)
      (ingress : IngressChannel) (random : Option String)
  | authenticateSession (token : String) (ingress : IngressChannel)
  | revokeSession (token : String)
  | revokeAll
  | revokeAdministrativeAccess (sessionToken : String) (subject : Subject)
  | issueReauthClaim (sessionToken : String) (subject : Subject) (purpose : ReauthPurpose)
      (random : Option String)
  | updateAdditionalAuthPolicy (sessionToken : String) (subject : Subject)
      (target : AdditionalAuthPolicy) (reauthToken : Option String)
      (opened : EnrollmentRow → Option Bytes)
  | consumeOperationClaims (authorization : OperationAuthorization)
  | beginEnrollment (sessionToken : String) (subject : Subject) (ingress : IngressChannel)
      (reauthToken serverLabel : String) (material : Option EnrollmentMaterial)
  | confirmEnrollment (subject : Subject) (ingress : IngressChannel) (enrollmentId code : String)
      (opened : EnrollmentRow → Option Bytes)
  | issueOperationClaim (sessionToken : String) (subject : Subject)
      (reauthToken planHash code : String) (opened : EnrollmentRow → Option Bytes)
      (random : Option String)
  | verifyDirectContext (subject : Subject) (contextDigest code : String)
      (opened : EnrollmentRow → Option Bytes)
  | recoveryReset (sessionToken : String) (subject : Subject) (ingress : IngressChannel)
      (reauthToken recoveryCode : String)
  | migrate

inductive Answer where
  | issued (session : IssuedSession)
  | authenticated (view : Option SessionView)
  | claimed (claim : ReauthClaim)
  | enrolling (view : TotpEnrollmentStartView)
  | confirmed (state : ConfirmState)
  | verified (view : VerificationView)
  | revoked (count : Nat)
  | done
  deriving DecidableEq, Repr

variable (codec : AgentCodec)

def perform (now : Int) : Call → StoreM Answer
  | .issueSession subject ingress random =>
    .issued <$> issueSession codec subject ingress now random
  | .issueAdministrativeSession subject ingress random =>
    .issued <$> issueAdministrativeSession codec subject ingress now random
  | .issueReauthenticatedSession priorToken subject ingress random =>
    .issued <$> issueReauthenticatedSession codec priorToken subject ingress now random
  | .authenticateSession token ingress =>
    .authenticated <$> authenticateSession codec token ingress now
  | .revokeSession token => (fun _ => .done) <$> revokeSession codec token now
  | .revokeAll => .revoked <$> revokeAll now
  | .revokeAdministrativeAccess sessionToken subject =>
    (fun _ => .done) <$> revokeAdministrativeAccess codec sessionToken subject now
  | .issueReauthClaim sessionToken subject purpose random =>
    .claimed <$> issueReauthClaim codec sessionToken subject purpose now random
  | .updateAdditionalAuthPolicy sessionToken subject target reauthToken opened =>
    (fun _ => .done) <$>
      updateAdditionalAuthPolicy codec sessionToken subject target reauthToken now opened
  | .consumeOperationClaims authorization =>
    (fun _ => .done) <$> consumeOperationClaims codec { authorization with now := now }
  | .beginEnrollment sessionToken subject ingress reauthToken serverLabel material =>
    .enrolling <$>
      beginEnrollment codec sessionToken subject ingress reauthToken serverLabel now material
  | .confirmEnrollment subject ingress enrollmentId code opened =>
    .confirmed <$> confirmEnrollment codec subject ingress enrollmentId code now opened
  | .issueOperationClaim sessionToken subject reauthToken planHash code opened random =>
    .verified <$>
      issueOperationClaim codec sessionToken subject reauthToken planHash code now opened random
  | .verifyDirectContext subject contextDigest code opened =>
    (fun _ => .done) <$> verifyDirectContext codec subject contextDigest code now opened
  | .recoveryReset sessionToken subject ingress reauthToken recoveryCode =>
    (fun _ => .done) <$>
      recoveryReset codec sessionToken subject ingress reauthToken recoveryCode now
  | .migrate => (fun _ => .done) <$> migrate now

/-- One call at a time of the clock, with the faults that its statements meet. -/
structure Attempt where
  call : Call
  now : Int
  faults : List Bool

def resultOf (store : Store) (attempt : Attempt) : Except AgentError Answer :=
  (perform codec attempt.now attempt.call ⟨store, attempt.faults⟩).1

def storeAfter (store : Store) (attempt : Attempt) : Store :=
  (perform codec attempt.now attempt.call ⟨store, attempt.faults⟩).2.store

def run (store : Store) (attempts : List Attempt) : Store := attempts.foldl (storeAfter codec) store

@[simp] theorem run_nil (store : Store) : run codec store [] = store := rfl

@[simp] theorem run_append (store : Store) (first second : List Attempt) :
    run codec store (first ++ second) = run codec (run codec store first) second :=
  List.foldl_append ..

@[simp] theorem run_cons (store : Store) (attempt : Attempt) (rest : List Attempt) :
    run codec store (attempt :: rest) = run codec (storeAfter codec store attempt) rest := rfl

/-- The clock does not go back within the run. -/
def Ordered (attempts : List Attempt) : Prop :=
  attempts.Pairwise fun earlier later => earlier.now ≤ later.now

/-- What every attempt keeps is kept by a run. -/
theorem run_induction {codec : AgentCodec} {Holds : Store → Prop}
    (step : ∀ store attempt, Holds store → Holds (storeAfter codec store attempt))
    {store : Store} {attempts : List Attempt} (start : Holds store) :
    Holds (run codec store attempts) := by
  induction attempts generalizing store with
  | nil => exact start
  | cons attempt rest ih => exact ih (step store attempt start)

/-! ### What a call can do to the sessions and their access -/

/-- The end of the access that a call hands to the session that it issues. -/
def Call.grants (now : Int) (store : Store) : Call → Option Int
  | .issueAdministrativeSession _ _ _ => some (saturatingAdd now administrativeAccessMs)
  | .issueReauthenticatedSession priorToken _ _ _ =>
    if validTokenShape priorToken = false then none
    else (store.findAdministrative (sessionDigest codec priorToken)).bind fun access =>
      if access.revokedAt.isNone && now < access.expiresAt then some access.expiresAt else none
  | _ => none

/-- Whom a call issues a session for, where, and what it draws for it. -/
def Call.issues : Call → Option (Subject × IngressChannel × Option String)
  | .issueSession subject ingress random => some (subject, ingress, random)
  | .issueAdministrativeSession subject ingress random => some (subject, ingress, random)
  | .issueReauthenticatedSession _ subject ingress random => some (subject, ingress, random)
  | _ => none

/-- The store with a new session and its access. -/
def withSession (digest : Bytes) (subject : Subject) (ingress : IngressChannel) (now : Int)
    (until_ : Option Int) (store : Store) : Store :=
  { store with
    sessions := store.sessions ++ [newSession digest subject ingress now]
    administrative := store.administrative ++
      ((grantedUntil subject ingress now until_).map fun expiresAt =>
        (⟨digest, subject.uid, now, expiresAt, none⟩ : AdministrativeRow)).toList }

/-- The row that an authentication accepts. -/
structure Live (ingress : IngressChannel) (now : Int) (row : SessionRow) : Prop where
  ingress : row.ingress = ingress
  valid : row.revokedAt = none
  idle : now < row.idleExpiresAt
  absolute : now < row.absoluteExpiresAt

/-- The sessions after an authentication of the row. -/
def touchedSessions (ingress : IngressChannel) (now : Int) (row : SessionRow)
    (sessions : List SessionRow) : List SessionRow :=
  if sessionTouchIntervalMs ≤ saturatingSub now row.lastSeenAt then
    sessions.map fun other =>
      if other.tokenDigest == row.tokenDigest && other.revokedAt.isNone then
        touched now (min (saturatingAdd now (sessionDurations ingress).1) row.absoluteExpiresAt)
          other
      else other
  else sessions

variable {codec} {ingress : IngressChannel} {subject : Subject} {random : Option String}
  {call : Call} {digest : Bytes} {until_ : Option Int} {auditGrant : Bool} {token : String}

theorem storeSession_spec {now : Int} {store : Store} :
    Outcome (storeSession digest subject ingress now until_ auditGrant) store fun result after =>
      match result with
      | .ok _ => (∀ other ∈ store.sessions, other.tokenDigest ≠ digest) ∧
          (∀ expiry, grantedUntil subject ingress now until_ = some expiry → now < expiry) ∧
          after = withSession digest subject ingress now until_ store
      | .error _ => after = store := by
  unfold storeSession
  refine Outcome.transaction rfl (Outcome.bind (outcome_insert rfl fun admitted => ?_))
  have fresh : ∀ other ∈ store.sessions, other.tokenDigest ≠ digest := by
    intro other member same
    simp only [newSession, Bool.and_eq_true, Bool.not_eq_true', List.any_eq_false] at admitted
    exact admitted.2 other member (by simp [same])
  refine Outcome.bind (Outcome.runSome ?_ ?_)
  · intro expiresAt granted
    refine Outcome.bind (outcome_insert rfl fun checked => ?_)
    have lasting : ∀ expiry, grantedUntil subject ingress now until_ = some expiry →
        now < expiry := by
      intro expiry same
      rw [granted] at same
      cases same
      simp only [Bool.and_eq_true, decide_eq_true_eq] at checked
      exact checked.1.1.2
    have stored : withSession digest subject ingress now until_ store =
        { store with
          sessions := store.sessions ++ [newSession digest subject ingress now]
          administrative :=
            store.administrative ++ [⟨digest, subject.uid, now, expiresAt, none⟩] } := by
      simp [withSession, granted]
    have audited : Outcome (recordAdministrativeEvent subject.uid "granted")
        (withSession digest subject ingress now until_ store) fun result after =>
          match result with
          | .ok _ => after = withSession digest subject ingress now until_ store
          | .error _ => True := by
      unfold recordAdministrativeEvent
      exact Outcome.bind (Outcome.rejectIf trivial fun _ => outcome_audit trivial rfl)
    rw [← stored]
    refine Outcome.runIf (fun _ => audited.mono ?_) fun _ =>
      Outcome.ret _ ⟨fresh, lasting, rfl⟩
    rintro (error | value) after reached
    · rfl
    · exact Outcome.ret _ ⟨fresh, lasting, reached⟩
  · intro absent
    refine Outcome.ret _ ⟨fresh, ?_, ?_⟩
    · intro expiry same
      rw [absent] at same
      cases same
    · simp [withSession, absent]

/-- What a view of a session says of its access. -/
theorem sessionView_spec {input : SessionViewInput} {view : SessionView}
    (shown : sessionView codec input = .ok view) :
    view.subject = input.subject ∧ view.ingress = input.ingress ∧
      (view.administrativeAccess = .administrative ↔
        ∃ expiry, input.administrativeUntil = some expiry ∧ input.now < expiry) := by
  unfold sessionView at shown
  cases first : formatRfc3339 codec input.authenticatedAt with
  | error error => simp [first, bind, Except.bind] at shown
  | ok authenticatedAt =>
  cases second : formatRfc3339 codec input.idleExpiresAt with
  | error error => simp [first, second, bind, Except.bind] at shown
  | ok idleExpiresAt =>
  cases third : formatRfc3339 codec input.absoluteExpiresAt with
  | error error => simp [first, second, third, bind, Except.bind] at shown
  | ok absoluteExpiresAt =>
  cases fourth : (input.administrativeUntil.filter fun expiry => input.now < expiry).mapM
      (formatRfc3339 codec) with
  | error error => simp [first, second, third, fourth, bind, Except.bind] at shown
  | ok administrativeExpiresAt =>
  simp only [first, second, third, fourth, bind, Except.bind, pure, Except.pure,
    Except.ok.injEq] at shown
  subst shown
  refine ⟨rfl, rfl, ?_⟩
  cases input.administrativeUntil with
  | none => simp
  | some expiry => by_cases lasting : input.now < expiry <;> simp [Option.filter, lasting]

/-- An issuing call stores its session as a whole or not at all, and may fail after that. -/
theorem issueSessionWithAdministrativeAccess_spec {subject : Subject} {ingress : IngressChannel}
    {now : Int} {until_ : Option Int} {auditGrant : Bool} {random : Option String}
    {store : Store} :
    Outcome (issueSessionWithAdministrativeAccess codec subject ingress now until_ auditGrant
      random) store fun result after =>
        (after = store ∧ ∃ error, result = .error error) ∨
        ∃ token, random = some token ∧
          (∀ other ∈ store.sessions, other.tokenDigest ≠ sessionDigest codec token) ∧
          (∀ expiry, grantedUntil subject ingress now until_ = some expiry → now < expiry) ∧
          after = withSession (sessionDigest codec token) subject ingress now until_ store ∧
          ∀ session, result = .ok session → session.token = token ∧
            session.view.subject = subject ∧ session.view.ingress = ingress ∧
            (session.view.administrativeAccess = .administrative ↔
              ∃ expiry, grantedUntil subject ingress now until_ = some expiry ∧ now < expiry) := by
  unfold issueSessionWithAdministrativeAccess
  refine Outcome.bind (Outcome.rejectIf (.inl ⟨rfl, _, rfl⟩) fun _ => ?_)
  refine Outcome.bind (outcome_select (.inl ⟨rfl, _, rfl⟩) ?_)
  refine Outcome.bind (outcome_check ?_)
  cases random with
  | none => exact .inl ⟨rfl, _, rfl⟩
  | some token =>
  refine Outcome.bind (storeSession_spec.mono ?_)
  rintro (error | ending) after reached
  · exact .inl ⟨reached, _, rfl⟩
  · obtain ⟨fresh, lasting, rfl⟩ := reached
    refine Outcome.bind (outcome_check ?_)
    split
    · rename_i view shown
      refine Outcome.ret _ (.inr ⟨token, rfl, fresh, lasting, rfl, ?_⟩)
      rintro session ⟨⟩
      exact ⟨rfl, sessionView_spec shown⟩
    · exact .inr ⟨token, rfl, fresh, lasting, rfl, fun _ impossible => by cases impossible⟩

theorem loadSession_some {store : Store} {record : SessionRecord}
    (found : loadSession store digest = some record) :
    store.findSession digest = some record.row ∧
      (∀ expiry, record.administrativeUntil = some expiry ↔
        ∃ access, store.findAdministrative digest = some access ∧ access.revokedAt = none ∧
          access.expiresAt = expiry) := by
  unfold loadSession at found
  obtain ⟨row, present, rfl⟩ := Option.map_eq_some_iff.mp found
  have named : row.tokenDigest = digest := lookup_key present
  refine ⟨present, fun expiry => ?_⟩
  rw [named]
  simp only [Option.bind_eq_some_iff, Option.ite_none_right_eq_some, Option.some.injEq,
    Option.isNone_iff_eq_none]

/-- A touch of the accepted row, or none. -/
theorem touchSession_spec {record : SessionRecord} {now : Int} {store : Store}
    (named : record.row.tokenDigest = digest) :
    Outcome (touchSession digest record ingress now) store fun result after =>
      match result with
      | .ok _ => after =
          { store with sessions := touchedSessions ingress now record.row store.sessions }
      | .error _ => True := by
  subst named
  unfold touchSession touchedSessions
  by_cases due : sessionTouchIntervalMs ≤ saturatingSub now record.row.lastSeenAt
  · rw [if_pos due, if_pos due]
    exact Outcome.bind (outcome_update trivial (Outcome.ret _ rfl))
  · rw [if_neg due, if_neg due]
    exact Outcome.ret _ rfl

/-- An authentication accepts a live row and touches it, or leaves the store alone. -/
theorem authenticateSession_spec {now : Int} {store : Store} :
    Outcome (authenticateSession codec token ingress now) store fun result after =>
      (after = store ∧ ∀ view, result ≠ .ok (some view)) ∨
      ∃ row, store.findSession (sessionDigest codec token) = some row ∧ Live ingress now row ∧
        after = { store with sessions := touchedSessions ingress now row store.sessions } ∧
        ∀ view, result = .ok (some view) → view.subject = row.subject ∧ view.ingress = ingress ∧
          (view.administrativeAccess = .administrative ↔
            ∃ access, store.findAdministrative (sessionDigest codec token) = some access ∧
              access.revokedAt = none ∧ now < access.expiresAt) := by
  unfold authenticateSession
  split
  · exact Outcome.ret _ (.inl ⟨rfl, nofun⟩)
  refine Outcome.bind (Outcome.transaction (.inl ⟨rfl, nofun⟩) ?_)
  unfold authenticateTransaction
  refine Outcome.bind (outcome_select (.inl ⟨rfl, nofun⟩) ?_)
  cases found : loadSession store (sessionDigest codec token) with
  | none => exact Outcome.ret _ (Outcome.ret _ (.inl ⟨rfl, nofun⟩))
  | some record =>
  obtain ⟨present, access⟩ := loadSession_some found
  dsimp only
  split
  · exact Outcome.ret _ (Outcome.ret _ (.inl ⟨rfl, nofun⟩))
  rename_i accepted
  have live : Live ingress now record.row := by
    simp only [not_or, not_not, not_le, Option.isSome_iff_ne_none, ne_eq] at accepted
    exact ⟨accepted.1, accepted.2.1, accepted.2.2.1, accepted.2.2.2⟩
  refine Outcome.bind ((touchSession_spec (lookup_key present)).mono ?_)
  rintro (error | idle) after reached
  · exact .inl ⟨rfl, nofun⟩
  dsimp only at reached
  subst reached
  refine Outcome.bind (outcome_select (.inl ⟨rfl, nofun⟩) (Outcome.ret _ ?_))
  refine Outcome.bind (outcome_check ?_)
  split
  · rename_i view shown
    refine Outcome.ret _ (.inr ⟨record.row, present, live, rfl, ?_⟩)
    rintro _ ⟨⟩
    obtain ⟨subject, channel, administrative⟩ := sessionView_spec shown
    refine ⟨subject, channel, administrative.trans ?_⟩
    constructor
    · rintro ⟨expiry, until_, lasting⟩
      obtain ⟨row, held, valid, rfl⟩ := (access expiry).mp until_
      exact ⟨row, held, valid, lasting⟩
    · rintro ⟨row, held, valid, lasting⟩
      exact ⟨_, (access _).mpr ⟨row, held, valid, rfl⟩, lasting⟩
  · exact .inr ⟨record.row, present, live, rfl, nofun⟩

/-! ### Calls that leave a part of the store alone -/

/-- Whatever the faults are, the program does not change this part of the store. -/
def Leaves {α β : Type} (part : Store → β) (program : StoreM α) : Prop :=
  ∀ store, Outcome program store fun _ after => part after = part store

section Leaving

variable {α β γ : Type} {part : Store → β}

theorem Leaves.ret (value : α) : Leaves part (pure value : StoreM α) :=
  fun _ => Outcome.ret _ rfl

theorem Leaves.bind {program : StoreM α} {next : α → StoreM γ} (first : Leaves part program)
    (rest : ∀ value, Leaves part (next value)) : Leaves part (program >>= next) := by
  intro store
  refine Outcome.bind ((first store).mono ?_)
  rintro (error | value) after same
  · exact same
  · exact (rest value after).mono fun _ _ later => later.trans same

theorem Leaves.map {program : StoreM α} (change : α → γ) (first : Leaves part program) :
    Leaves part (change <$> program) := by
  rw [map_eq_pure_bind]
  exact first.bind fun _ => Leaves.ret _

theorem Leaves.select (read : Store → α) : Leaves part (select read) :=
  fun _ => outcome_select rfl rfl

theorem Leaves.rejectIf {condition : Prop} [Decidable condition] (error : AgentError) :
    Leaves part (rejectIf condition error : StoreM Unit) :=
  fun _ => Outcome.rejectIf rfl fun _ => rfl

theorem Leaves.audit : Leaves part audit := fun _ => outcome_audit rfl rfl

theorem Leaves.transaction {fault : AgentError} {block : StoreM (Ending γ α)}
    (inner : Leaves part block) : Leaves part (transaction fault block) := by
  intro store
  refine Outcome.transaction rfl ((inner store).mono ?_)
  rintro (error | dropped | committed) after same
  · rfl
  · rfl
  · exact same

end Leaving

/-- The two tables that sessions live in. -/
def sessionTables (store : Store) : List SessionRow × List AdministrativeRow :=
  (store.sessions, store.administrative)

/-- The calls that touch no table but those of sessions and their access. -/
def Call.sessionsOnly : Call → Bool
  | .issueSession .. | .issueAdministrativeSession .. | .issueReauthenticatedSession ..
  | .authenticateSession .. | .revokeSession .. | .revokeAll
  | .revokeAdministrativeAccess .. => true
  | _ => false

section SessionCalls

variable {β : Type} {part : Store → β}
  (kept : ∀ store sessions administrative,
    part { store with sessions := sessions, administrative := administrative } = part store)
include kept

theorem leaves_issueSessionWith {now : Int} :
    Leaves part (issueSessionWithAdministrativeAccess codec subject ingress now until_ auditGrant
      random) := by
  intro store
  refine issueSessionWithAdministrativeAccess_spec.mono ?_
  rintro result after (⟨rfl, -⟩ | ⟨token, -, -, -, rfl, -⟩)
  · rfl
  · exact kept store _ _

theorem leaves_updateSessions {meets : SessionRow → Bool} {change : SessionRow → SessionRow} :
    Leaves part (updateSessions meets change) := by
  intro store
  exact outcome_update rfl (kept store _ store.administrative)

/-- A part of the store without the two tables is left alone by these calls. -/
theorem leaves_of_sessionsOnly {now : Int} (only : Call.sessionsOnly call = true) :
    Leaves part (perform codec now call) := by
  cases call with
  | issueSession subject ingress random => exact Leaves.map _ (leaves_issueSessionWith kept)
  | issueAdministrativeSession subject ingress random =>
    exact Leaves.map _ ((Leaves.rejectIf _).bind fun _ => leaves_issueSessionWith kept)
  | issueReauthenticatedSession priorToken subject ingress random =>
    have read : Leaves part (administrativeExpiry codec priorToken now) := by
      unfold administrativeExpiry
      split
      · exact Leaves.ret _
      · exact Leaves.select _
    exact Leaves.map _ (read.bind fun _ => leaves_issueSessionWith kept)
  | authenticateSession token ingress =>
    refine Leaves.map _ fun store => authenticateSession_spec.mono ?_
    rintro result after (⟨rfl, -⟩ | ⟨row, -, -, rfl, -⟩)
    · rfl
    · exact kept store _ store.administrative
  | revokeSession token =>
    refine Leaves.map _ ?_
    unfold revokeSession
    split
    · exact Leaves.ret _
    · exact (leaves_updateSessions kept).bind fun _ => Leaves.ret _
  | revokeAll => exact Leaves.map _ (leaves_updateSessions kept)
  | revokeAdministrativeAccess sessionToken subject =>
    have updated (meets : AdministrativeRow → Bool)
        (change : AdministrativeRow → AdministrativeRow) :
        Leaves part (update Store.administrative
          (fun store rows => { store with administrative := rows }) meets change) := by
      intro store
      exact outcome_update rfl (kept store store.sessions _)
    refine Leaves.map _ ((Leaves.rejectIf _).bind fun _ =>
      Leaves.bind (Leaves.transaction ?_) fun _ => Leaves.ret _)
    exact (updated _ _).bind fun _ => ((Leaves.rejectIf _).bind fun _ => Leaves.audit).bind
      fun _ => Leaves.ret _
  | _ => cases only

end SessionCalls

/-! ### The inversion -/

/-- The result shows no session. -/
structure Silent (result : Except AgentError Answer) : Prop where
  unissued : ∀ session, result ≠ .ok (.issued session)
  unseen : ∀ view, result ≠ .ok (.authenticated (some view))

theorem silent_error {error : AgentError} : Silent (.error error) where
  unissued := by
    intro session shown
    cases shown
  unseen := by
    intro view shown
    cases shown

theorem silent_answer {answer : Answer} (unissued : ∀ session, answer ≠ .issued session)
    (unseen : ∀ view, answer ≠ .authenticated (some view)) : Silent (.ok answer) where
  unissued session shown := unissued session (Except.ok.inj shown)
  unseen view shown := unseen view (Except.ok.inj shown)

theorem silent_done : Silent (.ok .done) := silent_answer nofun nofun

/-- All that an attempt can do to the sessions and their access, and what its answer then says. -/
inductive SessionEffect (codec : AgentCodec) (now : Int) (store : Store) :
    Call → Except AgentError Answer → Store → Prop
  | kept {call : Call} {result : Except AgentError Answer} {after : Store}
      (same : sessionTables after = sessionTables store)
      (silent : Silent result) :
      SessionEffect codec now store call result after
  | issued {call : Call} {result : Except AgentError Answer} {subject : Subject}
      {ingress : IngressChannel} {token : String}
      (names : call.issues = some (subject, ingress, some token))
      (fresh : ∀ other ∈ store.sessions, other.tokenDigest ≠ sessionDigest codec token)
      (shown : ∀ answer, result = .ok answer → ∃ session, answer = .issued session ∧
        session.token = token ∧ session.view.subject = subject ∧ session.view.ingress = ingress ∧
        (session.view.administrativeAccess = .administrative ↔
          ∃ expiry, grantedUntil subject ingress now (call.grants codec now store) = some expiry ∧
            now < expiry)) :
      SessionEffect codec now store call result
        (withSession (sessionDigest codec token) subject ingress now
          (call.grants codec now store) store)
  | authenticated {token : String} {ingress : IngressChannel}
      {result : Except AgentError Answer} {row : SessionRow}
      (found : store.findSession (sessionDigest codec token) = some row)
      (live : Live ingress now row)
      (unissued : ∀ session, result ≠ .ok (.issued session))
      (shown : ∀ view, result = .ok (.authenticated (some view)) →
        view.subject = row.subject ∧ view.ingress = ingress ∧
        (view.administrativeAccess = .administrative ↔
          ∃ access, store.findAdministrative (sessionDigest codec token) = some access ∧
            access.revokedAt = none ∧ now < access.expiresAt)) :
      SessionEffect codec now store (.authenticateSession token ingress) result
        { store with sessions := touchedSessions ingress now row store.sessions }
  | revoked {call : Call} {result : Except AgentError Answer} {after : Store}
      (meets : SessionRow → Bool)
      (sessions : after.sessions =
        store.sessions.map fun row => if meets row then revokedRow now row else row)
      (administrative : after.administrative = store.administrative)
      (silent : Silent result) :
      SessionEffect codec now store call result after
  | accessRevoked {call : Call} {result : Except AgentError Answer} {after : Store}
      (meets : AdministrativeRow → Bool)
      (sessions : after.sessions = store.sessions)
      (administrative : after.administrative = store.administrative.map fun row =>
        if meets row then { row with revokedAt := some now } else row)
      (silent : Silent result) :
      SessionEffect codec now store call result after

/-- From what a program does to what the call made of it answers. -/
theorem outcome_map {α β : Type} {change : α → β} {program : StoreM α} {store : Store}
    {post : Except AgentError β → Store → Prop}
    (inner : Outcome program store fun result after => post (result.map change) after) :
    Outcome (change <$> program) store post := by
  rw [map_eq_pure_bind]
  refine Outcome.bind (inner.mono ?_)
  rintro (error | value) after holds
  · exact holds
  · exact Outcome.ret _ holds

theorem effect_failed {now : Int} {store : Store} {error : AgentError} :
    SessionEffect codec now store call (.error error) store :=
  .kept rfl silent_error

/-- A call that leaves both tables alone, with an answer that shows no session. -/
theorem effect_of_spec {α : Type} {change : α → Answer} {program : StoreM α} {store : Store}
    {now : Int} {post : Except AgentError α → Store → Prop} (spec : Outcome program store post)
    (same : ∀ result after, post result after → sessionTables after = sessionTables store)
    (silent : ∀ value, Silent (.ok (change value))) :
    Outcome (change <$> program) store (SessionEffect codec now store call) := by
  refine outcome_map (spec.mono ?_)
  rintro (error | value) after holds
  · exact .kept (same _ after holds) silent_error
  · exact .kept (same _ after holds) (silent value)

/-- The common part of the three calls that issue a session. -/
theorem effect_issue {now : Int} {store : Store}
    (names : call.issues = some (subject, ingress, random))
    (grants : call.grants codec now store = until_) :
    Outcome (issueSessionWithAdministrativeAccess codec subject ingress now until_ auditGrant
      random) store fun result after =>
        SessionEffect codec now store call (result.map Answer.issued) after := by
  subst grants
  refine issueSessionWithAdministrativeAccess_spec.mono ?_
  rintro result after (⟨rfl, error, rfl⟩ | ⟨token, rfl, fresh, -, rfl, shown⟩)
  · exact effect_failed
  · refine .issued names fresh ?_
    intro answer answered
    cases result with
    | error error => cases answered
    | ok session => exact ⟨session, (Except.ok.inj answered).symm, shown session rfl⟩

theorem effect_issueAdministrative {now : Int} {store : Store} :
    Outcome (issueAdministrativeSession codec subject ingress now random) store
      fun result after => SessionEffect codec now store
        (.issueAdministrativeSession subject ingress random) (result.map Answer.issued) after := by
  unfold issueAdministrativeSession
  exact Outcome.bind (Outcome.rejectIf effect_failed fun _ => effect_issue rfl rfl)

/-- The access is read on a connection of its own, from the store that the call starts on. -/
theorem effect_issueReauthenticated {priorToken : String} {now : Int} {store : Store} :
    Outcome (issueReauthenticatedSession codec priorToken subject ingress now random) store
      fun result after => SessionEffect codec now store
        (.issueReauthenticatedSession priorToken subject ingress random)
        (result.map Answer.issued) after := by
  unfold issueReauthenticatedSession
  refine Outcome.bind ?_
  unfold administrativeExpiry
  by_cases shaped : validTokenShape priorToken = false
  · rw [if_pos shaped]
    refine Outcome.ret _ (effect_issue rfl ?_)
    simp [Call.grants, shaped]
  · rw [if_neg shaped]
    refine outcome_select effect_failed (effect_issue rfl ?_)
    simp [Call.grants, shaped]

theorem effect_authenticate {now : Int} {store : Store} :
    Outcome (Answer.authenticated <$> authenticateSession codec token ingress now) store
      (SessionEffect codec now store (.authenticateSession token ingress)) := by
  refine outcome_map (authenticateSession_spec.mono ?_)
  rintro result after (⟨rfl, unseen⟩ | ⟨row, found, live, rfl, shown⟩)
  · cases result with
    | error error => exact effect_failed
    | ok view =>
      refine .kept rfl (silent_answer nofun ?_)
      intro seen answered
      exact unseen seen (congrArg _ (Answer.authenticated.inj answered))
  · cases result with
    | error error =>
      exact .authenticated found live silent_error.unissued fun view answered =>
        absurd answered (silent_error.unseen view)
    | ok view =>
      refine .authenticated found live nofun ?_
      intro seen answered
      exact shown seen (congrArg _ (Answer.authenticated.inj (Except.ok.inj answered)))

theorem effect_revokeSession {now : Int} {store : Store} :
    Outcome ((fun _ => Answer.done) <$> revokeSession codec token now) store
      (SessionEffect codec now store (.revokeSession token)) := by
  refine outcome_map ?_
  unfold revokeSession
  split
  · exact Outcome.ret _ (.kept rfl silent_done)
  · refine Outcome.bind (outcome_update effect_failed (Outcome.ret _ ?_))
    exact .revoked _ rfl rfl silent_done

theorem effect_revokeAll {now : Int} {store : Store} :
    Outcome (Answer.revoked <$> revokeAll now) store
      (SessionEffect codec now store .revokeAll) := by
  refine outcome_map ?_
  unfold revokeAll
  exact outcome_update effect_failed (.revoked _ rfl rfl (silent_answer nofun nofun))

theorem effect_revokeAdministrativeAccess {sessionToken : String} {now : Int} {store : Store} :
    Outcome ((fun _ => Answer.done) <$> revokeAdministrativeAccess codec sessionToken subject now)
      store (SessionEffect codec now store (.revokeAdministrativeAccess sessionToken subject)) := by
  refine outcome_map ?_
  unfold revokeAdministrativeAccess
  refine Outcome.bind (Outcome.rejectIf effect_failed fun _ => ?_)
  refine Outcome.bind (Outcome.transaction effect_failed ?_)
  refine Outcome.bind (outcome_update effect_failed ?_)
  unfold recordAdministrativeEvent
  refine Outcome.bind (Outcome.bind (Outcome.rejectIf effect_failed fun _ => ?_))
  refine outcome_audit effect_failed (Outcome.ret _ (Outcome.ret _ ?_))
  exact .accessRevoked _ rfl rfl silent_done

/-- Only the last statement of a reset reaches the sessions. -/
theorem effect_recoveryReset {sessionToken : String} {reauthToken recoveryCode : String}
    {now : Int} {store : Store} :
    Outcome ((fun _ => Answer.done) <$>
      recoveryReset codec sessionToken subject ingress reauthToken recoveryCode now) store
      (SessionEffect codec now store
        (.recoveryReset sessionToken subject ingress reauthToken recoveryCode)) := by
  refine outcome_map (recoveryReset_spec.mono ?_)
  rintro result after (⟨rfl, error, rfl⟩ | ⟨rfl, -, -, rfl⟩)
  · exact effect_failed
  · exact .revoked _ rfl rfl silent_done

theorem effect_perform {store : Store} {now : Int} {call : Call} :
    Outcome (perform codec now call) store (SessionEffect codec now store call) := by
  cases call with
  | issueSession subject ingress random => exact outcome_map (effect_issue rfl rfl)
  | issueAdministrativeSession subject ingress random =>
    exact outcome_map effect_issueAdministrative
  | issueReauthenticatedSession priorToken subject ingress random =>
    exact outcome_map effect_issueReauthenticated
  | authenticateSession token ingress => exact effect_authenticate
  | revokeSession token => exact effect_revokeSession
  | revokeAll => exact effect_revokeAll
  | revokeAdministrativeAccess sessionToken subject => exact effect_revokeAdministrativeAccess
  | issueReauthClaim sessionToken subject purpose random =>
    refine effect_of_spec issueReauthClaim_spec ?_ fun _ => silent_answer nofun nofun
    rintro result after (rfl | ⟨token, -, -, rfl⟩) <;> rfl
  | updateAdditionalAuthPolicy sessionToken subject target reauthToken opened =>
    refine effect_of_spec updateAdditionalAuthPolicy_spec ?_ fun _ => silent_done
    rintro result after (⟨rfl, -⟩ | ⟨token, -, -, -, -, rfl⟩) <;> rfl
  | consumeOperationClaims authorization =>
    refine effect_of_spec consumeOperationClaims_spec ?_ fun _ => silent_done
    rintro result after (⟨rfl, -⟩ | ⟨-, -, ⟨-, -, rfl⟩ | ⟨claim, -, -, -, rfl⟩⟩) <;> rfl
  | beginEnrollment sessionToken subject ingress reauthToken serverLabel material =>
    refine effect_of_spec beginEnrollment_spec ?_ fun _ => silent_answer nofun nofun
    rintro result after (⟨rfl, -⟩ | ⟨drawn, -, -, -, rfl, -⟩) <;> rfl
  | confirmEnrollment subject ingress enrollmentId code opened =>
    refine effect_of_spec confirmEnrollment_spec ?_ fun _ => silent_answer nofun nofun
    rintro result after (⟨rfl, -⟩ | ⟨row, step, -, -, -, rfl⟩) <;> rfl
  | issueOperationClaim sessionToken subject reauthToken planHash code opened random =>
    refine effect_of_spec issueOperationClaim_spec ?_ fun _ => silent_answer nofun nofun
    rintro result after (⟨rfl, -⟩ | ⟨row, step, token, -, -, -, -, -, rfl, -⟩) <;> rfl
  | verifyDirectContext subject contextDigest code opened =>
    refine effect_of_spec verifyDirectContext_spec ?_ fun _ => silent_done
    rintro result after (⟨rfl, -⟩ | ⟨row, step, -, -, -, rfl⟩) <;> rfl
  | recoveryReset sessionToken subject ingress reauthToken recoveryCode =>
    exact effect_recoveryReset
  | migrate =>
    refine effect_of_spec migrate_spec ?_ fun _ => silent_done
    rintro result after (rfl | rfl) <;> rfl

end JwOps.Agentd.Calls
