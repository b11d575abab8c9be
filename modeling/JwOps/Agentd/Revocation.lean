/- module: Agentd/Revocation
   source: crates/jw-agentd/src/api.rs (reauthenticate), crates/jw-agentd/src/session/lifecycle.rs
   digest: A reauthentication whose store steps other requests come between. -/
import JwOps.Agentd.Expiry
import Mathlib.Data.List.Induction

set_option autoImplicit false

namespace JwOps.Agentd.Revocation

open Foundation Contracts.Operation Tables Sessions Calls Expiry Keyed Transaction

/-! ### The request -/

/-- One request to reauthenticate: the token that it comes with, what PAM answers, what is drawn
for the new token, and the faults that each of its steps meets. -/
structure ReauthRequest where
  token : String
  ingress : IngressChannel
  now : Int
  subject : Option Subject
  random : Option String
  checkFaults : List Bool
  readFaults : List Bool
  storeFaults : List Bool

def ReauthRequest.check (request : ReauthRequest) : Attempt :=
  ⟨.authenticateSession request.token request.ingress, request.now, request.checkFaults⟩

/-- The store when the access of the old token is read: after the check, and after what other
requests do while PAM is awaited. -/
def storeAtRead (codec : AgentCodec) (store : Store) (request : ReauthRequest)
    (during : List Attempt) : Store :=
  run codec (storeAfter codec store request.check) during

/-- The store when the new session is inserted. The policy is read before that on a connection of
its own, but only the view shows it, so other requests may as well come before that read. -/
def storeAtInsertion (codec : AgentCodec) (store : Store) (request : ReauthRequest)
    (during between : List Attempt) : Store :=
  run codec (storeAtRead codec store request during) between

/-- `reauthenticate` up to `issue_reauthenticated_session`, with other requests between its steps;
nothing when it ends before the insertion. -/
def reauthenticate (codec : AgentCodec) (store : Store) (request : ReauthRequest)
    (during between : List Attempt) : Option (Except AgentError IssuedSession × Store) :=
  match resultOf codec store request.check, request.subject with
  | .ok (.authenticated (some current)), some subject =>
    if subject.uid ≠ current.subject.uid ∨ subject.username ≠ current.subject.username then none
    else
      match (administrativeExpiry codec request.token request.now
          ⟨storeAtRead codec store request during, request.readFaults⟩).1 with
      | .error _ => none
      | .ok administrativeUntil =>
        let ended := issueSessionWithAdministrativeAccess codec subject request.ingress request.now
          administrativeUntil false request.random
          ⟨storeAtInsertion codec store request during between, request.storeFaults⟩
        some (ended.1, ended.2.store)
  | _, _ => none

/-! ### What is revoked -/

def sessionRevoked (store : Store) (digest : Bytes) : Bool :=
  (store.findSession digest).any fun row => row.revokedAt.isSome

def accessRevoked (store : Store) (digest : Bytes) : Bool :=
  (store.findAdministrative digest).any fun access => access.revokedAt.isSome

/-- The session has access that is not over. -/
def accessLive (store : Store) (digest : Bytes) (now : Int) : Bool :=
  (store.findAdministrative digest).any fun access =>
    access.revokedAt.isNone && now < access.expiresAt

/-- Some attempt of the run makes the condition true. -/
def TurnsTrue (codec : AgentCodec) (condition : Store → Bool) (store : Store)
    (attempts : List Attempt) : Prop :=
  ∃ earlier attempt later, attempts = earlier ++ attempt :: later ∧
    condition (run codec store earlier) = false ∧
    condition (run codec store (earlier ++ [attempt])) = true

variable {codec : AgentCodec}

/-- A condition that stays true once it is, holds after a run iff it held before or an attempt made
it true. -/
theorem turnsTrue_iff {condition : Store → Bool}
    (stays : ∀ store attempt, Sound store → condition store = true →
      condition (storeAfter codec store attempt) = true)
    {store : Store} (attempts : List Attempt) (sound : Sound store)
    (start : condition store = false) :
    condition (run codec store attempts) = true ↔ TurnsTrue codec condition store attempts := by
  have kept : ∀ (later : List Attempt) (reached : Store), Sound reached →
      condition reached = true → condition (run codec reached later) = true := by
    intro later
    induction later with
    | nil => exact fun reached _ holds => holds
    | cons attempt rest ih =>
      intro reached good holds
      exact ih _ (sound_attempt good attempt) (stays reached attempt good holds)
  have soundAt : ∀ (list : List Attempt), Sound (run codec store list) := fun list =>
    @run_induction codec Sound (fun _ attempt good => sound_attempt good attempt) _ list sound
  constructor
  · intro holds
    induction attempts using List.reverseRecOn with
    | nil =>
      rw [run_nil, start] at holds
      cases holds
    | append_singleton earlier attempt ih =>
      cases before : condition (run codec store earlier) with
      | false => exact ⟨earlier, attempt, [], rfl, before, holds⟩
      | true =>
        obtain ⟨first, turning, later, split, off, on⟩ := ih before
        exact ⟨first, turning, later ++ [attempt], by simp [split], off, on⟩
  · rintro ⟨earlier, attempt, later, rfl, off, on⟩
    have whole : earlier ++ attempt :: later = (earlier ++ [attempt]) ++ later := by simp
    rw [whole, run_append]
    exact kept later _ (soundAt _) on

/-- A lookup in a table whose rows are changed under their keys. -/
theorem lookup_map_rows {Row : Type} {key : Row → Bytes} {change : Row → Row} {wanted : Bytes}
    (rows : List Row) (keeps : ∀ row ∈ rows, key (change row) = key row) :
    lookup key wanted (rows.map change) = (lookup key wanted rows).map change := by
  induction rows with
  | nil => rfl
  | cons row rest ih =>
    have rest_ := ih fun other member => keeps other (List.mem_cons_of_mem _ member)
    have head := keeps row (List.mem_cons_self ..)
    unfold lookup at rest_ ⊢
    by_cases same : key row = wanted
    · simp [head, same]
    · simpa [head, same] using rest_

/-- A row that is looked up is there after an attempt, as the attempt moved it. -/
theorem findSession_moved {now : Int} {store after : Store} {digest : Bytes} {row : SessionRow}
    (advances : Advances now store.sessions after.sessions)
    (found : store.findSession digest = some row) :
    ∃ moved, after.findSession digest = some moved ∧ Moves now row moved := by
  obtain ⟨move, moves, shape⟩ := advances
  have mapped : lookup SessionRow.tokenDigest digest (store.sessions.map move) =
      some (move row) := by
    rw [lookup_map_rows _ fun other member => (moves other member).digest]
    exact congrArg (Option.map move) found
  refine ⟨move row, ?_, moves row (lookup_mem found)⟩
  unfold Store.findSession
  rcases shape with same | ⟨added, -, -, same⟩
  · rw [same]
    exact mapped
  · rw [same, lookup_concat, mapped]
    rfl

theorem sessionRevoked_stays (digest : Bytes) (store : Store) (attempt : Attempt)
    (sound : Sound store) (revoked : sessionRevoked store digest = true) :
    sessionRevoked (storeAfter codec store attempt) digest = true := by
  unfold sessionRevoked at revoked ⊢
  cases found : store.findSession digest with
  | none =>
    rw [found] at revoked
    cases revoked
  | some row =>
    rw [found] at revoked
    obtain ⟨moved, present, moves⟩ :=
      findSession_moved (effect_advances sound (@effect_attempt codec store attempt)) found
    rw [present]
    exact Option.isSome_iff_ne_none.mpr (moves.revoked (Option.isSome_iff_ne_none.mp revoked))

/-- The access of a session is only ever revoked. -/
theorem findAdministrative_kept {now : Int} {store after : Store} {call : Call}
    {result : Except AgentError Answer} {digest : Bytes} {access : AdministrativeRow}
    (effect : SessionEffect codec now store call result after)
    (found : store.findAdministrative digest = some access) :
    ∃ moved, after.findAdministrative digest = some moved ∧
      moved.expiresAt = access.expiresAt ∧
      (access.revokedAt.isSome = true → moved.revokedAt.isSome = true) := by
  cases effect with
  | kept same silent =>
    refine ⟨access, ?_, rfl, id⟩
    unfold Store.findAdministrative
    rw [show after.administrative = store.administrative from (Prod.mk.inj same).2]
    exact found
  | issued names fresh shown =>
    refine ⟨access, ?_, rfl, id⟩
    unfold Store.findAdministrative lookup withSession at *
    rw [List.find?_append, found]
    rfl
  | authenticated present live unissued shown => exact ⟨access, found, rfl, id⟩
  | revoked meets sessions administrative silent =>
    refine ⟨access, ?_, rfl, id⟩
    unfold Store.findAdministrative
    rw [administrative]
    exact found
  | accessRevoked meets sessions administrative silent =>
    have mapped : after.findAdministrative digest = some
        (if meets access then { access with revokedAt := some now } else access) := by
      unfold Store.findAdministrative
      rw [administrative, lookup_map_rows]
      · exact congrArg _ found
      · intro row member
        split <;> rfl
    refine ⟨_, mapped, ?_, ?_⟩
    · split <;> rfl
    · intro revoked
      split
      · rfl
      · exact revoked

theorem accessRevoked_stays (digest : Bytes) (store : Store) (attempt : Attempt)
    (_sound : Sound store) (revoked : accessRevoked store digest = true) :
    accessRevoked (storeAfter codec store attempt) digest = true := by
  unfold accessRevoked at revoked ⊢
  cases found : store.findAdministrative digest with
  | none =>
    rw [found] at revoked
    cases revoked
  | some access =>
    rw [found] at revoked
    obtain ⟨moved, present, -, still⟩ :=
      findAdministrative_kept (@effect_attempt codec store attempt) found
    rw [present]
    exact still revoked

/-! ### The new session -/

/-- The request inserts a session, whatever it then answers. -/
def creates (codec : AgentCodec) (store : Store) (request : ReauthRequest)
    (during between : List Attempt) : Prop :=
  ∃ token result after, request.random = some token ∧
    reauthenticate codec store request during between = some (result, after) ∧
    (storeAtInsertion codec store request during between).findSession
      (sessionDigest codec token) = none ∧
    (after.findSession (sessionDigest codec token)).isSome = true

/-- The session that the request inserts has access. -/
def createsAdministrative (codec : AgentCodec) (store : Store) (request : ReauthRequest)
    (during between : List Attempt) : Prop :=
  ∃ token result after, request.random = some token ∧
    reauthenticate codec store request during between = some (result, after) ∧
    accessLive after (sessionDigest codec token) request.now = true

/-- What a request that inserts a session has gone through. -/
structure Inserted (codec : AgentCodec) (store : Store) (request : ReauthRequest)
    (during between : List Attempt) : Prop where
  passed : ∃ view, resultOf codec store request.check = .ok (.authenticated (some view))
  stored : ∃ token subject administrativeUntil result, request.random = some token ∧
    request.subject = some subject ∧
    (administrativeExpiry codec request.token request.now
      ⟨storeAtRead codec store request during, request.readFaults⟩).1 = .ok administrativeUntil ∧
    (∀ other ∈ (storeAtInsertion codec store request during between).sessions,
      other.tokenDigest ≠ sessionDigest codec token) ∧
    (∀ expiry, grantedUntil subject request.ingress request.now administrativeUntil =
      some expiry → request.now < expiry) ∧
    reauthenticate codec store request during between = some (result,
      withSession (sessionDigest codec token) subject request.ingress request.now
        administrativeUntil (storeAtInsertion codec store request during between))

theorem inserted_of_creates {store : Store} {request : ReauthRequest}
    {during between : List Attempt} (created : creates codec store request during between) :
    Inserted codec store request during between := by
  obtain ⟨token, result, after, drawn, ran, absent, present⟩ := created
  have whole := ran
  unfold reauthenticate at ran
  split at ran
  · rename_i current subject shown answered
    split at ran
    · cases ran
    · split at ran
      · cases ran
      · rename_i administrativeUntil read
        refine ⟨⟨current, shown⟩, ?_⟩
        have spec := @issueSessionWithAdministrativeAccess_spec codec subject request.ingress
          request.now administrativeUntil false request.random
          (storeAtInsertion codec store request during between) request.storeFaults
        obtain ⟨-, reached⟩ := Prod.mk.inj (Option.some.inj ran)
        rcases spec with ⟨same, -⟩ | ⟨other, named, fresh, lasting, same, -⟩
        · rw [← reached, same, absent] at present
          cases present
        · rw [drawn] at named
          cases named
          refine ⟨token, subject, administrativeUntil, result, drawn, answered, read, fresh,
            lasting, ?_⟩
          rw [whole, ← reached, same]
  · cases ran

/-- The read gives the end of the access that is live in the store that it is made on. -/
theorem administrativeExpiry_read {token : String} {now : Int} {store : Store}
    {faults : List Bool} {administrativeUntil : Option Int}
    (shaped : validTokenShape token = true)
    (read : (administrativeExpiry codec token now ⟨store, faults⟩).1 = .ok administrativeUntil) :
    administrativeUntil.isSome = accessLive store (sessionDigest codec token) now ∧
      ∀ expiry, administrativeUntil = some expiry → now < expiry := by
  have spec : Outcome (administrativeExpiry codec token now) store fun result _ =>
      ∀ value, result = .ok value →
        value = (store.findAdministrative (sessionDigest codec token)).bind fun access =>
          if access.revokedAt.isNone && now < access.expiresAt then some access.expiresAt
          else none := by
    unfold administrativeExpiry
    rw [if_neg (by simp [shaped])]
    refine outcome_select ?_ ?_
    · intro value impossible
      cases impossible
    · intro value same
      cases same
      rfl
  have value := spec faults administrativeUntil read
  subst value
  unfold accessLive
  cases store.findAdministrative (sessionDigest codec token) with
  | none =>
    refine ⟨rfl, ?_⟩
    intro expiry impossible
    cases impossible
  | some access =>
    rw [Option.bind_some, Option.any_some]
    cases live : access.revokedAt.isNone && decide (now < access.expiresAt) with
    | true =>
      refine ⟨rfl, ?_⟩
      intro expiry same
      cases same
      exact of_decide_eq_true (Bool.and_eq_true_iff.mp live).2
    | false =>
      refine ⟨rfl, ?_⟩
      intro expiry same
      cases same

/-- A token that is shown has the shape of one, and its row is not revoked by the check. -/
theorem checked_live {store : Store} {request : ReauthRequest} {view : SessionView}
    (shown : resultOf codec store request.check = .ok (.authenticated (some view))) :
    validTokenShape request.token = true ∧
      sessionRevoked (storeAfter codec store request.check)
        (sessionDigest codec request.token) = false := by
  constructor
  · by_contra shaped
    have ill : validTokenShape request.token = false := by simpa using shaped
    have none_ : resultOf codec store request.check = .ok (.authenticated none) := by
      unfold resultOf ReauthRequest.check
      dsimp only [perform]
      unfold authenticateSession
      rw [if_pos ill]
      rfl
    rw [none_] at shown
    cases shown
  · have effect := @effect_attempt codec store request.check
    rw [shown] at effect
    unfold ReauthRequest.check at effect ⊢
    dsimp only at effect
    generalize storeAfter codec store _ = after at effect ⊢
    cases effect with
    | kept _ silent | revoked _ _ _ silent | accessRevoked _ _ _ silent =>
      exact absurd rfl (silent.unseen view)
    | issued names fresh seen => cases names
    | @authenticated _ _ _ row found live unissued seen =>
      unfold sessionRevoked Store.findSession touchedSessions
      split
      · rw [lookup_map_rows _ (by
          intro other member
          split <;> rfl)]
        rw [show lookup SessionRow.tokenDigest (sessionDigest codec request.token)
          store.sessions = some row from found]
        simp only [Option.map_some, Option.any_some]
        split <;> simp [touched, live.valid]
      · rw [show lookup SessionRow.tokenDigest (sessionDigest codec request.token)
          store.sessions = some row from found]
        simp [live.valid]

theorem not_revoked_of_live {store : Store} {digest : Bytes} {now : Int}
    (live : accessLive store digest now = true) : accessRevoked store digest = false := by
  unfold accessLive at live
  unfold accessRevoked
  cases held : store.findAdministrative digest with
  | none => rfl
  | some access =>
    simp only [held, Option.any_some, Bool.and_eq_true] at live
    simp [Option.isNone_iff_eq_none.mp live.1]

/-- The inserted session has access iff PAM answers with an administrator and the old token had
access at the read. -/
theorem createsAdministrative_iff {earlier : List Attempt} {request : ReauthRequest}
    {during between : List Attempt}
    (created : creates codec (run codec emptyStore earlier) request during between) :
    createsAdministrative codec (run codec emptyStore earlier) request during between ↔
      (∃ subject, request.subject = some subject ∧ subject.role = .admin) ∧
      accessLive (storeAtRead codec (run codec emptyStore earlier) request during)
        (sessionDigest codec request.token) request.now = true := by
  obtain ⟨⟨view, shown⟩, token, subject, until_, result, drawn, answered, read, fresh, lasting,
    ran⟩ := inserted_of_creates created
  obtain ⟨isLive, future⟩ := administrativeExpiry_read (checked_live shown).1 read
  obtain ⟨store, reached⟩ : ∃ store, store =
      storeAtInsertion codec (run codec emptyStore earlier) request during between := ⟨_, rfl⟩
  rw [← reached] at fresh ran
  -- Every access belongs to a session, so the new token has none yet.
  have unheld : store.findAdministrative (sessionDigest codec token) = none := by
    refine lookup_eq_none.mpr ?_
    intro access member same
    have history : store = run codec emptyStore
        (earlier ++ request.check :: (during ++ between)) := by
      rw [reached, run_append, run_cons, run_append]
      rfl
    have bounded := @bounded_run codec (earlier ++ request.check :: (during ++ between)).reverse
    rw [List.reverse_reverse, ← history] at bounded
    obtain ⟨row, held, named, -⟩ := (bounded access member).held
    exact fresh row held (named.trans same)
  have granted : accessLive (withSession (sessionDigest codec token) subject request.ingress
      request.now until_ store) (sessionDigest codec token) request.now =
        (grantedUntil subject request.ingress request.now until_).isSome := by
    unfold accessLive Store.findAdministrative withSession lookup
    rw [List.find?_append, show List.find? _ store.administrative = none from unheld]
    cases access : grantedUntil subject request.ingress request.now until_ with
    | none => rfl
    | some expiry => simp [lasting expiry access]
  have admitted : (grantedUntil subject request.ingress request.now until_).isSome = true ↔
      subject.role = .admin ∧ until_.isSome = true := by
    constructor
    · intro some_
      obtain ⟨expiry, access⟩ := Option.isSome_iff_exists.mp some_
      obtain ⟨admin, handed, same, -⟩ := grantedUntil_some access
      exact ⟨admin, by rw [same]; rfl⟩
    · rintro ⟨admin, some_⟩
      obtain ⟨handed, same⟩ := Option.isSome_iff_exists.mp some_
      have soon := future handed same
      simp [grantedUntil, same, admin, soon, Option.filter]
  constructor
  · rintro ⟨other, otherResult, after, named, ended, live⟩
    rw [drawn] at named
    cases named
    rw [ran] at ended
    cases ended
    rw [granted] at live
    obtain ⟨admin, some_⟩ := admitted.mp live
    exact ⟨⟨subject, answered, admin⟩, isLive ▸ some_⟩
  · rintro ⟨⟨other, named, admin⟩, live⟩
    rw [answered] at named
    cases named
    refine ⟨token, result, _, drawn, ran, ?_⟩
    rw [granted]
    exact admitted.mpr ⟨admin, isLive ▸ live⟩

/-- Of a request that inserts a session, in any store of a run and with any other requests between
its steps: the old session is not revoked when the new one is inserted, and the new one has no
access if that of the old one is revoked by then, exactly if no attempt revokes the old session
from the check to the insertion, and none revokes its access from the read to the insertion when
the read found access and PAM answered with an administrator. -/
theorem revocation_final_iff (codec : AgentCodec) (earlier : List Attempt)
    (request : ReauthRequest) (during between : List Attempt)
    (created : creates codec (run codec emptyStore earlier) request during between) :
    (sessionRevoked (storeAtInsertion codec (run codec emptyStore earlier) request during between)
        (sessionDigest codec request.token) = false ∧
      (accessRevoked (storeAtInsertion codec (run codec emptyStore earlier) request during between)
          (sessionDigest codec request.token) = true →
        ¬createsAdministrative codec (run codec emptyStore earlier) request during between)) ↔
    ¬TurnsTrue codec (fun store => sessionRevoked store (sessionDigest codec request.token))
        (storeAfter codec (run codec emptyStore earlier) request.check) (during ++ between) ∧
      ((∃ subject, request.subject = some subject ∧ subject.role = .admin) →
        accessLive (storeAtRead codec (run codec emptyStore earlier) request during)
          (sessionDigest codec request.token) request.now = true →
        ¬TurnsTrue codec (fun store => accessRevoked store (sessionDigest codec request.token))
          (storeAtRead codec (run codec emptyStore earlier) request during) between) := by
  obtain ⟨⟨view, shown⟩, -⟩ := inserted_of_creates created
  have sound : Sound (storeAfter codec (run codec emptyStore earlier) request.check) :=
    sound_attempt (sound_run earlier) request.check
  have soundRead : Sound (storeAtRead codec (run codec emptyStore earlier) request during) :=
    @run_induction codec Sound (fun _ attempt good => sound_attempt good attempt) _ during sound
  have session := @turnsTrue_iff codec _
    (sessionRevoked_stays (sessionDigest codec request.token)) _ (during ++ between) sound
    (checked_live shown).2
  rw [run_append] at session
  have administrative := createsAdministrative_iff created
  refine and_congr ?_ ?_
  · rw [← session]
    exact Bool.eq_false_iff
  · constructor
    · intro final admin live turns
      have revoked := (turnsTrue_iff (accessRevoked_stays (sessionDigest codec request.token))
        between soundRead (not_revoked_of_live live)).mpr turns
      exact final revoked (administrative.mpr ⟨admin, live⟩)
    · intro quiet revoked creating
      obtain ⟨admin, live⟩ := administrative.mp creating
      refine quiet admin live ?_
      exact (turnsTrue_iff (accessRevoked_stays (sessionDigest codec request.token)) between
        soundRead (not_revoked_of_live live)).mp revoked

/-- Access was granted to the token of the request. -/
def sampleGrant : List Attempt :=
  [⟨.issueAdministrativeSession sampleAdmin .publicEdge (some sampleToken), 1000, []⟩]

def sampleReauth : ReauthRequest where
  token := sampleToken
  ingress := .publicEdge
  now := 2000
  subject := some sampleAdmin
  random := some sampleNextToken
  checkFaults := []
  readFaults := []
  storeFaults := []

/-- What the request does with the logout of its session, or nothing, while PAM is awaited. -/
theorem sampleReauth_created (during : List Attempt)
    (ran : (match reauthenticate sampleAgentCodec (run sampleAgentCodec emptyStore sampleGrant)
        sampleReauth during [] with
      | some (_, after) =>
        ((storeAtInsertion sampleAgentCodec (run sampleAgentCodec emptyStore sampleGrant)
            sampleReauth during []).findSession
          (sessionDigest sampleAgentCodec sampleNextToken)).isNone &&
        (after.findSession (sessionDigest sampleAgentCodec sampleNextToken)).isSome &&
        accessLive after (sessionDigest sampleAgentCodec sampleNextToken) 2000
      | none => false) = true) :
    creates sampleAgentCodec (run sampleAgentCodec emptyStore sampleGrant) sampleReauth
        during [] ∧
      createsAdministrative sampleAgentCodec (run sampleAgentCodec emptyStore sampleGrant)
        sampleReauth during [] := by
  split at ran
  · rename_i result after ended
    simp only [Bool.and_eq_true, Option.isNone_iff_eq_none] at ran
    exact ⟨⟨sampleNextToken, result, after, rfl, ended, ran.1.1, ran.1.2⟩,
      sampleNextToken, result, after, rfl, ended, ran.2⟩
  · cases ran

theorem revocation_final_undisturbed :
    creates sampleAgentCodec (run sampleAgentCodec emptyStore sampleGrant) sampleReauth [] [] ∧
      sessionRevoked (storeAtInsertion sampleAgentCodec
        (run sampleAgentCodec emptyStore sampleGrant) sampleReauth [] [])
        (sessionDigest sampleAgentCodec sampleReauth.token) = false := by
  have created := (sampleReauth_created [] (by decide +kernel)).1
  refine ⟨created, ((revocation_final_iff _ _ _ _ _ created).mpr ⟨?_, ?_⟩).1⟩
  · rintro ⟨before, attempt, after, split, -⟩
    cases before <;> cases split
  · rintro - - ⟨before, attempt, after, split, -⟩
    cases before <;> cases split

/-- The session is logged out while PAM is awaited; the request goes on and inserts a session, with
the access of the one that is revoked. -/
theorem revoked_session_reissued :
    sessionRevoked (storeAtInsertion sampleAgentCodec
        (run sampleAgentCodec emptyStore sampleGrant) sampleReauth
        [⟨.revokeSession sampleToken, 2000, []⟩] [])
        (sessionDigest sampleAgentCodec sampleReauth.token) = true ∧
      creates sampleAgentCodec (run sampleAgentCodec emptyStore sampleGrant) sampleReauth
        [⟨.revokeSession sampleToken, 2000, []⟩] [] ∧
      createsAdministrative sampleAgentCodec (run sampleAgentCodec emptyStore sampleGrant)
        sampleReauth [⟨.revokeSession sampleToken, 2000, []⟩] [] :=
  ⟨by decide +kernel, sampleReauth_created _ (by decide +kernel)⟩

end JwOps.Agentd.Revocation
