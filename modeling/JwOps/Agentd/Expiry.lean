/- module: Agentd/Expiry
   source: crates/jw-agentd/src/session/lifecycle.rs
   digest: Sessions end for good, and a chain of re-issues does not outlast its first grant. -/
import JwOps.Agentd.Calls

set_option autoImplicit false

namespace JwOps.Agentd.Expiry

open Contracts.Operation Tables Sessions Calls Foundation.Keyed

variable {row : SessionRow} {ingress : IngressChannel}

variable {codec : AgentCodec}

/-! ### One row -/

/-- The idle end of a row is the one that its last touch gave it. -/
def Timely (row : SessionRow) : Prop :=
  row.idleExpiresAt =
    min (saturatingAdd row.lastSeenAt (sessionDurations row.ingress).1) row.absoluteExpiresAt

/-- The session is revoked, or over by that time. -/
def Ended (time : Int) (row : SessionRow) : Prop :=
  row.revokedAt ≠ none ∨ row.idleExpiresAt ≤ time ∨ row.absoluteExpiresAt ≤ time

/-- What an attempt at that time makes of a row. -/
structure Moves (now : Int) (row moved : SessionRow) : Prop where
  digest : moved.tokenDigest = row.tokenDigest
  ingress : moved.ingress = row.ingress
  subject : moved.subject = row.subject
  absolute : moved.absoluteExpiresAt = row.absoluteExpiresAt
  idle : row.idleExpiresAt ≤ moved.idleExpiresAt
  timely : Timely moved
  revoked : row.revokedAt ≠ none → moved.revokedAt ≠ none
  live : moved.idleExpiresAt ≠ row.idleExpiresAt → now < row.idleExpiresAt

theorem Timely.idle_le (timely : Timely row) :
    row.idleExpiresAt ≤ row.absoluteExpiresAt := by
  unfold Timely at timely
  omega

theorem Moves.refl {now : Int} (timely : Timely row) : Moves now row row where
  digest := rfl
  ingress := rfl
  subject := rfl
  absolute := rfl
  idle := le_refl _
  timely := timely
  revoked := id
  live differ := absurd rfl differ

theorem Moves.revoke {now : Int} (timely : Timely row) :
    Moves now row (revokedRow now row) where
  digest := rfl
  ingress := rfl
  subject := rfl
  absolute := rfl
  idle := le_refl _
  timely := timely
  revoked _ := by simp [revokedRow]
  live differ := absurd rfl differ

theorem saturatingAdd_mono {first second amount : Int} (le : first ≤ second) :
    saturatingAdd first amount ≤ saturatingAdd second amount := by
  unfold saturatingAdd
  omega

/-- A touch comes at least the interval after the last one, so it moves the idle end forward. -/
theorem Moves.touch {now : Int} (timely : Timely row) (live : Live ingress now row)
    (due : sessionTouchIntervalMs ≤ saturatingSub now row.lastSeenAt) :
    Moves now row (touched now
      (min (saturatingAdd now (sessionDurations ingress).1) row.absoluteExpiresAt) row) where
  digest := rfl
  ingress := rfl
  subject := rfl
  absolute := rfl
  idle := by
    have later : row.lastSeenAt ≤ now := by
      unfold sessionTouchIntervalMs saturatingSub at due
      omega
    have forward := @saturatingAdd_mono _ _ (sessionDurations ingress).1 later
    unfold Timely at timely
    rw [live.ingress] at timely
    show row.idleExpiresAt ≤
      min (saturatingAdd now (sessionDurations ingress).1) row.absoluteExpiresAt
    omega
  timely := by
    unfold Timely touched
    rw [live.ingress]
  revoked := id
  live _ := live.idle

/-- Nothing brings a session back. -/
theorem Moves.ended {now time : Int} {moved : SessionRow} (moves : Moves now row moved)
    (later : time ≤ now) (ended : Ended time row) : Ended time moved := by
  rcases ended with revoked | idle | absolute
  · exact .inl (moves.revoked revoked)
  · by_cases same : moved.idleExpiresAt = row.idleExpiresAt
    · exact .inr (.inl (by omega))
    · have live := moves.live same
      omega
  · exact .inr (.inr (by rw [moves.absolute]; exact absolute))

/-! ### The table -/

/-- Tokens are keys, and every row has the idle end of its last touch. -/
structure Sound (store : Store) : Prop where
  unique : (store.sessions.map SessionRow.tokenDigest).Nodup
  timely : ∀ row ∈ store.sessions, Timely row

theorem sound_emptyStore : Sound emptyStore where
  unique := List.nodup_nil
  timely := by
    intro row member
    cases member

theorem timely_newSession {digest : Bytes} {subject : Subject} {ingress : IngressChannel}
    {now : Int} : Timely (newSession digest subject ingress now) := by
  unfold Timely newSession saturatingAdd
  cases ingress <;> simp only [sessionDurations] <;> omega

/-- The sessions after an attempt: every row moved, and at most one row more. -/
def Advances (now : Int) (before after : List SessionRow) : Prop :=
  ∃ move : SessionRow → SessionRow, (∀ row ∈ before, Moves now row (move row)) ∧
    (after = before.map move ∨ ∃ row, Timely row ∧
      (∀ other ∈ before, other.tokenDigest ≠ row.tokenDigest) ∧ after = before.map move ++ [row])

theorem advances_same {now : Int} {sessions : List SessionRow}
    (timely : ∀ row ∈ sessions, Timely row) : Advances now sessions sessions :=
  ⟨id, fun row member => Moves.refl (timely row member), .inl (List.map_id sessions).symm⟩

/-- Only the accepted row has its digest, so a touch reaches no other. -/
theorem advances_touched {now : Int} {store : Store} {digest : Bytes} (sound : Sound store)
    (found : store.findSession digest = some row) (live : Live ingress now row) :
    Advances now store.sessions (touchedSessions ingress now row store.sessions) := by
  unfold touchedSessions
  split
  · rename_i due
    refine ⟨_, ?_, .inl rfl⟩
    intro other member
    by_cases meets : (other.tokenDigest == row.tokenDigest && other.revokedAt.isNone) = true
    · have same : other = row := by
        have keyed : other.tokenDigest = row.tokenDigest := by
          simp only [Bool.and_eq_true, beq_iff_eq] at meets
          exact meets.1
        exact eq_of_column_eq sound.unique member (lookup_mem found) keyed
      subst same
      rw [if_pos meets]
      exact Moves.touch (sound.timely other member) live due
    · rw [if_neg meets]
      exact Moves.refl (sound.timely other member)
  · exact advances_same sound.timely

theorem effect_advances {now : Int} {store after : Store} {call : Call}
    {result : Except AgentError Answer} (sound : Sound store)
    (effect : SessionEffect codec now store call result after) :
    Advances now store.sessions after.sessions := by
  cases effect with
  | kept same silent =>
    rw [show after.sessions = store.sessions from (Prod.mk.inj same).1]
    exact advances_same sound.timely
  | @issued call result subject ingress token names fresh shown =>
    refine ⟨id, fun row member => Moves.refl (sound.timely row member), .inr
      ⟨newSession (sessionDigest codec token) subject ingress now, ?_, fresh, ?_⟩⟩
    · exact timely_newSession
    · rw [List.map_id]
      rfl
  | authenticated found live unissued shown => exact advances_touched sound found live
  | revoked meets sessions administrative silent =>
    refine ⟨_, ?_, .inl sessions⟩
    intro row member
    split
    · exact Moves.revoke (sound.timely row member)
    · exact Moves.refl (sound.timely row member)
  | accessRevoked meets sessions administrative silent =>
    rw [sessions]
    exact advances_same sound.timely

/-- A row of the table is there after an attempt, as the attempt moved it. -/
theorem Advances.kept {now : Int} {before after : List SessionRow}
    (advances : Advances now before after) (member : row ∈ before) :
    ∃ moved ∈ after, Moves now row moved := by
  obtain ⟨move, moves, rfl | ⟨added, timely, fresh, rfl⟩⟩ := advances
  · exact ⟨move row, List.mem_map_of_mem member, moves row member⟩
  · exact ⟨move row, List.mem_append_left _ (List.mem_map_of_mem member), moves row member⟩

theorem Advances.sound {now : Int} {store after : Store} (sound : Sound store)
    (advances : Advances now store.sessions after.sessions) : Sound after := by
  obtain ⟨move, moves, same⟩ := advances
  have digests : (store.sessions.map move).map SessionRow.tokenDigest =
      store.sessions.map SessionRow.tokenDigest := by
    rw [List.map_map]
    exact List.map_congr_left fun row member => (moves row member).digest
  have unique : ((store.sessions.map move).map SessionRow.tokenDigest).Nodup := by
    rw [digests]
    exact sound.unique
  have timely : ∀ row ∈ store.sessions.map move, Timely row := by
    intro row member
    obtain ⟨old, oldMember, rfl⟩ := List.mem_map.mp member
    exact (moves old oldMember).timely
  rcases same with same | ⟨added, addedTimely, fresh, same⟩
  · constructor <;> rw [same]
    · exact unique
    · exact timely
  · constructor <;> rw [same]
    · refine nodup_concat unique ?_
      intro old member
      obtain ⟨earlier, earlierMember, rfl⟩ := List.mem_map.mp member
      rw [(moves earlier earlierMember).digest]
      exact fresh earlier earlierMember
    · intro row member
      rcases List.mem_append.mp member with old | new
      · exact timely row old
      · rw [List.mem_singleton.mp new]
        exact addedTimely

/-! ### Runs -/

theorem effect_attempt {store : Store} {attempt : Attempt} :
    SessionEffect codec attempt.now store attempt.call (resultOf codec store attempt)
      (storeAfter codec store attempt) :=
  effect_perform attempt.faults

theorem sound_attempt {store : Store} (sound : Sound store) (attempt : Attempt) :
    Sound (storeAfter codec store attempt) :=
  Advances.sound sound (effect_advances sound effect_attempt)

theorem sound_run (attempts : List Attempt) : Sound (run codec emptyStore attempts) :=
  @run_induction codec Sound (fun _ attempt sound => sound_attempt sound attempt) _ attempts
    sound_emptyStore

theorem moves_attempt {store : Store} (sound : Sound store) {attempt : Attempt}
    {row : SessionRow} (member : row ∈ store.sessions) :
    ∃ moved ∈ (storeAfter codec store attempt).sessions, Moves attempt.now row moved :=
  (effect_advances sound effect_attempt).kept member

/-- What the moves of a run keep of a row holds of the row at its end. -/
theorem follow_run {store : Store} {row : SessionRow} {Holds : SessionRow → Prop}
    {attempts : List Attempt} (sound : Sound store) (member : row ∈ store.sessions)
    (start : Holds row)
    (step : ∀ attempt ∈ attempts, ∀ row moved, Moves attempt.now row moved → Holds row → Holds moved) :
    ∃ moved ∈ (run codec store attempts).sessions,
      moved.tokenDigest = row.tokenDigest ∧ Holds moved := by
  induction attempts generalizing store row with
  | nil => exact ⟨row, member, rfl, start⟩
  | cons attempt rest ih =>
    obtain ⟨moved, present, moves⟩ := @moves_attempt codec _ sound attempt _ member
    have held := step attempt (List.mem_cons_self ..) row moved moves start
    obtain ⟨last, lastMember, digest, holds⟩ := ih (sound_attempt sound attempt) present held
      fun other otherMember => step other (List.mem_cons_of_mem _ otherMember)
    exact ⟨last, lastMember, digest.trans moves.digest, holds⟩

/-- An authentication shows a session only for the live row under the digest of its token. -/
theorem live_of_authenticated {store : Store} {token : String} {now : Int} {faults : List Bool}
    {view : SessionView} (sound : Sound store)
    (shown : resultOf codec store ⟨.authenticateSession token ingress, now, faults⟩ =
      .ok (.authenticated (some view)))
    (member : row ∈ store.sessions) (named : row.tokenDigest = sessionDigest codec token) :
      Live ingress now row := by
  have effect := @effect_attempt codec store ⟨.authenticateSession token ingress, now, faults⟩
  rw [shown] at effect
  dsimp only at effect
  -- The store reached is a computed index, which the inversion must not unify with.
  generalize storeAfter codec store _ = after at effect
  cases effect with
  | kept _ silent | revoked _ _ _ silent | accessRevoked _ _ _ silent =>
    exact absurd rfl (silent.unseen view)
  | issued names fresh seen => cases names
  | authenticated found live unissued seen =>
    have same : row = _ := eq_of_column_eq sound.unique member (lookup_mem found)
      (named.trans (lookup_key found).symm)
    rw [same]
    exact live

theorem not_ended_of_live {now time : Int} (live : Live ingress now row) (later : time ≤ now) :
    ¬Ended time row := by
  rintro (revoked | idle | absolute)
  · exact revoked live.valid
  · have := live.idle
    omega
  · have := live.absolute
    omega

/-- In an ordered run the next attempt bounds all that follow it from below. -/
theorem Ordered.from_next {earlier later : List Attempt} {last : Attempt} {rest : List Attempt}
    {time : Int} (ordered : Ordered (earlier ++ (later ++ last :: rest)))
    (next : ∀ attempt ∈ (later ++ [last]).head?, time ≤ attempt.now) :
    (∀ attempt ∈ later, time ≤ attempt.now) ∧ time ≤ last.now := by
  have tail : (later ++ last :: rest).Pairwise fun first second => first.now ≤ second.now :=
    (List.pairwise_append.mp ordered).2.1
  cases later with
  | nil =>
    refine ⟨?_, next last rfl⟩
    intro attempt member
    cases member
  | cons first others =>
    have start : time ≤ first.now := next first rfl
    have bounds := (List.pairwise_cons.mp tail).1
    refine ⟨?_, start.trans (bounds last (by simp))⟩
    intro attempt member
    rcases List.mem_cons.mp member with rfl | other
    · exact start
    · exact start.trans (bounds attempt (List.mem_append_left _ other))

/-- The row that an issuing call stores, when it answers with a session. -/
theorem issued_row {store : Store} {attempt : Attempt} {session : IssuedSession}
    {subject : Subject} {random : Option String}
    (answered : resultOf codec store attempt = .ok (.issued session))
    (names : attempt.call.issues = some (subject, ingress, random)) :
    newSession (sessionDigest codec session.token) subject ingress attempt.now ∈
      (storeAfter codec store attempt).sessions := by
  have effect := @effect_attempt codec store attempt
  rw [answered] at effect
  generalize storeAfter codec store attempt = after at effect ⊢
  generalize asked : attempt.call = call at effect names
  cases effect with
  | kept _ silent | revoked _ _ _ silent | accessRevoked _ _ _ silent =>
    exact absurd rfl (silent.unissued session)
  | issued named fresh shown =>
    obtain ⟨other, same, token, -⟩ := shown _ rfl
    cases same
    rw [named] at names
    cases names
    subst token
    exact List.mem_append_right _ (List.mem_singleton_self _)
  | authenticated found live unissued shown => exact absurd rfl (unissued session)

/-- In every run whose clock does not go back: the idle end of a session is not after its absolute
end; an attempt moves the idle end only forward, and the absolute end not at all; a session that
is revoked, or over by the time of the next attempt, is never shown again; and a token is shown
only on the ingress that it was issued for. -/
theorem session_expiry_monotone (codec : AgentCodec) (attempts : List Attempt)
    (ordered : Ordered attempts) :
    (∀ row ∈ (run codec emptyStore attempts).sessions,
      row.idleExpiresAt ≤ row.absoluteExpiresAt) ∧
    (∀ earlier attempt later, attempts = earlier ++ attempt :: later →
      ∀ row ∈ (run codec emptyStore earlier).sessions,
        ∃ moved ∈ (run codec emptyStore (earlier ++ [attempt])).sessions,
          moved.tokenDigest = row.tokenDigest ∧
          moved.absoluteExpiresAt = row.absoluteExpiresAt ∧
          row.idleExpiresAt ≤ moved.idleExpiresAt ∧
          moved.idleExpiresAt ≤ moved.absoluteExpiresAt) ∧
    (∀ earlier later token ingress now faults rest,
      attempts = earlier ++ (later ++ ⟨.authenticateSession token ingress, now, faults⟩ :: rest) →
      ∀ row ∈ (run codec emptyStore earlier).sessions,
        row.tokenDigest = sessionDigest codec token →
        (row.revokedAt ≠ none ∨ ∃ time,
          (row.idleExpiresAt ≤ time ∨ row.absoluteExpiresAt ≤ time) ∧
          ∀ attempt ∈ (later ++ [⟨.authenticateSession token ingress, now, faults⟩]).head?,
            time ≤ attempt.now) →
        ∀ view, resultOf codec (run codec emptyStore (earlier ++ later))
          ⟨.authenticateSession token ingress, now, faults⟩ ≠ .ok (.authenticated (some view))) ∧
    (∀ earlier issue later subject ingress random session channel now faults rest view,
      attempts = earlier ++ issue ::
        (later ++ ⟨.authenticateSession session.token channel, now, faults⟩ :: rest) →
      issue.call.issues = some (subject, ingress, random) →
      resultOf codec (run codec emptyStore earlier) issue = .ok (.issued session) →
      resultOf codec (run codec emptyStore (earlier ++ issue :: later))
        ⟨.authenticateSession session.token channel, now, faults⟩ =
          .ok (.authenticated (some view)) →
      channel = ingress) := by
  refine ⟨?_, ?_, ?_, ?_⟩
  · intro row member
    exact ((sound_run attempts).timely row member).idle_le
  · intro earlier attempt later split row member
    obtain ⟨moved, present, moves⟩ := @moves_attempt codec _ (sound_run earlier) attempt _ member
    rw [run_append]
    exact ⟨moved, present, moves.digest, moves.absolute, moves.idle, moves.timely.idle_le⟩
  · intro earlier later token ingress now faults rest split row member named finished view shown
    subst split
    have sound : Sound (run codec emptyStore (earlier ++ later)) := sound_run _
    -- A revoked row is over at any time, so the time may be taken early enough for all.
    obtain ⟨time, ended, before, reached⟩ : ∃ time, Ended time row ∧
        (∀ attempt ∈ later, time ≤ attempt.now) ∧ time ≤ now := by
      rcases finished with revoked | ⟨time, expired, next⟩
      · cases later with
        | nil =>
          refine ⟨now, .inl revoked, ?_, le_refl _⟩
          intro attempt member
          cases member
        | cons first others =>
          have bounds := @Ordered.from_next _ _ _ _ first.now ordered (by
            intro attempt head
            cases head
            exact le_refl _)
          exact ⟨first.now, .inl revoked, bounds.1, bounds.2⟩
      · have bounds := Ordered.from_next ordered next
        exact ⟨time, .inr expired, bounds.1, bounds.2⟩
    obtain ⟨moved, present, digest, still⟩ := @follow_run codec _ _ (Ended time) later
      (sound_run earlier) member ended fun attempt attempted row moved moves =>
        moves.ended (before attempt attempted)
    rw [← run_append] at present
    have live := live_of_authenticated sound shown present (digest.trans named)
    exact not_ended_of_live live reached still
  · intro earlier issue later subject ingress random session channel now faults rest view split
      names answered shown
    have stored := issued_row answered names
    obtain ⟨moved, present, digest, kept⟩ := @follow_run codec _ _
      (fun row => row.ingress = ingress) later (sound_attempt (sound_run earlier) issue)
      stored rfl fun attempt attempted row moved moves held => moves.ingress.trans held
    have sound : Sound (run codec emptyStore (earlier ++ issue :: later)) := sound_run _
    rw [run_append, run_cons] at shown sound
    exact (live_of_authenticated sound shown present digest).ingress.symm.trans kept

/-- A token of the right shape. -/
def sampleToken : String := "AAAAAAAAAAAAAAAAAAAAAAAAAAAAAAAAAAAAAAAAAAA"

def sampleAdmin : Subject := ⟨1000, "admin", .admin⟩

/-- A session is issued, touched after its first minute and revoked. -/
def sampleAttempts : List Attempt :=
  [⟨.issueSession sampleAdmin .publicEdge (some sampleToken), 1000, []⟩,
    ⟨.authenticateSession sampleToken .publicEdge, 62000, []⟩,
    ⟨.revokeSession sampleToken, 63000, []⟩]

theorem session_expiry_monotone_touched :
    Ordered sampleAttempts ∧
    (run sampleAgentCodec emptyStore sampleAttempts).sessions.map
      (fun row => (row.lastSeenAt, row.idleExpiresAt, row.absoluteExpiresAt, row.revokedAt)) =
        [(62000, 962000, 28801000, some 63000)] ∧
    ∀ row ∈ (run sampleAgentCodec emptyStore sampleAttempts).sessions,
      row.idleExpiresAt ≤ row.absoluteExpiresAt := by
  have ordered : Ordered sampleAttempts := by
    unfold Ordered sampleAttempts
    decide
  exact ⟨ordered, by decide +kernel, (session_expiry_monotone _ _ ordered).1⟩

/-! ### Administrative access -/

/-- The session under the digest is stored by this attempt. -/
def storesSession (codec : AgentCodec) (store : Store) (attempt : Attempt) (digest : Bytes) :
    Bool :=
  (store.findSession digest).isNone && ((storeAfter codec store attempt).findSession digest).isSome

/-- When the grant was made from which the access of a session comes, over a run that is given with
its latest attempt first: a grant starts a chain, and a re-issue goes on with the chain of the
token that it is made from. -/
def chainStart (codec : AgentCodec) : List Attempt → Bytes → Option Int
  | [], _ => none
  | attempt :: earlier, digest =>
    if storesSession codec (run codec emptyStore earlier.reverse) attempt digest then
      match attempt.call with
      | .issueAdministrativeSession _ _ _ => some attempt.now
      | .issueReauthenticatedSession priorToken _ _ _ =>
        chainStart codec earlier (sessionDigest codec priorToken)
      | _ => none
    else chainStart codec earlier digest

/-- The access of a session is an administrator's, ends with the session at the latest, and within
fifteen minutes of the start of its chain. -/
structure Bounded (codec : AgentCodec) (latestFirst : List Attempt) (store : Store)
    (access : AdministrativeRow) : Prop where
  held : ∃ row ∈ store.sessions, row.tokenDigest = access.sessionDigest ∧
    row.subject.role = .admin ∧ access.expiresAt ≤ row.absoluteExpiresAt
  chained : ∃ start, chainStart codec latestFirst access.sessionDigest = some start ∧
    access.expiresAt ≤ start + administrativeAccessMs

theorem findSession_isSome {store : Store} (member : row ∈ store.sessions) :
    (store.findSession row.tokenDigest).isSome = true := by
  rw [Option.isSome_iff_ne_none]
  intro absent
  exact lookup_eq_none.mp absent row member rfl

/-- A session that is there already is not stored again. -/
theorem chainStart_cons_held {store : Store} {attempt : Attempt} {earlier : List Attempt}
    (reached : store = run codec emptyStore earlier.reverse) (member : row ∈ store.sessions) :
    chainStart codec (attempt :: earlier) row.tokenDigest =
      chainStart codec earlier row.tokenDigest := by
  subst reached
  have unstored : storesSession codec (run codec emptyStore earlier.reverse) attempt
      row.tokenDigest = false := by
    unfold storesSession
    rw [Option.isNone_eq_false_iff.mpr (findSession_isSome member)]
    rfl
  rw [chainStart, if_neg (by simp [unstored])]

/-- The access that a call hands on is bounded by the start of the chain that it goes on with. -/
theorem grants_bounded {store : Store} {attempt : Attempt} {earlier : List Attempt}
    {expiry : Int} {digest : Bytes} (reached : store = run codec emptyStore earlier.reverse)
    (bounded : ∀ access ∈ store.administrative, Bounded codec earlier store access)
    (stores : storesSession codec store attempt digest = true)
    (grants : attempt.call.grants codec attempt.now store = some expiry) :
    ∃ start, chainStart codec (attempt :: earlier) digest = some start ∧
      expiry ≤ start + administrativeAccessMs := by
  subst reached
  unfold chainStart
  rw [if_pos stores]
  cases asked : attempt.call with
  | issueAdministrativeSession subject ingress random =>
    rw [asked] at grants
    cases grants
    refine ⟨attempt.now, rfl, ?_⟩
    unfold saturatingAdd
    omega
  | issueReauthenticatedSession priorToken subject ingress random =>
    rw [asked] at grants
    unfold Call.grants at grants
    dsimp only at grants ⊢
    split at grants
    · cases grants
    · obtain ⟨access, found, lasting⟩ := Option.bind_eq_some_iff.mp grants
      split at lasting
      · cases lasting
        obtain ⟨start, chained, within⟩ := (bounded access (lookup_mem found)).chained
        rw [lookup_key found] at chained
        exact ⟨start, chained, within⟩
      · cases lasting
  | _ =>
    rw [asked] at grants
    cases grants

/-- An attempt leaves the bounds of the access that is there. -/
theorem Bounded.step {attempt : Attempt} {earlier : List Attempt} {store : Store}
    {access : AdministrativeRow} (reached : store = run codec emptyStore earlier.reverse)
    (bounded : Bounded codec earlier store access) :
    Bounded codec (attempt :: earlier) (storeAfter codec store attempt) access := by
  obtain ⟨row, member, named, role, within⟩ := bounded.held
  have sound : Sound store := by
    rw [reached]
    exact sound_run _
  obtain ⟨moved, present, moves⟩ := @moves_attempt codec _ sound attempt _ member
  constructor
  · refine ⟨moved, present, moves.digest.trans named, ?_, ?_⟩
    · rw [moves.subject]
      exact role
    · rw [moves.absolute]
      exact within
  · rw [← named, chainStart_cons_held reached member, named]
    exact bounded.chained

/-- Bounds speak of the digest and the end of the access only. -/
theorem Bounded.congr {latestFirst : List Attempt} {store : Store}
    {access other : AdministrativeRow} (digest : other.sessionDigest = access.sessionDigest)
    (expires : other.expiresAt = access.expiresAt)
    (bounded : Bounded codec latestFirst store access) :
    Bounded codec latestFirst store other := by
  obtain ⟨held, chained⟩ := bounded
  constructor
  · rw [digest, expires]
    exact held
  · rw [digest, expires]
    exact chained

theorem grantedUntil_some {subject : Subject} {now expiry : Int} {until_ : Option Int}
    (granted : grantedUntil subject ingress now until_ = some expiry) :
    subject.role = .admin ∧ ∃ handed, until_ = some handed ∧ now < handed ∧
      expiry = min handed (saturatingAdd now (sessionDurations ingress).2) := by
  unfold grantedUntil at granted
  obtain ⟨handed, kept, rfl⟩ := Option.map_eq_some_iff.mp granted
  obtain ⟨present, holds⟩ := Option.filter_eq_some_iff.mp kept
  have both := of_decide_eq_true holds
  exact ⟨both.1, handed, present, both.2, rfl⟩

/-- A session that was not there is stored by the call that issues it. -/
theorem storesSession_issued {attempt : Attempt} {store : Store}
    (fresh : ∀ other ∈ store.sessions, other.tokenDigest ≠ row.tokenDigest)
    (member : row ∈ (storeAfter codec store attempt).sessions) :
    storesSession codec store attempt row.tokenDigest = true := by
  have absent : store.findSession row.tokenDigest = none := lookup_eq_none.mpr fresh
  unfold storesSession
  rw [absent, findSession_isSome member]
  rfl

theorem bounded_run {latestFirst : List Attempt} :
    ∀ access ∈ (run codec emptyStore latestFirst.reverse).administrative,
      Bounded codec latestFirst (run codec emptyStore latestFirst.reverse) access := by
  induction latestFirst with
  | nil =>
    intro access member
    cases member
  | cons attempt earlier ih =>
    obtain ⟨store, reached⟩ : ∃ store, store = run codec emptyStore earlier.reverse := ⟨_, rfl⟩
    rw [← reached] at ih
    have last : run codec emptyStore (attempt :: earlier).reverse =
        storeAfter codec store attempt := by
      rw [List.reverse_cons, run_append, ← reached]
      rfl
    rw [last]
    have old : ∀ access ∈ store.administrative,
        Bounded codec (attempt :: earlier) (storeAfter codec store attempt) access :=
      fun access member => (ih access member).step reached
    have effect := @effect_attempt codec store attempt
    have stored : ∀ row, (∀ other ∈ store.sessions, other.tokenDigest ≠ row.tokenDigest) →
        row ∈ (storeAfter codec store attempt).sessions →
        storesSession codec store attempt row.tokenDigest = true :=
      fun row fresh member => storesSession_issued fresh member
    have handed := @grants_bounded codec store attempt earlier
    generalize storeAfter codec store attempt = after at effect old stored ⊢
    generalize resultOf codec store attempt = result at effect
    generalize asked : attempt.call = call at effect
    intro access member
    cases effect with
    | kept same silent =>
      rw [show after.administrative = store.administrative from (Prod.mk.inj same).2] at member
      exact old access member
    | @issued _ _ subject ingress token names fresh shown =>
      rcases List.mem_append.mp member with before | new
      · exact old access before
      · obtain ⟨expiry, granted, rfl⟩ :=
          Option.map_eq_some_iff.mp (Option.mem_toList.mp new)
        obtain ⟨admin, until_, grants, lasting, rfl⟩ := grantedUntil_some granted
        rw [← asked] at grants
        have present : newSession (sessionDigest codec token) subject ingress attempt.now ∈
            store.sessions ++
              [newSession (sessionDigest codec token) subject ingress attempt.now] :=
          List.mem_append_right _ (List.mem_singleton_self _)
        obtain ⟨start, chained, within⟩ :=
          handed reached ih (stored _ fresh present) grants
        constructor
        · exact ⟨_, present, rfl, admin, min_le_right _ _⟩
        · exact ⟨start, chained, (min_le_left _ _).trans within⟩
    | authenticated found live unissued shown => exact old access member
    | revoked meets sessions administrative silent =>
      rw [administrative] at member
      exact old access member
    | accessRevoked meets sessions administrative silent =>
      rw [administrative] at member
      obtain ⟨earlierAccess, before, rfl⟩ := List.mem_map.mp member
      split
      · exact @Bounded.congr codec _ _ earlierAccess _ rfl rfl (old earlierAccess before)
      · exact old earlierAccess before

/-- In every run a session is shown as administrative only for an administrator, within fifteen
minutes of the grant that its chain of re-issues started from, and before its absolute end: when it
is authenticated, and when it is issued. -/
theorem administrative_window_not_extended (codec : AgentCodec) (attempts : List Attempt)
    (now : Int) (faults : List Bool) :
    (∀ token ingress view,
      resultOf codec (run codec emptyStore attempts)
        ⟨.authenticateSession token ingress, now, faults⟩ = .ok (.authenticated (some view)) →
      view.administrativeAccess = .administrative →
      view.subject.role = .admin ∧
      (∃ start, chainStart codec attempts.reverse (sessionDigest codec token) = some start ∧
        now < start + administrativeAccessMs) ∧
      ∃ row, (run codec emptyStore attempts).findSession (sessionDigest codec token) = some row ∧
        now < row.absoluteExpiresAt) ∧
    (∀ call session,
      resultOf codec (run codec emptyStore attempts) ⟨call, now, faults⟩ = .ok (.issued session) →
      session.view.administrativeAccess = .administrative →
      session.view.subject.role = .admin ∧
      (∃ start, chainStart codec (⟨call, now, faults⟩ :: attempts.reverse)
        (sessionDigest codec session.token) = some start ∧ now < start + administrativeAccessMs) ∧
      ∃ row ∈ (run codec emptyStore (attempts ++ [⟨call, now, faults⟩])).sessions,
        row.tokenDigest = sessionDigest codec session.token ∧ now < row.absoluteExpiresAt) := by
  obtain ⟨store, reached⟩ : ∃ store, store = run codec emptyStore attempts := ⟨_, rfl⟩
  have sound : Sound store := by
    rw [reached]
    exact sound_run attempts
  have bounded := @bounded_run codec attempts.reverse
  rw [List.reverse_reverse, ← reached] at bounded
  rw [← reached]
  constructor
  · intro token ingress view shown administrative
    have effect := @effect_attempt codec store ⟨.authenticateSession token ingress, now, faults⟩
    rw [shown] at effect
    dsimp only at effect
    generalize storeAfter codec store _ = after at effect
    cases effect with
    | kept _ silent | revoked _ _ _ silent | accessRevoked _ _ _ silent =>
      exact absurd rfl (silent.unseen view)
    | issued names fresh seen => cases names
    | authenticated found live unissued seen =>
      obtain ⟨subject, channel, access⟩ := seen view rfl
      obtain ⟨held, present, valid, lasting⟩ := access.mp administrative
      obtain ⟨holder, start⟩ := bounded held (lookup_mem present)
      obtain ⟨row, member, named, role, within⟩ := holder
      obtain ⟨time, chained, limit⟩ := start
      rw [lookup_key present] at named chained
      have same := eq_of_column_eq sound.unique member (lookup_mem found)
        (named.trans (lookup_key found).symm)
      refine ⟨?_, ⟨time, chained, by omega⟩, _, found, live.absolute⟩
      rw [subject, ← same]
      exact role
  · intro call session shown administrative
    have effect := @effect_attempt codec store ⟨call, now, faults⟩
    have stored : ∀ row, (∀ other ∈ store.sessions, other.tokenDigest ≠ row.tokenDigest) →
        row ∈ (storeAfter codec store ⟨call, now, faults⟩).sessions →
        storesSession codec store ⟨call, now, faults⟩ row.tokenDigest = true :=
      fun row fresh member => storesSession_issued fresh member
    have handed := @grants_bounded codec store ⟨call, now, faults⟩ attempts.reverse
    rw [List.reverse_reverse] at handed
    have last : run codec emptyStore (attempts ++ [⟨call, now, faults⟩]) =
        storeAfter codec store ⟨call, now, faults⟩ := by
      rw [run_append, ← reached]
      rfl
    rw [shown] at effect
    dsimp only at effect handed
    rw [last]
    generalize storeAfter codec store ⟨call, now, faults⟩ = after at effect stored ⊢
    cases effect with
    | kept _ silent | revoked _ _ _ silent | accessRevoked _ _ _ silent =>
      exact absurd rfl (silent.unissued session)
    | @issued _ _ subject ingress token names fresh seen =>
      obtain ⟨other, same, named, owner, channel, access⟩ := seen _ rfl
      cases same
      obtain ⟨expiry, granted, lasting⟩ := access.mp administrative
      obtain ⟨admin, until_, grants, soon, rfl⟩ := grantedUntil_some granted
      have present : newSession (sessionDigest codec token) subject ingress now ∈
          store.sessions ++ [newSession (sessionDigest codec token) subject ingress now] :=
        List.mem_append_right _ (List.mem_singleton_self _)
      obtain ⟨start, chained, within⟩ := handed reached bounded (stored _ fresh present) grants
      rw [named]
      refine ⟨?_, ⟨start, chained, by omega⟩, _, present, rfl, ?_⟩
      · rw [owner]
        exact admin
      · exact lt_of_lt_of_le lasting (min_le_right _ _)
    | authenticated found live unissued seen => exact absurd rfl (unissued session)

/-- Another token of the right shape. -/
def sampleNextToken : String := "BBBBBBBBBBBBBBBBBBBBBBBBBBBBBBBBBBBBBBBBBBB"

/-- Access is granted and carried to a second token. -/
def sampleChain : List Attempt :=
  [⟨.issueAdministrativeSession sampleAdmin .publicEdge (some sampleToken), 1000, []⟩,
    ⟨.issueReauthenticatedSession sampleToken sampleAdmin .publicEdge (some sampleNextToken),
      500000, []⟩]

/-- A session is shown, with administrative access. -/
def showsAccess : Except AgentError Answer → Bool
  | .ok (.authenticated (some view)) => decide (view.administrativeAccess = .administrative)
  | _ => false

/-- One millisecond before the end of the first grant the second token is still administrative. -/
theorem administrative_window_not_extended_reissued :
    ∃ view, resultOf sampleAgentCodec (run sampleAgentCodec emptyStore sampleChain)
        ⟨.authenticateSession sampleNextToken .publicEdge, 900999, []⟩ =
          .ok (.authenticated (some view)) ∧
      view.administrativeAccess = .administrative ∧
      ∃ start, chainStart sampleAgentCodec sampleChain.reverse
        (sessionDigest sampleAgentCodec sampleNextToken) = some start ∧
        900999 < start + administrativeAccessMs := by
  have shown : ∃ view, resultOf sampleAgentCodec (run sampleAgentCodec emptyStore sampleChain)
      ⟨.authenticateSession sampleNextToken .publicEdge, 900999, []⟩ =
        .ok (.authenticated (some view)) ∧ view.administrativeAccess = .administrative := by
    have isShown : showsAccess (resultOf sampleAgentCodec
        (run sampleAgentCodec emptyStore sampleChain)
        ⟨.authenticateSession sampleNextToken .publicEdge, 900999, []⟩) = true := by decide +kernel
    unfold showsAccess at isShown
    split at isShown
    · rename_i view answered
      exact ⟨view, answered, of_decide_eq_true isShown⟩
    · cases isShown
  obtain ⟨view, answered, administrative⟩ := shown
  exact ⟨view, answered, administrative,
    ((administrative_window_not_extended _ _ _ _).1 _ _ view answered administrative).2.1⟩

end JwOps.Agentd.Expiry
