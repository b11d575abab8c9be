/- module: Agentd/Enrollments
   source: crates/jw-agentd/src/totp.rs, crates/jw-agentd/src/session.rs
   digest: All that a call can do to the enrollments, their codes and the policy. -/
import JwOps.Agentd.Calls

set_option autoImplicit false

namespace JwOps.Agentd.Enrollments

open Contracts.Operation Tables Sessions Totp Claims Outcomes Calls Foundation.Transaction

/-! ### What a call asks for -/

/-- The enrollment that the call begins. -/
def Call.begins : Call → Option (UInt32 × EnrollmentMaterial)
  | .beginEnrollment _ subject _ _ _ (some material) => some (subject.uid, material)
  | _ => none

/-- The enrollment that the call gives a code of. -/
def Call.confirms : Call → Option (UInt32 × String)
  | .confirmEnrollment subject _ enrollmentId _ _ => some (subject.uid, enrollmentId)
  | _ => none

/-- The policy that the call sets, and for whom. -/
def Call.sets : Call → Option (UInt32 × AdditionalAuthPolicy)
  | .updateAdditionalAuthPolicy _ subject target _ _ => some (subject.uid, target)
  | _ => none

/-- The administrator whose enrollment the call resets, with the digest of the code. -/
def Call.resets (codec : AgentCodec) : Call → Option (UInt32 × Bytes)
  | .recoveryReset _ subject _ _ recoveryCode =>
    some (subject.uid, recoveryDigest codec subject.uid recoveryCode)
  | _ => none

variable {call : Call} {uid : UInt32} {enrollmentId : String} {record : EnrollmentRow}

/-- A reset is nothing else. -/
theorem resets_alone {codec : AgentCodec} {asked : UInt32 × Bytes}
    (resets : Call.resets codec call = some asked) :
    Call.begins call = none ∧ Call.confirms call = none ∧ Call.sets call = none := by
  cases call with
  | recoveryReset sessionToken subject ingress reauthToken recoveryCode => exact ⟨rfl, rfl, rfl⟩
  | _ => cases resets

/-- The calls that succeed only with a change of the enrollments, their codes or the policy. -/
def Call.enrolls : Call → Bool
  | .updateAdditionalAuthPolicy .. | .beginEnrollment .. | .confirmEnrollment ..
  | .issueOperationClaim .. | .verifyDirectContext .. | .recoveryReset .. => true
  | _ => false

def enrollmentTables (store : Store) :
    List EnrollmentRow × List RecoveryCodeRow × AdditionalAuthPolicy :=
  (store.enrollments, store.recoveryCodes, store.additionalAuthPolicy)

/-- A change of rows that concerns only what was observed of their steps. -/
structure Marks (change : EnrollmentRow → EnrollmentRow) : Prop where
  sameUid : ∀ row, (change row).subjectUid = row.subjectUid
  sameId : ∀ row, (change row).enrollmentId = row.enrollmentId
  state : ∀ row, (change row).state = row.state

/-- A change of rows that makes one enrollment active. -/
structure Activates (uid : UInt32) (enrollmentId : String)
    (change : EnrollmentRow → EnrollmentRow) : Prop where
  sameUid : ∀ row, (change row).subjectUid = row.subjectUid
  sameId : ∀ row, (change row).enrollmentId = row.enrollmentId
  state : ∀ row, (change row).state =
    if row.subjectUid = uid ∧ row.enrollmentId = enrollmentId then .active else row.state

variable {codec : AgentCodec}

theorem marks_observedRow {uid : UInt32} {step : Int} : Marks (observedRow uid step) := by
  constructor
  all_goals
    intro row
    unfold observedRow
    split <;> rfl

theorem marks_confirmedRow {step now : Int} (first : record.firstConfirmedStep = none) :
    Marks (confirmedRow uid enrollmentId record step now) := by
  unfold confirmedRow
  rw [first]
  constructor
  all_goals
    intro row
    dsimp only
    split <;> rfl

theorem activates_confirmedRow {step now earlier : Int}
    (second : record.firstConfirmedStep = some earlier) :
    Activates uid enrollmentId (confirmedRow uid enrollmentId record step now) := by
  unfold confirmedRow
  rw [second]
  constructor
  · intro row
    dsimp only
    split <;> rfl
  · intro row
    dsimp only
    split <;> rfl
  · intro row
    dsimp only
    cases state : row.state with
    | active => simp [state]
    | pending =>
      by_cases named : row.subjectUid = uid ∧ row.enrollmentId = enrollmentId
      · simp [named.1, named.2]
      · rw [if_neg named, if_neg]
        · exact state
        · intro meets
          simp only [Bool.and_eq_true, beq_iff_eq] at meets
          exact named meets.1

theorem writePolicy_tables {sessionToken : String} {subject : Subject}
    {target : AdditionalAuthPolicy} {reauthToken : Option String} {now : Int} {store : Store} :
    Outcome (writePolicy codec sessionToken subject target reauthToken now) store
      fun result after =>
        match result with
        | .error _ => enrollmentTables after = enrollmentTables store
        | .ok _ => enrollmentTables after =
          (store.enrollments, store.recoveryCodes, target) := by
  refine writePolicy_spec.mono ?_
  rintro result after (⟨rfl, error, rfl⟩ | ⟨token, rfl, rfl, -, rfl⟩) <;> rfl

/-! ### Resetting -/

/-- What a reset leaves of the store. -/
structure ResetOf (uid : UInt32) (now : Int) (store after : Store) : Prop where
  rows : after.enrollments = store.enrollments.filter fun row => row.subjectUid != uid
  codes : (∃ row ∈ store.enrollments, row.subjectUid = uid) →
    after.recoveryCodes = store.recoveryCodes.filter fun row => row.subjectUid != uid
  policy : after.additionalAuthPolicy = .disabled
  claims : after.additionalClaims = store.additionalClaims.filter fun row => row.subjectUid != uid
  sessions : after.sessions = store.sessions.map fun row =>
    if row.subject.uid == uid && row.revokedAt.isNone then { row with revokedAt := some now }
    else row

/-- The codes go with their enrollment, so it does not matter that one of them was consumed. -/
theorem cascade_codes {enrollments : List EnrollmentRow}
    {change : RecoveryCodeRow → RecoveryCodeRow}
    (owner : ∀ row, (change row).subjectUid = row.subjectUid)
    (other : ∀ row, row.subjectUid ≠ uid → change row = row)
    (enrolled : ∃ row ∈ enrollments, row.subjectUid = uid) {codes : List RecoveryCodeRow} :
    ((codes.map change).filter fun row =>
        !enrollments.any fun other => other.subjectUid == row.subjectUid &&
          other.subjectUid == uid) =
      codes.filter fun row => row.subjectUid != uid := by
  obtain ⟨enrollment, member, named⟩ := enrolled
  induction codes with
  | nil => rfl
  | cons row rest ih =>
    rw [List.map_cons]
    by_cases owned : row.subjectUid = uid
    · have gone : (enrollments.any fun other => other.subjectUid == (change row).subjectUid &&
          other.subjectUid == uid) = true :=
        List.any_eq_true.mpr ⟨enrollment, member, by simp [owner, owned, named]⟩
      rw [List.filter_cons_of_neg (by simp only [gone]; decide),
        List.filter_cons_of_neg (by simp [owned]), ih]
    · have stays : (enrollments.any fun other => other.subjectUid == row.subjectUid &&
          other.subjectUid == uid) = false := by
        rw [List.any_eq_false]
        intro other _ both
        simp only [Bool.and_eq_true, beq_iff_eq] at both
        exact owned (both.1.symm.trans both.2)
      rw [other row owned, List.filter_cons_of_pos (by simp only [stays]; decide),
        List.filter_cons_of_pos (by simp [owned]), ih]

theorem resetOf_resetStore {uid : UInt32} {digest : Bytes} {use : ClaimUse} {now : Int}
    {store : Store} : ResetOf uid now store (resetStore uid digest now (paid use now store)) := by
  refine ⟨rfl, fun enrolled => ?_, rfl, rfl, rfl⟩
  refine cascade_codes (fun row => ?_) (fun row other => ?_) enrolled
  · split <;> rfl
  · rw [if_neg]
    simp [other]

/-! ### The inversion -/

/-- All that an attempt can do to the enrollments, their codes and the policy. -/
inductive EnrollmentEffect (codec : AgentCodec) (now : Int) (store : Store) (call : Call)
    (result : Except AgentError Answer) (after : Store) : Prop
  | kept (same : enrollmentTables after = enrollmentTables store)
      (failed : Call.enrolls call = true → ∃ error, result = .error error)
  | begun (uid : UInt32) (material : EnrollmentMaterial)
      (asked : Call.begins call = some (uid, material))
      (pending : ∀ row ∈ store.enrollments, row.subjectUid = uid → row.state = .pending)
      (tables : enrollmentTables after =
        ((deleteEnrollments (unconfirmed uid) store).enrollments ++
            [pendingEnrollment uid material now],
          (deleteEnrollments (unconfirmed uid) store).recoveryCodes ++ codeRows codec uid material,
          store.additionalAuthPolicy))
  | marked (change : EnrollmentRow → EnrollmentRow) (marks : Marks change)
      (code : Call.begins call = none ∧ Call.sets call = none ∧ Call.resets codec call = none)
      (unready : result ≠ .ok (.confirmed .ready))
      (tables : enrollmentTables after = (store.enrollments.map change, store.recoveryCodes,
        store.additionalAuthPolicy))
  | activated (uid : UInt32) (enrollmentId : String) (change : EnrollmentRow → EnrollmentRow)
      (asked : Call.confirms call = some (uid, enrollmentId))
      (ready : result = .ok (.confirmed .ready)) (activates : Activates uid enrollmentId change)
      (present : ∃ row ∈ store.enrollments, row.subjectUid = uid ∧
        row.enrollmentId = enrollmentId ∧ row.state = .pending)
      (tables : enrollmentTables after = (store.enrollments.map change, store.recoveryCodes,
        store.additionalAuthPolicy))
  | policySet (uid : UInt32) (target : AdditionalAuthPolicy)
      (asked : Call.sets call = some (uid, target))
      (backed : target ≠ .disabled →
        ∃ row ∈ store.enrollments, row.subjectUid = uid ∧ row.state = .active)
      (tables : enrollmentTables after = (store.enrollments, store.recoveryCodes, target))
  | reset (uid : UInt32) (digest : Bytes) (asked : Call.resets codec call = some (uid, digest))
      (one : store.recoveryCodes.countP (fun row => row.subjectUid == uid &&
        row.codeDigest == digest && row.consumedAt.isNone) = 1)
      (done : ResetOf uid now store after) (ok : result = .ok .done)
  | cleaned (asked : call = .migrate)
      (tables : enrollmentTables after =
        ((deleteEnrollments (fun row => row.state == .pending && row.expiresAt ≤ now)
            store).enrollments,
          (deleteEnrollments (fun row => row.state == .pending && row.expiresAt ≤ now)
            store).recoveryCodes,
          store.additionalAuthPolicy))

theorem enrollment_of_sessionsOnly {store : Store} {now : Int}
    (unused : Call.enrolls call = false) (only : Call.sessionsOnly call = true) :
    Outcome (perform codec now call) store (EnrollmentEffect codec now store call) := by
  have leaves : Leaves enrollmentTables (perform codec now call) :=
    leaves_of_sessionsOnly (fun _ _ _ => rfl) only
  refine (leaves store).mono ?_
  intro result after same
  refine .kept same fun used => ?_
  rw [unused] at used
  cases used

theorem enrollment_perform {store : Store} {now : Int} {call : Call} :
    Outcome (perform codec now call) store (EnrollmentEffect codec now store call) := by
  cases call with
  | issueReauthClaim sessionToken subject purpose random =>
    refine outcome_map (issueReauthClaim_spec.mono ?_)
    rintro result after (rfl | ⟨token, -, -, rfl⟩) <;> exact .kept rfl nofun
  | consumeOperationClaims authorization =>
    refine outcome_map (consumeOperationClaims_spec.mono ?_)
    rintro result after (⟨rfl, -⟩ | ⟨-, -, ⟨-, -, rfl⟩ | ⟨claim, -, -, -, rfl⟩⟩) <;>
      exact .kept rfl nofun
  | updateAdditionalAuthPolicy sessionToken subject target reauthToken opened =>
    refine outcome_map (updateAdditionalAuthPolicy_spec.mono ?_)
    rintro result after (⟨rfl, error, rfl⟩ | ⟨token, -, rfl, backed, -, rfl⟩)
    · exact .kept rfl fun _ => ⟨error, rfl⟩
    · exact .policySet subject.uid target rfl backed rfl
  | beginEnrollment sessionToken subject ingress reauthToken serverLabel material =>
    refine outcome_map (beginEnrollment_spec.mono ?_)
    rintro result after (⟨rfl, error, rfl⟩ | ⟨material, rfl, pending, -, rfl, -⟩)
    · exact .kept rfl fun _ => ⟨error, rfl⟩
    · exact .begun subject.uid material rfl pending rfl
  | confirmEnrollment subject ingress enrollmentId code opened =>
    refine outcome_map (confirmEnrollment_spec.mono ?_)
    rintro result after (⟨rfl, error, rfl⟩ | ⟨row, step, loaded, -, rfl, rfl⟩)
    · exact .kept rfl fun _ => ⟨error, rfl⟩
    · unfold confirmedState
      cases confirmed : row.firstConfirmedStep with
      | none => exact .marked _ (marks_confirmedRow confirmed) ⟨rfl, rfl, rfl⟩ nofun rfl
      | some earlier =>
        exact .activated subject.uid enrollmentId _ rfl rfl (activates_confirmedRow confirmed)
          ⟨row, loadPendingEnrollment_ok loaded⟩ rfl
  | issueOperationClaim sessionToken subject reauthToken planHash code opened random =>
    refine outcome_map (issueOperationClaim_spec.mono ?_)
    rintro result after (⟨rfl, error, rfl⟩ | ⟨row, step, token, -, -, -, -, -, rfl, -⟩)
    · exact .kept rfl fun _ => ⟨error, rfl⟩
    · refine .marked _ marks_observedRow ⟨rfl, rfl, rfl⟩ ?_ rfl
      cases result <;> exact nofun
  | verifyDirectContext subject contextDigest code opened =>
    refine outcome_map (verifyDirectContext_spec.mono ?_)
    rintro result after (⟨rfl, error, rfl⟩ | ⟨row, step, -, -, rfl, rfl⟩)
    · exact .kept rfl fun _ => ⟨error, rfl⟩
    · exact .marked _ marks_observedRow ⟨rfl, rfl, rfl⟩ nofun rfl
  | recoveryReset sessionToken subject ingress reauthToken recoveryCode =>
    refine outcome_map (recoveryReset_spec.mono ?_)
    rintro result after (⟨rfl, error, rfl⟩ | ⟨rfl, -, one, rfl⟩)
    · exact .kept rfl fun _ => ⟨error, rfl⟩
    · exact .reset subject.uid _ rfl one resetOf_resetStore rfl
  | migrate =>
    refine outcome_map (migrate_spec.mono ?_)
    rintro result after (rfl | rfl)
    · exact .kept rfl nofun
    · exact .cleaned rfl rfl
  | _ => exact enrollment_of_sessionsOnly rfl rfl

theorem enrollment_attempt {store : Store} {attempt : Attempt} :
    EnrollmentEffect codec attempt.now store attempt.call (resultOf codec store attempt)
      (storeAfter codec store attempt) :=
  enrollment_perform attempt.faults

/-! ### Active enrollments -/

/-- The administrator has a confirmed enrollment. -/
def Active (store : Store) (uid : UInt32) : Prop :=
  ∃ row ∈ store.enrollments, row.subjectUid = uid ∧ row.state = .active

/-- The attempt is a reset for that administrator that succeeds. -/
def ResetsNow (codec : AgentCodec) (store : Store) (attempt : Attempt) (uid : UInt32) : Prop :=
  ∃ digest, Call.resets codec attempt.call = some (uid, digest) ∧
    resultOf codec store attempt = .ok .done

theorem active_of_map {rows : List EnrollmentRow} {change : EnrollmentRow → EnrollmentRow}
    (sameUid : ∀ row, (change row).subjectUid = row.subjectUid)
    (active : ∀ row, row.state = .active → (change row).state = .active)
    (was : ∃ row ∈ rows, row.subjectUid = uid ∧ row.state = .active) :
    ∃ row ∈ rows.map change, row.subjectUid = uid ∧ row.state = .active := by
  obtain ⟨row, member, owner, state⟩ := was
  exact ⟨change row, List.mem_map_of_mem member, (sameUid row).trans owner, active row state⟩

/-- A confirmed enrollment is not taken away but by a reset. -/
theorem Active.stays {store : Store} {attempt : Attempt} (active : Active store uid)
    (unreset : ¬ResetsNow codec store attempt uid) :
    Active (storeAfter codec store attempt) uid := by
  have effect := @enrollment_attempt codec store attempt
  unfold Active at active ⊢
  generalize storeAfter codec store attempt = after at effect ⊢
  cases effect with
  | kept same failed =>
    rw [(Prod.mk.inj same).1]
    exact active
  | begun begunUid material asked pending tables =>
    obtain ⟨row, member, owner, state⟩ := active
    rw [(Prod.mk.inj tables).1]
    refine ⟨row, List.mem_append_left _ (List.mem_filter.mpr ⟨member, ?_⟩), owner, state⟩
    simp [unconfirmed, state]
  | marked change marks code unready tables =>
    rw [(Prod.mk.inj tables).1]
    exact active_of_map marks.sameUid (fun row state => (marks.state row).trans state) active
  | activated confirmedUid enrollmentId change asked ready activates present tables =>
    rw [(Prod.mk.inj tables).1]
    refine active_of_map activates.sameUid (fun row state => ?_) active
    rw [activates.state row]
    split
    · rfl
    · exact state
  | policySet setUid target asked backed tables =>
    rw [(Prod.mk.inj tables).1]
    exact active
  | reset resetUid digest asked one done ok =>
    obtain ⟨row, member, owner, state⟩ := active
    rw [done.rows]
    refine ⟨row, List.mem_filter.mpr ⟨member, ?_⟩, owner, state⟩
    rw [owner, bne_iff_ne]
    rintro rfl
    exact unreset ⟨digest, asked, ok⟩
  | cleaned asked tables =>
    obtain ⟨row, member, owner, state⟩ := active
    rw [(Prod.mk.inj tables).1]
    refine ⟨row, List.mem_filter.mpr ⟨member, ?_⟩, owner, state⟩
    simp [state]

end JwOps.Agentd.Enrollments
