/- module: Agentd/Recovery
   source: crates/jw-agentd/src/totp.rs (begin_enrollment, recovery_reset), migrations/0005_totp.sql
   digest: Recovery codes of an enrollment over runs of begins, confirmations and resets. -/
import JwOps.Agentd.Enrollments
import JwOps.Agentd.SingleUse

set_option autoImplicit false

namespace JwOps.Agentd.Recovery

open Contracts.Operation Tables Totp Calls Enrollments Outcomes Foundation.Transaction

variable {uid : UInt32} {digest : Bytes} {attempts earlier : List Attempt}

variable {codec : AgentCodec}

/-! ### The codes of a store -/

/-- The attempt begins an enrollment with that code among its codes. -/
def Issues (codec : AgentCodec) (uid : UInt32) (digest : Bytes) (material : EnrollmentMaterial)
    (attempt : Attempt) : Prop :=
  Call.begins attempt.call = some (uid, material) ∧
    ∃ recovery ∈ material.recovery, digest = recoveryDigest codec uid (recoveryCode recovery)

/-- The code was issued for the enrollment that its administrator has. -/
def CodeOf (codec : AgentCodec) (attempts : List Attempt) (store : Store) (uid : UInt32)
    (digest : Bytes) : Prop :=
  ∃ issue ∈ attempts, ∃ material, Issues codec uid digest material issue ∧
    ∃ row ∈ store.enrollments, row.subjectUid = uid ∧
      row.enrollmentId = randomHexIdentifier material.identifier

/-- Administrators are keys of the enrollments, and every code is one of an enrollment. -/
structure CodesBacked (codec : AgentCodec) (attempts : List Attempt) (store : Store) : Prop where
  unique : (store.enrollments.map EnrollmentRow.subjectUid).Nodup
  backed : ∀ code ∈ store.recoveryCodes,
    CodeOf codec attempts store code.subjectUid code.codeDigest

/-- Codes stay backed where each enrollment stays, with the same identifier. -/
theorem CodeOf.keep {attempts : List Attempt} {attempt : Attempt} {store after : Store}
    {uid : UInt32} {digest : Bytes} (code : CodeOf codec attempts store uid digest)
    (stays : ∀ row ∈ store.enrollments, row.subjectUid = uid →
      ∃ row' ∈ after.enrollments, row'.subjectUid = uid ∧ row'.enrollmentId = row.enrollmentId) :
    CodeOf codec (attempts ++ [attempt]) after uid digest := by
  obtain ⟨issue, member, material, issues, row, present, owner, id⟩ := code
  obtain ⟨row', present', owner', id'⟩ := stays row present owner
  exact ⟨issue, List.mem_append_left _ member, material, issues, row', present', owner',
    id'.trans id⟩

theorem codesBacked_map {attempt : Attempt} {store after : Store}
    {change : EnrollmentRow → EnrollmentRow} (backed : CodesBacked codec attempts store)
    (sameUid : ∀ row, (change row).subjectUid = row.subjectUid)
    (sameId : ∀ row, (change row).enrollmentId = row.enrollmentId)
    (rows : after.enrollments = store.enrollments.map change)
    (codes : after.recoveryCodes = store.recoveryCodes) :
    CodesBacked codec (attempts ++ [attempt]) after where
  unique := by
    rw [rows, List.map_map, show EnrollmentRow.subjectUid ∘ change = EnrollmentRow.subjectUid from
      funext sameUid]
    exact backed.unique
  backed := by
    intro code member
    rw [codes] at member
    refine (backed.backed code member).keep fun row present owner => ?_
    rw [rows]
    exact ⟨change row, List.mem_map_of_mem present, (sameUid row).trans owner, sameId row⟩

/-- Deleted enrollments take their codes with them. -/
theorem codesBacked_delete {attempt : Attempt} {store after : Store}
    {gone : EnrollmentRow → Bool} (backed : CodesBacked codec attempts store)
    (rows : after.enrollments = (deleteEnrollments gone store).enrollments)
    (codes : after.recoveryCodes = (deleteEnrollments gone store).recoveryCodes) :
    CodesBacked codec (attempts ++ [attempt]) after where
  unique := by
    rw [rows]
    exact (List.filter_sublist.map _).nodup backed.unique
  backed := by
    intro code member
    rw [codes] at member
    obtain ⟨present, kept⟩ := List.mem_filter.mp member
    refine (backed.backed code present).keep fun row stored owner => ?_
    refine ⟨row, ?_, owner, rfl⟩
    rw [rows]
    refine List.mem_filter.mpr ⟨stored, ?_⟩
    rw [Bool.not_eq_true', List.any_eq_false] at kept
    have stays := kept row stored
    simpa [owner] using stays

theorem mem_codeRows {material : EnrollmentMaterial} {code : RecoveryCodeRow}
    (member : code ∈ codeRows codec uid material) :
    code.subjectUid = uid ∧ ∃ recovery ∈ material.recovery,
      code.codeDigest = recoveryDigest codec uid (recoveryCode recovery) := by
  unfold codeRows at member
  rw [List.map_map] at member
  obtain ⟨recovery, drawn, rfl⟩ := List.mem_map.mp member
  exact ⟨rfl, recovery, drawn, rfl⟩

/-- A reset that succeeds had a code, and so an enrollment. -/
theorem CodesBacked.enrolled {store : Store} (backed : CodesBacked codec attempts store)
    (one : store.recoveryCodes.countP (fun row =>
      row.subjectUid == uid && row.codeDigest == digest && row.consumedAt.isNone) = 1) :
    CodeOf codec attempts store uid digest := by
  obtain ⟨code, member, meets⟩ := SingleUse.exists_of_countP_one one
  simp only [Bool.and_eq_true, beq_iff_eq] at meets
  have issued := backed.backed code member
  rwa [meets.1.1, meets.1.2] at issued

theorem CodeOf.present {store : Store} (code : CodeOf codec attempts store uid digest) :
    ∃ row ∈ store.enrollments, row.subjectUid = uid := by
  obtain ⟨issue, -, material, -, row, present, owner, -⟩ := code
  exact ⟨row, present, owner⟩

theorem codesBacked_attempt {store : Store} (backed : CodesBacked codec attempts store)
    {attempt : Attempt} :
    CodesBacked codec (attempts ++ [attempt]) (storeAfter codec store attempt) := by
  have effect := @enrollment_attempt codec store attempt
  generalize storeAfter codec store attempt = after at effect ⊢
  cases effect with
  | kept same failed =>
    obtain ⟨rows, rest⟩ := Prod.mk.inj same
    exact codesBacked_map backed (fun _ => rfl) (fun _ => rfl)
      (rows.trans (List.map_id _).symm) (Prod.mk.inj rest).1
  | begun uid material asked pending tables =>
    obtain ⟨rows, rest⟩ := Prod.mk.inj tables
    have codes := (Prod.mk.inj rest).1
    have deleted : CodesBacked codec (attempts ++ [attempt])
        (deleteEnrollments (unconfirmed uid) store) := codesBacked_delete backed rfl rfl
    have absent : ∀ row ∈ (deleteEnrollments (unconfirmed uid) store).enrollments,
        row.subjectUid ≠ uid := by
      intro row member owner
      obtain ⟨present, kept⟩ := List.mem_filter.mp member
      simp [unconfirmed, owner, pending row present owner] at kept
    constructor
    · rw [rows, List.map_append, List.nodup_append]
      refine ⟨deleted.unique, List.nodup_singleton _, ?_⟩
      rintro first inOld second inNew rfl
      obtain ⟨row, member, owner⟩ := List.mem_map.mp inOld
      rw [List.map_singleton, List.mem_singleton] at inNew
      exact absent row member (owner.trans inNew)
    · intro code member
      rw [codes] at member
      rcases List.mem_append.mp member with old | new
      · obtain ⟨issue, inRun, drawn, issues, row, present, named⟩ := deleted.backed code old
        refine ⟨issue, inRun, drawn, issues, row, ?_, named⟩
        rw [rows]
        exact List.mem_append_left _ present
      · obtain ⟨owner, issued⟩ := mem_codeRows new
        rw [owner]
        refine ⟨attempt, List.mem_append_right _ (List.mem_singleton_self _), material,
          ⟨asked, issued⟩, pendingEnrollment uid material attempt.now, ?_, rfl, rfl⟩
        rw [rows]
        exact List.mem_append_right _ (List.mem_singleton_self _)
  | marked change marks code unready tables =>
    obtain ⟨rows, rest⟩ := Prod.mk.inj tables
    exact codesBacked_map backed marks.sameUid marks.sameId rows (Prod.mk.inj rest).1
  | activated uid enrollmentId change asked ready activates present tables =>
    obtain ⟨rows, rest⟩ := Prod.mk.inj tables
    exact codesBacked_map backed activates.sameUid activates.sameId rows (Prod.mk.inj rest).1
  | policySet uid target asked enrolled tables =>
    obtain ⟨rows, rest⟩ := Prod.mk.inj tables
    exact codesBacked_map backed (fun _ => rfl) (fun _ => rfl)
      (rows.trans (List.map_id _).symm) (Prod.mk.inj rest).1
  | reset uid digest asked one done ok =>
    have codes := done.codes (backed.enrolled one).present
    constructor
    · rw [done.rows]
      exact (List.filter_sublist.map _).nodup backed.unique
    · intro code member
      rw [codes] at member
      obtain ⟨present, kept⟩ := List.mem_filter.mp member
      refine (backed.backed code present).keep fun row stored owner => ?_
      refine ⟨row, ?_, owner, rfl⟩
      rw [done.rows]
      exact List.mem_filter.mpr ⟨stored, by rwa [owner]⟩
  | cleaned asked tables =>
    obtain ⟨rows, rest⟩ := Prod.mk.inj tables
    exact codesBacked_delete backed rows (Prod.mk.inj rest).1

theorem codesBacked_run {attempts : List Attempt} :
    CodesBacked codec attempts (run codec emptyStore attempts) := by
  induction attempts using List.reverseRecOn with
  | nil => exact ⟨List.nodup_nil, fun _ impossible => by cases impossible⟩
  | append_singleton earlier last ih =>
    rw [SingleUse.run_snoc]
    exact codesBacked_attempt ih

/-! ### Resets of a run -/

/-- The attempt is a reset with that code that succeeds. -/
def Resets (codec : AgentCodec) (earlier : List Attempt) (attempt : Attempt) (uid : UInt32)
    (digest : Bytes) : Prop :=
  Call.resets codec attempt.call = some (uid, digest) ∧
    ∃ answer, resultOf codec (run codec emptyStore earlier) attempt = .ok answer

theorem enrolls_of_resets {call : Call} (asked : Call.resets codec call = some (uid, digest)) :
    Call.enrolls call = true := by
  cases call <;> first | rfl | cases asked

/-- What a reset that succeeds does. -/
theorem Resets.effect {attempt : Attempt} (resets : Resets codec earlier attempt uid digest) :
    (run codec emptyStore earlier).recoveryCodes.countP (fun row => row.subjectUid == uid &&
        row.codeDigest == digest && row.consumedAt.isNone) = 1 ∧
      ResetOf uid attempt.now (run codec emptyStore earlier)
        (run codec emptyStore (earlier ++ [attempt])) ∧
      resultOf codec (run codec emptyStore earlier) attempt = .ok .done := by
  obtain ⟨asked, answer, succeeded⟩ := resets
  have effect := @enrollment_attempt codec (run codec emptyStore earlier) attempt
  rw [SingleUse.run_snoc]
  generalize storeAfter codec (run codec emptyStore earlier) attempt = after at effect ⊢
  cases effect with
  | kept same failed =>
    obtain ⟨error, failure⟩ := failed (enrolls_of_resets asked)
    rw [failure] at succeeded
    cases succeeded
  | begun other material begins pending tables =>
    rw [(resets_alone asked).1] at begins
    cases begins
  | marked change marks code unready tables =>
    rw [code.2.2] at asked
    cases asked
  | activated other enrollmentId change confirms ready activates present tables =>
    rw [(resets_alone asked).2.1] at confirms
    cases confirms
  | policySet other target sets enrolled tables =>
    rw [(resets_alone asked).2.2] at sets
    cases sets
  | reset other code named one done ok =>
    rw [asked] at named
    injection named with pair
    obtain ⟨rfl, rfl⟩ := Prod.mk.inj pair
    exact ⟨one, done, ok⟩
  | cleaned migrates tables =>
    rw [migrates] at asked
    cases asked

theorem resetsNow_iff {attempt : Attempt} :
    ResetsNow codec (run codec emptyStore earlier) attempt uid ↔
      ∃ digest, Resets codec earlier attempt uid digest := by
  constructor
  · rintro ⟨digest, asked, ok⟩
    exact ⟨digest, asked, _, ok⟩
  · rintro ⟨digest, resets⟩
    exact ⟨digest, resets.1, resets.effect.2.2⟩

/-! ### What a code needs -/

/-- No stored code has that digest. -/
def Unissued (uid : UInt32) (digest : Bytes) (store : Store) : Prop :=
  ∀ code ∈ store.recoveryCodes, ¬(code.subjectUid = uid ∧ code.codeDigest = digest)

/-- A code appears only with the enrollment that is begun with it. -/
theorem unissued_attempt {attempt : Attempt}
    (absent : Unissued uid digest (run codec emptyStore earlier))
    (other : ∀ material, ¬Issues codec uid digest material attempt) :
    Unissued uid digest (run codec emptyStore (earlier ++ [attempt])) := by
  have effect := @enrollment_attempt codec (run codec emptyStore earlier) attempt
  have backed := @codesBacked_run codec earlier
  rw [SingleUse.run_snoc]
  generalize storeAfter codec (run codec emptyStore earlier) attempt = after at effect ⊢
  intro code member
  cases effect with
  | kept same failed =>
    rw [(Prod.mk.inj (Prod.mk.inj same).2).1] at member
    exact absent code member
  | begun begunUid material asked pending tables =>
    rw [(Prod.mk.inj (Prod.mk.inj tables).2).1] at member
    rcases List.mem_append.mp member with old | new
    · exact absent code (List.mem_filter.mp old).1
    · obtain ⟨owner, recovery, drawn, same⟩ := mem_codeRows new
      rintro ⟨rfl, rfl⟩
      rw [owner] at other
      exact other material ⟨asked, recovery, drawn, same⟩
  | marked _ _ _ _ tables | activated _ _ _ _ _ _ _ tables | policySet _ _ _ _ tables =>
    rw [(Prod.mk.inj (Prod.mk.inj tables).2).1] at member
    exact absent code member
  | reset resetUid used asked one done ok =>
    rw [done.codes (backed.enrolled one).present] at member
    exact absent code (List.mem_filter.mp member).1
  | cleaned asked tables =>
    rw [(Prod.mk.inj (Prod.mk.inj tables).2).1] at member
    exact absent code (List.mem_filter.mp member).1

theorem unissued_run (middle : List Attempt)
    (absent : Unissued uid digest (run codec emptyStore earlier))
    (other : ∀ attempt ∈ middle, ∀ material, ¬Issues codec uid digest material attempt) :
    Unissued uid digest (run codec emptyStore (earlier ++ middle)) := by
  induction middle using List.reverseRecOn with
  | nil => rwa [List.append_nil]
  | append_singleton front last ih =>
    rw [← List.append_assoc]
    refine unissued_attempt (ih fun attempt member => other attempt ?_) (other last ?_)
    · exact List.mem_append_left _ member
    · exact List.mem_append_right _ (List.mem_singleton_self _)

theorem Resets.issued {earlier : List Attempt} {attempt : Attempt} {uid : UInt32} {digest : Bytes}
    (resets : Resets codec earlier attempt uid digest) :
    ¬Unissued uid digest (run codec emptyStore earlier) := by
  intro absent
  obtain ⟨code, member, meets⟩ := SingleUse.exists_of_countP_one resets.effect.1
  simp only [Bool.and_eq_true, beq_iff_eq] at meets
  exact absent code member meets.1

theorem Resets.cleared {attempt : Attempt} (resets : Resets codec earlier attempt uid digest) :
    ∀ code ∈ (run codec emptyStore (earlier ++ [attempt])).recoveryCodes,
      code.subjectUid ≠ uid := by
  obtain ⟨one, done, -⟩ := resets.effect
  intro code member
  rw [done.codes (codesBacked_run.enrolled one).present] at member
  exact bne_iff_ne.mp (List.mem_filter.mp member).2

/-! ### Confirmed enrollments of a run -/

/-- The enrollment of the administrator was confirmed in the run, and not reset since. -/
def ConfirmedIn (codec : AgentCodec) (attempts : List Attempt) (uid : UInt32) : Prop :=
  ∃ front confirm back enrollmentId, attempts = front ++ confirm :: back ∧
    Call.confirms confirm.call = some (uid, enrollmentId) ∧
    resultOf codec (run codec emptyStore front) confirm = .ok (.confirmed .ready) ∧
    ∀ start reset rest, back = start ++ reset :: rest →
      ¬∃ digest, Resets codec (front ++ confirm :: start) reset uid digest

theorem not_active_of_reset {now : Int} {store after : Store}
    (done : ResetOf uid now store after) : ¬Active after uid := by
  rintro ⟨row, member, owner, -⟩
  rw [done.rows] at member
  have other := (List.mem_filter.mp member).2
  rw [owner, bne_self_eq_false] at other
  cases other

/-- The second code makes the enrollment active. -/
theorem active_of_ready {store : Store} {attempt : Attempt} {enrollmentId : String}
    (asked : Call.confirms attempt.call = some (uid, enrollmentId))
    (ready : resultOf codec store attempt = .ok (.confirmed .ready)) :
    Active (storeAfter codec store attempt) uid := by
  have effect := @enrollment_attempt codec store attempt
  unfold Active
  rw [ready] at effect
  generalize storeAfter codec store attempt = after at effect ⊢
  generalize attempt.call = call at asked effect
  cases call with
  | confirmEnrollment subject ingress named code opened =>
    cases asked
    cases effect with
    | kept same failed =>
      obtain ⟨error, impossible⟩ := failed rfl
      cases impossible
    | begun other material begins => cases begins
    | marked change marks code unready => exact absurd rfl unready
    | activated other id change confirms answered activates present tables =>
      cases confirms
      obtain ⟨row, member, owner, named, -⟩ := present
      rw [(Prod.mk.inj tables).1]
      refine ⟨change row, List.mem_map_of_mem member, (activates.sameUid row).trans owner, ?_⟩
      rw [activates.state row, if_pos ⟨owner, named⟩]
    | policySet other target sets => cases sets
    | reset other digest resets => cases resets
    | cleaned migrates => cases migrates
  | _ => cases asked

/-- An enrollment becomes active with its second code only. -/
theorem active_before {store : Store} {attempt : Attempt}
    (active : Active (storeAfter codec store attempt) uid) :
    Active store uid ∨ ∃ enrollmentId, Call.confirms attempt.call = some (uid, enrollmentId) ∧
      resultOf codec store attempt = .ok (.confirmed .ready) := by
  have effect := @enrollment_attempt codec store attempt
  obtain ⟨row, member, owner, state⟩ := active
  generalize storeAfter codec store attempt = after at effect member
  cases effect with
  | kept same failed =>
    rw [(Prod.mk.inj same).1] at member
    exact .inl ⟨row, member, owner, state⟩
  | begun other material asked pending tables =>
    rw [(Prod.mk.inj tables).1] at member
    rcases List.mem_append.mp member with old | new
    · exact .inl ⟨row, (List.mem_filter.mp old).1, owner, state⟩
    · rw [List.mem_singleton.mp new] at state
      cases state
  | marked change marks code unready tables =>
    rw [(Prod.mk.inj tables).1] at member
    obtain ⟨old, present, rfl⟩ := List.mem_map.mp member
    exact .inl ⟨old, present, (marks.sameUid old).symm.trans owner,
      (marks.state old).symm.trans state⟩
  | activated other enrollmentId change asked ready activates present tables =>
    rw [(Prod.mk.inj tables).1] at member
    obtain ⟨old, before, rfl⟩ := List.mem_map.mp member
    rw [activates.sameUid old] at owner
    rw [activates.state old] at state
    split at state
    · rename_i named
      rw [owner] at named
      rw [← named.1] at asked
      exact .inr ⟨enrollmentId, asked, ready⟩
    · exact .inl ⟨old, before, owner, state⟩
  | policySet other target asked backed tables =>
    rw [(Prod.mk.inj tables).1] at member
    exact .inl ⟨row, member, owner, state⟩
  | reset other digest asked one done ok =>
    rw [done.rows] at member
    exact .inl ⟨row, (List.mem_filter.mp member).1, owner, state⟩
  | cleaned asked tables =>
    rw [(Prod.mk.inj tables).1] at member
    exact .inl ⟨row, (List.mem_filter.mp member).1, owner, state⟩

theorem active_of_confirmed (confirmed : ConfirmedIn codec attempts uid) :
    Active (run codec emptyStore attempts) uid := by
  obtain ⟨front, confirm, back, enrollmentId, rfl, asked, ready, unreset⟩ := confirmed
  induction back using List.reverseRecOn with
  | nil =>
    rw [SingleUse.run_snoc]
    exact active_of_ready asked ready
  | append_singleton start last ih =>
    have before := ih fun first reset rest parts =>
      unreset first reset (rest ++ [last]) (by simp [parts])
    rw [← List.cons_append, ← List.append_assoc, SingleUse.run_snoc]
    refine before.stays ?_
    rw [resetsNow_iff]
    exact unreset start last [] rfl

theorem confirmed_of_active (active : Active (run codec emptyStore attempts) uid) :
    ConfirmedIn codec attempts uid := by
  induction attempts using List.reverseRecOn with
  | nil =>
    obtain ⟨row, impossible, -⟩ := active
    cases impossible
  | append_singleton earlier last ih =>
    have survived : ¬∃ digest, Resets codec earlier last uid digest := by
      rintro ⟨digest, resets⟩
      exact not_active_of_reset resets.effect.2.1 active
    rw [SingleUse.run_snoc] at active
    rcases active_before active with before | ⟨enrollmentId, asked, ready⟩
    · obtain ⟨front, confirm, back, enrollmentId, rfl, asked, ready, unreset⟩ := ih before
      refine ⟨front, confirm, back ++ [last], enrollmentId, by simp, asked, ready, ?_⟩
      intro start reset rest parts
      rcases List.eq_nil_or_concat' rest with rfl | ⟨init, final, rfl⟩
      · obtain ⟨rfl, same⟩ := List.append_inj' parts rfl
        cases same
        exact survived
      · rw [← List.cons_append, ← List.append_assoc] at parts
        exact unreset start reset init (List.append_inj' parts rfl).1
    · exact ⟨earlier, last, [], enrollmentId, rfl, asked, ready,
        fun start reset rest parts => by simp at parts⟩

/-! ### The law of recovery codes -/

/-- What is required of a run: a reset succeeds only for a confirmed enrollment and with a code of
that enrollment; a code succeeds once, unless a later enrollment draws it again; a reset that
succeeds takes the enrollment, its codes and the claims away and revokes the sessions, and one that
fails changes nothing. -/
structure RecoveryHolds (codec : AgentCodec) (attempts : List Attempt) : Prop where
  confirmed : ∀ earlier attempt later uid digest, attempts = earlier ++ attempt :: later →
    Resets codec earlier attempt uid digest → Active (run codec emptyStore earlier) uid
  issued : ∀ earlier attempt later uid digest, attempts = earlier ++ attempt :: later →
    Resets codec earlier attempt uid digest →
    CodeOf codec earlier (run codec emptyStore earlier) uid digest
  once : ∀ earlier first middle second later uid digest,
    attempts = earlier ++ first :: (middle ++ second :: later) →
    (∀ attempt ∈ middle, ∀ material, ¬Issues codec uid digest material attempt) →
    Resets codec earlier first uid digest →
    ¬Resets codec (earlier ++ first :: middle) second uid digest
  removed : ∀ earlier attempt later uid digest, attempts = earlier ++ attempt :: later →
    Resets codec earlier attempt uid digest →
    (∀ row ∈ (run codec emptyStore (earlier ++ [attempt])).enrollments, row.subjectUid ≠ uid) ∧
      (∀ code ∈ (run codec emptyStore (earlier ++ [attempt])).recoveryCodes,
        code.subjectUid ≠ uid) ∧
      (∀ claim ∈ (run codec emptyStore (earlier ++ [attempt])).additionalClaims,
        claim.subjectUid ≠ uid) ∧
      ∀ session ∈ (run codec emptyStore (earlier ++ [attempt])).sessions,
        session.subject.uid = uid → session.revokedAt.isSome = true
  failure : ∀ earlier attempt later uid digest error, attempts = earlier ++ attempt :: later →
    Call.resets codec attempt.call = some (uid, digest) →
    resultOf codec (run codec emptyStore earlier) attempt = .error error →
    run codec emptyStore (earlier ++ [attempt]) = run codec emptyStore earlier

theorem reset_once {middle : List Attempt} {first second : Attempt}
    (other : ∀ attempt ∈ middle, ∀ material, ¬Issues codec uid digest material attempt)
    (resets : Resets codec earlier first uid digest) :
    ¬Resets codec (earlier ++ first :: middle) second uid digest := by
  intro again
  have absent : Unissued uid digest (run codec emptyStore (earlier ++ [first])) :=
    fun code member named => resets.cleared code member named.1
  have still := unissued_run middle absent other
  rw [List.append_assoc, List.singleton_append] at still
  exact again.issued still

theorem reset_removed {attempt : Attempt} (resets : Resets codec earlier attempt uid digest) :
    (∀ row ∈ (run codec emptyStore (earlier ++ [attempt])).enrollments, row.subjectUid ≠ uid) ∧
      (∀ code ∈ (run codec emptyStore (earlier ++ [attempt])).recoveryCodes,
        code.subjectUid ≠ uid) ∧
      (∀ claim ∈ (run codec emptyStore (earlier ++ [attempt])).additionalClaims,
        claim.subjectUid ≠ uid) ∧
      ∀ session ∈ (run codec emptyStore (earlier ++ [attempt])).sessions,
        session.subject.uid = uid → session.revokedAt.isSome = true := by
  obtain ⟨-, done, -⟩ := resets.effect
  refine ⟨?_, resets.cleared, ?_, ?_⟩
  · intro row member
    rw [done.rows] at member
    exact bne_iff_ne.mp (List.mem_filter.mp member).2
  · intro claim member
    rw [done.claims] at member
    exact bne_iff_ne.mp (List.mem_filter.mp member).2
  · intro session member owner
    rw [done.sessions] at member
    obtain ⟨old, before, rfl⟩ := List.mem_map.mp member
    by_cases live : (old.subject.uid == uid && old.revokedAt.isNone) = true
    · rw [if_pos live]
      rfl
    · rw [if_neg live] at owner ⊢
      simpa [owner, Option.isSome_iff_ne_none] using live

theorem reset_failed {store : Store} {attempt : Attempt} {error : AgentError}
    (asked : Call.resets codec attempt.call = some (uid, digest))
    (failed : resultOf codec store attempt = .error error) :
    storeAfter codec store attempt = store := by
  obtain ⟨call, now, faults⟩ := attempt
  cases call with
  | recoveryReset sessionToken subject ingress reauthToken recoveryCode =>
    have spec : Outcome (perform codec now (.recoveryReset sessionToken subject ingress
        reauthToken recoveryCode)) store fun result after =>
          ∀ error, result = .error error → after = store := by
      refine outcome_map (recoveryReset_spec.mono ?_)
      rintro result after (⟨rfl, error, rfl⟩ | ⟨rfl, -, -, rfl⟩)
      · exact fun _ _ => rfl
      · exact fun _ impossible => by cases impossible
    exact spec faults error failed
  | _ => cases asked

/-! ### Codes of a confirmed enrollment -/

/-- An enrollment is begun, and reset with one of its codes before it is confirmed. -/
def samplePendingReset : List Attempt :=
  [⟨.issueSession Expiry.sampleAdmin .recovery (some Expiry.sampleToken), 100000, []⟩,
    ⟨.issueReauthClaim Expiry.sampleToken Expiry.sampleAdmin .totpEnrollment
      (some Expiry.sampleToken), 100000, []⟩,
    ⟨.beginEnrollment Expiry.sampleToken Expiry.sampleAdmin .recovery Expiry.sampleToken "host"
      (some SingleUse.sampleMaterial), 100000, []⟩,
    ⟨.issueReauthClaim Expiry.sampleToken Expiry.sampleAdmin .totpRecoveryReset
      (some Expiry.sampleNextToken), 110000, []⟩]

/-- The reset, with the first code of the enrollment. -/
def samplePendingCode : Attempt :=
  ⟨.recoveryReset Expiry.sampleToken Expiry.sampleAdmin .recovery Expiry.sampleNextToken
    (recoveryCode (List.replicate 10 0)), 120000, []⟩

end JwOps.Agentd.Recovery
