/- module: Agentd/Replay
   source: crates/jw-agentd/src/totp.rs, crates/jw-agentd/migrations/0005_totp.sql
   digest: A time step is accepted once, near the clock, and the last observed one never falls. -/
import JwOps.Agentd.SingleUse

set_option autoImplicit false

namespace JwOps.Agentd.Replay

open Contracts.Operation Tables Sessions Totp Claims Outcomes Calls Foundation.Transaction

/-! ### What a call verifies -/

/-- A code that is given for the enrollment that `load` finds. -/
structure Verification where
  subjectUid : UInt32
  code : String
  opened : EnrollmentRow → Option Bytes
  load : Store → Except AgentError EnrollmentRow

def Call.verification : Call → Option Verification
  | .confirmEnrollment subject _ enrollmentId code opened =>
    some ⟨subject.uid, code, opened, fun store =>
      loadPendingEnrollment store subject.uid enrollmentId⟩
  | .issueOperationClaim _ subject _ _ code opened _ =>
    some ⟨subject.uid, code, opened, fun store => loadActiveEnrollment store subject.uid⟩
  | .verifyDirectContext subject _ code opened =>
    some ⟨subject.uid, code, opened, fun store => loadActiveEnrollment store subject.uid⟩
  | _ => none

/-- The code of the enrollment is that of the step, at that time. -/
structure Verification.Matches (codec : AgentCodec) (verification : Verification) (now : Int)
    (row : EnrollmentRow) (step : Int) : Prop where
  found : ∃ secret current, decryptSecret verification.opened row = .ok secret ∧
    timeStep now = .ok current ∧
    matchStep codec secret verification.code current = .ok (some step)

/-- The last observed step of an administrator's enrollment. -/
def lastObserved (store : Store) (uid : UInt32) : Option Int :=
  (store.enrollments.find? fun row => row.subjectUid == uid).bind EnrollmentRow.lastObservedStep

/-- The end of a claim that is issued at that time can be written out. -/
def ClaimEndWritten (codec : AgentCodec) (now : Int) : Prop :=
  (codec.rfc3339 (saturatingAdd now claimTtlMs)).isSome = true

variable {codec : AgentCodec}

/-! ### Steps -/

variable {secret : Bytes} {row : EnrollmentRow}

theorem totpCode_ok {step : Int} {code : String} (ok : totpCode codec secret step = .ok code) :
    0 ≤ step := by
  unfold totpCode at ok
  split at ok
  · cases ok
  · omega

/-- All three candidates have a code, or none is accepted. -/
theorem matchStep_some {code : String} {current step : Int}
    (found : matchStep codec secret code current = .ok (some step)) :
    0 ≤ saturatingSub current 1 ∧
      (step = current ∨ step = saturatingSub current 1 ∨ step = saturatingAdd current 1) := by
  unfold matchStep at found
  simp only [List.foldlM_cons, List.foldlM_nil] at found
  cases here : totpCode codec secret current with
  | error error =>
    rw [here] at found
    cases found
  | ok first =>
  cases before : totpCode codec secret (saturatingSub current 1) with
  | error error =>
    rw [here, before] at found
    cases found
  | ok second =>
  cases after : totpCode codec secret (saturatingAdd current 1) with
  | error error =>
    rw [here, before, after] at found
    cases found
  | ok third =>
  rw [here, before, after] at found
  refine ⟨totpCode_ok before, ?_⟩
  have chosen := Except.ok.inj found
  split at chosen
  · exact .inr (.inr (Option.some.inj chosen).symm)
  split at chosen
  · exact .inr (.inl (Option.some.inj chosen).symm)
  split at chosen
  · exact .inl (Option.some.inj chosen).symm
  · cases chosen

/-- The accepted step is within one of the clock, which is past its first step. -/
theorem Verification.Matches.near {verification : Verification} {now : Int} {step : Int}
    (matched : verification.Matches codec now row step) (reading : now < 2 ^ 63) :
    30000 ≤ now ∧ now / 30000 - 1 ≤ step ∧ step ≤ now / 30000 + 1 := by
  obtain ⟨secret, current, -, time, found⟩ := matched.found
  obtain ⟨positive, rfl⟩ := timeStep_ok time
  obtain ⟨previous, candidate⟩ := matchStep_some found
  unfold saturatingSub at previous candidate
  unfold saturatingAdd at candidate
  omega

/-! ### What a verification does to the tables -/

/-- The row is that of the same enrollment, and its last observed step did not fall. -/
structure Grows (row row' : EnrollmentRow) : Prop where
  uid : row'.subjectUid = row.subjectUid
  observed : ∀ last, row.lastObservedStep = some last →
    ∃ last', row'.lastObservedStep = some last' ∧ last ≤ last'

theorem Grows.refl (row : EnrollmentRow) : Grows row row :=
  ⟨rfl, fun last same => ⟨last, same, le_refl last⟩⟩

theorem observed_grows {step : Int} {last : Option Int} {old : Int} (was : last = some old) :
    ∃ new, observed step last = some new ∧ old ≤ new := by
  subst was
  exact ⟨max old step, rfl, le_max_left old step⟩

/-- All that a verification can do. -/
inductive ReplayEffect (codec : AgentCodec) (now : Int) (verification : Verification)
    (store : Store) (result : Except AgentError Answer) (after : Store) : Prop
  | kept (error : AgentError) (failed : result = .error error)
      (steps : after.usedSteps = store.usedSteps) (rows : after.enrollments = store.enrollments)
      (claims : after.reauthClaims = store.reauthClaims)
  | used (row : EnrollmentRow) (step : Int) (change : EnrollmentRow → EnrollmentRow)
      (loaded : verification.load store = .ok row)
      (matched : verification.Matches codec now row step)
      (ahead : ∀ last ∈ row.lastObservedStep, last ≤ saturatingAdd (now / 30000) 1)
      (fresh : ∀ other ∈ store.usedSteps,
        ¬(other.subjectUid = verification.subjectUid ∧ other.timeStep = step))
      (steps : after.usedSteps = store.usedSteps ++ [⟨verification.subjectUid, step, now⟩])
      (grows : ∀ row, Grows row (change row))
      (rows : after.enrollments = store.enrollments.map change)
      (claims : after.reauthClaims = store.reauthClaims)
      (answered : (∃ answer, result = .ok answer) ∨
        (¬ClaimEndWritten codec now ∧ ∃ claim ∈ store.reauthClaims, now < claim.expiresAt))

theorem observedRow_grows (uid : UInt32) (step : Int) (row : EnrollmentRow) :
    Grows row (observedRow uid step row) := by
  unfold observedRow
  split
  · exact ⟨rfl, fun _ was => observed_grows was⟩
  · exact Grows.refl row

theorem confirmedRow_grows (uid : UInt32) (enrollmentId : String) (record : EnrollmentRow)
    (step now : Int) (row : EnrollmentRow) :
    Grows row (confirmedRow uid enrollmentId record step now row) := by
  unfold confirmedRow
  split
  · cases record.firstConfirmedStep <;> exact ⟨rfl, fun _ was => observed_grows was⟩
  · exact Grows.refl row

/-- What an attempt of a verification does. -/
theorem replay_attempt {store : Store} {attempt : Attempt} {verification : Verification}
    (asked : Call.verification attempt.call = some verification) :
    ReplayEffect codec attempt.now verification store (resultOf codec store attempt)
      (storeAfter codec store attempt) := by
  obtain ⟨call, now, faults⟩ := attempt
  have outcome : Outcome (perform codec now call) store
      (ReplayEffect codec now verification store) := by
    cases call with
    | confirmEnrollment subject ingress enrollmentId code opened =>
      cases asked
      refine outcome_map (confirmEnrollment_spec.mono ?_)
      rintro result after (⟨rfl, error, rfl⟩ | ⟨row, step, loaded, accepts, rfl, rfl⟩)
      · exact .kept error rfl rfl rfl rfl
      · exact .used row step _ loaded ⟨accepts.matched⟩ accepts.ahead accepts.fresh rfl
          (confirmedRow_grows _ _ _ _ _) rfl rfl (.inl ⟨_, rfl⟩)
    | issueOperationClaim sessionToken subject reauthToken planHash code opened random =>
      cases asked
      refine outcome_map (issueOperationClaim_spec.mono ?_)
      rintro result after (⟨rfl, error, rfl⟩ |
        ⟨row, step, token, loaded, accepts, lasting, -, -, rfl, answered⟩)
      · exact .kept error rfl rfl rfl rfl
      · refine .used row step _ loaded ⟨accepts.matched⟩ accepts.ahead accepts.fresh rfl
          (observedRow_grows _ _) rfl rfl ?_
        by_cases written : ClaimEndWritten codec now
        · obtain ⟨view, rfl⟩ := answered.mpr written
          exact .inl ⟨_, rfl⟩
        · exact .inr ⟨written, lasting⟩
    | verifyDirectContext subject contextDigest code opened =>
      cases asked
      refine outcome_map (verifyDirectContext_spec.mono ?_)
      rintro result after (⟨rfl, error, rfl⟩ | ⟨row, step, loaded, accepts, rfl, rfl⟩)
      · exact .kept error rfl rfl rfl rfl
      · exact .used row step _ loaded ⟨accepts.matched⟩ accepts.ahead accepts.fresh rfl
          (observedRow_grows _ _) rfl rfl (.inl ⟨_, rfl⟩)
    | _ => cases asked
  exact outcome faults

/-! ### The law of verifications -/

/-- The call verified a code of that enrollment, with that step. -/
structure Verified (codec : AgentCodec) (store : Store) (attempt : Attempt)
    (row : EnrollmentRow) (step : Int) : Prop where
  accepted : ∃ verification, Call.verification attempt.call = some verification ∧
    verification.load store = .ok row ∧ verification.Matches codec attempt.now row step
  succeeded : ∃ answer, resultOf codec store attempt = .ok answer

/-- What is required of a run: no step is accepted twice for one enrollment, the last observed
step never falls, an accepted step is near the clock, which is not far behind the last observed
step, and a call that fails leaves the enrollments and their used steps as they were. -/
structure ReplayHolds (codec : AgentCodec) (start : Store) (attempts : List Attempt) : Prop where
  once : ∀ earlier first middle second later row other step again,
    attempts = earlier ++ first :: (middle ++ second :: later) →
    Verified codec (run codec start earlier) first row step →
    Verified codec (run codec start (earlier ++ first :: middle)) second other again →
    row.subjectUid = other.subjectUid → step ≠ again
  monotone : ∀ earlier attempt later uid last, attempts = earlier ++ attempt :: later →
    lastObserved (run codec start earlier) uid = some last →
    ∃ last', lastObserved (run codec start (earlier ++ [attempt])) uid = some last' ∧ last ≤ last'
  near : ∀ earlier attempt later row step, attempts = earlier ++ attempt :: later →
    Verified codec (run codec start earlier) attempt row step →
    attempt.now / 30000 - 1 ≤ step ∧ step ≤ attempt.now / 30000 + 1
  ahead : ∀ earlier attempt later row step, attempts = earlier ++ attempt :: later →
    Verified codec (run codec start earlier) attempt row step →
    ∀ last ∈ row.lastObservedStep, last ≤ attempt.now / 30000 + 1
  failure : ∀ earlier attempt later error, attempts = earlier ++ attempt :: later →
    resultOf codec (run codec start earlier) attempt = .error error →
    (run codec start (earlier ++ [attempt])).usedSteps =
        (run codec start earlier).usedSteps ∧
      (run codec start (earlier ++ [attempt])).enrollments =
        (run codec start earlier).enrollments

/-- The column of the ends of claims holds signed integers of 64 bits. -/
def InColumns (store : Store) : Prop := ∀ claim ∈ store.reauthClaims, claim.expiresAt ≤ 2 ^ 63 - 1

/-- The calls of a run are verifications, at times of a clock that the code can read. -/
def Verifying (clock : Int → Prop) (attempts : List Attempt) : Prop :=
  ∀ attempt ∈ attempts, (Call.verification attempt.call).isSome = true ∧
    attempt.now < 2 ^ 63 ∧ clock attempt.now

theorem loaded_uid {call : Call} {verification : Verification} {store : Store}
    (asked : Call.verification call = some verification)
    (loaded : verification.load store = .ok row) :
    row.subjectUid = verification.subjectUid := by
  have active : ∀ {uid : UInt32}, loadActiveEnrollment store uid = .ok row →
      row.subjectUid = uid := by
    intro uid found
    unfold loadActiveEnrollment at found
    split at found
    · rename_i present
      injection found with same
      subst same
      have meets := List.find?_some present
      simp only [Bool.and_eq_true, beq_iff_eq] at meets
      exact meets.1
    · cases found
  cases call with
  | confirmEnrollment subject ingress enrollmentId code opened =>
    cases asked
    dsimp only at loaded ⊢
    unfold loadPendingEnrollment at loaded
    split at loaded
    · rename_i present
      injection loaded with same
      subst same
      have meets := List.find?_some present
      simp only [Bool.and_eq_true, beq_iff_eq] at meets
      exact meets.1.1
    · cases loaded
  | issueOperationClaim _ _ _ _ _ _ _ | verifyDirectContext _ _ _ _ =>
    cases asked
    exact active loaded
  | _ => cases asked

/-- A step of a code is determined by the enrollment and the time. -/
theorem Verification.Matches.unique {verification : Verification} {now : Int} {step again : Int}
    (first : verification.Matches codec now row step)
    (second : verification.Matches codec now row again) : step = again := by
  obtain ⟨secret, current, secretOk, time, found⟩ := first.found
  obtain ⟨secret', current', secretOk', time', found'⟩ := second.found
  rw [secretOk] at secretOk'
  injection secretOk' with sameSecret
  rw [time] at time'
  injection time' with sameTime
  subst sameSecret sameTime
  rw [found] at found'
  exact Option.some.inj (Except.ok.inj found')

/-- What a successful verification did. -/
theorem Verified.effect {store : Store} {attempt : Attempt} {step : Int}
    (verified : Verified codec store attempt row step) :
    ∃ verification : Verification, verification.Matches codec attempt.now row step ∧
      (∀ last ∈ row.lastObservedStep, last ≤ saturatingAdd (attempt.now / 30000) 1) ∧
      (∀ other ∈ store.usedSteps,
        ¬(other.subjectUid = row.subjectUid ∧ other.timeStep = step)) ∧
      (storeAfter codec store attempt).usedSteps =
        store.usedSteps ++ [⟨row.subjectUid, step, attempt.now⟩] := by
  obtain ⟨verification, asked, loaded, matched⟩ := verified.accepted
  obtain ⟨answer, succeeded⟩ := verified.succeeded
  have uid := loaded_uid asked loaded
  have effect := @replay_attempt codec store attempt verification asked
  rw [succeeded] at effect
  cases effect with
  | kept error failed => cases failed
  | used row' step' change loaded' matched' ahead fresh steps =>
    rw [loaded] at loaded'
    injection loaded' with same
    subst same
    have sameStep := matched.unique matched'
    subst sameStep
    rw [uid]
    exact ⟨verification, matched, ahead, fresh, steps⟩

section Steps

variable {store : Store} {attempt : Attempt}

/-- Used steps stay used. -/
theorem used_stays {used : UsedStepRow} {clock : Int → Prop} {attempts : List Attempt}
    (verifying : Verifying clock attempts) (member : used ∈ store.usedSteps) :
    used ∈ (run codec store attempts).usedSteps := by
  induction attempts generalizing store with
  | nil => exact member
  | cons attempt rest ih =>
    rw [run_cons]
    refine ih (fun later inRest => verifying later (List.mem_cons_of_mem _ inRest)) ?_
    obtain ⟨verification, asked⟩ :=
      Option.isSome_iff_exists.mp (verifying attempt (List.mem_cons_self ..)).1
    cases @replay_attempt codec store attempt verification asked with
    | kept error failed steps =>
      rw [steps]
      exact member
    | used row step change loaded matched ahead fresh steps =>
      rw [steps]
      exact List.mem_append_left _ member

theorem claims_stay {clock : Int → Prop} {attempts : List Attempt}
    (verifying : Verifying clock attempts) :
    (run codec store attempts).reauthClaims = store.reauthClaims := by
  induction attempts generalizing store with
  | nil => rfl
  | cons attempt rest ih =>
    rw [run_cons, ih fun later inRest => verifying later (List.mem_cons_of_mem _ inRest)]
    obtain ⟨verification, asked⟩ :=
      Option.isSome_iff_exists.mp (verifying attempt (List.mem_cons_self ..)).1
    cases @replay_attempt codec store attempt verification asked with
    | kept error failed steps rows claims => exact claims
    | used row step change loaded matched ahead fresh steps grows rows claims => exact claims

theorem lastObserved_map {rows : List EnrollmentRow} {change : EnrollmentRow → EnrollmentRow}
    (grows : ∀ row, Grows row (change row)) {uid : UInt32} {last : Int}
    (was : (rows.find? fun row => row.subjectUid == uid).bind EnrollmentRow.lastObservedStep = some last) :
    ∃ last', ((rows.map change).find? fun row => row.subjectUid == uid).bind
      EnrollmentRow.lastObservedStep = some last' ∧ last ≤ last' := by
  have same : ((fun row : EnrollmentRow => row.subjectUid == uid) ∘ change) =
      fun row => row.subjectUid == uid := by
    funext row
    simp only [Function.comp, (grows row).uid]
  rw [List.find?_map, same]
  obtain ⟨row, found, observed⟩ := Option.bind_eq_some_iff.mp was
  rw [found]
  exact (grows row).observed last observed

theorem lastObserved_grows {verification : Verification} {uid : UInt32} {last : Int}
    (asked : Call.verification attempt.call = some verification)
    (was : lastObserved store uid = some last) :
    ∃ last', lastObserved (storeAfter codec store attempt) uid = some last' ∧ last ≤ last' := by
  unfold lastObserved at was ⊢
  cases @replay_attempt codec store attempt verification asked with
  | kept error failed steps rows =>
    rw [rows]
    exact ⟨last, was, le_refl last⟩
  | used row step change loaded matched ahead fresh steps grows rows =>
    rw [rows]
    exact lastObserved_map grows was

/-- A failed verification keeps the tables where the end of a claim can be written out. -/
theorem replay_failure {verification : Verification} {error : AgentError}
    (asked : Call.verification attempt.call = some verification)
    (failed : resultOf codec store attempt = .error error) (columns : InColumns store)
    (reading : attempt.now < 2 ^ 63)
    (written : 30000 ≤ attempt.now → attempt.now < 2 ^ 63 - 1 →
      ClaimEndWritten codec attempt.now) :
    (storeAfter codec store attempt).usedSteps = store.usedSteps ∧
      (storeAfter codec store attempt).enrollments = store.enrollments := by
  have effect := @replay_attempt codec store attempt verification asked
  rw [failed] at effect
  cases effect with
  | kept error failed steps rows => exact ⟨steps, rows⟩
  | used row step change loaded matched ahead fresh steps grows rows claims answered =>
    rcases answered with ⟨answer, impossible⟩ | ⟨unwritten, claim, member, lasting⟩
    · cases impossible
    · have late := (matched.near reading).1
      have bounded := columns claim member
      exact absurd (written late (by omega)) unwritten

end Steps

/-! ### A step-up whose end cannot be written out -/

theorem utf8Len_digits {digits : List Char} (all : ∀ c ∈ digits, isAsciiDigit c = true) :
    String.utf8Len digits = digits.length := by
  induction digits with
  | nil => rfl
  | cons c rest ih =>
    have small : c.utf8Size = 1 := by
      have digit := all c (List.mem_cons_self ..)
      simp only [isAsciiDigit, Bool.and_eq_true, decide_eq_true_eq] at digit
      have upper : c.toNat ≤ 57 := digit.2
      have ascii : c.val.toNat ≤ 127 := by
        show c.toNat ≤ 127
        omega
      exact Char.utf8Size_eq_one_iff.mpr (UInt32.le_iff_toNat_le.mpr ascii)
    rw [String.utf8Len_cons, small, ih fun d member => all d (List.mem_cons_of_mem _ member),
      List.length_cons]

theorem sixDigits_valid {value : Nat} (small : value < 1000000) :
    validTotpCode (sixDigits value) = true := by
  have short : (Nat.toDigits 10 value).length ≤ 6 :=
    (Nat.length_toDigits_le_iff (by decide) (by decide)).mpr (by omega)
  have digits : ∀ c ∈ List.replicate (6 - (Nat.toDigits 10 value).length) '0' ++
      Nat.toDigits 10 value, isAsciiDigit c = true := by
    intro c member
    rcases List.mem_append.mp member with zero | digit
    · rw [List.eq_of_mem_replicate zero]
      rfl
    · have isDigit := Nat.isDigit_of_mem_toDigits (by decide) (by decide) digit
      simpa [isAsciiDigit, Char.isDigit, Char.le_def] using isDigit
  unfold validTotpCode sixDigits
  simp only [Bool.and_eq_true, beq_iff_eq, String.toList_ofList, List.all_eq_true]
  refine ⟨?_, digits⟩
  rw [String.utf8ByteSize_ofList, utf8Len_digits digits, List.length_append,
    List.length_replicate]
  omega

theorem totpCode_valid {secret : Bytes} {step : Int} {code : String}
    (ok : totpCode codec secret step = .ok code) : validTotpCode code = true := by
  unfold totpCode at ok
  split at ok
  · cases ok
  · injection ok with same
    rw [← same]
    exact sixDigits_valid (Nat.mod_lt _ (by decide))

/-- The code of the next step is always taken as that of the next step. -/
theorem matchStep_next {secret : Bytes} {current : Int} (late : 1 ≤ current)
    (early : current < 2 ^ 62) :
    ∃ code, totpCode codec secret (saturatingAdd current 1) = .ok code ∧
      matchStep codec secret code current = .ok (some (saturatingAdd current 1)) := by
  have coded : ∀ step, 0 ≤ step → ∃ code, totpCode codec secret step = .ok code := by
    intro step positive
    unfold totpCode
    rw [if_neg (by omega)]
    exact ⟨_, rfl⟩
  obtain ⟨first, here⟩ := coded current (by omega)
  obtain ⟨second, before⟩ := coded (saturatingSub current 1) (by unfold saturatingSub; omega)
  obtain ⟨third, after⟩ := coded (saturatingAdd current 1) (by unfold saturatingAdd; omega)
  refine ⟨third, after, ?_⟩
  unfold matchStep
  simp only [List.foldlM_cons, List.foldlM_nil]
  rw [here, before, after]
  show Except.ok (if third = third then some (saturatingAdd current 1) else _) = _
  rw [if_pos rfl]

/-- An active enrollment of the administrator. -/
def activeEnrollment : EnrollmentRow where
  subjectUid := Expiry.sampleAdmin.uid
  enrollmentId := ""
  secretNonce := List.replicate 12 0
  secretCiphertext := List.replicate 36 0
  state := .active
  firstConfirmedStep := none
  lastObservedStep := none
  createdAt := 0
  expiresAt := 0
  activatedAt := none

def sampleSecret : Bytes := List.replicate 20 0

/-- A session with an enrollment and a claim for a plan. -/
def stepUpStore (codec : AgentCodec) (now : Int) : Store :=
  { emptyStore with
    sessions := [newSession (sessionDigest codec Expiry.sampleToken) Expiry.sampleAdmin
      .publicEdge now]
    enrollments := [activeEnrollment]
    reauthClaims := [Outcomes.issuedClaim codec Expiry.sampleToken Expiry.sampleAdmin
      (.operation "plan") Expiry.sampleNextToken now] }

def stepUpAttempt (now : Int) (code : String) : Attempt :=
  ⟨.issueOperationClaim Expiry.sampleToken Expiry.sampleAdmin Expiry.sampleNextToken "plan" code
    (fun _ => some sampleSecret) (some Expiry.sampleToken), now, []⟩

theorem inColumns_stepUpStore {now : Int} : InColumns (stepUpStore codec now) := by
  intro claim member
  rw [List.mem_singleton.mp member]
  show saturatingAdd now reauthClaimMs ≤ 2 ^ 63 - 1
  unfold saturatingAdd
  omega

/-- The step after that of the clock. -/
def nextStep (now : Int) : Int := saturatingAdd (now / 30000) 1

/-- The store once the next step is reserved. -/
def reservedStore (codec : AgentCodec) (now : Int) : Store :=
  { stepUpStore codec now with usedSteps := [⟨Expiry.sampleAdmin.uid, nextStep now, now⟩] }

/-- The store once the step is observed too. -/
def observedStore (codec : AgentCodec) (now : Int) : Store :=
  { reservedStore codec now with
    enrollments := [{ activeEnrollment with lastObservedStep := observed (nextStep now) none }] }

/-- The store with the additional claim. -/
def steppedStore (codec : AgentCodec) (now : Int) : Store :=
  { observedStore codec now with
    additionalClaims := [Outcomes.steppedUpClaim codec Expiry.sampleToken Expiry.sampleAdmin
      Expiry.sampleNextToken "plan" Expiry.sampleToken now] }

section StepUp

variable {now : Int} {code : String}

section

variable (late : 30000 ≤ now)
  (matched : matchStep codec sampleSecret code (now / 30000) = .ok (some (nextStep now)))
include late matched

theorem yields_matchAndReserveStep :
    Yields (matchAndReserveStep codec Expiry.sampleAdmin.uid sampleSecret code now none)
      (stepUpStore codec now) (.ok (nextStep now)) (reservedStore codec now) := by
  have time : timeStep now = .ok (now / 30000) := by
    unfold timeStep
    rw [if_neg (by omega)]
    rfl
  have positive : ¬nextStep now < 0 := by
    unfold nextStep saturatingAdd
    omega
  have reserved : Yields (reserveStep Expiry.sampleAdmin.uid (nextStep now) now)
      (stepUpStore codec now) (.ok true) (reservedStore codec now) := by
    refine run_statement_quiet ?_
    rw [if_neg (by simp [positive, stepUpStore, emptyStore])]
    exact if_pos rfl
  refine (Yields.checked time).bind ((Yields.passes ?_).bind ?_)
  · rintro ⟨last, impossible, -⟩
    cases impossible
  · refine (Yields.checked matched).bind (reserved.bind ((Yields.passes ?_).bind (Yields.ret _)))
    rintro ⟨⟩

theorem yields_verifyActive :
    Yields (verifyActive codec Expiry.sampleAdmin.uid code now fun _ => some sampleSecret)
      (stepUpStore codec now) (.ok (nextStep now)) (observedStore codec now) := by
  have opened : decryptSecret (fun _ => some sampleSecret) activeEnrollment =
      .ok sampleSecret := rfl
  have updated : Yields (updateObservedStep Expiry.sampleAdmin.uid (nextStep now))
      (reservedStore codec now) (.ok ()) (observedStore codec now) :=
    Yields.bind Yields.update (Yields.ret ())
  refine (Yields.select _).bind ((Yields.checked rfl).bind ((Yields.checked opened).bind ?_))
  exact (yields_matchAndReserveStep late matched).bind (updated.bind (Yields.ret _))

end

theorem yields_validateOperationReauthClaim (early : now < 2 ^ 63 - 1) :
    Yields (validateOperationReauthClaim codec Expiry.sampleToken Expiry.sampleAdmin.uid
      Expiry.sampleNextToken "plan" now) (stepUpStore codec now) (.ok ())
      (stepUpStore codec now) := by
  have lasting : now < saturatingAdd now reauthClaimMs := by
    unfold saturatingAdd reauthClaimMs
    omega
  refine (Yields.select _).bind (Yields.passes ?_)
  simp [stepUpStore, meetsClaim, Outcomes.issuedClaim, reauthContext, lasting]

theorem yields_insertAdditionalClaim :
    Yields (insertAdditionalClaim (Outcomes.steppedUpClaim codec Expiry.sampleToken
      Expiry.sampleAdmin Expiry.sampleNextToken "plan" Expiry.sampleToken now))
      (observedStore codec now) (.ok ()) (steppedStore codec now) := by
  have named : "plan".length = 4 := rfl
  refine Yields.insert ?_
  simp [Outcomes.steppedUpClaim, observedStore, reservedStore, stepUpStore, newSession,
    Expiry.sampleAdmin, emptyStore, named]

/-- The step of the code is used, and then the end cannot be written out. -/
theorem yields_issueOperationClaim (late : 30000 ≤ now) (early : now < 2 ^ 63 - 1)
    (unwritten : ¬ClaimEndWritten codec now) (valid : validTotpCode code = true)
    (matched : matchStep codec sampleSecret code (now / 30000) = .ok (some (nextStep now))) :
    Yields (issueOperationClaim codec Expiry.sampleToken Expiry.sampleAdmin
      Expiry.sampleNextToken "plan" code now (fun _ => some sampleSecret)
      (some Expiry.sampleToken)) (stepUpStore codec now) (.error .storage)
      (steppedStore codec now) := by
  have named : ¬("plan".isEmpty = true ∨ 128 < "plan".utf8ByteSize) := by decide
  have failed : (formatRfc3339 codec (saturatingAdd now claimTtlMs)).mapError
      (fun _ => AgentError.storage) = .error .storage := by
    unfold formatRfc3339
    rw [Option.not_isSome_iff_eq_none.mp unwritten]
    rfl
  refine (Yields.passes (by simp [valid])).bind ((Yields.passes named).bind ?_)
  refine @Yields.bind _ _ _ (steppedStore codec now) _ _ _ (.committed Expiry.sampleToken) _
    (Yields.transaction ?_) (Yields.failed (Yields.checked failed))
  refine (yields_validateOperationReauthClaim early).bind
    ((yields_verifyActive late matched).bind ?_)
  refine (Yields.checked rfl).bind (yields_insertAdditionalClaim.bind ?_)
  exact Yields.audit.bind (Yields.ret _)

end StepUp

theorem stepUp_fails {now : Int} (late : 30000 ≤ now) (early : now < 2 ^ 63 - 1)
    (unwritten : ¬ClaimEndWritten codec now) :
    ∃ code, resultOf codec (stepUpStore codec now) (stepUpAttempt now code) = .error .storage ∧
      (storeAfter codec (stepUpStore codec now) (stepUpAttempt now code)).usedSteps ≠
        (stepUpStore codec now).usedSteps := by
  obtain ⟨code, coded, matched⟩ := @matchStep_next codec sampleSecret (now / 30000) (by omega)
    (by omega)
  have answered := Yields.map Answer.verified
    (yields_issueOperationClaim late early unwritten (totpCode_valid coded) matched)
  have stored : storeAfter codec (stepUpStore codec now) (stepUpAttempt now code) =
      steppedStore codec now := congrArg (fun outcome => outcome.2.store) answered
  refine ⟨code, congrArg Prod.fst answered, ?_⟩
  rw [stored]
  exact List.cons_ne_nil _ _

/-! ### Protection against replay -/

/-- An administrator enrolls in the last minutes of the year 9999 and reauthenticates for a plan. -/
def enrolledAttempts : List Attempt :=
  [⟨.issueSession Expiry.sampleAdmin .recovery (some Expiry.sampleToken), 253402300100000, []⟩,
    ⟨.issueReauthClaim Expiry.sampleToken Expiry.sampleAdmin .totpEnrollment
      (some Expiry.sampleToken), 253402300100000, []⟩,
    ⟨.beginEnrollment Expiry.sampleToken Expiry.sampleAdmin .recovery Expiry.sampleToken "host"
      (some SingleUse.sampleMaterial), 253402300100000, []⟩,
    ⟨.confirmEnrollment Expiry.sampleAdmin .recovery "00000000000000000000000000000000" "000000"
      (fun _ => some sampleSecret), 253402300100000, []⟩,
    ⟨.confirmEnrollment Expiry.sampleAdmin .recovery "00000000000000000000000000000000" "000000"
      (fun _ => some sampleSecret), 253402300130000, []⟩,
    ⟨.issueReauthClaim Expiry.sampleToken Expiry.sampleAdmin (.operation "plan")
      (some Expiry.sampleNextToken), 253402300400000, []⟩]

end JwOps.Agentd.Replay
