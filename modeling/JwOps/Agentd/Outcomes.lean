/- module: Agentd/Outcomes
   source: crates/jw-agentd/src/session.rs, crates/jw-agentd/src/totp.rs
   digest: What the calls on claims, enrollments and the policy leave in the store, each said
   once. -/
import JwOps.Agentd.Claims

set_option autoImplicit false

namespace JwOps.Agentd.Outcomes

open Contracts.Operation Tables Totp Claims Foundation.Transaction

/-- The call failed and left the store as it was. -/
def Failed {α : Type} (store : Store) (result : Except AgentError α) (after : Store) : Prop :=
  after = store ∧ ∃ error, result = .error error

theorem failed {α : Type} {store : Store} (error : AgentError) :
    Failed store (.error error : Except AgentError α) store :=
  ⟨rfl, error, rfl⟩

/-! ### Claims -/

/-- The reauthentication claim that a call consumes, and what it consumes it for. -/
structure ClaimUse where
  digest : Bytes
  session : Bytes
  subjectUid : UInt32
  purpose : ClaimPurpose
  context : String
  deriving DecidableEq, Repr

def ClaimUse.meets (use : ClaimUse) (now : Int) (row : ReauthClaimRow) : Bool :=
  meetsClaim use.digest use.session use.subjectUid use.purpose use.context now row

/-- The use that one conditional update makes of a claim. -/
def claimUse (codec : AgentCodec) (sessionToken : String) (subjectUid : UInt32)
    (purpose : ClaimPurpose) (context token : String) : ClaimUse :=
  ⟨claimDigest codec token, sessionDigest codec sessionToken, subjectUid, purpose, context⟩

/-- The rows after one conditional update. -/
def consumedRows (use : ClaimUse) (now : Int) (rows : List ReauthClaimRow) : List ReauthClaimRow :=
  rows.map fun row => if use.meets now row then { row with consumedAt := some now } else row

def consumedAdditional (codec : AgentCodec) (authorization : OperationAuthorization)
    (claim : String) (rows : List AdditionalClaimRow) : List AdditionalClaimRow :=
  rows.map fun row =>
    if meetsAdditional codec authorization claim row then
      { row with consumedAt := some authorization.now }
    else row

/-- The row of a reauthentication claim. -/
def issuedClaim (codec : AgentCodec) (sessionToken : String) (subject : Subject)
    (purpose : ReauthPurpose) (token : String) (now : Int) : ReauthClaimRow :=
  ⟨claimDigest codec token, sessionDigest codec sessionToken, subject.uid,
    (reauthContext purpose).1, (reauthContext purpose).2, saturatingAdd now reauthClaimMs, none⟩

/-- The row of an additional claim. -/
def steppedUpClaim (codec : AgentCodec) (sessionToken : String) (subject : Subject)
    (reauthToken planHash token : String) (now : Int) : AdditionalClaimRow :=
  ⟨additionalClaimDigest codec token, claimDigest codec reauthToken,
    sessionDigest codec sessionToken, subject.uid, planHash, saturatingAdd now claimTtlMs, none⟩

/-- The store after the reauthentication claim was consumed. -/
def paid (use : ClaimUse) (now : Int) (store : Store) : Store :=
  { store with reauthClaims := consumedRows use now store.reauthClaims }

section Calls

variable {codec : AgentCodec} {sessionToken reauthToken planHash code contextDigest : String}
  {subject : Subject} {ingress : IngressChannel} {uid : UInt32} {now : Int} {store : Store}
  {opened : EnrollmentRow → Option Bytes} {random : Option String}

variable {authorization : OperationAuthorization} {enrollmentId : String} {row : EnrollmentRow}

theorem consumeClaim_spec {purpose : ClaimPurpose} {context token : String}
    {refused : AgentError} :
    Outcome (consumeClaim codec sessionToken uid purpose context token now refused) store
      fun result after =>
        match result with
        | .error _ => True
        | .ok _ =>
          store.reauthClaims.countP
            ((claimUse codec sessionToken uid purpose context token).meets now) = 1 ∧
          after = paid (claimUse codec sessionToken uid purpose context token) now store := by
  unfold consumeClaim updateReauthClaims
  refine Outcome.bind (outcome_update trivial ?_)
  refine Outcome.rejectIf trivial ?_
  intro one
  exact ⟨not_not.mp one, rfl⟩

theorem consumeAdditional_spec :
    Outcome (consumeAdditional codec authorization) store fun result after =>
      match result with
      | .error _ => True
      | .ok _ =>
        (authorization.additionalAuthRequired = false ∧
          authorization.additionalAuthClaim = none ∧ after = store) ∨
        ∃ claim, authorization.additionalAuthRequired = true ∧
          authorization.additionalAuthClaim = some claim ∧
          store.additionalClaims.countP (meetsAdditional codec authorization claim) = 1 ∧
          after = { store with
            additionalClaims := consumedAdditional codec authorization claim
              store.additionalClaims } := by
  unfold consumeAdditional
  split
  · rename_i required claimed
    exact Outcome.ret _ (.inl ⟨required, claimed, rfl⟩)
  · exact Outcome.fail _ trivial
  · exact Outcome.fail _ trivial
  · rename_i claim required claimed
    refine Outcome.bind (Outcome.rejectIf trivial fun _ => ?_)
    unfold updateAdditionalClaims
    refine Outcome.bind (outcome_update trivial (Outcome.rejectIf trivial fun one => ?_))
    exact .inr ⟨claim, required, claimed, not_not.mp one, rfl⟩

/-- The claim that an operation is authorized with. -/
def OperationAuthorization.use (codec : AgentCodec) (authorization : OperationAuthorization) :
    ClaimUse :=
  claimUse codec authorization.sessionToken authorization.subject.uid .operation
    authorization.planHash authorization.reauthToken

/-- Both claims in one transaction, or none. -/
theorem consumeOperationClaims_spec :
    Outcome (consumeOperationClaims codec authorization) store fun result after =>
      Failed store result after ∨
      (result = .ok () ∧
        store.reauthClaims.countP
          ((OperationAuthorization.use codec authorization).meets authorization.now) = 1 ∧
        ((authorization.additionalAuthRequired = false ∧
            authorization.additionalAuthClaim = none ∧
            after = paid (OperationAuthorization.use codec authorization) authorization.now
              store) ∨
          ∃ claim, authorization.additionalAuthRequired = true ∧
            authorization.additionalAuthClaim = some claim ∧
            store.additionalClaims.countP (meetsAdditional codec authorization claim) = 1 ∧
            after = { paid (OperationAuthorization.use codec authorization) authorization.now
                store with
              additionalClaims := consumedAdditional codec authorization claim
                store.additionalClaims })) := by
  unfold consumeOperationClaims
  refine Outcome.bind (Outcome.rejectIf (.inl (failed _)) fun _ => ?_)
  refine Outcome.bind (Outcome.transaction (.inl (failed _)) ?_)
  refine Outcome.bind (consumeClaim_spec.mono ?_)
  rintro (error | value) reached spec
  · exact .inl (failed error)
  obtain ⟨one, rfl⟩ := spec
  refine Outcome.bind (consumeAdditional_spec.mono ?_)
  rintro (error | value) reached spec
  · exact .inl (failed error)
  exact Outcome.ret _ (Outcome.ret _ (.inr ⟨rfl, one, spec⟩))

theorem issueReauthClaim_spec {purpose : ReauthPurpose} :
    Outcome (issueReauthClaim codec sessionToken subject purpose now random) store
      fun _ after => after = store ∨ ∃ token, random = some token ∧
        (∀ other ∈ store.reauthClaims, other.tokenDigest ≠ claimDigest codec token) ∧
        after = { store with
          reauthClaims := store.reauthClaims ++
            [issuedClaim codec sessionToken subject purpose token now] } := by
  unfold issueReauthClaim
  refine Outcome.bind (outcome_check ?_)
  cases random with
  | none => exact .inl rfl
  | some token =>
  unfold insertReauthClaim
  refine Outcome.bind (outcome_insert (.inl rfl) fun admitted => ?_)
  have fresh : ∀ other ∈ store.reauthClaims, other.tokenDigest ≠ claimDigest codec token := by
    intro other member same
    simp only [Bool.and_eq_true, Bool.not_eq_true', List.any_eq_false] at admitted
    exact admitted.2 other member (by simp [same])
  refine Outcome.bind (outcome_check ?_)
  split
  · exact Outcome.ret _ (.inr ⟨token, rfl, fresh, rfl⟩)
  · exact .inr ⟨token, rfl, fresh, rfl⟩

/-! ### The policy -/

/-- What `update_additional_auth_policy` checks before its transaction, on another connection. -/
def checkPolicyUpdate (subject : Subject) (target : AdditionalAuthPolicy)
    (opened : EnrollmentRow → Option Bytes) : StoreM Unit := do
  rejectIf (subject.role ≠ .admin) .denied
  requireProvider subject target opened

/-- The transaction of `update_additional_auth_policy`. -/
def writePolicy (codec : AgentCodec) (sessionToken : String) (subject : Subject)
    (target : AdditionalAuthPolicy) (reauthToken : Option String) (now : Int) : StoreM Unit := do
  let _ ← transaction .storage do
    let _ ← select Store.additionalAuthPolicy
    match reauthToken with
    | none => throw .reauthRequired
    | some token =>
      consumePolicyClaim codec sessionToken subject.uid target token now
      execute .storage fun store => { store with additionalAuthPolicy := target }
      pure (Ending.committed () : Ending Unit Unit)

variable {target : AdditionalAuthPolicy}

theorem updateAdditionalAuthPolicy_halves {reauthToken : Option String} :
    updateAdditionalAuthPolicy codec sessionToken subject target reauthToken now opened =
      checkPolicyUpdate subject target opened >>= fun _ =>
        writePolicy codec sessionToken subject target reauthToken now := by
  unfold updateAdditionalAuthPolicy checkPolicyUpdate writePolicy
  refine Eq.trans ?_ (bind_assoc _ _ _).symm
  rfl

theorem loadPendingEnrollment_ok
    (loaded : loadPendingEnrollment store uid enrollmentId = .ok row) :
    row ∈ store.enrollments ∧ row.subjectUid = uid ∧ row.enrollmentId = enrollmentId ∧
      row.state = .pending := by
  unfold loadPendingEnrollment at loaded
  split at loaded
  · rename_i present
    injection loaded with same
    subst same
    have meets := List.find?_some present
    simp only [Bool.and_eq_true, beq_iff_eq] at meets
    exact ⟨List.mem_of_find?_eq_some present, meets.1.1, meets.1.2, meets.2⟩
  · cases loaded

theorem loadActiveEnrollment_ok (loaded : loadActiveEnrollment store uid = .ok row) :
    row ∈ store.enrollments ∧ row.subjectUid = uid ∧ row.state = .active := by
  unfold loadActiveEnrollment at loaded
  split at loaded
  · rename_i present
    injection loaded with same
    subst same
    have meets := List.find?_some present
    simp only [Bool.and_eq_true, beq_iff_eq] at meets
    exact ⟨List.mem_of_find?_eq_some present, meets.1, meets.2⟩
  · cases loaded

theorem providerStatus_spec :
    Outcome (providerStatus opened uid) store fun result after =>
      after = store ∧ (result = .ok .ready →
        ∃ row ∈ store.enrollments, row.subjectUid = uid ∧ row.state = .active) := by
  unfold providerStatus
  refine Outcome.bind (outcome_select ⟨rfl, nofun⟩ ?_)
  cases loaded : loadActiveEnrollment store uid with
  | error error => exact Outcome.ret _ ⟨rfl, nofun⟩
  | ok row =>
      have present : ∃ row ∈ store.enrollments, row.subjectUid = uid ∧ row.state = .active :=
        ⟨row, loadActiveEnrollment_ok loaded⟩
      dsimp only
      split
      · exact Outcome.ret _ ⟨rfl, fun _ => present⟩
      · exact Outcome.ret _ ⟨rfl, fun _ => present⟩

/-- The check changes nothing and, but for the policy without claims, finds an enrollment. -/
theorem checkPolicyUpdate_spec :
    Outcome (checkPolicyUpdate subject target opened) store fun result after =>
      after = store ∧ (result = .ok () → target ≠ .disabled →
        ∃ row ∈ store.enrollments, row.subjectUid = subject.uid ∧ row.state = .active) := by
  unfold checkPolicyUpdate requireProvider
  refine Outcome.bind (Outcome.rejectIf ⟨rfl, nofun⟩ fun _ => ?_)
  by_cases disabled : target = .disabled
  · rw [if_pos disabled]
    exact Outcome.ret _ ⟨rfl, fun _ enabled => absurd disabled enabled⟩
  · rw [if_neg disabled]
    refine Outcome.bind (outcome_mapError (providerStatus_spec.mono ?_))
    rintro (error | status) after ⟨rfl, ready⟩
    · exact ⟨rfl, nofun⟩
    · refine Outcome.rejectIf ⟨rfl, nofun⟩ fun accepted => ⟨rfl, fun _ _ => ?_⟩
      rw [not_not] at accepted
      exact ready (congrArg Except.ok accepted)

theorem writePolicy_spec {reauthToken : Option String} :
    Outcome (writePolicy codec sessionToken subject target reauthToken now) store
      fun result after => Failed store result after ∨ ∃ token, reauthToken = some token ∧
        result = .ok () ∧
        store.reauthClaims.countP ((claimUse codec sessionToken subject.uid .securityPolicyChange
          target.asStorageValue token).meets now) = 1 ∧
        after = { paid (claimUse codec sessionToken subject.uid .securityPolicyChange
          target.asStorageValue token) now store with additionalAuthPolicy := target } := by
  unfold writePolicy
  refine Outcome.bind (Outcome.transaction (.inl (failed _)) ?_)
  refine Outcome.bind (outcome_select (.inl (failed _)) ?_)
  cases reauthToken with
  | none => exact Outcome.fail _ (.inl (failed _))
  | some token =>
  unfold consumePolicyClaim
  refine Outcome.bind (Outcome.bind (Outcome.rejectIf (.inl (failed _)) fun _ => ?_))
  refine consumeClaim_spec.mono ?_
  rintro (error | value) reached spec
  · exact .inl (failed error)
  obtain ⟨one, rfl⟩ := spec
  refine Outcome.bind (Outcome.execute (.inl (failed _)) (Outcome.ret _ (Outcome.ret _ ?_)))
  exact .inr ⟨token, rfl, rfl, one, rfl⟩

theorem updateAdditionalAuthPolicy_spec {reauthToken : Option String} :
    Outcome (updateAdditionalAuthPolicy codec sessionToken subject target reauthToken now opened)
      store fun result after => Failed store result after ∨ ∃ token, reauthToken = some token ∧
        result = .ok () ∧
        (target ≠ .disabled →
          ∃ row ∈ store.enrollments, row.subjectUid = subject.uid ∧ row.state = .active) ∧
        store.reauthClaims.countP ((claimUse codec sessionToken subject.uid .securityPolicyChange
          target.asStorageValue token).meets now) = 1 ∧
        after = { paid (claimUse codec sessionToken subject.uid .securityPolicyChange
          target.asStorageValue token) now store with additionalAuthPolicy := target } := by
  rw [updateAdditionalAuthPolicy_halves]
  refine Outcome.bind (checkPolicyUpdate_spec.mono ?_)
  rintro (error | passed) reached ⟨rfl, backed⟩
  · exact .inl (failed error)
  refine writePolicy_spec.mono ?_
  rintro result after (unchanged | ⟨token, given, ok, one, same⟩)
  · exact .inl unchanged
  · exact .inr ⟨token, given, ok, backed rfl, one, same⟩

/-! ### Codes -/

/-- The code is accepted for the enrollment as that of the step. -/
structure Accepts (codec : AgentCodec) (uid : UInt32) (code : String) (now : Int)
    (opened : EnrollmentRow → Option Bytes) (store : Store) (row : EnrollmentRow) (step : Int) :
    Prop where
  matched : ∃ secret current, decryptSecret opened row = .ok secret ∧
    timeStep now = .ok current ∧ matchStep codec secret code current = .ok (some step)
  ahead : ∀ last ∈ row.lastObservedStep, last ≤ saturatingAdd (now / 30000) 1
  fresh : ∀ other ∈ store.usedSteps, ¬(other.subjectUid = uid ∧ other.timeStep = step)

/-- The step is used, and the enrollments have changed so. -/
def verifiedStore (uid : UInt32) (step now : Int) (change : EnrollmentRow → EnrollmentRow)
    (store : Store) : Store :=
  { store with
    usedSteps := store.usedSteps ++ [⟨uid, step, now⟩]
    enrollments := store.enrollments.map change }

def observedRow (uid : UInt32) (step : Int) (row : EnrollmentRow) : EnrollmentRow :=
  if row.subjectUid == uid && row.state == .active then
    { row with lastObservedStep := observed step row.lastObservedStep }
  else row

/-- Every row after the confirmation of a step for the enrollment of the record. -/
def confirmedRow (uid : UInt32) (enrollmentId : String) (record : EnrollmentRow) (step now : Int)
    (row : EnrollmentRow) : EnrollmentRow :=
  if row.subjectUid == uid && row.enrollmentId == enrollmentId && row.state == .pending then
    match record.firstConfirmedStep with
    | none => { row with
        firstConfirmedStep := some step
        lastObservedStep := observed step row.lastObservedStep }
    | some _ => { row with
        state := .active
        activatedAt := some now
        lastObservedStep := observed step row.lastObservedStep }
  else row

def confirmedState (record : EnrollmentRow) : ConfirmState :=
  match record.firstConfirmedStep with
  | none => .awaitingNextCode
  | some _ => .ready

theorem timeStep_ok {current : Int} (ok : timeStep now = .ok current) :
    0 ≤ now ∧ current = now / 30000 := by
  unfold timeStep at ok
  split at ok
  · cases ok
  · rename_i positive
    injection ok with same
    exact ⟨by omega, same.symm⟩

theorem reserveStep_spec {step : Int} :
    Outcome (reserveStep uid step now) store fun result after =>
      match result with
      | .error _ => True
      | .ok inserted => inserted = true →
        (∀ row ∈ store.usedSteps, ¬(row.subjectUid = uid ∧ row.timeStep = step)) ∧
        after = { store with usedSteps := store.usedSteps ++ [⟨uid, step, now⟩] } := by
  unfold reserveStep
  refine Outcome.statement trivial ?_
  cases used : step < 0 || store.usedSteps.any fun row =>
      row.subjectUid == uid && row.timeStep == step with
  | true =>
      rw [if_pos rfl]
      intro impossible
      cases impossible
  | false =>
      rw [if_neg Bool.false_ne_true]
      by_cases enrolled : (store.enrollments.any fun row => row.subjectUid == uid) = true
      · rw [if_pos enrolled]
        intro _
        refine ⟨?_, rfl⟩
        intro row member
        rw [Bool.or_eq_false_iff, List.any_eq_false] at used
        simpa using used.2 row member
      · rw [if_neg enrolled]
        trivial

theorem matchAndReserveStep_spec {secret : Bytes}
    (secretOk : decryptSecret opened row = .ok secret) :
    Outcome (matchAndReserveStep codec uid secret code now row.lastObservedStep) store
      fun result after =>
        match result with
        | .error _ => True
        | .ok step => Accepts codec uid code now opened store row step ∧
          after = { store with usedSteps := store.usedSteps ++ [⟨uid, step, now⟩] } := by
  unfold matchAndReserveStep
  refine Outcome.bind (outcome_check ?_)
  cases time : timeStep now with
  | error error => trivial
  | ok current =>
  refine Outcome.bind (Outcome.rejectIf trivial fun behind => ?_)
  refine Outcome.bind (outcome_check ?_)
  cases found : matchStep codec secret code current with
  | error error => trivial
  | ok matched =>
  cases matched with
  | none => exact Outcome.fail _ trivial
  | some step =>
  refine Outcome.bind (reserveStep_spec.mono ?_)
  rintro (error | inserted) after reserved
  · trivial
  refine Outcome.bind (Outcome.rejectIf trivial fun accepted => Outcome.ret _ ?_)
  obtain ⟨fresh, rfl⟩ := reserved (by simpa using accepted)
  refine ⟨⟨⟨secret, current, secretOk, time, found⟩, ?_, fresh⟩, rfl⟩
  intro last member
  rw [← (timeStep_ok time).2]
  by_contra later
  refine behind ⟨last, member, ?_⟩
  unfold maxClockRollbackSteps
  omega

/-- What a code for an active enrollment does, before the transaction ends. -/
theorem verifyActive_spec :
    Outcome (verifyActive codec uid code now opened) store fun result after =>
      match result with
      | .error _ => True
      | .ok step => ∃ row, loadActiveEnrollment store uid = .ok row ∧
        Accepts codec uid code now opened store row step ∧
        after = verifiedStore uid step now (observedRow uid step) store := by
  unfold verifyActive
  refine Outcome.bind (outcome_select trivial ?_)
  refine Outcome.bind (outcome_check ?_)
  cases loaded : loadActiveEnrollment store uid with
  | error error => trivial
  | ok row =>
  refine Outcome.bind (outcome_check ?_)
  cases secretOk : decryptSecret opened row with
  | error error => trivial
  | ok secret =>
  refine Outcome.bind ((matchAndReserveStep_spec secretOk).mono ?_)
  rintro (error | step) after reserved
  · trivial
  obtain ⟨accepts, rfl⟩ := reserved
  unfold updateObservedStep updateEnrollments
  refine Outcome.bind (Outcome.bind (outcome_update trivial (Outcome.ret _ (Outcome.ret _ ?_))))
  exact ⟨row, rfl, accepts, rfl⟩

theorem confirmStep_spec {record : EnrollmentRow} {step : Int} :
    Outcome (confirmStep uid enrollmentId record step now) store fun result after =>
      match result with
      | .error _ => True
      | .ok state => state = confirmedState record ∧ after = { store with
          enrollments := store.enrollments.map
            (confirmedRow uid enrollmentId record step now) } := by
  unfold confirmStep updateEnrollments confirmedState confirmedRow
  cases record.firstConfirmedStep with
  | none => exact Outcome.bind (outcome_update trivial (Outcome.ret _ ⟨rfl, rfl⟩))
  | some first =>
      dsimp only
      split
      · exact Outcome.bind (outcome_update trivial (Outcome.ret _ ⟨rfl, rfl⟩))
      · exact Outcome.fail _ trivial

theorem confirmEnrollment_spec :
    Outcome (confirmEnrollment codec subject ingress enrollmentId code now opened) store
      fun result after => Failed store result after ∨ ∃ row step,
        loadPendingEnrollment store subject.uid enrollmentId = .ok row ∧
        Accepts codec subject.uid code now opened store row step ∧
        result = .ok (confirmedState row) ∧
        after = verifiedStore subject.uid step now
          (confirmedRow subject.uid enrollmentId row step now) store := by
  unfold confirmEnrollment
  refine Outcome.bind (Outcome.rejectIf (.inl (failed _)) fun _ => ?_)
  refine Outcome.bind (Outcome.rejectIf (.inl (failed _)) fun _ => ?_)
  refine Outcome.bind (Outcome.rejectIf (.inl (failed _)) fun _ => ?_)
  refine Outcome.bind (Outcome.transaction (.inl (failed _)) ?_)
  refine Outcome.bind (outcome_select (.inl (failed _)) ?_)
  refine Outcome.bind (outcome_check ?_)
  cases loaded : loadPendingEnrollment store subject.uid enrollmentId with
  | error error => exact .inl (failed error)
  | ok row =>
  refine Outcome.bind (Outcome.rejectIf (.inl (failed _)) fun _ => ?_)
  refine Outcome.bind (outcome_check ?_)
  cases secretOk : decryptSecret opened row with
  | error error => exact .inl (failed error)
  | ok secret =>
  refine Outcome.bind ((matchAndReserveStep_spec secretOk).mono ?_)
  rintro (error | step) reached reserved
  · exact .inl (failed error)
  obtain ⟨accepts, rfl⟩ := reserved
  refine Outcome.bind (confirmStep_spec.mono ?_)
  rintro (error | state) reached confirmed
  · exact .inl (failed error)
  obtain ⟨rfl, rfl⟩ := confirmed
  refine Outcome.bind (outcome_audit (.inl (failed _)) (Outcome.ret _ (Outcome.ret _ ?_)))
  exact .inr ⟨row, step, rfl, accepts, rfl, rfl⟩

theorem verifyDirectContext_spec :
    Outcome (verifyDirectContext codec subject contextDigest code now opened) store
      fun result after => Failed store result after ∨ ∃ row step,
        loadActiveEnrollment store subject.uid = .ok row ∧
        Accepts codec subject.uid code now opened store row step ∧ result = .ok () ∧
        after = verifiedStore subject.uid step now (observedRow subject.uid step) store := by
  unfold verifyDirectContext
  refine Outcome.bind (Outcome.rejectIf (.inl (failed _)) fun _ => ?_)
  refine Outcome.bind (Outcome.rejectIf (.inl (failed _)) fun _ => ?_)
  refine Outcome.bind (Outcome.transaction (.inl (failed _)) ?_)
  refine Outcome.bind (verifyActive_spec.mono ?_)
  rintro (error | step) reached verified
  · exact .inl (failed error)
  obtain ⟨row, loaded, accepts, rfl⟩ := verified
  refine Outcome.bind (outcome_audit (.inl (failed _)) (Outcome.ret _ (Outcome.ret _ ?_)))
  exact .inr ⟨row, step, loaded, accepts, rfl, rfl⟩

/-- The step is used up with the commit, and the answer is written out afterwards. -/
theorem issueOperationClaim_spec :
    Outcome (issueOperationClaim codec sessionToken subject reauthToken planHash code now opened
      random) store fun result after => Failed store result after ∨ ∃ row step token,
        loadActiveEnrollment store subject.uid = .ok row ∧
        Accepts codec subject.uid code now opened store row step ∧
        (∃ claim ∈ store.reauthClaims, now < claim.expiresAt) ∧ random = some token ∧
        (∀ other ∈ store.additionalClaims,
          other.tokenDigest ≠ additionalClaimDigest codec token) ∧
        after = { verifiedStore subject.uid step now (observedRow subject.uid step) store with
          additionalClaims := store.additionalClaims ++
            [steppedUpClaim codec sessionToken subject reauthToken planHash token now] } ∧
        ((∃ view, result = .ok view) ↔
          (codec.rfc3339 (saturatingAdd now claimTtlMs)).isSome = true) := by
  unfold issueOperationClaim validateOperationReauthClaim
  refine Outcome.bind (Outcome.rejectIf (.inl (failed _)) fun _ => ?_)
  refine Outcome.bind (Outcome.rejectIf (.inl (failed _)) fun _ => ?_)
  refine Outcome.bind (Outcome.transaction (.inl (failed _)) ?_)
  refine Outcome.bind (Outcome.bind (outcome_select (.inl (failed _)) ?_))
  refine Outcome.rejectIf (.inl (failed _)) fun valid => ?_
  have lasting : ∃ claim ∈ store.reauthClaims, now < claim.expiresAt := by
    rw [Bool.not_eq_false] at valid
    obtain ⟨claim, member, meets⟩ := List.any_eq_true.mp valid
    simp only [meetsClaim, Bool.and_eq_true, decide_eq_true_eq] at meets
    exact ⟨claim, member, meets.1.2⟩
  refine Outcome.bind (verifyActive_spec.mono ?_)
  rintro (error | step) reached verified
  · exact .inl (failed error)
  obtain ⟨row, loaded, accepts, rfl⟩ := verified
  refine Outcome.bind (outcome_check ?_)
  cases random with
  | none => exact .inl (failed _)
  | some token =>
  unfold insertAdditionalClaim
  refine Outcome.bind (outcome_insert (.inl (failed _)) fun admitted => ?_)
  have fresh : ∀ other ∈ store.additionalClaims,
      other.tokenDigest ≠ additionalClaimDigest codec token := by
    intro other member named
    simp only [Bool.and_eq_true, Bool.not_eq_true', List.any_eq_false] at admitted
    exact admitted.2 other member (by simp [named])
  refine Outcome.bind (outcome_audit (.inl (failed _)) (Outcome.ret _ ?_))
  refine Outcome.bind (outcome_check ?_)
  unfold formatRfc3339
  cases written : codec.rfc3339 (saturatingAdd now claimTtlMs) with
  | none =>
      refine .inr ⟨row, step, token, loaded, accepts, lasting, rfl, fresh, rfl, ?_⟩
      simp
  | some text =>
      refine Outcome.ret _
        (.inr ⟨row, step, token, loaded, accepts, lasting, rfl, fresh, rfl, ?_⟩)
      simp

/-! ### Enrollments -/

/-- The rows of the codes of an enrollment. -/
def codeRows (codec : AgentCodec) (uid : UInt32) (material : EnrollmentMaterial) :
    List RecoveryCodeRow :=
  (material.recovery.map recoveryCode).map fun code => ⟨uid, recoveryDigest codec uid code, none⟩

/-- The rows that an enrollment replaces when it is begun. -/
def unconfirmed (uid : UInt32) (row : EnrollmentRow) : Bool :=
  row.subjectUid == uid && row.state == .pending

/-- The store with an enrollment that is begun. -/
def enrolledStore (codec : AgentCodec) (uid : UInt32) (material : EnrollmentMaterial) (now : Int)
    (store : Store) : Store :=
  let cleared := deleteEnrollments (unconfirmed uid) store
  { cleared with
    enrollments := cleared.enrollments ++ [pendingEnrollment uid material now]
    recoveryCodes := cleared.recoveryCodes ++ codeRows codec uid material }

theorem insertRecoveryCodes_spec {codes : List String} :
    ∀ store : Store, Outcome (insertRecoveryCodes codec uid codes) store fun result after =>
      match result with
      | .error _ => True
      | .ok _ => after = { store with
          recoveryCodes := store.recoveryCodes ++
            codes.map fun code => ⟨uid, recoveryDigest codec uid code, none⟩ } := by
  induction codes with
  | nil =>
      intro store
      refine Outcome.ret _ ?_
      simp
  | cons code rest ih =>
      intro store
      unfold insertRecoveryCodes insertRecoveryCode
      refine Outcome.bind (outcome_insert trivial fun _ => (ih _).mono ?_)
      rintro (error | done) after spec
      · trivial
      · dsimp only at spec ⊢
        rw [spec, List.map_cons, List.append_assoc, List.singleton_append]

/-- The view is made after the commit, so the call may fail with the claim consumed: exactly when
the end of the enrollment cannot be written out. -/
theorem beginEnrollment_spec {serverLabel : String} {material : Option EnrollmentMaterial} :
    Outcome (beginEnrollment codec sessionToken subject ingress reauthToken serverLabel now
      material) store fun result after => Failed store result after ∨ ∃ drawn,
        material = some drawn ∧
        (∀ row ∈ store.enrollments, row.subjectUid = subject.uid → row.state = .pending) ∧
        store.reauthClaims.countP ((claimUse codec sessionToken subject.uid .totpEnrollment
          "totp/v1" reauthToken).meets now) = 1 ∧
        after = enrolledStore codec subject.uid drawn now (paid (claimUse codec sessionToken
          subject.uid .totpEnrollment "totp/v1" reauthToken) now store) ∧
        ((∃ view, result = .ok view) ↔
          (codec.rfc3339 (saturatingAdd now enrollmentTtlMs)).isSome = true) := by
  unfold beginEnrollment
  refine Outcome.bind (Outcome.rejectIf (.inl (failed _)) fun _ => ?_)
  cases material with
  | none => exact Outcome.fail _ (.inl (failed _))
  | some material =>
  refine Outcome.bind (Outcome.transaction (.inl (failed _)) ?_)
  refine Outcome.bind (outcome_select (.inl (failed _)) ?_)
  refine Outcome.bind (Outcome.rejectIf (.inl (failed _)) fun inactive => ?_)
  have pending : ∀ row ∈ store.enrollments, row.subjectUid = subject.uid →
      row.state = .pending := by
    intro row member owner
    cases state : row.state with
    | pending => rfl
    | active =>
        refine absurd (List.any_eq_true.mpr ⟨row, member, ?_⟩) inactive
        simp [owner, state]
  unfold consumeReauthClaim
  refine Outcome.bind (consumeClaim_spec.mono ?_)
  rintro (error | value) reached spec
  · exact .inl (failed error)
  obtain ⟨one, rfl⟩ := spec
  refine Outcome.bind (Outcome.execute (.inl (failed _)) ?_)
  unfold insertEnrollment
  refine Outcome.bind (outcome_insert (.inl (failed _)) fun _ => ?_)
  refine Outcome.bind ((insertRecoveryCodes_spec _).mono ?_)
  rintro (error | stored) after spec
  · exact .inl (failed error)
  dsimp only at spec
  subst spec
  refine Outcome.bind (outcome_audit (.inl (failed _)) (Outcome.ret _ ?_))
  refine Outcome.bind (outcome_check ?_)
  unfold formatRfc3339
  cases written : codec.rfc3339 (saturatingAdd now enrollmentTtlMs) with
  | none =>
      refine .inr ⟨material, rfl, pending, one, rfl, ?_⟩
      simp
  | some text =>
      refine Outcome.ret _ (.inr ⟨material, rfl, pending, one, rfl, ?_⟩)
      simp

/-- The store after a reset with the code of that digest. -/
def resetStore (uid : UInt32) (digest : Bytes) (now : Int) (store : Store) : Store :=
  { deleteEnrollments (fun row => row.subjectUid == uid) { store with
      recoveryCodes := store.recoveryCodes.map fun row =>
        if row.subjectUid == uid && row.codeDigest == digest && row.consumedAt.isNone then
          { row with consumedAt := some now }
        else row
      additionalClaims := store.additionalClaims.filter fun row => row.subjectUid != uid } with
    additionalAuthPolicy := .disabled
    sessions := store.sessions.map fun row =>
      if row.subject.uid == uid && row.revokedAt.isNone then { row with revokedAt := some now }
      else row }

theorem recoveryReset_spec {recoveryCode : String} :
    Outcome (recoveryReset codec sessionToken subject ingress reauthToken recoveryCode now) store
      fun result after => Failed store result after ∨
        (result = .ok () ∧
          store.reauthClaims.countP ((claimUse codec sessionToken subject.uid .totpRecoveryReset
            "totp/v1" reauthToken).meets now) = 1 ∧
          store.recoveryCodes.countP (fun row => row.subjectUid == subject.uid &&
            row.codeDigest == recoveryDigest codec subject.uid recoveryCode &&
            row.consumedAt.isNone) = 1 ∧
          after = resetStore subject.uid (recoveryDigest codec subject.uid recoveryCode) now
            (paid (claimUse codec sessionToken subject.uid .totpRecoveryReset "totp/v1"
              reauthToken) now store)) := by
  unfold recoveryReset
  refine Outcome.bind (Outcome.rejectIf (.inl (failed _)) fun _ => ?_)
  refine Outcome.bind (Outcome.transaction (.inl (failed _)) ?_)
  unfold consumeReauthClaim
  refine Outcome.bind (consumeClaim_spec.mono ?_)
  rintro (error | value) reached spec
  · exact .inl (failed error)
  obtain ⟨one, rfl⟩ := spec
  refine Outcome.bind (outcome_update (.inl (failed _)) ?_)
  refine Outcome.bind (Outcome.rejectIf (.inl (failed _)) fun met => ?_)
  refine Outcome.bind (outcome_audit (.inl (failed _)) ?_)
  refine Outcome.bind (Outcome.execute (.inl (failed _)) ?_)
  refine Outcome.bind (Outcome.execute (.inl (failed _)) ?_)
  refine Outcome.bind (Outcome.execute (.inl (failed _)) ?_)
  unfold updateSessions
  refine Outcome.bind (outcome_update (.inl (failed _)) (Outcome.ret _ (Outcome.ret _ ?_)))
  exact .inr ⟨rfl, one, not_not.mp met, rfl⟩

/-- The store after the clean-up at a start of the daemon. -/
def migratedStore (now : Int) (store : Store) : Store :=
  deleteEnrollments (fun row => row.state == .pending && row.expiresAt ≤ now) { store with
    additionalClaims := store.additionalClaims.filter fun row =>
      !(row.expiresAt ≤ now || row.consumedAt.isSome) }

theorem migrate_spec :
    Outcome (migrate now) store fun _ after => after = store ∨ after = migratedStore now store := by
  unfold migrate
  refine Outcome.bind (Outcome.transaction (.inl rfl) ?_)
  refine Outcome.bind (Outcome.execute (.inl rfl) ?_)
  exact Outcome.bind (Outcome.execute (.inl rfl) (Outcome.ret _ (Outcome.ret _ (.inr rfl))))

end Calls

end JwOps.Agentd.Outcomes
