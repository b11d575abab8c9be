/- module: Agentd/Policy
   source: crates/jw-agentd/src/session.rs, crates/jw-agentd/src/totp.rs
   digest: A policy that asks for codes, and the enrollments that give them. -/
import JwOps.Agentd.Enrollments
import JwOps.Agentd.SingleUse

set_option autoImplicit false

namespace JwOps.Agentd.Policy

open Contracts.Operation Tables Totp Calls Enrollments Outcomes Foundation.Transaction

/-! ### Interleaved requests -/

/-- One call of `update_additional_auth_policy`. -/
structure PolicyRequest where
  sessionToken : String
  subject : Subject
  target : AdditionalAuthPolicy
  reauthToken : Option String
  opened : EnrollmentRow → Option Bytes
  now : Int

/-- How far a request is: its status check is apart from its transaction. -/
inductive Phase where
  | waiting
  | checked
  | ended
  deriving DecidableEq, Repr

structure System where
  store : Store
  phase : Nat → Phase

/-- One step of an interleaving: another call as a whole, or half of a request. -/
inductive Step where
  | call (attempt : Attempt)
  | check (request : Nat) (faults : List Bool)
  | write (request : Nat) (faults : List Bool)

def initial : System := ⟨emptyStore, fun _ => .waiting⟩

def System.advance (system : System) (request : Nat) (phase : Phase) (store : Store) : System :=
  ⟨store, fun other => if other = request then phase else system.phase other⟩

def PolicyRequest.check (request : PolicyRequest) : StoreM Unit :=
  checkPolicyUpdate request.subject request.target request.opened

variable (codec : AgentCodec)

def PolicyRequest.write (request : PolicyRequest) : StoreM Unit :=
  writePolicy codec request.sessionToken request.subject request.target request.reauthToken
    request.now

variable (requests : Nat → PolicyRequest)

def step (system : System) : Step → System
  | .call attempt => { system with store := storeAfter codec system.store attempt }
  | .check request faults =>
    if system.phase request = .waiting then
      match (requests request).check ⟨system.store, faults⟩ with
      | (.ok _, reached) => system.advance request .checked reached.store
      | (.error _, reached) => system.advance request .ended reached.store
    else system
  | .write request faults =>
    if system.phase request = .checked then
      system.advance request .ended
        ((requests request).write codec ⟨system.store, faults⟩).2.store
    else system

def runSteps (steps : List Step) : System := steps.foldl (step codec requests) initial

@[simp] theorem runSteps_snoc (steps : List Step) (last : Step) :
    runSteps codec requests (steps ++ [last]) =
      step codec requests (runSteps codec requests steps) last := by
  simp [runSteps]

/-! ### The law of the policy -/

/-- A policy that asks for codes has an enrollment that can give them. -/
def PolicyBacked (store : Store) : Prop :=
  store.additionalAuthPolicy ≠ .disabled → ∃ uid, Active store uid

/-- The transaction of a checked request commits with a policy that asks for codes. -/
structure Commits (earlier : List Step) (request : Nat) (faults : List Bool) : Prop where
  checked : (runSteps codec requests earlier).phase request = .checked
  asks : (requests request).target ≠ .disabled
  written : ((requests request).write codec
    ⟨(runSteps codec requests earlier).store, faults⟩).1 = .ok ()

variable {codec requests}

theorem policyBacked_attempt {store : Store} (backed : PolicyBacked store) {attempt : Attempt} :
    PolicyBacked (storeAfter codec store attempt) := by
  have effect := @enrollment_attempt codec store attempt
  have stays : ∀ uid, Active store uid → ¬ResetsNow codec store attempt uid →
      Active (storeAfter codec store attempt) uid := fun _ active unreset => active.stays unreset
  intro asks
  generalize storeAfter codec store attempt = after at effect asks stays
  -- Only a reset takes an enrollment away, and it takes the policy back too.
  have keeps : after.additionalAuthPolicy = store.additionalAuthPolicy →
      (∀ uid, ¬ResetsNow codec store attempt uid) → ∃ uid, Active after uid := by
    intro same unreset
    obtain ⟨uid, active⟩ := backed (same ▸ asks)
    exact ⟨uid, stays uid active (unreset uid)⟩
  cases effect with
  | kept same failed =>
    refine keeps (Prod.mk.inj (Prod.mk.inj same).2).2 ?_
    rintro uid ⟨digest, asked, ok⟩
    obtain ⟨error, failure⟩ := failed (by
      generalize attempt.call = call at asked
      cases call <;> first | rfl | cases asked)
    rw [failure] at ok
    cases ok
  | begun uid material asked pending tables =>
    refine keeps (Prod.mk.inj (Prod.mk.inj tables).2).2 ?_
    rintro uid ⟨digest, resets, -⟩
    rw [(resets_alone resets).1] at asked
    cases asked
  | marked change marks code unready tables =>
    refine keeps (Prod.mk.inj (Prod.mk.inj tables).2).2 ?_
    rintro uid ⟨digest, resets, -⟩
    rw [code.2.2] at resets
    cases resets
  | activated uid enrollmentId change asked ready activates present tables =>
    refine keeps (Prod.mk.inj (Prod.mk.inj tables).2).2 ?_
    rintro uid ⟨digest, -, ok⟩
    rw [ready] at ok
    cases ok
  | policySet uid target asked enrolled tables =>
    have set : after.additionalAuthPolicy = target := (Prod.mk.inj (Prod.mk.inj tables).2).2
    rw [set] at asks
    obtain ⟨row, member, owner, state⟩ := enrolled asks
    refine ⟨uid, row, ?_, owner, state⟩
    rw [(Prod.mk.inj tables).1]
    exact member
  | reset uid digest asked one done ok => exact absurd done.policy asks
  | cleaned asked tables =>
    refine keeps (Prod.mk.inj (Prod.mk.inj tables).2).2 ?_
    rintro uid ⟨digest, resets, -⟩
    rw [asked] at resets
    cases resets

/-! ### Steps of requests -/

theorem check_store (system : System) (request : Nat) (faults : List Bool) :
    (step codec requests system (.check request faults)).store = system.store := by
  unfold step
  dsimp only
  split
  · have spec : Outcome (checkPolicyUpdate (requests request).subject (requests request).target
        (requests request).opened) system.store _ := checkPolicyUpdate_spec
    have same := (spec faults).1
    unfold PolicyRequest.check
    rcases checked : checkPolicyUpdate (requests request).subject (requests request).target
      (requests request).opened ⟨system.store, faults⟩ with ⟨error | passed, reached⟩
    · rw [checked] at same
      exact same
    · rw [checked] at same
      exact same
  · rfl

/-- The phase after a step: a request is checked only by a check that passes. -/
theorem phase_checked {system : System} {last : Step} {request : Nat}
    (checked : (step codec requests system last).phase request = .checked) :
    system.phase request = .checked ∨
      ∃ faults, last = .check request faults ∧ system.phase request = .waiting ∧
        ((requests request).target ≠ .disabled →
          Active system.store (requests request).subject.uid) := by
  cases last with
  | call attempt => exact .inl checked
  | write other faults =>
    unfold step at checked
    dsimp only at checked
    split at checked
    · unfold System.advance at checked
      dsimp only at checked
      split at checked
      · cases checked
      · exact .inl checked
    · exact .inl checked
  | check other faults =>
    unfold step at checked
    dsimp only at checked
    split at checked
    · rename_i waiting
      have both : Outcome (checkPolicyUpdate (requests other).subject (requests other).target
          (requests other).opened) system.store _ := checkPolicyUpdate_spec
      have spec := (both faults).2
      unfold PolicyRequest.check at checked
      rcases ended : checkPolicyUpdate (requests other).subject (requests other).target
        (requests other).opened ⟨system.store, faults⟩ with ⟨error | passed, reached⟩
      · rw [ended] at checked
        unfold System.advance at checked
        dsimp only at checked
        split at checked
        · cases checked
        · exact .inl checked
      · rw [ended] at checked spec
        by_cases same : request = other
        · subst same
          exact .inr ⟨faults, rfl, waiting, spec rfl⟩
        · unfold System.advance at checked
          dsimp only at checked
          rw [if_neg same] at checked
          exact .inl checked
    · exact .inl checked

/-- A checked request was checked at some step of the run. -/
theorem checked_split {steps : List Step} {request : Nat}
    (checked : (runSteps codec requests steps).phase request = .checked) :
    ∃ earlier faults between, steps = earlier ++ .check request faults :: between ∧
      ((requests request).target ≠ .disabled →
        Active (runSteps codec requests earlier).store (requests request).subject.uid) := by
  induction steps using List.reverseRecOn with
  | nil => cases checked
  | append_singleton earlier last ih =>
    rw [runSteps_snoc] at checked
    rcases phase_checked checked with before | ⟨faults, rfl, -, active⟩
    · obtain ⟨front, faults, between, rfl, active⟩ := ih before
      exact ⟨front, faults, between ++ [last], by simp, active⟩
    · exact ⟨earlier, faults, [], rfl, active⟩

/-- The policy alone changes with a write. -/
theorem write_store (system : System) (request : Nat) (faults : List Bool) :
    (step codec requests system (.write request faults)).store.enrollments =
      system.store.enrollments := by
  unfold step
  dsimp only
  split
  · have spec := @writePolicy_tables codec (requests request).sessionToken
      (requests request).subject (requests request).target (requests request).reauthToken
      (requests request).now system.store faults
    unfold PolicyRequest.write System.advance
    dsimp only
    generalize writePolicy codec (requests request).sessionToken (requests request).subject
      (requests request).target (requests request).reauthToken (requests request).now
      ⟨system.store, faults⟩ = outcome at spec ⊢
    obtain ⟨error | written, reached⟩ := outcome
    · exact (Prod.mk.inj spec).1
    · exact (Prod.mk.inj spec).1
  · rfl

/-- No call of these steps, from there on, is a reset for that administrator that succeeds. -/
def Unreset (codec : AgentCodec) (requests : Nat → PolicyRequest) (earlier between : List Step)
    (uid : UInt32) : Prop :=
  ∀ front attempt back, between = front ++ .call attempt :: back →
    ¬ResetsNow codec (runSteps codec requests (earlier ++ front)).store attempt uid

theorem active_between {earlier between : List Step} {uid : UInt32}
    (active : Active (runSteps codec requests earlier).store uid)
    (unreset : Unreset codec requests earlier between uid) :
    Active (runSteps codec requests (earlier ++ between)).store uid := by
  induction between using List.reverseRecOn with
  | nil =>
    rw [List.append_nil]
    exact active
  | append_singleton front last ih =>
    have before := ih fun start attempt back parts => unreset start attempt (back ++ [last])
      (by simp [parts])
    rw [← List.append_assoc, runSteps_snoc]
    cases last with
    | call attempt => exact before.stays (unreset front attempt [] rfl)
    | check request faults =>
      rw [check_store]
      exact before
    | write request faults =>
      unfold Active
      rw [write_store]
      exact before

/-- A write that does not commit such a policy keeps the law. -/
theorem policyBacked_write {earlier : List Step} {request : Nat} {faults : List Bool}
    (backed : PolicyBacked (runSteps codec requests earlier).store)
    (enrolled : Commits codec requests earlier request faults →
      ∃ uid, Active (runSteps codec requests earlier).store uid) :
    PolicyBacked (step codec requests (runSteps codec requests earlier)
      (.write request faults)).store := by
  by_cases checked : (runSteps codec requests earlier).phase request = .checked
  · intro asks
    have same := @write_store codec requests (runSteps codec requests earlier) request faults
    unfold Active at enrolled ⊢
    rw [same]
    have spec := @writePolicy_tables codec (requests request).sessionToken
      (requests request).subject (requests request).target (requests request).reauthToken
      (requests request).now (runSteps codec requests earlier).store faults
    have written : (step codec requests (runSteps codec requests earlier)
        (.write request faults)).store = ((requests request).write codec
          ⟨(runSteps codec requests earlier).store, faults⟩).2.store := by
      unfold step
      dsimp only
      rw [if_pos checked]
      rfl
    rw [written] at asks
    unfold PolicyRequest.write at asks
    rcases outcome : writePolicy codec (requests request).sessionToken (requests request).subject
      (requests request).target (requests request).reauthToken (requests request).now
      ⟨(runSteps codec requests earlier).store, faults⟩ with ⟨error | done, reached⟩
    · rw [outcome] at spec asks
      exact backed (by rwa [(Prod.mk.inj (Prod.mk.inj spec).2).2] at asks)
    · rw [outcome] at spec asks
      refine enrolled ⟨checked, ?_, ?_⟩
      · rwa [(Prod.mk.inj (Prod.mk.inj spec).2).2] at asks
      · unfold PolicyRequest.write
        rw [outcome]
  · unfold step
    dsimp only
    rw [if_neg checked]
    exact backed

/-- A commit sets the policy and leaves the enrollments. -/
theorem policy_of_commits {earlier : List Step} {request : Nat} {faults : List Bool}
    (commits : Commits codec requests earlier request faults) :
    (step codec requests (runSteps codec requests earlier)
        (.write request faults)).store.additionalAuthPolicy ≠ .disabled ∧
      (step codec requests (runSteps codec requests earlier)
        (.write request faults)).store.enrollments =
          (runSteps codec requests earlier).store.enrollments := by
  refine ⟨?_, write_store ..⟩
  have spec := @writePolicy_tables codec (requests request).sessionToken
    (requests request).subject (requests request).target (requests request).reauthToken
    (requests request).now (runSteps codec requests earlier).store faults
  have written := commits.written
  unfold PolicyRequest.write at written
  rw [written] at spec
  unfold step
  dsimp only
  rw [if_pos commits.checked]
  unfold System.advance PolicyRequest.write
  dsimp only
  rw [(Prod.mk.inj (Prod.mk.inj spec).2).2]
  exact commits.asks

/-! ### The policy requires an enrollment -/

/-- Along an interleaving a policy that asks for codes always has a confirmed enrollment exactly
if each request that commits such a policy saw no reset of its administrator since its check, or
somebody is enrolled when it commits. -/
theorem policy_requires_enrollment_iff (codec : AgentCodec) (requests : Nat → PolicyRequest)
    (steps : List Step) :
    (∀ earlier later, steps = earlier ++ later →
        PolicyBacked (runSteps codec requests earlier).store) ↔
      ∀ earlier request checkFaults between faults later,
        steps = earlier ++ .check request checkFaults ::
          (between ++ .write request faults :: later) →
        Commits codec requests (earlier ++ .check request checkFaults :: between) request faults →
        Unreset codec requests (earlier ++ [.check request checkFaults]) between
            (requests request).subject.uid ∨
          ∃ uid, Active (runSteps codec requests
            (earlier ++ .check request checkFaults :: between)).store uid := by
  constructor
  · intro holds earlier request checkFaults between faults later parts commits
    have after := holds (earlier ++ .check request checkFaults :: (between ++
      [.write request faults])) later (by simp [parts])
    rw [← List.cons_append, ← List.append_assoc, runSteps_snoc] at after
    obtain ⟨asks, enrollments⟩ := policy_of_commits commits
    obtain ⟨uid, active⟩ := after asks
    refine .inr ⟨uid, ?_⟩
    unfold Active at active ⊢
    rwa [enrollments] at active
  · intro schedule earlier later parts
    induction earlier using List.reverseRecOn generalizing later with
    | nil => exact fun asks => absurd rfl asks
    | append_singleton front last ih =>
      have before := ih (last :: later) (by simp [parts])
      rw [runSteps_snoc]
      cases last with
      | call attempt => exact policyBacked_attempt before
      | check request faults =>
        rw [check_store]
        exact before
      | write request faults =>
        refine policyBacked_write before fun commits => ?_
        obtain ⟨start, checkFaults, between, rfl, active⟩ := checked_split commits.checked
        rcases schedule start request checkFaults between faults later (by simp [parts])
          commits with unreset | enrolled
        · refine ⟨(requests request).subject.uid, ?_⟩
          have checked : Active (runSteps codec requests
              (start ++ [.check request checkFaults])).store
              (requests request).subject.uid := by
            rw [runSteps_snoc, check_store]
            exact active commits.asks
          have reached := active_between checked unreset
          rwa [List.append_assoc] at reached
        · exact enrolled

/-! ### A reset between the check and the transaction -/

def sampleThirdToken : String := "CCCCCCCCCCCCCCCCCCCCCCCCCCCCCCCCCCCCCCCCCCC"

def sampleOpened (_ : EnrollmentRow) : Option Bytes := some (List.replicate 20 0)

/-- An administrator enrolls, and reauthenticates for a policy and for a reset. -/
def sampleEnrolled : List Attempt :=
  [⟨.issueSession Expiry.sampleAdmin .recovery (some Expiry.sampleToken), 100000, []⟩,
    ⟨.issueReauthClaim Expiry.sampleToken Expiry.sampleAdmin .totpEnrollment
      (some Expiry.sampleToken), 100000, []⟩,
    ⟨.beginEnrollment Expiry.sampleToken Expiry.sampleAdmin .recovery Expiry.sampleToken "host"
      (some SingleUse.sampleMaterial), 100000, []⟩,
    ⟨.confirmEnrollment Expiry.sampleAdmin .recovery "00000000000000000000000000000000" "000000"
      sampleOpened, 100000, []⟩,
    ⟨.confirmEnrollment Expiry.sampleAdmin .recovery "00000000000000000000000000000000" "000000"
      sampleOpened, 130000, []⟩,
    ⟨.issueReauthClaim Expiry.sampleToken Expiry.sampleAdmin
      (.securityPolicyChange .riskyOperations) (some Expiry.sampleNextToken), 140000, []⟩,
    ⟨.issueReauthClaim Expiry.sampleToken Expiry.sampleAdmin .totpRecoveryReset
      (some sampleThirdToken), 140000, []⟩]

/-- The reset, with the first code of the enrollment. -/
def sampleReset : Attempt :=
  ⟨.recoveryReset Expiry.sampleToken Expiry.sampleAdmin .recovery sampleThirdToken
    (recoveryCode (List.replicate 10 0)), 150000, []⟩

def sampleRequests (_ : Nat) : PolicyRequest :=
  ⟨Expiry.sampleToken, Expiry.sampleAdmin, .riskyOperations, some Expiry.sampleNextToken,
    sampleOpened, 150000⟩

/-- The reset comes between the two halves of the request. -/
def sampleSteps : List Step :=
  sampleEnrolled.map .call ++ [.check 0 [], .call sampleReset, .write 0 []]

/-- In the end codes are asked for, and nobody is enrolled. -/
theorem policy_set_after_reset :
    enrollmentTables (runSteps sampleAgentCodec sampleRequests sampleSteps).store =
      ([], [], .riskyOperations) := by
  decide +kernel

end JwOps.Agentd.Policy
