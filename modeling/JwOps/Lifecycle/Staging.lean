/- module: Lifecycle/Staging
   source: crates/jw-opsd/src/{engine,ledger}.rs
   digest: Certbot is asked for a real certificate only after it has shown that it can be had. -/
import JwOps.Lifecycle.EffectFree
import JwOps.Lifecycle.Retrying

set_option autoImplicit false

namespace JwOps.Lifecycle.Staging

open Contracts Ledger Operation Digest Config Certificate Schema Writes Commits Locks
open Ledger.Reads (OperationReceiptView hasRecentStagingEvidenceFrom)
open Engine.Interface Engine.Nginx Engine.Certbot Engine.Recovery Engine.Requests Lifecycle.History
open Lifecycle.Tracking Lifecycle.Fragments Lifecycle.Edges Lifecycle.System Lifecycle.Safety
open Lifecycle.Serving
open Runs (good_empty operator)
open Lifecycle.Sessions
open Retrying (stagingRequest stagingInput challengeHost)
open EffectFree (Open open_executeCertbotAttach open_executeManagedConfig
  open_executeServiceControl open_executeUfwRule touched)
open Foundation.Keyed Foundation.Program
open Foundation.Transaction (Outcome)

variable {nowMs : Int} {operation : StoredOperation}

/-! ### Orders of a real certificate -/

/-- Certbot is asked for a certificate of its production environment. -/
def orders : Call → Bool
  | .host (.certbot (.issue _ _ _ .production _) _) => true
  | _ => false

/-- The calls of an operation that are not such an order. -/
def Plain : Call → Prop
  | .mark _ => False
  | call => orders call = false

theorem orders_true {call : Call} (order : orders call = true) :
    ∃ primaryDomain domains accountEmail agreed nowMs,
      call = .host (.certbot (.issue primaryDomain domains accountEmail .production agreed)
        nowMs) := by
  unfold orders at order
  split at order
  · exact ⟨_, _, _, _, _, rfl⟩
  · cases order

theorem Plain.not_order {call : Call} (plain : Plain call) : orders call = false := by
  cases call with
  | mark operationId => exact plain.elim
  | ledger call => rfl
  | host call => exact plain

section Plain

variable {runtime : Runtime} {α : Type} {program : Ops α}

theorem plain_of_passive (calls : IssuesE Passive program) : IssuesE Plain program := by
  refine calls.mono fun call passive => ?_
  cases call with
  | mark operationId => exact passive
  | ledger call => rfl
  | host call =>
    refine Bool.eq_false_iff.mpr fun order => ?_
    obtain ⟨_, _, _, _, _, same⟩ := orders_true order
    obtain rfl := Call.host.inj same
    cases passive.1

theorem plain_of_silent (calls : IssuesE Silent program) : IssuesE Plain program :=
  plain_of_passive (calls.mono fun _ => Silent.passive)

theorem plain_ledger {call : LedgerCall} : IssuesE Plain (ledger call) :=
  issues_perform rfl

theorem plain_removePlanProposal {plan : StoredPlan} : IssuesE Plain (removePlanProposal plan) :=
  IssuesE.forM fun record => IssuesE.bind
    (IssuesE.attempt (plain_of_silent (removeProposal_silent record))) fun _ => IssuesE.ret _

/-- A transition, its receipt and the end of the proposal. -/
theorem plain_ending (operationId : String) (change : Transition) :
    IssuesE Plain (do
      let terminal ← transition operationId change
      let answer ← receipt terminal.operationId
      removePlanProposal terminal.plan
      pure answer) := by
  refine IssuesE.bind plain_ledger fun _ => IssuesE.bind plain_ledger fun _ => ?_
  exact IssuesE.bind plain_removePlanProposal fun _ => IssuesE.ret _

end Plain

/-- What touches no certificates orders none. -/
theorem orders_of_within {families : List Family} {call : HostCall} (inside : Within families call)
    (others : Family.certificates ∉ families) : orders (.host call) = false := by
  refine Bool.eq_false_iff.mpr fun order => ?_
  obtain ⟨_, _, _, _, _, same⟩ := orders_true order
  obtain rfl := Call.host.inj same
  exact others (inside .certificates rfl)

/-! ### The execution of an order -/

section Execution

variable {runtime : Runtime} {α : Type} {allowed : Call → Prop}

/-- All that is done for a certificate is plain but for the order itself. -/
theorem issues_snapshotAndIssue (operation : StoredOperation) (payload : CertbotIssuePlanPayload)
    (accountEmail : Bytes) (nowMs : Int) (plain : ∀ call, Plain call → allowed call)
    (order : allowed (.host (.certbot (.issue payload.primaryDomain payload.domains accountEmail
      payload.environment true) nowMs))) :
    IssuesE allowed (snapshotAndIssue runtime operation payload accountEmail nowMs) := by
  have free {β : Type} {program : Ops β} (calls : IssuesE Plain program) :
    IssuesE allowed program :=
    calls.mono plain
  have cancel (reason : String) :
      IssuesE allowed (cancelCertbotBeforeApply runtime operation reason nowMs) :=
    free (plain_ending _ _)
  have inventory : IssuesE allowed (certificateInventory runtime nowMs) :=
    free (plain_of_passive (certificateInventory_passive nowMs))
  have moves (operationId : String) (change : Transition) :
      IssuesE allowed (transition operationId change) := free plain_ledger
  refine IssuesE.onError
    (free (plain_of_silent (touches_validateIssueSite.mono fun _ => Touches.silent)))
    (fun _ => cancel _) fun _ => ?_
  refine IssuesE.onError inventory (fun _ => cancel _) fun _ => ?_
  split
  · exact cancel _
  refine IssuesE.checked ?_
  refine IssuesE.onError (free (plain_of_silent (writeSnapshot_silent _ _ _)))
    (fun _ => cancel _) fun record => ?_
  refine IssuesE.bind (free plain_ledger) fun snapshotted => ?_
  refine IssuesE.bind (moves _ _) fun _ => ?_
  refine IssuesE.onError (issues_perform order) (fun _ => free (plain_ending _ _)) fun _ => ?_
  refine IssuesE.bind (moves _ _) fun _ => ?_
  split
  · exact free (plain_ending _ _)
  refine IssuesE.onError inventory (fun _ => free (plain_ending _ _)) fun _ => ?_
  split
  · exact free (plain_ending _ _)
  · exact free (plain_ending _ _)

theorem plain_executeCertbotRenewTest :
    IssuesE Plain (executeCertbotRenewTest runtime operation nowMs) := by
  have cancel (reason : String) :
      IssuesE Plain (cancelCertbotBeforeApply runtime operation reason nowMs) := plain_ending _ _
  have inventory : IssuesE Plain (certificateInventory runtime nowMs) :=
    plain_of_passive (certificateInventory_passive nowMs)
  unfold executeCertbotRenewTest
  cases operation.plan.certbotRenew with
  | none => exact IssuesE.fail _
  | some payload =>
    refine IssuesE.onError inventory (fun _ => cancel _) fun _ => ?_
    split
    · exact cancel _
    refine IssuesE.checked ?_
    refine IssuesE.onError (plain_of_silent (writeSnapshot_silent _ _ _)) (fun _ => cancel _)
      fun record => ?_
    refine IssuesE.bind plain_ledger fun snapshotted => ?_
    refine IssuesE.bind plain_ledger fun _ => ?_
    refine IssuesE.onError (issues_perform rfl) (fun _ => plain_ending _ _) fun _ => ?_
    refine IssuesE.bind plain_ledger fun _ => ?_
    split
    · exact plain_ending _ _
    refine IssuesE.onError inventory (fun _ => plain_ending _ _) fun _ => ?_
    split
    · exact plain_ending _ _
    · exact plain_ending _ _

end Execution

/-! ### Everything else orders nothing -/

section Others

variable {runtime : Runtime} {α : Type} {program : Ops α} {families : List Family}

/-- No call is an order; other operations may be marked. -/
abbrev Unordered (program : Ops α) : Prop := IssuesE (fun call => orders call = false) program

theorem unordered_of_plain (calls : IssuesE Plain program) : Unordered program :=
  calls.mono fun _ => Plain.not_order

theorem unordered_of_takes {edges : StageEdges} (calls : IssuesE (Takes edges families) program)
    (others : Family.certificates ∉ families) : Unordered program := by
  refine calls.mono fun call takes => ?_
  cases call with
  | mark operationId => rfl
  | ledger call => rfl
  | host call => exact orders_of_within takes others

theorem unordered_of_open {operation : StoredOperation} (calls : IssuesE (Open operation) program)
    (others : Family.certificates ∉ familiesOf operation.plan.operationType) :
    Unordered program := by
  refine calls.mono fun call opened => ?_
  cases call with
  | mark operationId => rfl
  | ledger call => rfl
  | host call =>
    refine orders_of_within opened fun member => ?_
    rcases List.mem_cons.mp member with same | inside
    · cases same
    · exact others inside

theorem orders_harmless {call : Call} (harmless : Harmless call) : orders call = false := by
  cases call with
  | mark operationId => rfl
  | ledger call => rfl
  | host call =>
    refine Bool.eq_false_iff.mpr fun order => ?_
    obtain ⟨_, _, _, _, _, same⟩ := orders_true order
    obtain rfl := Call.host.inj same
    cases harmless

theorem unordered_executeNginxSiteState :
    Unordered (executeNginxSiteState runtime operation nowMs) := by
  have cancel (error : OpsError) : Unordered
      (cancelApproved operation error.code (codeDigest runtime error.code) nowMs) :=
    unordered_of_takes (@takes_cancelApproved [] _ _ _ _) List.not_mem_nil
  have precondition : Unordered (validatePrecondition operation) := by
    refine IssuesE.bind (issues_perform rfl) fun _ => IssuesE.checked ?_
    exact IssuesE.checked (IssuesE.ret _)
  refine IssuesE.onError precondition cancel fun preflight => ?_
  refine IssuesE.onError (unordered_of_plain (plain_of_silent (writeSnapshot_silent _ _ _))) cancel
    fun record => ?_
  refine IssuesE.bind (issues_perform rfl) fun snapshotted => ?_
  split
  · exact unordered_of_takes (@takes_finishNoop _ [] _ _) List.not_mem_nil
  · exact unordered_of_takes takes_applySiteState (by decide)

theorem unordered_executeApproved {operation : StoredOperation}
    (other : operation.plan.operationType ≠ .certbotIssue) :
    Unordered (executeApproved runtime operation nowMs) := by
  unfold executeApproved
  cases kind : operation.plan.operationType with
  | certbotIssue => exact absurd kind other
  | certbotRenewTest => exact unordered_of_plain plain_executeCertbotRenewTest
  | certbotAttach =>
    exact unordered_of_open (open_executeCertbotAttach kind _) (by rw [kind]; decide)
  | managedConfig =>
    exact unordered_of_open (open_executeManagedConfig (.inl kind) _) (by rw [kind]; decide)
  | managedConfigRestore =>
    exact unordered_of_open (open_executeManagedConfig (.inr kind) _) (by rw [kind]; decide)
  | serviceControl =>
    exact unordered_of_open (open_executeServiceControl kind _) (by rw [kind]; decide)
  | ufwRule => exact unordered_of_open (open_executeUfwRule kind _) (by rw [kind]; decide)
  | nginxSiteState => exact unordered_executeNginxSiteState
  | unregistered name => exact IssuesE.fail _

theorem unordered_recoverApplied {operation : StoredOperation} {nowMs : Int} :
    Unordered (recoverApplied runtime operation nowMs) := by
  have interrupted (code : String) : Unordered (recoverCertbot runtime operation code nowMs) :=
    unordered_of_takes (@takes_recoverCertbot _ [] _ _ _) List.not_mem_nil
  have takes := @takes_recoverApplied runtime operation nowMs
  unfold recoverApplied at takes ⊢
  cases kind : operation.plan.operationType with
  | certbotIssue | certbotRenewTest => exact interrupted _
  | unregistered name =>
    rw [kind] at takes
    exact unordered_of_takes takes (show Family.certificates ∉ siteFamilies by decide)
  | _ =>
    rw [kind] at takes
    exact unordered_of_takes takes (by decide)

theorem unordered_recoverStage :
    Unordered (recoverStage runtime operation nowMs) := by
  have early : Unordered (recoverBeforeApply runtime operation nowMs) :=
    unordered_of_takes (@takes_recoverBeforeApply _ [] _ _) List.not_mem_nil
  have late := @unordered_recoverApplied runtime operation nowMs
  unfold recoverStage
  cases operation.stage with
  | approved => exact early
  | snapshotted => exact early
  | applying | validating | reloading | verifying | rollingBack => exact late
  | planned => exact IssuesE.fail _
  | _ => exact IssuesE.ret _

theorem unordered_initializeService :
    Unordered (initializeService runtime nowMs) := by
  have recovers (operations : List StoredOperation) :
      Unordered (recoverAll runtime nowMs operations) := by
    induction operations with
    | nil => exact IssuesE.ret _
    | cons operation rest ih =>
      refine IssuesE.bind (IssuesE.bind (issues_perform rfl) fun _ => ?_) fun _ => ih
      exact unordered_recoverStage
  refine IssuesE.bind (issues_perform rfl) fun _ => ?_
  refine IssuesE.onError (issues_perform rfl) (fun error => ?_) fun _ => ?_
  · split
    · exact issues_perform rfl
    · exact IssuesE.fail _
  · refine IssuesE.bind (issues_perform rfl) fun operations => ?_
    refine IssuesE.bind (recovers operations) fun _ => ?_
    exact (removeExpiredProposals_harmless nowMs).mono fun _ => orders_harmless

end Others

/-! ### What the ledger shows -/

/-- Every operation is in the stage of an event, since the time of that event. -/
def Timed (tables : Tables) : Prop :=
  ∀ row ∈ tables.operations, ∃ event ∈ tables.ledgerEvents,
    event.operationId = row.operationId ∧ event.stage = row.stage ∧
      event.recordedAtMs = row.updatedAtMs

/-- A certificate of the staging environment was had under the key, at the given time or later. -/
structure StagedAt (tables : Tables) (evidenceKey : String) (notBeforeMs : Int) (plan : StoredPlan)
    (payload : CertbotIssuePlanPayload) (row : OperationRow) (finish : EventRow) : Prop where
  planned : plan ∈ tables.plans ∧ plan.operationType = .certbotIssue ∧
    plan.certbotIssue = some payload
  staging : payload.environment = .staging ∧ payload.stagingEvidenceKey = evidenceKey
  succeeded : row ∈ tables.operations ∧ row.planId = plan.planId ∧ row.stage = .succeeded
  finished : finish ∈ tables.ledgerEvents ∧ finish.operationId = row.operationId ∧
    finish.stage = .succeeded ∧ notBeforeMs ≤ finish.recordedAtMs

section Ledger

variable {codec : Codec} {tables after : Tables} {write : LedgerWrite}

theorem staged_of_recent (timed : Timed tables) {evidenceKey : String} {notBeforeMs : Int}
    (recent : hasRecentStagingEvidenceFrom tables evidenceKey notBeforeMs = true) :
    ∃ plan payload row finish, StagedAt tables evidenceKey notBeforeMs plan payload row finish := by
  simp only [hasRecentStagingEvidenceFrom, List.any_eq_true, Bool.and_eq_true, beq_iff_eq,
    decide_eq_true_eq, Option.any_eq_true_iff_get] at recent
  obtain ⟨plan, member, ⟨kind, row, inside, ⟨same, stage⟩, recently⟩, some, staging, key⟩ := recent
  obtain ⟨finish, recorded, owner, reached, time⟩ := timed row inside
  refine ⟨plan, _, row, finish, ⟨member, kind, (Option.some_get some).symm⟩, ⟨staging, key⟩,
    ⟨inside, same, stage⟩, recorded, owner, reached.trans stage, ?_⟩
  rw [time]
  exact recently

theorem Appended.time {input : EventInput} {event : EventRow}
    (appended : Appended codec tables input event) : event.recordedAtMs = input.recordedAtMs := by
  obtain ⟨digest, _, done⟩ := Foundation.Chain.bind_ok.mp appended.1
  obtain rfl := Except.ok.inj done
  rfl

theorem Timed.commit (keyed : OperationsKeyed tables) (timed : Timed tables)
    (commit : Commit codec tables write after) : Timed after := by
  have old {rows : List EventRow} {row : OperationRow} (member : row ∈ tables.operations) :
      ∃ event ∈ tables.ledgerEvents ++ rows, event.operationId = row.operationId ∧
        event.stage = row.stage ∧ event.recordedAtMs = row.updatedAtMs := by
    obtain ⟨event, recorded, holds⟩ := timed row member
    exact ⟨event, List.mem_append_left _ recorded, holds⟩
  cases commit with
  | planned plan event =>
    intro row member
    exact old member
  | begun approval plan event stored approves fresh free distinct appended =>
    intro row member
    rcases List.mem_append.mp member with before | new
    · exact old before
    · obtain rfl := List.mem_singleton.mp new
      obtain ⟨owner, stage⟩ := Appended.fields appended
      exact ⟨event, List.mem_append_right _ List.mem_cons_self, owner, stage,
        Appended.time appended⟩
  | attached operationId snapshot nowMs current event stored approved appended =>
    intro row member
    rcases mem_updateAt member with ⟨before, _⟩ | ⟨before, inside, same, rfl⟩
    · exact old before
    · obtain ⟨other, otherMember, otherId, isApproved⟩ := approved
      obtain rfl : other = before :=
        eq_of_column_eq keyed.unique otherMember inside (otherId.trans same.symm)
      obtain ⟨owner, stage⟩ := Appended.fields appended
      refine ⟨event, List.mem_append_right _ List.mem_cons_self, ?_, ?_, ?_⟩
      · rw [snapshotRow_operationId, otherId]
        exact owner
      · rw [snapshotRow, if_pos isApproved]
        exact stage
      · rw [snapshotRow, if_pos isApproved]
        exact Appended.time appended
  | moved operationId change diagnostics command current event stored expected eligible appended =>
    intro row member
    rcases mem_updateAt member with ⟨before, _⟩ | ⟨before, inside, same, rfl⟩
    · exact old before
    · obtain ⟨owner, stage⟩ := Appended.fields appended
      refine ⟨event, List.mem_append_right _ List.mem_cons_self, ?_, stage,
        Appended.time appended⟩
      rw [moveRow_operationId, same, loadOperationFrom_id stored]
      exact owner

theorem recent_read {failure : OpsError} {ledger : LedgerState} {evidenceKey : String}
    {notBeforeMs : Int} :
    Outcome (runLedger codec failure (.hasRecentStagingEvidence evidenceKey notBeforeMs)) ledger
      fun result _ => ∀ value, result = .ok value →
        hasRecentStagingEvidenceFrom ledger.tables evidenceKey notBeforeMs = value := by
  change Outcome (load fun tables =>
    .ok (hasRecentStagingEvidenceFrom tables evidenceKey notBeforeMs)) ledger _
  refine outcome_load ?_ fun _ same => Except.ok.inj same
  intro value bad
  cases bad

/-- No write gives an operation another plan. -/
theorem Commit.plan_kept (keyed : OperationsKeyed tables) (commit : Commit codec tables write after)
    {operationId : String} {operation : StoredOperation}
    (stored : loadOperationFrom tables operationId = .ok operation) :
    ∃ later, loadOperationFrom after operationId = .ok later ∧ later.plan = operation.plan := by
  by_cases about : target write = some operationId
  · obtain ⟨later, written, read⟩ := Commit.written keyed commit about
    refine ⟨later, read, ?_⟩
    obtain ⟨row, plan, found, _, rfl⟩ := loadOperationFrom_ok_iff.mp stored
    cases written with
    | begun planStored approves fresh =>
      exact absurd ((lookup_key found).trans (Option.some.inj about).symm)
        (fresh row (lookup_mem found)).1
    | attached currentStored _ | moved currentStored _ =>
      obtain rfl := Option.some.inj about
      obtain rfl := Except.ok.inj (currentStored.symm.trans stored)
      rfl
  · exact ⟨operation, (Commit.others keyed commit about).trans stored, rfl⟩

end Ledger

/-! ### The gate -/

/-- The earliest end of a staging run that an order may rest on. -/
def gateOpens (nowMs : Int) : Int := saturatingSub nowMs stagingEvidenceTtlMs

/-- An order is made for the operation in focus, after the ledger was asked, for that operation and
at the time of the order, about the key in its plan and found the evidence. -/
def Gated (tables : Tables) (focus : Option String) (log : List Entry) (primaryDomain : String)
    (domains : List String) (nowMs : Int) : Prop :=
  ∃ operation payload, focus = some operation.operationId ∧
    loadOperationFrom tables operation.operationId = .ok operation ∧
    operation.plan.operationType = .certbotIssue ∧ operation.plan.certbotIssue = some payload ∧
    payload.primaryDomain = primaryDomain ∧ payload.domains = domains ∧
    payload.environment = .production ∧
    ∃ check ∈ log, check.focus = some operation.operationId ∧
      check.call = .ledger (.hasRecentStagingEvidence payload.stagingEvidenceKey
        (gateOpens nowMs)) ∧
      ∃ plan stagingPayload row finish, StagedAt check.before payload.stagingEvidenceKey
        (gateOpens nowMs) plan stagingPayload row finish

section Gate

variable {H : Type} {runtime : Runtime} {model : HostModel H} {world after : World H}

/-- What the orders of a world may rest on. -/
def Gate (world : World H) (call : Call) : Prop :=
  ∀ primaryDomain domains accountEmail agreed nowMs,
    call = .host (.certbot (.issue primaryDomain domains accountEmail .production agreed) nowMs) →
    Gated world.tables world.focus world.log primaryDomain domains nowMs

theorem gate_of_unordered {call : Call} (unordered : orders call = false) : Gate world call := by
  rintro _ _ _ _ _ rfl
  cases unordered

structure Kept (tables : Tables) : Prop where
  keyed : OperationsKeyed tables
  timed : Timed tables

/-- The ledger is as it was or one write was committed. -/
theorem environment_tables {call : Call} {answer : call.Answer}
    (stepped : environment runtime model world call answer after) :
    after.tables = world.tables ∨
      ∃ write, Commit runtime.toCodec world.tables write after.tables := by
  cases call with
  | mark operationId =>
    obtain rfl := stepped
    exact .inl rfl
  | host call =>
    obtain ⟨_, host, _, rfl⟩ := stepped
    exact .inl rfl
  | ledger call =>
    obtain ⟨session, rfl, same | ⟨write, _, commit⟩⟩ := ledger_stepped stepped
    · exact .inl same
    · exact .inr ⟨write, commit⟩

theorem Kept.step {call : Call} {answer : call.Answer} (kept : Kept world.tables)
    (stepped : environment runtime model world call answer after) : Kept after.tables := by
  rcases environment_tables stepped with same | ⟨write, commit⟩
  · rw [same]
    exact kept
  · exact ⟨kept.keyed.commit commit, kept.timed.commit kept.keyed commit⟩

/-- What is known while an operation is executed. -/
structure Focused (operation : StoredOperation) (world : World H) : Prop where
  kept : Kept world.tables
  focus : world.focus = some operation.operationId
  stored : ∃ current, loadOperationFrom world.tables operation.operationId = .ok current ∧
    current.plan = operation.plan

/-- What is known once the evidence was found. -/
structure Cleared (operation : StoredOperation) (evidenceKey : String) (nowMs : Int)
    (world : World H) : Prop extends Focused operation world where
  checked : ∃ check ∈ world.log, check.focus = some operation.operationId ∧
    check.call = .ledger (.hasRecentStagingEvidence evidenceKey (gateOpens nowMs)) ∧
    ∃ plan payload row finish,
      StagedAt check.before evidenceKey (gateOpens nowMs) plan payload row finish

variable {operation : StoredOperation} {payload : CertbotIssuePlanPayload} {nowMs : Int}
  {call : Call} {answer : call.Answer}

theorem environment_focus (unmarked : ∀ operationId, call ≠ .mark operationId)
    (stepped : environment runtime model world call answer after) : after.focus = world.focus := by
  cases call with
  | mark operationId => exact absurd rfl (unmarked operationId)
  | host call =>
    obtain ⟨_, host, _, rfl⟩ := stepped
    rfl
  | ledger call =>
    obtain ⟨failure, faults, session, ran, rfl⟩ := stepped
    rfl

theorem Focused.step (focused : Focused operation world)
    (unmarked : ∀ operationId, call ≠ .mark operationId)
    (stepped : environment runtime model world call answer after) : Focused operation after := by
  refine ⟨focused.kept.step stepped, ?_, ?_⟩
  · rw [environment_focus unmarked stepped]
    exact focused.focus
  · obtain ⟨current, read, plan⟩ := focused.stored
    rcases environment_tables stepped with same | ⟨write, commit⟩
    · rw [same]
      exact ⟨current, read, plan⟩
    · obtain ⟨later, reread, kept⟩ := Commit.plan_kept focused.kept.keyed commit read
      exact ⟨later, reread, kept.trans plan⟩

theorem Cleared.step {evidenceKey : String} (cleared : Cleared operation evidenceKey nowMs world)
    (unmarked : ∀ operationId, call ≠ .mark operationId)
    (stepped : environment runtime model world call answer after) :
    Cleared operation evidenceKey nowMs after := by
  refine ⟨cleared.toFocused.step unmarked stepped, ?_⟩
  obtain ⟨check, logged, holds⟩ := cleared.checked
  refine ⟨check, ?_, holds⟩
  rcases environment_log stepped with ⟨⟨operationId, same⟩, _⟩ | grown
  · exact absurd same (unmarked operationId)
  · rw [grown]
    exact List.mem_cons_of_mem _ logged

theorem Plain.unmarked (plain : Plain call) (operationId : String) : call ≠ .mark operationId := by
  rintro rfl
  exact plain

/-- The order of a plan under a key that was found. -/
theorem Cleared.gated (cleared : Cleared operation payload.stagingEvidenceKey nowMs world)
    (kind : operation.plan.operationType = .certbotIssue)
    (planned : operation.plan.certbotIssue = some payload)
    (production : payload.environment = .production) :
    Gated world.tables world.focus world.log payload.primaryDomain payload.domains nowMs := by
  obtain ⟨current, read, plan⟩ := cleared.stored
  obtain ⟨check, logged, about, asked, staged⟩ := cleared.checked
  have id := loadOperationFrom_id read
  rw [← id] at read about
  refine ⟨current, payload, ?_, read, ?_, ?_, rfl, rfl, production, check, logged, about, asked,
    staged⟩
  · rw [id]
    exact cleared.focus
  · rw [plan]
    exact kind
  · rw [plan]
    exact planned

/-! ### Executions -/

/-- A program that orders nothing. -/
theorem gate_unordered {α : Type} {program : Ops α} (kept : Kept world.tables)
    (calls : Unordered program) :
    SafeE (environment runtime model) Gate program world fun _ after => Kept after.tables := by
  refine Safe.of_issues calls kept (fun _ _ _ unordered => gate_of_unordered unordered) ?_
  intro reached call answer after kept _ stepped
  exact kept.step stepped

theorem gate_plain {α : Type} {program : Ops α} (focused : Focused operation world)
    (calls : IssuesE Plain program) :
    SafeE (environment runtime model) Gate program world fun _ after =>
      Focused operation after := by
  refine Safe.of_issues calls focused (fun _ _ _ plain => gate_of_unordered plain.not_order) ?_
  intro reached call answer after focused plain stepped
  exact focused.step plain.unmarked stepped

/-- From the check on: every order is the one of the plan. -/
theorem gate_snapshotAndIssue
    (cleared : Cleared operation payload.stagingEvidenceKey nowMs world)
    (kind : operation.plan.operationType = .certbotIssue)
    (planned : operation.plan.certbotIssue = some payload)
    (production : payload.environment = .production) {accountEmail : Bytes} :
    SafeE (environment runtime model) Gate
      (snapshotAndIssue runtime operation payload accountEmail nowMs) world fun _ _ => True := by
  let order : Call := .host (.certbot (.issue payload.primaryDomain payload.domains accountEmail
    payload.environment true) nowMs)
  have calls : IssuesE (fun call => Plain call ∨ call = order)
      (snapshotAndIssue runtime operation payload accountEmail nowMs) :=
    issues_snapshotAndIssue operation payload accountEmail nowMs (fun _ => .inl) (.inr rfl)
  refine (Safe.of_issues calls cleared ?_ ?_).mono fun _ _ _ => trivial
  · rintro reached call cleared (plain | rfl)
    · exact gate_of_unordered plain.not_order
    · intro primaryDomain domains _ agreed time same
      simp only [order, Call.host.injEq, HostCall.certbot.injEq,
        CertbotCommand.issue.injEq] at same
      obtain ⟨⟨rfl, rfl, _⟩, rfl⟩ := same
      exact cleared.gated kind planned production
  · rintro reached call answer after cleared (plain | rfl) stepped
    · exact cleared.step plain.unmarked stepped
    · exact cleared.step (by simp [order]) stepped

theorem gate_executeCertbotIssue (focused : Focused operation world)
    (kind : operation.plan.operationType = .certbotIssue) :
    SafeE (environment runtime model) Gate (executeCertbotIssue runtime operation nowMs) world
      fun _ _ => True := by
  have cancel (reason : String) {reached : World H} (focused : Focused operation reached) :
      SafeE (environment runtime model) Gate
        (cancelCertbotBeforeApply runtime operation reason nowMs) reached fun _ _ => True :=
    (gate_plain focused (plain_ending _ _)).mono fun _ _ _ => trivial
  unfold executeCertbotIssue
  cases planned : operation.plan.certbotIssue with
  | none => trivial
  | some payload =>
  refine SafeE.onError
    ((gate_plain focused
    (plain_of_silent (touches_readProposal.mono fun _ => Touches.silent))).mono
    fun result read focused => ?_)
  cases result with
  | error error => exact cancel _ focused
  | ok accountEmail =>
  dsimp only
  split
  · rename_i production
    refine SafeE.bind ⟨gate_of_unordered rfl, fun answer after stepped => ?_⟩
    have focusedAfter := focused.step (fun _ bad => by cases bad) stepped
    cases answer with
    | error error => trivial
    | ok recent =>
    cases recent with
    | false => exact cancel _ focusedAfter
    | true =>
    refine gate_snapshotAndIssue ⟨focusedAfter, ?_⟩ kind planned production
    obtain ⟨failure, faults, session, ran, rfl⟩ := stepped
    have found := @recent_read runtime.toCodec failure read.ledger payload.stagingEvidenceKey
      (gateOpens nowMs) faults
    unfold gateOpens at found
    rw [ran] at found
    exact ⟨_, List.mem_cons_self, focused.focus, rfl,
      staged_of_recent focused.kept.timed (found true rfl)⟩
  · rename_i staging
    have calls : IssuesE Plain (snapshotAndIssue runtime operation payload accountEmail nowMs) := by
      refine issues_snapshotAndIssue operation payload accountEmail nowMs (fun _ => id) ?_
      cases environment : payload.environment with
      | staging => rfl
      | production => exact absurd environment staging
    exact (gate_plain focused calls).mono fun _ _ _ => trivial

/-! ### Requests and runs -/

theorem serves_gate : Serves runtime model Gate fun world => Kept world.tables where
  permits _ _ harmless := gate_of_unordered (orders_harmless harmless)
  keeps kept _ stepped := kept.step stepped

theorem gate_handleBody (kept : Kept world.tables) (request : Request) (nowMs : Int) :
    SafeE (environment runtime model) Gate (handleBody runtime request nowMs) world
      fun _ _ => True := by
  refine serves_gate.safe_body kept (fun actor operationId kept => ?_) request
  refine serves_gate.safe_execution kept fun {reached} operation kept stored approved => ?_
  refine SafeE.bind ⟨gate_of_unordered rfl, ?_⟩
  rintro _ _ rfl
  by_cases kind : operation.plan.operationType = .certbotIssue
  · have focused : Focused operation (reached.focusOn (some operation.operationId)) :=
      ⟨kept, rfl, operation, stored, rfl⟩
    have execution := @gate_executeCertbotIssue _ runtime model _ _ nowMs focused kind
    unfold executeApproved
    rw [kind]
    exact execution
  · have kept : Kept (reached.focusOn (some operation.operationId)).tables := kept
    exact (gate_unordered kept (unordered_executeApproved kind)).mono fun _ _ _ => trivial

/-- The orders in the log were gated when they were made. -/
def GatedEntry (entry : Entry) (earlier : List Entry) : Prop :=
  ∀ primaryDomain domains accountEmail agreed nowMs,
    entry.call =
      .host (.certbot (.issue primaryDomain domains accountEmail .production agreed) nowMs) →
    Gated entry.before entry.focus earlier primaryDomain domains nowMs

/-- What every run keeps. -/
structure Orderly (world : World H) : Prop where
  kept : Kept world.tables
  orders : Along GatedEntry world.log

theorem Orderly.step (orderly : Orderly world) (gate : Gate world call)
    (stepped : environment runtime model world call answer after) : Orderly after := by
  refine ⟨orderly.kept.step stepped, ?_⟩
  rcases environment_log stepped with ⟨_, same⟩ | grown
  · rw [same]
    exact orderly.orders
  · rw [grown]
    exact ⟨gate, orderly.orders⟩

theorem orderly_of_reachable {machine : Machine H} (reachable : Reachable runtime model machine) :
    Orderly machine.world := by
  obtain ⟨host, path⟩ := reachable
  induction path with
  | refl => exact ⟨⟨(@good_empty H runtime host).keyed, nofun⟩, trivial⟩
  | @tail middle _ _ step ih =>
    have start : Orderly (middle.world.focusOn none) := ⟨ih.kept, ih.orders⟩
    refine step.keeps (fun _ _ _ _ orderly gate stepped => orderly.step gate stepped) start
      (fun nowMs => ?_) (gate_handleBody start.kept) fun _ _ => ⟨ih.kept, ih.orders⟩
    exact (gate_unordered start.kept unordered_initializeService).mono fun _ _ _ => trivial

end Gate

/-! ### Keys -/

/-- The key of a plan that is stored is the digest of what the plan is about. -/
def StoresKeyed (runtime : Runtime) : Call → Prop
  | .ledger (.createOrReusePlan plan) => ∃ payload, plan.certbotIssue = some payload ∧
      payload.stagingEvidenceKey =
        stagingEvidenceKey runtime payload.domains payload.siteDigest payload.resolvedAddresses
  | _ => True

section Keys

variable {runtime : Runtime} {α : Type} {program : Ops α}

theorem keyed_of_passive (calls : IssuesE Passive program) :
    IssuesE (StoresKeyed runtime) program := by
  refine calls.mono fun call passive => ?_
  cases call with
  | ledger call =>
    cases call with
    | createOrReusePlan plan => cases passive
    | _ => trivial
  | _ => trivial

theorem keyed_openLedger : IssuesE (StoresKeyed runtime) openLedger := by
  refine IssuesE.onError (issues_perform trivial) (fun error => ?_) fun _ => IssuesE.ret _
  split
  · exact IssuesE.bind (issues_perform trivial) fun _ => IssuesE.fail _
  · exact IssuesE.fail _

theorem keyed_cleanupProposal (record : ProposalRecord) :
    IssuesE (StoresKeyed runtime) (cleanupProposal record) :=
  IssuesE.bind (IssuesE.attempt (keyed_of_passive
    ((removeProposal_silent record).mono fun _ => Silent.passive))) fun _ => IssuesE.ret _

theorem keyed_proposeCertbotIssue {actor : Subject} {input : CertbotIssuePlanInput}
    {site : NginxSite} {inventory : CertificateInventoryView} {valid : Bool} :
    IssuesE (StoresKeyed runtime)
      (proposeCertbotIssue runtime actor input site inventory valid nowMs) := by
  refine IssuesE.checked ?_
  refine IssuesE.bind (IssuesE.bind (issues_perform trivial) fun _ =>
    IssuesE.ret _) fun planId => ?_
  refine IssuesE.bind ?_ fun proposal => IssuesE.bind (IssuesE.attempt ?_) fun result => ?_
  · refine IssuesE.checked <| IssuesE.checked ?_
    exact IssuesE.bind (issues_perform trivial) fun _ => IssuesE.ret _
  · refine IssuesE.bind keyed_openLedger fun _ => ?_
    exact IssuesE.bind (issues_perform ⟨_, rfl, rfl⟩) fun _ => IssuesE.lift _
  · cases result with
    | error error => exact IssuesE.bind (keyed_cleanupProposal _) fun _ => IssuesE.fail _
    | ok stored =>
      dsimp only
      split
      · exact IssuesE.bind (keyed_cleanupProposal _) fun _ => IssuesE.ret _
      · exact IssuesE.ret _

/-- The planner of certificates stores no plan under another key. -/
theorem keyed_planCertbotIssue (actor : Subject) (input : CertbotIssuePlanInput) (nowMs : Int) :
    IssuesE (StoresKeyed runtime) (planCertbotIssue runtime actor input nowMs) := by
  refine IssuesE.bind keyed_openLedger fun _ => ?_
  refine IssuesE.bind ?_ fun _ => IssuesE.bind ?_ fun site => ?_
  · refine IssuesE.bind (issues_perform trivial) fun plans => IssuesE.forM fun plan => ?_
    exact IssuesE.forM keyed_cleanupProposal
  · refine IssuesE.bind (IssuesE.lift _) fun _ => keyed_of_passive ?_
    exact touches_validateIssueSite.mono fun _ touches => touches.silent.passive
  refine IssuesE.bind (keyed_of_passive (certificateInventory_passive nowMs)) fun _ => ?_
  refine IssuesE.checked <| IssuesE.checked ?_
  refine IssuesE.bind (issues_perform trivial) fun _ =>
    IssuesE.bind (issues_perform trivial) fun _ => ?_
  refine IssuesE.checked <| IssuesE.bind keyed_openLedger fun _ => ?_
  refine IssuesE.bind (issues_perform trivial) fun _ => IssuesE.checked ?_
  exact keyed_proposeCertbotIssue

end Keys

/-- Whenever certbot is asked for a real certificate, the ledger was asked about the key of the plan
at the same time and showed an operation that had succeeded with a certificate of the staging
environment under that key, at most a day before. The planner computes the key from the domains,
the site and the addresses of the plan. -/
theorem production_gated_by_staging {H : Type} (runtime : Runtime) (model : HostModel H)
    (machine : Machine H) (reachable : Reachable runtime model machine) :
    (∀ later entry earlier primaryDomain domains accountEmail agreed nowMs,
      machine.world.log = later ++ entry :: earlier →
      entry.call =
        .host (.certbot (.issue primaryDomain domains accountEmail .production agreed) nowMs) →
      nowMs ≤ i64Max →
      ∃ operation payload, entry.focus = some operation.operationId ∧
        loadOperationFrom entry.before operation.operationId = .ok operation ∧
        operation.plan.operationType = .certbotIssue ∧
        operation.plan.certbotIssue = some payload ∧ payload.primaryDomain = primaryDomain ∧
        payload.domains = domains ∧ payload.environment = .production ∧
        ∃ check ∈ earlier, check.focus = some operation.operationId ∧
          check.call = .ledger (.hasRecentStagingEvidence payload.stagingEvidenceKey
            (saturatingSub nowMs stagingEvidenceTtlMs)) ∧
          ∃ plan stagingPayload row finish, StagedAt check.before payload.stagingEvidenceKey
            (nowMs - stagingEvidenceTtlMs) plan stagingPayload row finish) ∧
    ∀ actor input nowMs,
      IssuesE (StoresKeyed runtime) (planCertbotIssue runtime actor input nowMs) := by
  refine ⟨?_, keyed_planCertbotIssue⟩
  intro later entry earlier primaryDomain domains accountEmail agreed nowMs log order bounded
  have along := (orderly_of_reachable reachable).orders
  rw [log] at along
  obtain ⟨operation, payload, focus, stored, kind, planned, primary, names, production, check,
    logged, about, asked, plan, stagingPayload, row, finish, staged⟩ :=
    along.split primaryDomain domains accountEmail agreed nowMs order
  refine ⟨operation, payload, focus, stored, kind, planned, primary, names, production, check,
    logged, about, asked, plan, stagingPayload, row, finish, ?_⟩
  obtain ⟨recorded, owner, stage, recent⟩ := staged.finished
  refine { staged with finished := ⟨recorded, owner, stage, ?_⟩ }
  -- the subtraction saturates at the lower end only, where it asks for more
  have saturates : nowMs - stagingEvidenceTtlMs ≤ gateOpens nowMs := by
    simp only [gateOpens, saturatingSub, stagingEvidenceTtlMs, i64Max] at bounded ⊢
    omega
  exact saturates.trans recent

/-! ### Samples -/

/-- A daemon that parses every address and tells plans apart by their time. -/
def certificateRuntime : Runtime :=
  { sampleRuntime with
    parseIpAddr := fun _ => some (.v4 0)
    issuePlanJson := fun plan => List.replicate plan.createdAtMs.toNat 0
    planTtlMs := 1000 }

/-- A host on which certbot succeeds. -/
def issuingHost (bytes : Bytes) : (call : HostCall) → call.Answer
  | .readProposalFile _ => .ok (utf8Bytes stagingRequest.accountEmail)
  | .storeSnapshotFile _ _ content => .ok content
  | .certbot _ _ => .ok {
      commandClass := .issueStaging
      success := true
      exitCode := some 0
      timedOut := false
      stdoutDigest := sha256Digest sampleCodec []
      stdoutTruncated := false
      stderrDigest := sha256Digest sampleCodec []
      stderrTruncated := false }
  | call => challengeHost bytes call

theorem issuingHost_plays (bytes : Bytes) :
    Plays (fun _ call => (issuingHost bytes call, ())) unconstrained := by
  intro host call
  refine ⟨?_, trivial⟩
  cases call with
  | run command => exact sampleEvidence_produced command true
  | discoverCertificates => exact Nat.two_pow_pos 32
  | _ => trivial

def productionInput (observedMs : Int) : CertbotIssuePlanInput :=
  { stagingInput observedMs with
    request := { stagingRequest with
      environment := .production
      idempotencyKey := "fedcba9876543210" } }

def ask (nowMs : Int) (bytes : Bytes) (request : Request) (world : World Unit) : World Unit :=
  playRequest certificateRuntime (fun _ call => (issuingHost bytes call, ())) (fun _ => []) nowMs
    request world

/-- The approval of the plan that is made at a time. -/
def approvalAt (nowMs : Int) (bytes : Bytes) (input : CertbotIssuePlanInput) : ApprovalRequest where
  planId := idOf "plan" bytes
  planHash := canonicalDigest sampleCodec "jw-agent/operation-plan/v1"
    (List.replicate nowMs.toNat 0)
  idempotencyKey := input.request.idempotencyKey

/-- A certificate is planned, approved and executed. -/
def obtainCertificate (nowMs : Int) (bytes : Bytes) (input : CertbotIssuePlanInput)
    (world : World Unit) : World Unit :=
  ask nowMs bytes (.execute operator (idOf "op" bytes))
    (ask nowMs bytes (.approve operator (.certbotIssue true true) (approvalAt nowMs bytes input))
      (ask nowMs bytes (.planCertbotIssue operator input) world))

def certificateStarted : Except OpsError Unit × World Unit :=
  playStart certificateRuntime (fun _ call => (issuingHost [0] call, ())) (fun _ => []) 1
    ⟨emptyLedger, (), none, []⟩

/-- First from the staging environment, then from production. -/
def certificateObtained : World Unit :=
  obtainCertificate 2 [2] (productionInput 2)
    (obtainCertificate 1 [1] (stagingInput 1) certificateStarted.2)

theorem reachable_obtainCertificate {world : World Unit}
    (reachable : Reachable certificateRuntime unconstrained ⟨.serving, world⟩) {bytes : Bytes}
    {input : CertbotIssuePlanInput} :
    Reachable certificateRuntime unconstrained
      ⟨.serving, obtainCertificate nowMs bytes input world⟩ := by
  have plays := issuingHost_plays bytes
  exact reachable_playRequest plays
    (reachable_playRequest plays (reachable_playRequest plays reachable _) _) _

theorem reachable_certificateObtained :
    Reachable certificateRuntime unconstrained ⟨.serving, certificateObtained⟩ := by
  have started : certificateStarted.1 = .ok () := by decide +kernel
  have serving := reachable_playStart (issuingHost_plays [0]) ⟨(), .refl⟩ started
  exact reachable_obtainCertificate (reachable_obtainCertificate serving)

def orderTime : Call → Option Int
  | .host (.certbot (.issue _ _ _ .production _) nowMs) => some nowMs
  | _ => none

theorem orderTime_some {call : Call} {nowMs : Int} (time : orderTime call = some nowMs) :
    ∃ primaryDomain domains accountEmail agreed, call =
      .host (.certbot (.issue primaryDomain domains accountEmail .production agreed) nowMs) := by
  unfold orderTime at time
  split at time
  · obtain rfl := Option.some.inj time
    exact ⟨_, _, _, _, rfl⟩
  · cases time

theorem certificateObtained_ordered :
    (certificateObtained.log.any fun entry => orderTime entry.call == some 2) = true := by
  decide +kernel

theorem production_gated_of_certificateObtained : ∃ later entry earlier,
    certificateObtained.log = later ++ entry :: earlier ∧ orderTime entry.call = some 2 ∧
      ∃ check ∈ earlier, ∃ evidenceKey plan payload row finish,
        StagedAt check.before evidenceKey (2 - stagingEvidenceTtlMs) plan payload row finish := by
  obtain ⟨entry, logged, time⟩ := List.any_eq_true.mp certificateObtained_ordered
  obtain ⟨later, earlier, split⟩ := List.append_of_mem logged
  have time := beq_iff_eq.mp time
  refine ⟨later, entry, earlier, split, time, ?_⟩
  obtain ⟨primaryDomain, domains, accountEmail, agreed, order⟩ := orderTime_some time
  obtain ⟨gated, _⟩ := production_gated_by_staging certificateRuntime unconstrained
    ⟨.serving, certificateObtained⟩ reachable_certificateObtained
  obtain ⟨operation, payload, _, _, _, _, _, _, _, check, before, _, _, staged⟩ :=
    gated later entry earlier primaryDomain domains accountEmail agreed 2 split order (by decide)
  exact ⟨check, before, payload.stagingEvidenceKey, staged⟩

end JwOps.Lifecycle.Staging
