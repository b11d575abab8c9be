/- module: Lifecycle/EffectFree
   source: crates/jw-opsd/src/engine.rs, docs/40-contracts/operation-lifecycle.md
   digest: Which of the terminal states before an effect are reached without one. -/
import JwOps.Lifecycle.Edges
import JwOps.Lifecycle.Sessions

set_option autoImplicit false

namespace JwOps.Lifecycle.EffectFree

open Contracts Ledger Engine Foundation Operation Digest Config Schema Writes Commits Locks
open Interface Nginx Certbot Attach ManagedConfig ServiceControl Ufw Recovery History Tracking
open Fragments Dispatch Lifecycle.System Safety Runs Edges Sessions Keyed Program

variable {nowMs : Int}

/-! ### Which edges are open to a plan -/

/-- The plan asks for what is already there. -/
def isNoop (plan : StoredPlan) : Bool :=
  match plan.operationType with
  | .nginxSiteState => plan.currentState == plan.targetState
  | .managedConfig | .managedConfigRestore =>
    plan.managedConfig.any fun payload => plan.availableDigest == payload.proposedContentDigest
  | _ => false

/-- The types that run certbot itself. -/
def runsCertbot : OperationType → Bool
  | .certbotIssue | .certbotRenewTest => true
  | _ => false

structure Sound (plan : StoredPlan) (expected : List OperationStage) (next : OperationStage) :
    Prop where
  unexpired : next ≠ .expired
  rejecting : next = .rejected → runsCertbot plan.operationType = true ∧
    ∀ stage ∈ expected, stage = .applying ∨ stage = .validating
  cancelling : next = .cancelledBeforeApply →
    (∀ stage ∈ expected, stage = .approved ∨ stage = .snapshotted) ∨ isNoop plan = true
  applying : next = .applying → isNoop plan = false

/-- What may be touched for an operation. -/
def touched (operation : StoredOperation) : List Family :=
  .snapshot operation.operationId (snapshotKind operation.plan.operationType).fileName ::
    familiesOf operation.plan.operationType

/-- Transitions take edges that are open to the plan, and nothing is touched that is not the
operation's. -/
def Open (operation : StoredOperation) : Call → Prop
  | .ledger (.transition _ change _ _) => Sound operation.plan change.expected change.next
  | .host call => Within (touched operation) call
  | _ => True

section Open

variable {operation : StoredOperation} {plan : StoredPlan} {α : Type} {program : Ops α}
  {edges : StageEdges} {families : List Family}

theorem open_of_takes (calls : IssuesE (Takes edges families) program)
    (sound : ∀ edge ∈ edges, Sound operation.plan edge.1 edge.2)
    (inside : families ⊆ touched operation) : IssuesE (Open operation) program := by
  refine calls.mono fun call takes => ?_
  cases call with
  | ledger call =>
    cases call with
    | transition operationId change diagnostics command => exact sound _ takes
    | _ => trivial
  | host call => exact fun kind about => inside (takes kind about)
  | mark operationId => trivial

theorem subset_touched (kind : familiesOf operation.plan.operationType = families) :
    families ⊆ touched operation := by
  rw [← kind]
  exact List.subset_cons_self _ _

/-- A part that takes no edge and touches nothing. -/
theorem open_idle (calls : IssuesE (Takes [] []) program) : IssuesE (Open operation) program :=
  open_of_takes calls nofun (List.nil_subset _)

theorem sound_cancelEdges : ∀ edge ∈ cancelEdges, Sound plan edge.1 edge.2 := by
  intro edge member
  obtain rfl := List.mem_singleton.mp member
  refine ⟨nofun, nofun, fun _ => .inl fun stage inside => .inl ?_, nofun⟩
  exact List.mem_singleton.mp inside

theorem sound_noopEdges (noop : isNoop plan = true) :
    ∀ edge ∈ noopEdges, Sound plan edge.1 edge.2 := by
  intro edge member
  simp only [noopEdges, List.mem_cons, List.not_mem_nil, or_false] at member
  rcases member with rfl | rfl | rfl
  · exact ⟨nofun, nofun, nofun, nofun⟩
  · exact ⟨nofun, nofun, fun _ => .inr noop, nofun⟩
  · exact ⟨nofun, nofun, nofun, nofun⟩

theorem sound_rollbackEdges : ∀ edge ∈ rollbackEdges, Sound plan edge.1 edge.2 := by
  intro edge member
  simp only [rollbackEdges, List.mem_cons, List.not_mem_nil, or_false] at member
  rcases member with rfl | rfl | rfl | rfl | rfl <;> exact ⟨nofun, nofun, nofun, nofun⟩

theorem sound_applyEdges (changes : isNoop plan = false) :
    ∀ edge ∈ applyEdges, Sound plan edge.1 edge.2 := by
  intro edge member
  rcases List.mem_append.mp member with early | back
  · simp only [List.mem_cons, List.not_mem_nil, or_false] at early
    rcases early with rfl | rfl | rfl | rfl | rfl | rfl | rfl
    · exact ⟨nofun, nofun, nofun, fun _ => changes⟩
    all_goals exact ⟨nofun, nofun, nofun, nofun⟩
  · exact sound_rollbackEdges edge back

theorem sound_certbotEdges (certbot : runsCertbot plan.operationType = true) :
    ∀ edge ∈ certbotEdges, Sound plan edge.1 edge.2 := by
  have changes : isNoop plan = false := by
    unfold isNoop
    cases kind : plan.operationType <;> rw [kind] at certbot <;> first | rfl | cases certbot
  intro edge member
  simp only [certbotEdges, List.mem_cons, List.not_mem_nil, or_false] at member
  rcases member with rfl | rfl | rfl | rfl | rfl
  · exact ⟨nofun, nofun, nofun, fun _ => changes⟩
  · exact ⟨nofun, nofun, nofun, nofun⟩
  · exact ⟨nofun, fun _ => ⟨certbot, by simp⟩, nofun, nofun⟩
  · exact ⟨nofun, fun _ => ⟨certbot, by simp⟩, nofun, nofun⟩
  · exact ⟨nofun, nofun, nofun, nofun⟩

theorem open_ite {condition : Prop} [Decidable condition] {first second : Ops α}
    (holds : condition → IssuesE (Open operation) first)
    (fails : ¬condition → IssuesE (Open operation) second) :
    IssuesE (Open operation) (if condition then first else second) := by
  split
  · exact holds ‹_›
  · exact fails ‹_›

theorem open_attach {operationId : String} {record : SnapshotRecord} :
    IssuesE (Open operation) (attachSnapshot operationId record nowMs) :=
  issues_perform trivial

end Open

/-! ### Executors -/

variable {runtime : Runtime} {operation : StoredOperation}

theorem open_cancelCertbot {reason : String} :
    IssuesE (Open operation) (cancelCertbotBeforeApply runtime operation reason nowMs) :=
  open_of_takes takes_cancelCertbotBeforeApply sound_cancelEdges (List.nil_subset _)

theorem open_cancelApproved {resultCode digest : String} :
    IssuesE (Open operation) (cancelApproved operation resultCode digest nowMs) :=
  open_of_takes takes_cancelApproved sound_cancelEdges (List.nil_subset _)

theorem open_free {α : Type} {call : HostCall} {view : call.Answer → Except OpsError α}
    (free : family call = none) : IssuesE (Open operation) (perform (.host call) view) :=
  open_idle (takes_free free)

theorem open_certificateInventory :
    IssuesE (Open operation) (certificateInventory runtime nowMs) :=
  open_idle (takes_idle touches_certificateInventory)

/-- The snapshot is the operation's own. -/
theorem open_writeSnapshot {kind : SnapshotKind} (data : kind.Data)
    (own : kind = snapshotKind operation.plan.operationType) :
    IssuesE (Open operation) (writeSnapshot runtime kind operation.operationId data) := by
  subst own
  exact open_of_takes (takes_writeSnapshot _ List.mem_cons_self : IssuesE (Takes [] _) _) nofun
    (List.Subset.refl _)

theorem open_readProposal {record : ProposalRecord} :
    IssuesE (Open operation) (readProposal runtime record) :=
  open_idle (takes_idle touches_readProposal)

theorem open_snapshotAndIssue (kind : operation.plan.operationType = .certbotIssue)
    {payload : CertbotIssuePlanPayload} {accountEmail : Bytes} :
    IssuesE (Open operation)
      (snapshotAndIssue runtime operation payload accountEmail nowMs) := by
  refine IssuesE.onError (open_idle (takes_idle touches_validateIssueSite))
    (fun _ => open_cancelCertbot) fun _ => ?_
  refine IssuesE.onError open_certificateInventory (fun _ => open_cancelCertbot)
    fun _ => ?_
  refine open_ite (fun _ => open_cancelCertbot) fun _ => ?_
  refine IssuesE.checked ?_
  refine IssuesE.onError (open_writeSnapshot _ (by rw [kind]; rfl))
    (fun _ => open_cancelCertbot) fun _ => ?_
  refine IssuesE.bind open_attach fun _ => ?_
  exact open_of_takes takes_issueAndVerify (sound_certbotEdges (by rw [kind]; rfl))
    (subset_touched (by rw [kind]; rfl))

theorem open_executeCertbotIssue (kind : operation.plan.operationType = .certbotIssue) : IssuesE (Open operation) (executeCertbotIssue runtime operation nowMs) := by
  unfold executeCertbotIssue
  cases operation.plan.certbotIssue with
  | none => exact IssuesE.fail _
  | some payload =>
    refine IssuesE.onError open_readProposal (fun _ => open_cancelCertbot) fun _ => ?_
    refine open_ite (fun _ => ?_) fun _ => open_snapshotAndIssue kind
    refine IssuesE.bind (issues_perform trivial) fun _ => ?_
    exact open_ite (fun _ => open_cancelCertbot) fun _ => open_snapshotAndIssue kind

theorem open_executeCertbotRenewTest (kind : operation.plan.operationType = .certbotRenewTest) :
    IssuesE (Open operation) (executeCertbotRenewTest runtime operation nowMs) := by
  unfold executeCertbotRenewTest
  cases operation.plan.certbotRenew with
  | none => exact IssuesE.fail _
  | some payload =>
    refine IssuesE.onError open_certificateInventory (fun _ => open_cancelCertbot)
      fun _ => ?_
    refine open_ite (fun _ => open_cancelCertbot) fun _ => ?_
    refine IssuesE.checked ?_
    refine IssuesE.onError (open_writeSnapshot _ (by rw [kind]; rfl))
      (fun _ => open_cancelCertbot) fun _ => ?_
    refine IssuesE.bind open_attach fun _ => ?_
    exact open_of_takes takes_renewAndVerify (sound_certbotEdges (by rw [kind]; rfl))
      (subset_touched (by rw [kind]; rfl))

theorem open_executeCertbotAttach (kind : operation.plan.operationType = .certbotAttach)
    (nowMs : Int) : IssuesE (Open operation) (executeCertbotAttach runtime operation nowMs) := by
  have changes : isNoop operation.plan = false := by simp only [isNoop, kind]
  have inside : fileFamilies ⊆ touched operation := subset_touched (by rw [kind]; rfl)
  unfold executeCertbotAttach
  cases operation.plan.certbotAttach with
  | none => exact IssuesE.fail _
  | some payload =>
    refine IssuesE.onError open_certificateInventory (fun _ => open_cancelCertbot)
      fun _ => ?_
    refine open_ite (fun _ => open_cancelCertbot) fun _ => ?_
    refine IssuesE.onError ?_ (fun _ => open_cancelCertbot) fun attachment => ?_
    · refine IssuesE.bind (IssuesE.lift _) fun _ => ?_
      refine IssuesE.bind (open_free rfl) fun _ => ?_
      refine IssuesE.checked ?_
      refine IssuesE.checked ?_
      exact IssuesE.bind (IssuesE.lift _) fun _ => IssuesE.ret _
    refine open_ite (fun _ => open_cancelCertbot) fun _ => ?_
    refine IssuesE.onError (open_writeSnapshot _ (by rw [kind]; rfl))
      (fun _ => open_cancelCertbot) fun _ => ?_
    refine IssuesE.bind open_attach fun _ => open_ite (fun _ => ?_) fun _ => ?_
    · refine IssuesE.bind (issues_perform ?_) fun _ => ?_
      · exact ⟨nofun, nofun, nofun, nofun⟩
      · exact open_of_takes takes_verifyCertbotAttach (sound_applyEdges changes) inside
    · exact open_of_takes takes_replaceAndReload (sound_applyEdges changes) inside

theorem open_executeServiceControl (kind : operation.plan.operationType = .serviceControl)
    (nowMs : Int) : IssuesE (Open operation) (executeServiceControl runtime operation nowMs) := by
  refine IssuesE.bind (IssuesE.lift _) fun service => ?_
  refine IssuesE.bind (IssuesE.lift _) fun action => ?_
  refine IssuesE.bind (open_ite (fun _ => IssuesE.bind (open_free rfl)
    fun _ => IssuesE.ret _) fun _ => IssuesE.ret _) fun _ => ?_
  refine open_ite (fun _ => open_cancelApproved) fun _ => ?_
  refine IssuesE.bind (open_idle (takes_read (by cases service <;> rfl))) fun _ => ?_
  refine open_ite (fun _ => open_cancelApproved) fun _ => ?_
  refine IssuesE.onError (open_writeSnapshot _ (by rw [kind]; rfl))
    (fun _ => open_cancelApproved) fun _ => ?_
  refine IssuesE.bind open_attach fun _ => ?_
  exact open_of_takes takes_actAndVerify
    (sound_applyEdges (by simp only [isNoop, kind])) (subset_touched (by rw [kind]; rfl))

theorem open_executeUfwRule (kind : operation.plan.operationType = .ufwRule) (nowMs : Int) :
    IssuesE (Open operation) (executeUfwRule runtime operation nowMs) := by
  unfold executeUfwRule
  cases operation.plan.ufwRule with
  | none => exact IssuesE.fail _
  | some payload =>
    refine IssuesE.bind (open_idle (takes_idle touches_ufwInventory)) fun _ => ?_
    refine open_ite (fun _ => open_cancelApproved) fun _ => ?_
    refine IssuesE.bind (IssuesE.lift _) fun _ => ?_
    refine IssuesE.onError (open_writeSnapshot _ (by rw [kind]; rfl))
      (fun _ => open_cancelApproved) fun _ => ?_
    refine IssuesE.bind open_attach fun _ => ?_
    exact open_of_takes takes_applyRule
      (sound_applyEdges (by simp only [isNoop, kind])) (subset_touched (by rw [kind]; rfl))

theorem isNoop_managed {plan : StoredPlan} {payload : ManagedConfigPlanPayload}
    (kind : plan.operationType = .managedConfig ∨ plan.operationType = .managedConfigRestore)
    (planned : plan.managedConfig = some payload) :
    isNoop plan = (plan.availableDigest == payload.proposedContentDigest) := by
  rcases kind with kind | kind <;> simp [isNoop, kind, planned]

theorem open_executeManagedConfig (kind : operation.plan.operationType = .managedConfig ∨
      operation.plan.operationType = .managedConfigRestore) (nowMs : Int) :
    IssuesE (Open operation) (executeManagedConfig runtime operation nowMs) := by
  have cancel (code : String) : IssuesE (Open operation)
      (cancelManagedBeforeApply runtime operation code nowMs) :=
    open_of_takes takes_cancelManagedBeforeApply sound_cancelEdges (List.nil_subset _)
  have own : SnapshotKind.managedConfig = snapshotKind operation.plan.operationType := by
    rcases kind with kind | kind <;> rw [kind] <;> rfl
  have inside : fileFamilies ⊆ touched operation :=
    subset_touched (by rcases kind with kind | kind <;> rw [kind] <;> rfl)
  unfold executeManagedConfig
  cases planned : operation.plan.managedConfig with
  | none => exact IssuesE.fail _
  | some payload =>
    have noop := isNoop_managed kind planned
    refine IssuesE.onError (open_free rfl) (fun _ => cancel _) fun preflight => ?_
    refine open_ite (fun _ => cancel _) fun fresh => ?_
    simp only [ne_eq, not_or, not_not] at fresh
    refine IssuesE.bind (open_ite (fun _ => IssuesE.bind (IssuesE.attempt (open_idle
      (takes_read (active_reads _)))) fun _ => IssuesE.ret _) fun _ => IssuesE.ret _) fun _ => ?_
    refine open_ite (fun _ => cancel _) fun _ => ?_
    refine IssuesE.onError open_readProposal (fun _ => cancel _) fun _ => ?_
    refine open_ite (fun _ => cancel _) fun _ => ?_
    refine IssuesE.onError (IssuesE.lift _) (fun _ => cancel _) fun _ => ?_
    refine IssuesE.onError (open_writeSnapshot _ own) (fun _ => cancel _) fun _ => ?_
    refine IssuesE.bind open_attach fun _ => open_ite (fun same => ?_) fun differs => ?_
    · refine open_of_takes takes_finishManagedNoop (sound_noopEdges ?_)
        (List.nil_subset _)
      rw [noop, ← fresh.1, same]
      exact beq_self_eq_true _
    · refine open_of_takes takes_applyManagedConfig (sound_applyEdges ?_) inside
      rw [noop, ← fresh.1]
      exact beq_eq_false_iff_ne.mpr differs

/-! ### Sessions take open edges -/

/-- The rule of a session. -/
def openRule (track : Track) : Call → Prop := Open track.operation

section Rule

variable {track : Track} {α : Type}

/-- What is open depends on the plan and the identifier only. -/
theorem open_congr {first second : StoredOperation} (plan : first.plan = second.plan)
    (id : first.operationId = second.operationId) : Open first = Open second := by
  funext call
  cases call with
  | ledger call =>
    cases call with
    | transition operationId change diagnostics command => simp only [Open, plan]
    | _ => rfl
  | host call => simp only [Open, touched, plan, id]
  | mark operationId => rfl

/-- The track follows an operation with this plan and this identifier. -/
def Kin (operation : StoredOperation) (track : Track) : Prop :=
  track.operation.plan = operation.plan ∧ track.operation.operationId = operation.operationId

theorem safe_open {program : Ops α} (kin : Kin operation track)
    (calls : IssuesE (Open operation) program) :
    SafeE step openRule program track fun _ after => Kin operation after := by
  refine Safe.of_issues calls kin ?_ ?_
  · intro reached call kept allowed
    rw [openRule, open_congr kept.1 kept.2]
    exact allowed
  · intro reached call answer after kept _ stepped
    exact ⟨(step_plan stepped).trans kept.1, (step_id stepped).trans kept.2⟩

/-- The branch is taken on the plan that the ledger answers, which is the one it was asked for. -/
theorem safe_executeNginxSiteState (kind : operation.plan.operationType = .nginxSiteState)
    (kin : Kin operation track) :
    SafeE step openRule (executeNginxSiteState runtime operation nowMs) track fun _ _ => True := by
  have cancel (error : OpsError) {reached : Track} (kept : Kin operation reached) :
      SafeE step openRule (cancelApproved operation error.code (codeDigest runtime error.code)
        nowMs) reached fun _ _ => True :=
    (safe_open kept open_cancelApproved).mono fun _ _ _ => trivial
  have precondition : IssuesE (Open operation) (validatePrecondition operation) := by
    refine IssuesE.bind (open_free rfl) fun _ => ?_
    refine IssuesE.checked ?_
    exact IssuesE.checked (IssuesE.ret _)
  refine SafeE.onError ((safe_open kin precondition).mono fun result found kept => ?_)
  cases result with
  | error error => exact cancel error kept
  | ok preflight =>
  refine SafeE.onError ((safe_open kept (open_writeSnapshot _ (by rw [kind]; rfl))).mono
    fun result written kept => ?_)
  cases result with
  | error error => exact cancel error kept
  | ok record =>
  refine SafeE.bind ⟨trivial, fun answer after stepped => ?_⟩
  cases answer with
  | error error => trivial
  | ok snapshotted =>
  have reached : Kin operation after :=
    ⟨(step_plan stepped).trans kept.1, (step_id stepped).trans kept.2⟩
  obtain ⟨rfl, rfl⟩ := stepped
  have noop :
    isNoop operation.plan = (operation.plan.currentState == operation.plan.targetState) := by
    simp only [isNoop, kind]
  change SafeE step openRule (if (withSnapshot written.operation record).plan.currentState =
    (withSnapshot written.operation record).plan.targetState then _ else _) _ _
  rw [show (withSnapshot written.operation record).plan = operation.plan from kept.1]
  split
  · rename_i unchanged
    refine (safe_open reached (open_of_takes takes_finishNoop (sound_noopEdges ?_)
      (List.nil_subset _))).mono fun _ _ _ => trivial
    rw [noop]
    exact beq_iff_eq.mpr unchanged
  · rename_i changed
    refine (safe_open reached (open_of_takes takes_applySiteState (sound_applyEdges ?_)
      (subset_touched (by rw [kind]; rfl)))).mono fun _ _ _ => trivial
    rw [noop]
    exact beq_eq_false_iff_ne.mpr changed

theorem keeps_openRule (runtime : Runtime) : Keeps runtime openRule := by
  refine ⟨fun operation nowMs approved => ?_, fun operation nowMs recoverable working => ?_⟩
  · have opened {program : Ops Ledger.Reads.OperationReceiptView}
        (calls : IssuesE (Open operation) program) :
        SafeE step openRule program (startTrack operation) fun _ _ => True :=
      (safe_open ⟨rfl, rfl⟩ calls).mono fun _ _ _ => trivial
    unfold executeApproved
    cases kind : operation.plan.operationType with
    | certbotIssue => exact opened (open_executeCertbotIssue kind)
    | certbotRenewTest => exact opened (open_executeCertbotRenewTest kind)
    | certbotAttach => exact opened (open_executeCertbotAttach kind _)
    | managedConfig => exact opened (open_executeManagedConfig (.inl kind) _)
    | managedConfigRestore => exact opened (open_executeManagedConfig (.inr kind) _)
    | serviceControl => exact opened (open_executeServiceControl kind _)
    | ufwRule => exact opened (open_executeUfwRule kind _)
    | nginxSiteState => exact safe_executeNginxSiteState kind ⟨rfl, rfl⟩
    | unregistered name => exact opened (IssuesE.fail _)
  · have opened {program : Ops Unit} (calls : IssuesE (Open operation) program) :
        SafeE step openRule program (startTrack operation) fun _ _ => True :=
      (safe_open ⟨rfl, rfl⟩ calls).mono fun _ _ _ => trivial
    have early (before : operation.stage = .approved ∨ operation.stage = .snapshotted) :
        SafeE step openRule (recoverBeforeApply runtime operation nowMs) (startTrack operation)
          fun _ _ => True := by
      refine opened (open_of_takes takes_recoverBeforeApply (fun edge member => ?_)
        (List.nil_subset _))
      obtain rfl := List.mem_singleton.mp member
      refine ⟨nofun, nofun, fun _ => .inl fun stage inside => ?_, nofun⟩
      rw [List.mem_singleton.mp inside]
      exact before
    have late : SafeE step openRule (recoverApplied runtime operation nowMs)
        (startTrack operation) fun _ _ => True := by
      refine opened (open_of_takes takes_recoverApplied (fun edge member => ?_)
        (List.subset_cons_self _ _))
      rcases List.mem_cons.mp member with rfl | back
      · exact ⟨nofun, nofun, nofun, nofun⟩
      · exact sound_rollbackEdges edge back
    unfold recoverStage
    cases stage : operation.stage with
    | approved => exact early (.inl stage)
    | snapshotted => exact early (.inr stage)
    | applying | validating | reloading | verifying | rollingBack => exact late
    | planned => exact opened (IssuesE.fail _)
    | _ => exact opened (IssuesE.ret _)

end Rule

/-! ### Paths without an effect -/

/-- Before it applies anything, an operation has passed nothing but its first stages. -/
theorem unapplied_early {stages : List OperationStage} {stage : OperationStage}
    (recorded : Recorded stages stage) (before : stage = .approved ∨ stage = .snapshotted) :
    .applying ∉ stages := by
  rcases recorded.split with ⟨rfl, _⟩ | ⟨front, earlier, rfl, approving, step⟩
  · decide
  rcases before with rfl | rfl
  · have edge := step.1
    cases earlier <;> cases edge
  · rcases approving.split with ⟨rfl, rfl⟩ | ⟨_, first, rfl, _, previous⟩
    · decide
    · -- only an approved operation gets a snapshot, and nothing leads to the approval
      have edge := step.1
      obtain rfl : earlier = .approved := by cases earlier <;> first | rfl | cases edge
      have edge := previous.1
      cases first <;> cases edge

theorem applied_late {stages : List OperationStage} {stage : OperationStage}
    (recorded : Recorded stages stage) (late : stage = .applying ∨ stage = .validating) :
    .applying ∈ stages := by
  rcases late with rfl | rfl
  · exact List.mem_of_getLast? recorded.last
  · rcases recorded.split with ⟨_, bad⟩ | ⟨front, earlier, rfl, before, step⟩
    · cases bad
    · have edge := step.1
      obtain rfl : earlier = .applying := by cases earlier <;> first | rfl | cases edge
      exact List.mem_append_left _ (List.mem_of_getLast? before.last)

theorem calm_of_unapplied {stages : List OperationStage} {stage : OperationStage}
    (recorded : Recorded stages stage) (unapplied : .applying ∉ stages) :
    (stage ∈ [.approved, .snapshotted, .verifying] ∧ ∀ passed ∈ stages, passed ∉ effectStages) ∨
      stage = .rollingBack ∨ stage.isTerminal = true := by
  induction length : stages.length using Nat.strong_induction_on generalizing stages stage with
  | _ count ih =>
  rcases recorded.split with ⟨rfl, rfl⟩ | ⟨front, earlier, rfl, before, step⟩
  · exact .inl ⟨by decide, by decide⟩
  have shorter : front.length < count := by
    rw [← length, List.length_append]
    simp
  have edge := step.1
  rcases ih _ shorter before (fun inside => unapplied (List.mem_append_left _ inside)) rfl with
    ⟨member, calm⟩ | rfl | terminal
  · have entered : stage ≠ .applying := by
      rintro rfl
      exact unapplied (by simp)
    have extended (still : stage ∉ effectStages) : ∀ passed ∈ front ++ [stage],
        passed ∉ effectStages := by
      intro passed inside
      rcases List.mem_append.mp inside with old | new
      · exact calm passed old
      · rw [List.mem_singleton.mp new]
        exact still
    simp only [List.mem_cons, List.not_mem_nil, or_false] at member
    rcases member with rfl | rfl | rfl <;>
      cases stage <;> first
        | exact absurd edge (by decide)
        | exact absurd rfl entered
        | exact .inr (.inl rfl)
        | exact .inr (.inr rfl)
        | exact .inl ⟨by decide, extended (by decide)⟩
  · cases stage <;> first | exact absurd edge (by decide) | exact .inr (.inr rfl)
  · have running := follows_running edge
    rw [terminal] at running
    cases running

/-- What the committed stages of an operation say about its effects. -/
structure Clean (stages : List OperationStage) (operation : StoredOperation) : Prop where
  unapplied : isNoop operation.plan = true → .applying ∉ stages
  unexpired : operation.stage ≠ .expired
  rejected : operation.stage = .rejected →
    runsCertbot operation.plan.operationType = true ∧ .applying ∈ stages
  cancelled : operation.stage = .cancelledBeforeApply → ∀ stage ∈ stages, stage ∉ effectStages

theorem Clean.early {stages : List OperationStage} (recorded : Recorded stages operation.stage)
    (before : operation.stage = .approved ∨ operation.stage = .snapshotted) :
    Clean stages operation := by
  refine ⟨fun _ => unapplied_early recorded before, ?_, ?_, ?_⟩ <;>
    rcases before with stage | stage <;> rw [stage] <;> nofun

/-- An open edge keeps an operation clean. -/
theorem Clean.moved {stages : List OperationStage} {change : Transition}
    (clean : Clean stages operation) (recorded : Recorded stages operation.stage)
    (sound : Sound operation.plan change.expected change.next)
    (expected : operation.stage ∈ change.expected)
    (edge : follows operation.stage change.next = true) :
    Clean (stages ++ [change.next]) (withTransition operation change) := by
  refine ⟨fun noop inside => ?_, sound.unexpired, fun rejected => ?_, fun cancelled => ?_⟩
  · rcases List.mem_append.mp inside with old | new
    · exact clean.unapplied noop old
    · have changes := sound.applying (List.mem_singleton.mp new).symm
      rw [show isNoop operation.plan = true from noop] at changes
      cases changes
  · obtain ⟨certbot, late⟩ := sound.rejecting rejected
    exact ⟨certbot, List.mem_append_left _ (applied_late recorded (late _ expected))⟩
  · have cancelled : change.next = .cancelledBeforeApply := cancelled
    have unapplied : .applying ∉ stages := by
      rcases sound.cancelling cancelled with before | noop
      · exact unapplied_early recorded (before _ expected)
      · exact clean.unapplied noop
    intro stage inside
    rcases List.mem_append.mp inside with old | new
    · rcases calm_of_unapplied recorded unapplied with ⟨_, calm⟩ | back | terminal
      · exact calm stage old
      · rw [back, cancelled] at edge
        cases edge
      · rw [follows_running edge] at terminal
        cases terminal
    · rw [List.mem_singleton.mp new, cancelled]
      decide

/-! ### Runs -/

section Runs

variable {H : Type} {world after : World H} {model : HostModel H}

/-- Every operation is clean, and an effect was made for one that has recorded a stage for it. -/
structure Traced (world : World H) : Prop where
  clean : ∀ operationId operation, loadOperationFrom world.tables operationId = .ok operation →
    Clean (stagesOf world.tables operationId) operation
  effects : ∀ entry ∈ world.log, ∀ call, entry.call = .host call → isEffect call = true →
    ∃ operationId, entry.focus = some operationId ∧
      ∃ stage ∈ stagesOf world.tables operationId, stage ∈ effectStages

theorem Traced.observed (traced : Traced world) {call : HostCall} {answer : call.Answer} {host : H}
    (recorded : isEffect call = true → ∃ operationId, world.focus = some operationId ∧
      ∃ stage ∈ stagesOf world.tables operationId, stage ∈ effectStages) :
    Traced (world.answered world.ledger host (.host call) answer) := by
  refine ⟨traced.clean, fun entry member other called effect => ?_⟩
  rcases List.mem_cons.mp member with rfl | old
  · obtain rfl := Call.host.inj called
    exact recorded effect
  · exact traced.effects entry old other called effect

theorem Commit.stagesOf_grow {codec : Codec} {tables after : Tables} {write : LedgerWrite}
    (commit : Commit codec tables write after) (operationId : String) :
    stagesOf tables operationId ⊆ stagesOf after operationId := by
  obtain ⟨event, events, _, _⟩ := Commit.event commit
  intro stage inside
  simp only [stagesOf, Tables.eventsOf, events, List.filter_append, List.map_append]
  exact List.mem_append_left _ inside

theorem Traced.committed (traced : Traced world) {ledger : LedgerState} {call : LedgerCall}
    {answer : Except OpsError call.Value} {write : LedgerWrite}
    (good : Good runtime world) (goodAfter : Good runtime
      (world.answered ledger world.host (.ledger call) answer))
    (commit : Commit runtime.toCodec world.tables write ledger.tables)
    (moved : ∀ operationId change diagnostics command,
      write = .transition operationId change diagnostics command → ∃ operation,
        loadOperationFrom world.tables operationId = .ok operation ∧
        Sound operation.plan change.expected change.next ∧
        follows operation.stage change.next = true) :
    Traced (world.answered ledger world.host (.ledger call) answer) := by
  refine ⟨fun operationId operation stored => ?_, fun entry member other called effect => ?_⟩
  · have recorded := goodAfter.events.recorded operationId operation stored
    by_cases about : target write = some operationId
    · obtain ⟨reached, written, read⟩ := Commit.written good.keyed commit about
      obtain rfl : reached = operation := Except.ok.inj (read.symm.trans stored)
      cases written with
      | begun => exact Clean.early recorded (.inl rfl)
      | attached => exact Clean.early recorded (.inr rfl)
      | @moved identifier change _ _ current before expected =>
        obtain rfl : identifier = operationId := Option.some.inj about
        obtain ⟨known, same, sound, edge⟩ := moved _ _ _ _ rfl
        obtain rfl := Except.ok.inj (before.symm.trans same)
        have grown := Commit.stagesOf_target commit about
        change Clean (stagesOf ledger.tables identifier) _
        rw [grown]
        exact (traced.clean _ _ before).moved (good.events.recorded _ _ before) sound expected
          edge
    · have old : loadOperationFrom world.tables operationId = .ok operation := by
        rw [← Commit.others good.keyed commit about]
        exact stored
      have named : operationId ≠ "" := by
        obtain ⟨row, _, found, _⟩ := loadOperationFrom_ok_iff.mp old
        rw [← lookup_key found]
        exact good.events.named row (lookup_mem found)
      change Clean (stagesOf ledger.tables operationId) _
      rw [Commit.stagesOf_other commit named about]
      exact traced.clean _ _ old
  · rcases List.mem_cons.mp member with rfl | old
    · cases called
    · obtain ⟨operationId, focus, stage, inside, effectful⟩ :=
        traced.effects entry old other called effect
      exact ⟨operationId, focus, stage, Commit.stagesOf_grow commit _ inside, effectful⟩

theorem Traced.unchanged (traced : Traced world) {ledger : LedgerState} {call : LedgerCall}
    {answer : Except OpsError call.Value} (same : ledger.tables = world.tables) :
    Traced (world.answered ledger world.host (.ledger call) answer) := by
  have tables : (world.answered ledger world.host (.ledger call) answer).tables = world.tables :=
    same
  refine ⟨?_, fun entry member other called effect => ?_⟩
  · rw [tables]
    exact traced.clean
  · rw [tables]
    rcases List.mem_cons.mp member with rfl | old
    · cases called
    · exact traced.effects entry old other called effect

theorem traced_empty (host : H) : Traced ⟨emptyLedger, host, none, []⟩ := by
  refine ⟨fun _ _ stored => ?_, fun _ member => ?_⟩
  · cases stored
  · cases member

theorem inductive_traced (runtime : Runtime) (model : HostModel H) :
    Inductive runtime model (fun _ _ => openRule) Traced := by
  refine ⟨fun _ _ traced => ⟨traced.clean, traced.effects⟩,
    fun _ _ _ traced => ⟨traced.clean, traced.effects⟩, ?_, ?_⟩
  · intro world call answer after good traced harmless stepped
    have goodAfter := good.step harmless.permitted stepped
    cases call with
    | mark identifier => exact harmless.elim
    | host call =>
      obtain ⟨_, host, _, rfl⟩ := stepped
      refine traced.observed fun effect => ?_
      rw [isEffect_of_isQuiet harmless] at effect
      cases effect
    | ledger call =>
      obtain ⟨session, rfl, same | ⟨write, writes, commit⟩⟩ := ledger_stepped stepped
      · exact traced.unchanged same
      refine traced.committed good goodAfter commit ?_
      rintro operationId change diagnostics command rfl
      cases call <;> first | exact harmless.elim | cases writes
  · intro base operationId world track call answer after good traced followed allowed open_ stepped
    have related := followed.toRelated
    have goodAfter := good.step (permitted_of_guard related allowed) stepped
    cases call with
    | mark identifier => exact allowed.elim
    | host call =>
      obtain ⟨_, host, _, rfl⟩ := stepped
      refine traced.observed fun effect => ?_
      obtain ⟨known, stage⟩ := allowed effect
      have recorded := good.events.recorded _ _ (related.stored known)
      exact ⟨operationId, related.focus, _, List.mem_of_getLast? recorded.last, stage⟩
    | ledger call =>
      obtain ⟨session, rfl, same | ⟨write, writes, commit⟩⟩ := ledger_stepped stepped
      · exact traced.unchanged same
      refine traced.committed good goodAfter commit ?_
      rintro identifier change diagnostics command rfl
      cases call with
      | transition identifier change diagnostics command =>
        cases writes
        obtain ⟨id, known, _, _, moves⟩ := allowed
        refine ⟨track.operation, ?_, open_, moves.edge⟩
        rw [id, related.id]
        exact related.stored known
      | _ => cases writes

/-- Nothing was changed for the operation, and it never entered `APPLYING`. -/
structure Unaffected (world : World H) (operationId : String) : Prop where
  unapplied : .applying ∉ stagesOf world.tables operationId
  untouched : ∀ entry ∈ world.log, entry.focus = some operationId →
    ∀ call, entry.call = .host call → isEffect call = false

theorem Traced.unaffected (traced : Traced world) {operationId : String}
    (calm : ∀ stage ∈ stagesOf world.tables operationId, stage ∉ effectStages) :
    Unaffected world operationId := by
  refine ⟨fun inside => calm _ inside (by decide), fun entry member focus call called => ?_⟩
  rw [Bool.eq_false_iff]
  intro effect
  obtain ⟨other, focused, stage, inside, effectful⟩ :=
    traced.effects entry member call called effect
  obtain rfl := Option.some.inj (focused.symm.trans focus)
  exact calm stage inside effectful

/-- The terminal stages that the lifecycle puts before any effect: `EXPIRED` is never entered, a
cancelled operation has changed nothing, and certbot's operations, which alone are rejected, are
rejected after they began to apply. -/
theorem unaffected_iff_not_rejected (runtime : Runtime) (model : HostModel H) (machine : Machine H)
    (reachable : Reachable runtime model machine) (operationId : String)
    (operation : StoredOperation)
    (stored : loadOperationFrom machine.world.tables operationId = .ok operation)
    (final : operation.stage ∈ [.rejected, .expired, .cancelledBeforeApply]) :
    operation.stage ≠ .expired ∧
      (operation.stage = .rejected → runsCertbot operation.plan.operationType = true) ∧
      (Unaffected machine.world operationId ↔ operation.stage ≠ .rejected) := by
  have traced := (inductive_traced runtime model).reachable (keeps_openRule runtime) traced_empty
    reachable
  have clean := traced.clean _ _ stored
  refine ⟨clean.unexpired, fun rejected => (clean.rejected rejected).1, ?_, fun standing => ?_⟩
  · intro unaffected rejected
    exact unaffected.unapplied (clean.rejected rejected).2
  · simp only [List.mem_cons, List.not_mem_nil, or_false] at final
    rcases final with rejected | expired | cancelled
    · exact absurd rejected standing
    · exact absurd expired clean.unexpired
    · exact traced.unaffected (clean.cancelled cancelled)

end Runs

/-- The site of the approved operation is gone. -/
def cancelledSite : World Unit :=
  serve noFaults failing (.execute operator "op_00") approvedSite

theorem cancelledSite_unaffected : ∃ operation,
    loadOperationFrom cancelledSite.tables "op_00" = .ok operation ∧
      operation.stage = .cancelledBeforeApply ∧ Unaffected cancelledSite "op_00" := by
  have cancelled : stageOf cancelledSite.tables "op_00" = some .cancelledBeforeApply := by
    decide +kernel
  unfold stageOf at cancelled
  cases stored : loadOperationFrom cancelledSite.tables "op_00" with
  | error error =>
    rw [stored] at cancelled
    cases cancelled
  | ok operation =>
    rw [stored] at cancelled
    have stage : operation.stage = .cancelledBeforeApply := Option.some.inj cancelled
    have reachable : Reachable sampleRuntime anyHost ⟨.serving, cancelledSite⟩ :=
      reachable_serve reachable_approvedSite failing_produced _
    have final : operation.stage ∈ [.rejected, .expired, .cancelledBeforeApply] := by
      rw [stage]
      decide
    have standing : operation.stage ≠ .rejected := by
      rw [stage]
      decide
    refine ⟨operation, rfl, stage, ?_⟩
    -- the world is only to be looked at, not to be run again
    generalize cancelledSite = world at stored reachable ⊢
    exact (unaffected_iff_not_rejected sampleRuntime anyHost ⟨.serving, world⟩ reachable "op_00"
      operation stored final).2.2.mpr standing

def renewTestPlan : StoredPlan :=
  { samplePlan with
    operationType := .certbotRenewTest
    certbotRenew := some ⟨sha256Digest sampleCodec [], false, false, 0⟩ }

/-- A host on which the dry run of a renewal fails. -/
def renewalHost : (call : HostCall) → call.Answer
  | .certbotInstalled => true
  | .discoverCertificates => .ok ([], [])
  | .storeSnapshotFile _ _ bytes => .ok bytes
  | .certbot _ _ => .ok {
      commandClass := .renewDryRun
      success := false
      exitCode := some 1
      timedOut := false
      stdoutDigest := sha256Digest sampleCodec []
      stdoutTruncated := false
      stderrDigest := sha256Digest sampleCodec []
      stderrTruncated := false }
  | call => failing call

theorem renewalHost_produced (call : HostCall) : Produced call (renewalHost call) := by
  cases call with
  | discoverCertificates => exact Nat.two_pow_pos 32
  | _ => trivial

def rejectedRenewal : World Unit :=
  serve noFaults renewalHost (.execute operator "op_00")
    (serve noFaults renewalHost
      (.approve operator (.certbotRenewTest true) ⟨"plan_0", "hash_0", "key_0"⟩)
      (serve noFaults renewalHost (.storePlan operator renewTestPlan) started))

def isCertbotCall (entry : Entry) : Bool :=
  match entry.call with
  | .host (.certbot _ _) => decide (entry.focus = some "op_00")
  | _ => false

/-- Certbot ran for an operation that is rejected in the end. -/
theorem rejectedRenewal_affected :
    Reachable sampleRuntime anyHost ⟨.serving, rejectedRenewal⟩ ∧
    stageOf rejectedRenewal.tables "op_00" = some .rejected ∧
    .applying ∈ stagesOf rejectedRenewal.tables "op_00" ∧
    rejectedRenewal.log.any isCertbotCall = true := by
  refine ⟨?_, ?_⟩
  · exact reachable_serve
      (reachable_serve (reachable_serve reachable_started renewalHost_produced _)
      renewalHost_produced _) renewalHost_produced _
  · decide +kernel

end JwOps.Lifecycle.EffectFree
