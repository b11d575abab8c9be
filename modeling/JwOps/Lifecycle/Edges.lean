/- module: Lifecycle/Edges
   source: crates/jw-opsd/src/engine.rs, crates/jw-opsd/src/engine/*.rs
   digest: Which transitions each part of an executor can ask for, and what it can touch. -/
import JwOps.Lifecycle.Strict

set_option autoImplicit false

namespace JwOps.Lifecycle.Edges

open Contracts Ledger Engine Operation Digest Config Schema Writes Reads Interface Replace Nginx
open Certbot Attach ManagedConfig ServiceControl Ufw Recovery Tracking Fragments Foundation.Program

variable {nowMs : Int} {operationId digest cause reason : String}
  {operation snapshotted : StoredOperation} {adapter : ManagedConfigAdapter}
  {record : SnapshotRecord} {evidence : ManagedConfigRollbackEvidence}

/-! ### Edges -/

/-- Transitions by the stages they expect and the stage they enter. -/
abbrev StageEdges := List (List OperationStage × OperationStage)

/-- A transition takes one of the edges, and host calls stay within the families. -/
def Takes (edges : StageEdges) (families : List Family) : Call → Prop
  | .ledger (.transition _ change _ _) => (change.expected, change.next) ∈ edges
  | .host call => Within families call
  | _ => True

/-- What is touched by toggling a site. -/
def siteFamilies : List Family := [.links, .services]

/-- What is touched by replacing a configuration file. -/
def fileFamilies : List Family := [.files, .services]

/-- What an operation type may touch besides its snapshot. -/
def familiesOf : OperationType → List Family
  | .nginxSiteState | .unregistered _ => siteFamilies
  | .managedConfig | .managedConfigRestore | .certbotAttach => fileFamilies
  | .certbotIssue | .certbotRenewTest => [.certificates]
  | .serviceControl => [.services]
  | .ufwRule => [.firewall]

/-- Ends before the snapshot. -/
def cancelEdges : StageEdges := [([.approved], .cancelledBeforeApply)]

/-- After the snapshot, if nothing has to be changed. -/
def noopEdges : StageEdges :=
  [([.snapshotted], .verifying), ([.verifying], .cancelledBeforeApply), ([.verifying], .succeeded)]

def rollbackEdges : StageEdges :=
  [(rollbackStages, .rollingBack), ([.applying, .verifying], .rollingBack),
    ([.applying, .verifying, .validating, .reloading], .rollingBack),
    ([.rollingBack], .rolledBack), ([.rollingBack], .recoveryRequired)]

/-- After the snapshot, if something is changed that can be rolled back. -/
def applyEdges : StageEdges :=
  [([.snapshotted], .applying), ([.applying], .validating), ([.applying], .verifying),
    ([.validating], .reloading), ([.validating], .verifying), ([.reloading], .verifying),
    ([.verifying], .succeeded)] ++ rollbackEdges

/-- After the snapshot of a certbot command, which is never rolled back. -/
def certbotEdges : StageEdges :=
  [([.snapshotted], .applying), ([.applying], .validating), ([.applying], .rejected),
    ([.validating], .rejected), ([.validating], .succeeded)]

section Takes

variable {edges edges' : StageEdges} {families families' : List Family} {α : Type}
  {program : Ops α}

theorem takes_mono (calls : IssuesE (Takes edges families) program) (more : edges ⊆ edges')
    (wider : families ⊆ families') : IssuesE (Takes edges' families') program := by
  refine calls.mono fun call takes => ?_
  cases call with
  | ledger call =>
    cases call with
    | transition operationId change diagnostics command => exact more takes
    | _ => trivial
  | host call => exact fun kind about => wider (takes kind about)
  | mark operationId => trivial

theorem takes_of {avoided : HostCall → Bool} (calls : IssuesE (Touches avoided families) program)
    (wider : families ⊆ families') : IssuesE (Takes edges families') program := by
  refine calls.mono fun call touches => ?_
  cases call with
  | ledger call => cases call <;> trivial
  | host call => exact fun kind about => wider (touches.1 kind about)
  | mark operationId => trivial

theorem takes_idle {avoided : HostCall → Bool} (calls : IssuesE (Touches avoided []) program) :
    IssuesE (Takes edges families) program :=
  takes_of calls (List.nil_subset _)

theorem takes_host {call : HostCall} {view : call.Answer → Except OpsError α}
    (inside : Within families call) : IssuesE (Takes edges families) (perform (.host call) view) :=
  issues_perform inside

/-- A call that changes nothing belongs to nobody. -/
theorem takes_free {call : HostCall} {view : call.Answer → Except OpsError α}
    (free : family call = none) : IssuesE (Takes edges families) (perform (.host call) view) := by
  refine takes_host fun kind about => ?_
  rw [free] at about
  cases about

theorem takes_owned {call : HostCall} {view : call.Answer → Except OpsError α} {kind : Family}
    (owned : family call = some kind) (inside : kind ∈ families) :
    IssuesE (Takes edges families) (perform (.host call) view) := by
  refine takes_host fun other about => ?_
  obtain rfl := Option.some.inj (owned.symm.trans about)
  exact inside

theorem takes_read {command : CommandClass} (reads : changesService command = false) :
    IssuesE (Takes edges families) (run command) :=
  takes_free (if_neg (by rw [reads]; exact Bool.false_ne_true))

theorem takes_run {command : CommandClass} (inside : .services ∈ families) :
    IssuesE (Takes edges families) (run command) := by
  cases changes : changesService command with
  | false => exact takes_read changes
  | true => exact takes_owned (if_pos changes) inside

theorem takes_receipt :
    IssuesE (Takes edges families) (receipt operationId) :=
  issues_perform trivial

theorem takes_load :
    IssuesE (Takes edges families) (loadOperation operationId) :=
  issues_perform trivial

section Transitions

variable {codec : Codec} {operationId : String} {expected : List OperationStage}
  {next : OperationStage} {resultCode evidenceDigest : String} {afterDigest : Option String}
  {rollbackResult : Option String} {nowMs : Int}

section

variable (edge : (expected, next) ∈ edges)
include edge

theorem takes_ledgerTransition {diagnostics : Option StoredDiagnostics}
    {command : Option OperationCommandEvidenceView} :
    IssuesE (Takes edges families) (ledger (.transition operationId ⟨expected, next, resultCode,
      evidenceDigest, afterDigest, rollbackResult, nowMs⟩ diagnostics command)) :=
  issues_perform edge

theorem takes_transition :
    IssuesE (Takes edges families)
      (transition operationId ⟨expected, next, resultCode, evidenceDigest,
      afterDigest, rollbackResult, nowMs⟩) :=
  takes_ledgerTransition edge

theorem takes_transitionWithCommandEvidence {command : OperationCommandEvidenceView} :
    IssuesE (Takes edges families) (transitionWithCommandEvidence codec operationId ⟨expected, next,
      resultCode, evidenceDigest, afterDigest, rollbackResult, nowMs⟩ command) :=
  IssuesE.bind (IssuesE.lift _) fun _ => takes_ledgerTransition edge

theorem takes_transitionWithDiagnostics {diagnostics : List ManagedConfigDiagnosticView} :
    IssuesE (Takes edges families)
      (transitionWithDiagnostics codec operationId ⟨expected, next, resultCode,
      evidenceDigest, afterDigest, rollbackResult, nowMs⟩ diagnostics) := by
  unfold transitionWithDiagnostics
  split
  · exact takes_transition edge
  · exact IssuesE.bind (IssuesE.lift _) fun _ => takes_ledgerTransition edge

theorem takes_transitionWithDiagnosticsAndCommand
    {diagnostics : List ManagedConfigDiagnosticView} {command : OperationCommandEvidenceView} :
    IssuesE (Takes edges families)
      (transitionWithDiagnosticsAndCommand codec operationId ⟨expected, next,
      resultCode, evidenceDigest, afterDigest, rollbackResult, nowMs⟩ diagnostics command) := by
  unfold transitionWithDiagnosticsAndCommand
  split
  · exact takes_transitionWithCommandEvidence edge
  · exact IssuesE.bind (IssuesE.lift _) fun _ =>
      IssuesE.bind (IssuesE.lift _) fun _ => takes_ledgerTransition edge

end

end Transitions

theorem takes_removePlanProposal {plan : StoredPlan} :
    IssuesE (Takes edges families) (removePlanProposal plan) :=
  IssuesE.forM fun _ => IssuesE.bind
    (IssuesE.attempt (takes_idle touches_removeProposal)) fun _ => IssuesE.ret _

section Endings

variable {operationId : String} {expected : List OperationStage} {next : OperationStage}
  {resultCode evidenceDigest : String} {afterDigest rollbackResult : Option String} {nowMs : Int}

theorem takes_ending (edge : (expected, next) ∈ edges) :
    IssuesE (Takes edges families) (do
      let terminal ← transition operationId ⟨expected, next, resultCode, evidenceDigest,
        afterDigest, rollbackResult, nowMs⟩
      receipt terminal.operationId) :=
  IssuesE.bind (takes_transition edge) fun _ => takes_receipt

/-- The receipt, and the proposal that is no longer needed. -/
theorem takes_closing (edge : (expected, next) ∈ edges) :
    IssuesE (Takes edges families) (do
      let terminal ← transition operationId ⟨expected, next, resultCode, evidenceDigest,
        afterDigest, rollbackResult, nowMs⟩
      let answer ← receipt terminal.operationId
      removePlanProposal terminal.plan
      pure answer) :=
  IssuesE.bind (takes_transition edge) fun _ => IssuesE.bind takes_receipt fun _ =>
    IssuesE.bind takes_removePlanProposal fun _ => IssuesE.ret _

end Endings

theorem takes_ite {condition : Prop} [Decidable condition] {first second : Ops α}
    (holds : condition → IssuesE (Takes edges families) first)
    (fails : ¬condition → IssuesE (Takes edges families) second) :
    IssuesE (Takes edges families) (if condition then first else second) := by
  split
  · exact holds ‹_›
  · exact fails ‹_›

end Takes

variable {runtime : Runtime} {edges : StageEdges} {families : List Family}

/-! ### Fragments -/

theorem takes_writeSnapshot {kind : SnapshotKind} (data : kind.Data)
    (inside : .snapshot operationId kind.fileName ∈ families) :
    IssuesE (Takes edges families) (writeSnapshot runtime kind operationId data) := by
  refine IssuesE.bind (takes_owned rfl inside) fun _ => ?_
  exact IssuesE.checked (IssuesE.ret _)

/-! ### Rolling back -/

theorem takes_recoveryRequired {operationId reason : String} {nowMs : Int} :
    IssuesE (Takes rollbackEdges families) (recoveryRequired runtime operationId reason nowMs) :=
  takes_closing (by decide)

theorem takes_startRollback {expected : List OperationStage}
    (edge : (expected, .rollingBack) ∈ edges) :
    IssuesE (Takes edges families) (startRollback operationId expected cause digest nowMs) :=
  IssuesE.bind takes_load fun _ =>
    takes_ite (fun _ => IssuesE.ret _) fun _ => takes_transition edge

theorem takes_rollback :
    IssuesE (Takes rollbackEdges siteFamilies)
      (rollback runtime operationId cause digest nowMs) := by
  refine IssuesE.bind (takes_startRollback (by decide)) fun rolling => ?_
  have required (reason : String) :=
    @takes_recoveryRequired runtime siteFamilies operationId reason nowMs
  cases rolling.snapshot with
  | none => exact required _
  | some record =>
    refine IssuesE.onError (takes_idle touches_readSnapshot) (fun _ => required _)
      fun _ => ?_
    refine IssuesE.onError (takes_free rfl) (fun _ => required _) fun _ => ?_
    refine IssuesE.onError (takes_of touches_setEnabled (by decide)) (fun _ => required _)
      fun _ => ?_
    refine IssuesE.onError (takes_run (by decide)) (fun _ => required _) fun _ => ?_
    refine IssuesE.onError (takes_of touches_runAfter (by decide)) (fun _ => required _)
      fun _ => ?_
    refine IssuesE.onError (takes_of touches_runAfter (by decide)) (fun _ => required _)
      fun _ => ?_
    refine IssuesE.bind (IssuesE.attempt (takes_free rfl)) fun _ => ?_
    exact takes_ite (fun _ => required _) fun _ => takes_closing (by decide)

theorem takes_rollbackCertbotAttach :
    IssuesE (Takes rollbackEdges fileFamilies)
      (rollbackCertbotAttach runtime operationId cause digest nowMs) := by
  refine IssuesE.bind (takes_startRollback (by decide)) fun rolling => ?_
  have required (reason : String) :=
    @takes_recoveryRequired runtime fileFamilies operationId reason nowMs
  cases rolling.snapshot with
  | none => exact required _
  | some record =>
    refine IssuesE.onError (takes_idle touches_readSnapshot) (fun _ => required _)
      fun _ => ?_
    refine IssuesE.onError (takes_of touches_restoreProtectedConfig (by decide))
      (fun _ => required _) fun _ => ?_
    refine IssuesE.bind (IssuesE.attempt (takes_run (by decide))) fun _ => ?_
    refine IssuesE.bind (IssuesE.attempt (takes_run (by decide))) fun _ => ?_
    refine IssuesE.bind (IssuesE.attempt (takes_run (by decide))) fun _ => ?_
    refine takes_ite (fun _ => required _) fun _ => ?_
    exact IssuesE.bind (IssuesE.lift _) fun _ => takes_ending (by decide)

theorem takes_startManagedRollback :
    IssuesE (Takes rollbackEdges families)
      (startManagedRollback runtime operationId evidence nowMs) := by
  refine IssuesE.bind takes_load fun _ => takes_ite (fun _ => IssuesE.ret _) fun _ => ?_
  split
  · exact takes_transition (by decide)
  · exact takes_transitionWithCommandEvidence (by decide)
  · exact takes_transitionWithDiagnostics (by decide)
  · exact takes_transitionWithDiagnosticsAndCommand (by decide)

theorem takes_finishManagedRollback {operationId : String} {snapshot : ManagedConfigSnapshot}
    {evidence : CommandEvidence} {nowMs : Int} :
    IssuesE (Takes rollbackEdges families)
      (finishManagedRollback runtime operationId snapshot evidence nowMs) := by
  refine IssuesE.bind (takes_transitionWithCommandEvidence (by decide)) fun _ => ?_
  refine IssuesE.bind takes_receipt fun _ => ?_
  refine IssuesE.bind (IssuesE.forM fun record => ?_) fun _ => IssuesE.ret _
  exact IssuesE.bind (IssuesE.attempt (takes_idle touches_removeProposal))
    fun _ => IssuesE.ret _

theorem takes_verifyManagedRollback {rolling : StoredOperation}
    {snapshot : ManagedConfigSnapshot} {restored : ManagedConfigResource} :
    IssuesE (Takes rollbackEdges fileFamilies)
      (verifyManagedRollback runtime rolling operationId snapshot restored nowMs) := by
  have required (reason : String) :=
    @takes_recoveryRequired runtime fileFamilies operationId reason nowMs
  have finish (evidence : CommandEvidence) :=
    @takes_finishManagedRollback runtime fileFamilies operationId snapshot evidence nowMs
  refine IssuesE.onError (takes_run (by decide)) (fun _ => required _) fun config => ?_
  refine takes_ite (fun _ => required _) fun _ => ?_
  refine takes_ite (fun _ => takes_ite (fun _ => required _) fun _ => finish _) fun _ => ?_
  refine IssuesE.onError (takes_run (by decide)) (fun _ => required _) fun reload => ?_
  refine takes_ite (fun _ => required _) fun _ => ?_
  refine IssuesE.onError (takes_run (by decide)) (fun _ => required _) fun active => ?_
  refine takes_ite (fun _ => required _) fun _ => ?_
  exact takes_ite (fun _ => required _) fun _ => finish _

theorem takes_rollbackManagedConfigWithEvidence :
    IssuesE (Takes rollbackEdges fileFamilies)
      (rollbackManagedConfigWithEvidence runtime operationId evidence nowMs) := by
  refine IssuesE.bind takes_startManagedRollback fun rolling => ?_
  have required (reason : String) :=
    @takes_recoveryRequired runtime fileFamilies operationId reason nowMs
  cases rolling.snapshot with
  | none => exact required _
  | some record =>
    refine IssuesE.onError (takes_idle touches_readSnapshot) (fun _ => required _)
      fun _ => ?_
    refine IssuesE.onError (takes_of touches_restoreManagedConfig (by decide))
      (fun _ => required _) fun _ => ?_
    exact takes_verifyManagedRollback

theorem restored_mem_rollbackEdges (verified : Bool) :
    ([.rollingBack], if verified then .rolledBack else .recoveryRequired) ∈ rollbackEdges := by
  cases verified <;> decide

theorem takes_restoreService {service : RegisteredService} {snapshot : ServiceStateSnapshot} :
    IssuesE (Takes rollbackEdges [.services])
      (restoreService runtime operationId service snapshot nowMs) := by
  refine IssuesE.bind (IssuesE.attempt (takes_run (by decide))) fun restore => ?_
  refine takes_ite (fun _ => IssuesE.bind (IssuesE.attempt (takes_run (by decide)))
    fun _ => ?_) fun _ => ?_
  · exact IssuesE.bind (IssuesE.ret _) fun _ => takes_ending (restored_mem_rollbackEdges _)
  · exact IssuesE.bind (IssuesE.ret _) fun _ => takes_ending (restored_mem_rollbackEdges _)

theorem takes_rollbackServiceControl :
    IssuesE (Takes rollbackEdges [.services])
      (rollbackServiceControl runtime operationId cause digest nowMs) := by
  refine IssuesE.bind (takes_startRollback (by decide)) fun rolling => ?_
  cases rolling.snapshot with
  | none => exact IssuesE.fail _
  | some record =>
    refine IssuesE.bind (takes_idle touches_readSnapshot) fun _ => ?_
    exact IssuesE.bind (IssuesE.lift _) fun _ => takes_restoreService

theorem takes_restoreRule {payload : UfwPlanPayload} {original : List UfwRuleView} :
    IssuesE (Takes rollbackEdges [.firewall])
      (restoreRule runtime operationId payload original nowMs) := by
  have inventory : IssuesE (Takes rollbackEdges [.firewall]) (ufwInventory runtime nowMs) :=
    takes_idle touches_ufwInventory
  refine IssuesE.bind (IssuesE.attempt (IssuesE.bind
    (takes_of touches_restoreProductEffect (by decide)) fun _ => inventory))
      fun _ => ?_
  exact IssuesE.bind (IssuesE.attempt inventory) fun _ =>
    takes_ending (restored_mem_rollbackEdges _)

theorem takes_rollbackUfwRule :
    IssuesE (Takes rollbackEdges [.firewall])
      (rollbackUfwRule runtime operationId cause digest nowMs) := by
  refine IssuesE.bind (takes_startRollback (by decide)) fun rolling => ?_
  split
  · exact IssuesE.fail _
  · exact IssuesE.fail _
  · refine IssuesE.bind (takes_idle touches_readSnapshot) fun _ => ?_
    exact takes_restoreRule

/-! ### Before the snapshot -/

theorem takes_cancelApproved {operation : StoredOperation} {resultCode digest : String}
    {nowMs : Int} :
    IssuesE (Takes cancelEdges families) (cancelApproved operation resultCode digest nowMs) :=
  takes_ending (by decide)

theorem takes_cancelCertbotBeforeApply :
    IssuesE (Takes cancelEdges families)
      (cancelCertbotBeforeApply runtime operation reason nowMs) :=
  takes_closing (by decide)

theorem takes_cancelManagedBeforeApply {resultCode : String} :
    IssuesE (Takes cancelEdges families)
      (cancelManagedBeforeApply runtime operation resultCode nowMs) :=
  IssuesE.bind (takes_transition (by decide)) fun _ => IssuesE.bind takes_receipt fun _ =>
    IssuesE.bind takes_removePlanProposal fun _ => IssuesE.ret _

/-! ### No change required -/

theorem takes_finishNoop {operation : StoredOperation} {nowMs : Int} :
    IssuesE (Takes noopEdges families) (finishNoop runtime operation nowMs) := by
  have cancel (code digest : String) :
      IssuesE (Takes noopEdges families) (cancelNoop operation code digest nowMs) :=
    takes_ending (by decide)
  refine IssuesE.bind (takes_transition (by decide)) fun _ => ?_
  refine IssuesE.onError (takes_read rfl) (fun _ => cancel _ _) fun _ => ?_
  refine IssuesE.onError (takes_read rfl) (fun _ => cancel _ _) fun _ => ?_
  exact takes_ite (fun _ => cancel _ _) fun _ => takes_ending (by decide)

theorem takes_runActive {action : ServiceAction} :
    IssuesE (Takes edges families) (runActive adapter action) :=
  takes_ite (fun _ => IssuesE.bind (IssuesE.attempt (takes_read (active_reads adapter)))
    fun _ => IssuesE.ret _) fun _ => IssuesE.ret _

theorem takes_cleanupProposal {record : ProposalRecord} :
    IssuesE (Takes edges families) (cleanupProposal record) :=
  IssuesE.bind (IssuesE.attempt (takes_idle touches_removeProposal)) fun _ => IssuesE.ret _

theorem takes_finishManagedNoop {proposal : ProposalRecord} :
    IssuesE (Takes noopEdges families)
      (finishManagedNoop runtime operation proposal adapter nowMs) := by
  refine IssuesE.bind (takes_transition (by decide)) fun _ => ?_
  refine IssuesE.bind (IssuesE.attempt (takes_read (configTest_reads adapter))) fun _ => ?_
  cases operation.plan.managedConfig with
  | none => exact IssuesE.fail _
  | some payload =>
    refine IssuesE.bind takes_runActive fun _ => ?_
    refine takes_ite (fun _ => ?_) fun _ => ?_
    · refine IssuesE.bind (takes_transition (by decide)) fun _ => ?_
      refine IssuesE.bind takes_receipt fun _ => ?_
      exact IssuesE.bind takes_removePlanProposal fun _ => IssuesE.ret _
    · refine IssuesE.bind (IssuesE.lift _) fun _ => ?_
      refine IssuesE.bind (takes_transition (by decide)) fun _ => ?_
      refine IssuesE.bind takes_receipt fun _ => ?_
      exact IssuesE.bind takes_cleanupProposal fun _ => IssuesE.ret _

/-! ### Applying -/

theorem rollbackEdges_subset : rollbackEdges ⊆ applyEdges := List.subset_append_right _ _

theorem takes_reloadAndVerify :
    IssuesE (Takes applyEdges siteFamilies) (reloadAndVerify runtime snapshotted nowMs) := by
  have back (cause digest : String) : IssuesE (Takes applyEdges siteFamilies)
      (rollback runtime snapshotted.operationId cause digest nowMs) :=
    takes_mono takes_rollback rollbackEdges_subset (List.Subset.refl _)
  refine IssuesE.onError (takes_run (by decide)) (fun _ => back _ _) fun _ => ?_
  refine takes_ite (fun _ => back _ _) fun _ => ?_
  refine IssuesE.bind (takes_transition (by decide)) fun _ => ?_
  refine IssuesE.onError (takes_free rfl) (fun _ => back _ _) fun _ => ?_
  refine IssuesE.onError (takes_run (by decide)) (fun _ => back _ _) fun _ => ?_
  exact takes_ite (fun _ => back _ _) fun _ => takes_ending (by decide)

theorem takes_applySiteState {preflight : NginxSite} :
    IssuesE (Takes applyEdges siteFamilies)
      (applySiteState runtime preflight snapshotted nowMs) := by
  have back (cause digest : String) : IssuesE (Takes applyEdges siteFamilies)
      (rollback runtime snapshotted.operationId cause digest nowMs) :=
    takes_mono takes_rollback rollbackEdges_subset (List.Subset.refl _)
  refine IssuesE.bind (takes_transition (by decide)) fun _ => ?_
  refine IssuesE.onError (takes_of touches_setEnabled (by decide)) (fun _ =>
    back _ _) fun _ => ?_
  refine IssuesE.bind (takes_transition (by decide)) fun _ => ?_
  refine IssuesE.onError (takes_run (by decide)) (fun _ => back _ _) fun _ => ?_
  refine takes_ite (fun _ => back _ _) fun _ => ?_
  exact IssuesE.bind (takes_transition (by decide)) fun _ => takes_reloadAndVerify

theorem takes_verifyCertbotAttach {payload : CertbotAttachPlanPayload} :
    IssuesE (Takes applyEdges fileFamilies)
      (verifyCertbotAttach runtime operation payload nowMs) := by
  refine IssuesE.bind (IssuesE.attempt (takes_free rfl)) fun _ => ?_
  refine IssuesE.bind (IssuesE.attempt (takes_run (by decide))) fun _ => ?_
  refine IssuesE.bind (IssuesE.attempt (takes_idle touches_certificateInventory)) fun _ => ?_
  refine IssuesE.bind (IssuesE.attempt (takes_free rfl)) fun _ => ?_
  refine takes_ite (fun _ => ?_) fun _ => ?_
  · exact takes_mono takes_rollbackCertbotAttach rollbackEdges_subset (List.Subset.refl _)
  · exact IssuesE.bind (IssuesE.lift _) fun _ => takes_ending (by decide)

theorem takes_replaceAndReload {payload : CertbotAttachPlanPayload}
    {attachment : TlsAttachmentResource} :
    IssuesE (Takes applyEdges fileFamilies)
      (replaceAndReload runtime snapshotted payload attachment record nowMs) := by
  have back (cause digest : String) : IssuesE (Takes applyEdges fileFamilies)
      (rollbackCertbotAttach runtime snapshotted.operationId cause digest nowMs) :=
    takes_mono takes_rollbackCertbotAttach rollbackEdges_subset (List.Subset.refl _)
  refine IssuesE.bind (takes_transition (by decide)) fun _ => ?_
  refine IssuesE.onError (takes_of touches_replaceProtectedConfig (by decide)) (fun _ =>
    back _ _)
    fun _ => ?_
  refine takes_ite (fun _ => back _ _) fun _ => ?_
  refine IssuesE.bind (takes_transition (by decide)) fun _ => ?_
  refine IssuesE.onError (takes_run (by decide)) (fun _ => back _ _) fun _ => ?_
  refine takes_ite (fun _ => back _ _) fun _ => ?_
  refine IssuesE.bind (takes_transition (by decide)) fun _ => ?_
  refine IssuesE.onError (takes_run (by decide)) (fun _ => back _ _) fun _ => ?_
  refine takes_ite (fun _ => back _ _) fun _ => ?_
  exact IssuesE.bind (takes_transition (by decide)) fun _ => takes_verifyCertbotAttach

theorem takes_rollbackManaged : IssuesE (Takes applyEdges fileFamilies)
      (rollbackManagedConfigWithEvidence runtime operationId evidence nowMs) :=
  takes_mono takes_rollbackManagedConfigWithEvidence rollbackEdges_subset
    (List.Subset.refl _)

variable {payload : ManagedConfigPlanPayload} {proposal : ProposalRecord} {config : CommandEvidence}

theorem takes_verifyManagedConfig :
    IssuesE (Takes applyEdges fileFamilies)
      (verifyManagedConfig runtime snapshotted payload proposal adapter config digest nowMs) := by
  refine IssuesE.bind (IssuesE.attempt (takes_free rfl)) fun _ => ?_
  refine IssuesE.bind takes_runActive fun _ => ?_
  refine takes_ite (fun _ => ?_) fun _ => ?_
  · split <;> exact takes_rollbackManaged
  · refine IssuesE.bind (IssuesE.lift _) fun _ => ?_
    refine IssuesE.bind (takes_transitionWithCommandEvidence (by decide)) fun _ => ?_
    refine IssuesE.bind takes_receipt fun _ => ?_
    exact IssuesE.bind takes_cleanupProposal fun _ => IssuesE.ret _

theorem takes_reloadManagedConfig :
    IssuesE (Takes applyEdges fileFamilies)
      (reloadManagedConfig runtime snapshotted payload proposal adapter config nowMs) := by
  refine IssuesE.onError (takes_run (by decide)) (fun _ => takes_rollbackManaged) fun _ => ?_
  refine takes_ite (fun _ => takes_rollbackManaged) fun _ => ?_
  exact IssuesE.bind (takes_transitionWithCommandEvidence (by decide)) fun _ =>
    takes_verifyManagedConfig

theorem takes_applyManagedConfig {preflight : ManagedConfigResource} {proposed : Bytes} :
    IssuesE (Takes applyEdges fileFamilies)
      (applyManagedConfig runtime snapshotted payload proposal preflight proposed nowMs) := by
  refine IssuesE.bind (takes_transition (by decide)) fun _ => ?_
  refine IssuesE.onError (takes_of touches_replaceManagedConfig (by decide))
    (fun _ => takes_rollbackManaged) fun _ => ?_
  refine IssuesE.bind (takes_transition (by decide)) fun _ => ?_
  refine IssuesE.onError (takes_run (by decide)) (fun _ => takes_rollbackManaged) fun _ => ?_
  refine takes_ite (fun _ => takes_rollbackManaged) fun _ => ?_
  by_cases reloads : payload.serviceAction = .reload
  · simp only [reloads, ↓reduceIte]
    exact IssuesE.bind (takes_transitionWithCommandEvidence (by decide)) fun _ =>
      takes_reloadManagedConfig
  · simp only [reloads, ↓reduceIte]
    exact IssuesE.bind (takes_transitionWithCommandEvidence (by decide)) fun _ =>
      takes_verifyManagedConfig

theorem takes_actAndVerify {service : RegisteredService} {action : ManagedServiceAction} :
    IssuesE (Takes applyEdges [.services])
      (actAndVerify runtime snapshotted service action nowMs) := by
  have back (cause digest : String) : IssuesE (Takes applyEdges [.services])
      (rollbackServiceControl runtime snapshotted.operationId cause digest nowMs) :=
    takes_mono takes_rollbackServiceControl rollbackEdges_subset (List.Subset.refl _)
  refine IssuesE.bind (takes_transition (by decide)) fun _ => ?_
  refine IssuesE.onError (takes_run (by decide)) (fun _ => back _ _) fun _ => ?_
  refine takes_ite (fun _ => back _ _) fun _ => ?_
  refine IssuesE.bind (takes_transition (by decide)) fun _ => ?_
  refine IssuesE.bind (takes_run (by decide)) fun _ => ?_
  exact takes_ite (fun _ => back _ _) fun _ => takes_ending (by decide)

theorem takes_applyRule {payload : UfwPlanPayload} :
    IssuesE (Takes applyEdges [.firewall]) (applyRule runtime operation payload record nowMs) := by
  have back (cause digest : String) : IssuesE (Takes applyEdges [.firewall])
      (rollbackUfwRule runtime operation.operationId cause digest nowMs) :=
    takes_mono takes_rollbackUfwRule rollbackEdges_subset (List.Subset.refl _)
  refine IssuesE.bind (takes_transition (by decide)) fun _ => ?_
  refine IssuesE.onError (takes_of touches_applyPayload (by decide)) (fun _ =>
    back _ _) fun _ => ?_
  refine IssuesE.bind (takes_transition (by decide)) fun _ => ?_
  refine IssuesE.bind (takes_idle touches_ufwInventory) fun _ => ?_
  exact takes_ite (fun _ => back _ _) fun _ => takes_ending (by decide)

/-! ### Certbot commands -/

theorem takes_rejectApplying :
    IssuesE (Takes certbotEdges families)
      (rejectCertbotExecution operationId .applying reason digest nowMs) :=
  takes_closing (by decide)

theorem takes_rejectValidating :
    IssuesE (Takes certbotEdges families)
      (rejectCertbotExecution operationId .validating reason digest nowMs) :=
  takes_closing (by decide)

theorem takes_issueAndVerify {payload : CertbotIssuePlanPayload} {accountEmail : Bytes} :
    IssuesE (Takes certbotEdges [.certificates])
      (issueAndVerify runtime operationId payload accountEmail record nowMs) := by
  refine IssuesE.bind (takes_transition (by decide)) fun _ => ?_
  refine IssuesE.onError (takes_owned rfl (by decide)) (fun _ => takes_rejectApplying)
    fun _ => ?_
  refine IssuesE.bind (takes_transition (by decide)) fun _ => ?_
  refine takes_ite (fun _ => takes_rejectValidating) fun _ => ?_
  refine IssuesE.onError (takes_idle touches_certificateInventory)
    (fun _ => takes_rejectValidating) fun _ => ?_
  exact takes_ite (fun _ => takes_rejectValidating) fun _ => takes_closing (by decide)

theorem takes_renewAndVerify :
    IssuesE (Takes certbotEdges [.certificates])
      (renewAndVerify runtime operationId record nowMs) := by
  refine IssuesE.bind (takes_transition (by decide)) fun _ => ?_
  refine IssuesE.onError (takes_owned rfl (by decide)) (fun _ => takes_rejectApplying)
    fun _ => ?_
  refine IssuesE.bind (takes_transition (by decide)) fun _ => ?_
  refine takes_ite (fun _ => takes_rejectValidating) fun _ => ?_
  refine IssuesE.onError (takes_idle touches_certificateInventory)
    (fun _ => takes_rejectValidating) fun _ => ?_
  exact takes_ite (fun _ => takes_rejectValidating) fun _ => takes_closing (by decide)

/-! ### Recovering -/

theorem takes_dropReceipt {program : Ops OperationReceiptView}
    (calls : IssuesE (Takes edges families) program) :
    IssuesE (Takes edges families) (dropReceipt program) :=
  IssuesE.bind calls fun _ => IssuesE.ret _

theorem takes_recoverBeforeApply {operation : StoredOperation} {nowMs : Int} :
    IssuesE (Takes [([operation.stage], .cancelledBeforeApply)] families)
      (recoverBeforeApply runtime operation nowMs) :=
  IssuesE.bind (takes_transition List.mem_cons_self) fun _ =>
    IssuesE.checked <| takes_removePlanProposal

theorem takes_recoverCertbot {operation : StoredOperation} {resultCode : String} {nowMs : Int} :
    IssuesE (Takes [([operation.stage], .recoveryRequired)] families)
      (recoverCertbot runtime operation resultCode nowMs) := by
  unfold recoverCertbot
  cases operation.snapshot with
  | none => exact IssuesE.fail _
  | some record =>
    refine IssuesE.bind (takes_idle touches_readSnapshot) fun _ => ?_
    exact IssuesE.bind (takes_transition List.mem_cons_self) fun _ => takes_removePlanProposal

theorem takes_recoverApplied {operation : StoredOperation} {nowMs : Int} :
    IssuesE (Takes (([operation.stage], .recoveryRequired) :: rollbackEdges)
      (familiesOf operation.plan.operationType)) (recoverApplied runtime operation nowMs) := by
  have interrupted {families : List Family} (code : String) :=
    takes_mono (@takes_recoverCertbot runtime families operation code nowMs)
      (List.cons_subset_cons _ (List.nil_subset rollbackEdges)) (List.Subset.refl _)
  have back {families : List Family} {program : Ops OperationReceiptView}
      (calls : IssuesE (Takes rollbackEdges families) program) :=
    takes_mono (takes_dropReceipt calls)
      (List.subset_cons_self ([operation.stage], .recoveryRequired) rollbackEdges)
      (List.Subset.refl _)
  unfold recoverApplied
  cases operation.plan.operationType with
  | certbotIssue | certbotRenewTest => exact interrupted _
  | certbotAttach => exact back takes_rollbackCertbotAttach
  | managedConfig | managedConfigRestore =>
    exact back takes_rollbackManagedConfigWithEvidence
  | serviceControl => exact back takes_rollbackServiceControl
  | ufwRule => exact back takes_rollbackUfwRule
  | nginxSiteState | unregistered _ => exact back takes_rollback

end JwOps.Lifecycle.Edges
