/- module: Lifecycle/Dispatch
   source: crates/jw-opsd/src/engine.rs
   digest: Every approved operation is executed to its end, and every interrupted one is recovered,
     unless an answer of the host stops the engine. -/
import JwOps.Lifecycle.Strict

set_option autoImplicit false

namespace JwOps.Lifecycle.Dispatch

open Contracts Ledger Engine Operation Digest Schema Reads Interface Nginx Certbot Attach
open ManagedConfig ServiceControl Ufw Recovery History Tracking Fragments Lenient Strict
open Foundation.Program

variable {nowMs : Int}

variable {record : SnapshotRecord} {α : Type} {nowMs : Int} {program : Ops OperationReceiptView}
  {kind : SnapshotKind} {operationId : String} {plan : StoredPlan}
  {snapshot : Option SnapshotRecord}

variable {runtime : Runtime} {excuse : Observation → Prop} {operation : StoredOperation}
  {track : Track}

/-! ### Executing -/

/-- The plan holds what its executor needs: the payload of its type, a registered service and
action, a time that can be written down. -/
def executable (runtime : Runtime) (plan : StoredPlan) (nowMs : Int) : Bool :=
  match plan.operationType with
  | .certbotIssue => plan.certbotIssue.isSome
  | .certbotRenewTest => plan.certbotRenew.isSome
  | .certbotAttach => plan.certbotAttach.isSome
  | .managedConfig | .managedConfigRestore => plan.managedConfig.isSome
  | .serviceControl => (registeredService runtime.toCodec plan.siteId).toBool &&
      (serviceActionFromDigest runtime.toCodec plan.availableDigest).toBool
  | .ufwRule => plan.ufwRule.isSome && (formatTime runtime.toCodec nowMs).toBool
  | .nginxSiteState => true
  | .unregistered _ => false

variable {ε β : Type} {stage : OperationStage} {rolling : StoredOperation}

theorem exists_of_toBool {result : Except ε α} (isOk : result.toBool = true) :
    ∃ value, result = .ok value := by
  cases result with
  | ok value => exact ⟨value, rfl⟩
  | error error => cases isOk

theorem exists_of_not_toBool {result : Except ε α} (isError : result.toBool = false) :
    ∃ error, result = .error error := by
  cases result with
  | ok value => cases isError
  | error error => exact ⟨error, rfl⟩

theorem settles_executeApproved {nowMs : Int} (running : Running runtime operation track)
    (excused : ∀ observation, excuse observation)
    (approved : operation.stage = .approved)
    (planned : executable runtime operation.plan nowMs = true)
    (named : relativePathRejected
      (snapshotPath operation.operationId operation.plan.operationType) = false) :
    Settles runtime excuse (executeApproved runtime operation nowMs) track := by
  unfold executeApproved
  cases kind : operation.plan.operationType with
  | nginxSiteState => exact settles_executeNginxSiteState running approved kind
  | certbotAttach =>
    simp only [executable, kind] at planned
    exact settles_executeCertbotAttach running approved kind planned
  | managedConfig =>
    simp only [executable, kind] at planned
    exact settles_executeManagedConfig running approved (.inl kind) planned
  | managedConfigRestore =>
    simp only [executable, kind] at planned
    exact settles_executeManagedConfig running approved (.inr kind) planned
  | certbotIssue =>
    simp only [executable, kind] at planned
    obtain ⟨payload, payloadIs⟩ := Option.isSome_iff_exists.mp planned
    exact settles_executeCertbotIssue running approved kind payloadIs
  | certbotRenewTest =>
    simp only [executable, kind] at planned
    obtain ⟨payload, payloadIs⟩ := Option.isSome_iff_exists.mp planned
    exact settles_executeCertbotRenewTest running approved kind payloadIs
  | serviceControl =>
    simp only [executable, kind, Bool.and_eq_true] at planned
    obtain ⟨service, registered⟩ := exists_of_toBool planned.1
    obtain ⟨action, acts⟩ := exists_of_toBool planned.2
    rw [kind] at named
    exact settles_executeServiceControl running excused approved kind registered acts named
  | ufwRule =>
    simp only [executable, kind, Bool.and_eq_true] at planned
    obtain ⟨payload, payloadIs⟩ := Option.isSome_iff_exists.mp planned.1
    obtain ⟨observedAt, timed⟩ := exists_of_toBool planned.2
    rw [kind] at named
    exact settles_executeUfwRule running excused approved kind payloadIs timed named
  | unregistered value => simp [executable, kind] at planned

/-- A plan that lacks what its executor needs is refused before the first call. -/
theorem executeApproved_refused (refused : executable runtime operation.plan nowMs = false) :
    ∃ error, executeApproved runtime operation nowMs = throw error := by
  unfold executeApproved
  cases kind : operation.plan.operationType with
  | nginxSiteState => simp [executable, kind] at refused
  | unregistered value => exact ⟨_, rfl⟩
  | certbotAttach =>
    simp only [executable, kind, Option.isSome_eq_false_iff, Option.isNone_iff_eq_none] at refused
    exact ⟨.forensicLockdown, by simp only [executeCertbotAttach, refused]⟩
  | managedConfig | managedConfigRestore =>
    simp only [executable, kind, Option.isSome_eq_false_iff, Option.isNone_iff_eq_none] at refused
    exact ⟨.forensicLockdown, by simp only [executeManagedConfig, refused]⟩
  | certbotIssue =>
    simp only [executable, kind, Option.isSome_eq_false_iff, Option.isNone_iff_eq_none] at refused
    exact ⟨.forensicLockdown, by simp only [executeCertbotIssue, refused]⟩
  | certbotRenewTest =>
    simp only [executable, kind, Option.isSome_eq_false_iff, Option.isNone_iff_eq_none] at refused
    exact ⟨.forensicLockdown, by simp only [executeCertbotRenewTest, refused]⟩
  | serviceControl =>
    simp only [executable, kind, Bool.and_eq_false_iff] at refused
    unfold executeServiceControl
    cases registered : registeredService runtime.toCodec operation.plan.siteId with
    | error error => exact ⟨error, rfl⟩
    | ok service =>
      rw [registered] at refused
      obtain ⟨error, unknown⟩ := exists_of_not_toBool (refused.resolve_left nofun)
      rw [unknown]
      exact ⟨error, rfl⟩
  | ufwRule =>
    simp only [executable, kind, Bool.and_eq_false_iff] at refused
    unfold executeUfwRule
    cases payloadIs : operation.plan.ufwRule with
    | none => exact ⟨.forensicLockdown, rfl⟩
    | some payload =>
      rw [payloadIs] at refused
      obtain ⟨error, untimed⟩ := exists_of_not_toBool (refused.resolve_left nofun)
      refine ⟨error, ?_⟩
      simp only [ufwInventory, untimed]
      rfl

/-- How an execution ends: terminal exactly if the plan could be executed and nothing blocked. -/
def Finished (runtime : Runtime) (plan : StoredPlan) (nowMs : Int) (track : Track) : Prop :=
  track.fault = false → (track.operation.stage.isTerminal = true ↔
    executable runtime plan nowMs = true ∧ Unblocked runtime track.seen)

theorem safe_executeApproved {nowMs : Int} (running : Running runtime operation track)
    (approved : operation.stage = .approved)
    (named : relativePathRejected
      (snapshotPath operation.operationId operation.plan.operationType) = false) :
    SafeE step (guard runtime) (executeApproved runtime operation nowMs) track fun _ after =>
      Finished runtime operation.plan nowMs after := by
  cases planned : executable runtime operation.plan nowMs with
  | true =>
    have settles := @settles_executeApproved runtime (fun _ => True) operation track nowMs running
      (fun _ => trivial) approved planned named
    refine settles.mono fun _ _ settled faultless => ?_
    rcases settled faultless with ⟨terminal, _, clear⟩ | ⟨working, _, observation, member, bad, _⟩
    · exact iff_of_true terminal ⟨planned, clear⟩
    · refine iff_of_false (by rw [working]; exact Bool.false_ne_true) fun both => ?_
      rw [both.2 observation member] at bad
      cases bad
  | false =>
    obtain ⟨error, refused⟩ := executeApproved_refused planned
    rw [refused]
    refine SafeE.fail error fun _ => ?_
    rw [running.same, approved, planned]
    exact iff_of_false nofun fun both => Bool.false_ne_true both.1

/-! ### Recovering -/

/-- The stages from the first change of the host on. -/
def appliedStages : List OperationStage :=
  [.applying, .validating, .reloading, .verifying, .rollingBack]

/-- What holds of every operation that a crash leaves behind. -/
structure Recoverable (operation : StoredOperation) : Prop where
  begun : operation.stage ≠ .planned
  kept : operation.stage ∈ appliedStages → ∃ record, Kept operation record
  service : operation.plan.operationType = .serviceControl →
    operation.stage ≠ .validating ∧ operation.stage ≠ .reloading
  firewall : operation.stage ∈ appliedStages → operation.plan.operationType = .ufwRule →
    operation.plan.ufwRule.isSome = true

theorem settles_dropReceipt (settles : Settles runtime excuse program track) :
    Settles runtime excuse (dropReceipt program) track := by
  refine SafeE.bind (settles.mono fun result after settled => ?_)
  cases result with
  | ok value => exact SafeE.ret () settled
  | error error => exact settled

theorem settles_recoverBeforeApply (running : Running runtime operation track)
    (early : operation.stage = .approved ∨ operation.stage = .snapshotted) :
    Settles runtime excuse (recoverBeforeApply runtime operation nowMs) track := by
  have taken : takes operation.plan.operationType operation.stage (advance [operation.stage]
      .cancelledBeforeApply "recovered_before_apply" (codeDigest runtime "recovered_before_apply")
      nowMs) = true := by
    rcases early with stands | stands <;> rw [stands] <;> rfl
  refine settles_transition running ⟨rfl, rfl, rfl, rfl⟩ taken fun moved _ there reached => ?_
  have terminal : moved.stage.isTerminal = true := by rw [there.stage]; rfl
  refine SafeE.bind (SafeE.rejectIf (fun working => ?_) fun _ => ?_)
  · rw [terminal] at working
    cases working
  · exact settles_end reached terminal (ends_removePlanProposal _)

theorem settles_recoverCertbot (running : Running runtime operation track)
    (applied : operation.stage ∈ appliedStages) (kept : Kept operation record)
    (kind : external operation.plan.operationType) {resultCode : String} :
    Settles runtime (SnapshotRead operation)
      (recoverCertbot runtime operation resultCode nowMs) track := by
  unfold recoverCertbot
  simp only [kept.snapshot]
  have working : operation.stage.isTerminal = false := by
    revert applied
    cases operation.stage <;> decide
  have here : Stands operation.operationId operation.plan (some record) operation.stage operation :=
    ⟨rfl, rfl, kept.snapshot, rfl⟩
  have read := @snapshotRead_of_stands record _ _ _ _ _ _ here here
    SnapshotKind.certificateInventory.maxBytes
    (by rcases kind with same | same <;> rw [same] <;> rfl)
  refine settles_readStrict running kept working
    (by rcases kind with same | same <;> rw [same] <;> rfl) read
    (fun bytes => by rcases kind with same | same <;> rw [same] <;> rfl) fun _ _ reached => ?_
  refine settles_finish reached here ?_ rfl fun _ => ends_removePlanProposal _
  simp only [appliedStages, List.mem_cons, List.not_mem_nil, or_false] at applied
  rcases applied with stands | stands | stands | stands | stands <;> rw [stands] <;> rfl

theorem rollbackStages_applied (applied : stage ∈ appliedStages) :
    rollbackStages.contains stage = true := by
  revert applied
  cases stage <;> decide

theorem Recoverable.serviceStage (recoverable : Recoverable operation)
    (applied : operation.stage ∈ appliedStages)
    (kind : operation.plan.operationType = .serviceControl) :
    operation.stage ∈ [OperationStage.applying, .verifying] ∨ operation.stage = .rollingBack := by
  have never := recoverable.service kind
  revert applied never
  cases operation.stage <;> simp [appliedStages]

theorem ufwStage (applied : stage ∈ appliedStages) :
    stage ∈ [OperationStage.applying, .verifying, .validating, .reloading] ∨
      stage = .rollingBack := by
  revert applied
  cases stage <;> decide

theorem settles_recoverApplied (running : Running runtime operation track)
    (applied : operation.stage ∈ appliedStages) (recoverable : Recoverable operation)
    (nowMs : Int) :
    Settles runtime (SnapshotRead operation) (recoverApplied runtime operation nowMs) track := by
  obtain ⟨record, kept⟩ := recoverable.kept applied
  have rolls := rollbackStages_applied applied
  have here : Stands operation.operationId operation.plan (some record) operation.stage operation :=
    ⟨rfl, rfl, kept.snapshot, rfl⟩
  have sites (lenient : strict operation.plan.operationType = false) :=
    settles_dropReceipt (settles_rollback (SnapshotRead operation) running here lenient rolls
      "restart_recovery" (codeDigest runtime "restart_recovery") nowMs)
  have configs (lenient : strict operation.plan.operationType = false) :=
    settles_dropReceipt (settles_rollbackManagedConfigWithEvidence (SnapshotRead operation) running
      here lenient rolls
      (@Sound.plain runtime "restart_recovery" (codeDigest runtime "restart_recovery")) nowMs)
  unfold recoverApplied
  cases kind : operation.plan.operationType with
  | nginxSiteState | unregistered _ => exact sites (by rw [kind]; rfl)
  | managedConfig | managedConfigRestore => exact configs (by rw [kind]; rfl)
  | certbotAttach =>
    exact settles_dropReceipt (settles_rollbackCertbotAttach _ running here (by rw [kind]; rfl)
      rolls _ _ _)
  | certbotIssue => exact settles_recoverCertbot running applied kept (.inl kind)
  | certbotRenewTest => exact settles_recoverCertbot running applied kept (.inr kind)
  | serviceControl =>
    have stage := recoverable.serviceStage applied kind
    exact settles_dropReceipt (settles_rollbackServiceControl _ running here stage kind kept.path
      (fun _ read => read) _ _ _)
  | ufwRule =>
    exact settles_dropReceipt (settles_rollbackUfwRule _ running here (ufwStage applied) kind
      (recoverable.firewall applied kind) kept.path (fun _ read => read))

/-- Recovery is only ever stopped by the snapshot of an operation that had changed the host. -/
theorem settles_recoverStage (running : Running runtime operation track)
    (recoverable : Recoverable operation)
    (excused : operation.stage ∈ appliedStages → ∀ observation, SnapshotRead operation observation → excuse observation)
    {nowMs : Int} :
    Settles runtime excuse (recoverStage runtime operation nowMs) track := by
  have applied (member : operation.stage ∈ appliedStages) :
      Settles runtime excuse (recoverApplied runtime operation nowMs) track :=
    (settles_recoverApplied running member recoverable nowMs).mono fun _ _ settled =>
      settled.weaken (excused member)
  have done (terminal : operation.stage.isTerminal = true) :
      Settles runtime excuse (pure ()) track :=
    SafeE.ret () (running.settled terminal fun _ => rfl)
  unfold recoverStage
  cases stage : operation.stage with
  | planned => exact absurd stage recoverable.begun
  | approved => exact settles_recoverBeforeApply running (.inl stage)
  | snapshotted => exact settles_recoverBeforeApply running (.inr stage)
  | applying | validating | reloading | verifying | rollingBack =>
    exact applied (by rw [stage]; decide)
  | _ => exact done (by rw [stage]; rfl)

/-! ### Snapshots that recovery reads -/

/-- No success without the snapshot having been read. -/
def Reads (operation : StoredOperation) {α : Type} (result : Except OpsError α) (track : Track) :
    Prop :=
  result.toBool = true → ∃ observation ∈ track.seen, SnapshotRead operation observation

theorem safe_grows (program : Ops α) :
    SafeE step (fun _ _ => True) program track fun _ after => track.seen ⊆ after.seen := by
  refine Safe.of_issues (Issues.any program.run) (List.Subset.refl _) (fun _ _ _ _ => trivial) ?_
  intro reached call answer after inv _ stepped
  cases call with
  | mark operationId => obtain rfl := stepped; exact inv
  | host call =>
    obtain ⟨_, rfl⟩ := stepped
    exact List.Subset.trans inv (List.subset_cons_self _ _)
  | ledger call =>
    cases answer with
    | error error =>
      obtain rfl : after = reached.failed call := by cases call <;> exact stepped
      exact inv
    | ok value =>
      have kept : after.seen = reached.seen := by
        cases call <;> obtain ⟨_, rfl⟩ := stepped <;> rfl
      rw [kept]
      exact inv

/-- What reading a snapshot file can come to. -/
theorem safe_readSnapshot {post : Except OpsError kind.Data → Track → Prop}
    (rejected : ∀ error, post (.error error) track)
    (failed : ∀ error, post (.error error)
      (track.observe (.readSnapshotFile record.relativePath kind.maxBytes) (.error error)))
    (read : ∀ bytes, post (decodeSnapshot runtime kind record bytes)
      (track.observe (.readSnapshotFile record.relativePath kind.maxBytes) (.ok bytes))) :
    SafeE step (fun _ _ => True) (readSnapshot runtime kind record) track post := by
  refine SafeE.bind (SafeE.rejectIf (fun _ => rejected _) fun _ => SafeE.bind ⟨trivial, ?_⟩)
  rintro answer after ⟨_, rfl⟩
  cases answer with
  | error error => exact failed error
  | ok bytes => exact read bytes

theorem reads_readSnapshot {next : kind.Data → Ops β}
    (plan : track.operation.plan = operation.plan)
    (snapshot : track.operation.snapshot = operation.snapshot)
    (kept : operation.snapshot = some record)
    (bounded : kind.maxBytes = (snapshotKind operation.plan.operationType).maxBytes) :
    SafeE step (fun _ _ => True) (readSnapshot runtime kind record >>= next) track
      (Reads operation) := by
  refine SafeE.bind (safe_readSnapshot (fun _ => nofun) (fun _ => nofun) fun bytes => ?_)
  cases decodeSnapshot runtime kind record bytes with
  | error error => exact nofun
  | ok value =>
    refine (safe_grows (next value)).mono fun _ _ grown _ => ?_
    exact ⟨_, grown List.mem_cons_self, plan, snapshot, record, kept, by rw [bounded]⟩

theorem reads_dropReceipt (reads : SafeE step (fun _ _ => True) program track (Reads operation)) :
    SafeE step (fun _ _ => True) (dropReceipt program) track (Reads operation) := by
  refine SafeE.bind (reads.mono fun result after read => ?_)
  cases result with
  | ok value => exact SafeE.ret () read
  | error error => exact read

/-- Behind the start of a rollback only the snapshot is left to be read. -/
theorem reads_startRollback {expected : List OperationStage} {cause digest : String}
    {next : StoredOperation → Ops β} (running : Running runtime operation track)
    (early : operation.stage ∈ expected ∨ operation.stage = .rollingBack)
    (rollsBack : ∀ other ∈ expected, follows other .rollingBack = true ∨ other = .rollingBack)
    (continued : ∀ rolling after, Stands operation.operationId operation.plan operation.snapshot
      .rollingBack rolling → after.operation = rolling →
      SafeE step (fun _ _ => True) (next rolling) after (Reads operation)) :
    SafeE step (fun _ _ => True)
      (startRollback operation.operationId expected cause digest nowMs >>= next)
      track (Reads operation) := by
  refine SafeE.bind (((safe_startRollback running ⟨rfl, rfl, rfl, rfl⟩ early rollsBack cause digest
    nowMs).weaken fun _ _ _ => trivial).mono fun result after reached => ?_)
  cases result with
  | ok rolling => exact continued rolling after reached.1 reached.2.same
  | error error => exact nofun

theorem recoverStage_applied (applied : operation.stage ∈ appliedStages) (nowMs : Int) :
    recoverStage runtime operation nowMs = recoverApplied runtime operation nowMs := by
  unfold recoverStage
  simp only [appliedStages, List.mem_cons, List.not_mem_nil, or_false] at applied
  rcases applied with stage | stage | stage | stage | stage <;> rw [stage]

theorem reads_recoverStage (running : Running runtime operation track)
    (recoverable : Recoverable operation) (applied : operation.stage ∈ appliedStages)
    (isStrict : strict operation.plan.operationType = true) :
    SafeE step (fun _ _ => True) (recoverStage runtime operation nowMs) track
      (Reads operation) := by
  obtain ⟨record, kept⟩ := recoverable.kept applied
  have standing := running.same
  have certbot (kind : external operation.plan.operationType) (resultCode : String) :
      SafeE step (fun _ _ => True) (recoverCertbot runtime operation resultCode nowMs) track
        (Reads operation) := by
    unfold recoverCertbot
    simp only [kept.snapshot]
    exact reads_readSnapshot (by rw [standing]) (by rw [standing]) kept.snapshot
      (by rcases kind with same | same <;> rw [same] <;> rfl)
  rw [recoverStage_applied applied]
  unfold recoverApplied
  cases kind : operation.plan.operationType with
  | certbotIssue => exact certbot (.inl kind) _
  | certbotRenewTest => exact certbot (.inr kind) _
  | serviceControl =>
    refine reads_dropReceipt (reads_startRollback running
      (recoverable.serviceStage applied kind) (by decide) fun rolling after there same => ?_)
    rw [there.snapshot, kept.snapshot]
    exact reads_readSnapshot (by rw [same, there.plan]) (by rw [same, there.snapshot])
      kept.snapshot (by rw [kind]; rfl)
  | ufwRule =>
    obtain ⟨payload, payloadIs⟩ := Option.isSome_iff_exists.mp (recoverable.firewall applied kind)
    refine reads_dropReceipt (reads_startRollback running (ufwStage applied) (by decide)
      fun rolling after there same => ?_)
    simp only [there.plan, payloadIs, there.snapshot, kept.snapshot]
    exact reads_readSnapshot (by rw [same, there.plan]) (by rw [same, there.snapshot])
      kept.snapshot (by rw [kind]; rfl)
  | _ => rw [kind] at isStrict; cases isStrict

/-! ### Snapshots that recovery cannot use -/

/-- A file from which the snapshot of the operation cannot be decoded. -/
def damaged (runtime : Runtime) (operation : StoredOperation) (answer : Except OpsError Bytes) :
    Bool :=
  match operation.snapshot, answer with
  | some record, .ok bytes =>
    !(decodeSnapshot runtime (snapshotKind operation.plan.operationType) record bytes).toBool
  | _, _ => true

/-- If every read of the snapshot found it damaged, the operation is given up. -/
def GivenUp (runtime : Runtime) (operation : StoredOperation) (track : Track) : Prop :=
  track.fault = false →
    (∀ record standing answer, operation.snapshot = some record →
      (⟨standing, .readSnapshotFile record.relativePath
        (snapshotKind operation.plan.operationType).maxBytes, answer⟩ : Observation) ∈ track.seen →
      damaged runtime operation answer = true) →
    track.operation.stage = .recoveryRequired

theorem damaged_of_usable {answer : Except OpsError Bytes}
    (isStrict : strict operation.plan.operationType = true)
    (useful : usableAnswer runtime operation answer = true) :
    damaged runtime operation answer = false := by
  cases kept : operation.snapshot with
  | none => simp [usableAnswer, kept] at useful
  | some record =>
    cases answer with
    | error error => simp [usableAnswer, kept] at useful
    | ok bytes =>
      simp only [usableAnswer, kept] at useful
      simp only [damaged, kept, Bool.not_eq_false']
      cases kind : operation.plan.operationType <;> simp only [kind] at isStrict useful ⊢
      case serviceControl =>
        simp only [usable] at useful
        cases decoded : decodeSnapshot runtime .serviceState record bytes with
        | ok snapshot =>
          rw [snapshotKind, decoded]
          rfl
        | error error =>
          rw [decoded] at useful
          cases useful
      case ufwRule => exact useful
      case certbotIssue => exact useful
      case certbotRenewTest => exact useful
      all_goals cases isStrict

theorem givenUp_recoveryRequired (running : Running runtime rolling track)
    (there : Stands operationId plan snapshot .rollingBack rolling) (reason : String)
    (nowMs : Int) :
    SafeE step (fun _ _ => True) (recoveryRequired runtime operationId reason nowMs) track
      fun _ after => GivenUp runtime operation after := by
  refine @Safe.weaken _ _ _ _ _ (guard runtime) _ _ _ _ ?_ fun _ _ _ => trivial
  have standing := running.same
  refine SafeE.bind (safe_ledger ?_ (fun _ => nofun) ?_)
  · change _ ∧ _
    rw [standing]
    refine ⟨there.id, running.known, ?_, List.forall_mem_singleton.mpr rfl, ?_⟩
    · rw [there.stage]
      exact List.mem_singleton_self _
    · rw [there.stage]
      exact ⟨rfl, nofun, nofun, fun _ => ⟨nofun, nofun⟩⟩
  · rintro moved after ⟨rfl, rfl⟩
    refine (ends_bind ends_receipt (fun _ => ends_bind (ends_removePlanProposal _)
      fun _ => ends_ret _) _ _ (running.moveTo _)).mono fun _ last reached _ _ => ?_
    rw [reached.1.same]
    rfl

/-- The common start of the lenient rollbacks: without its snapshot the operation is given up. -/
theorem givenUp_readSnapshot {next : kind.Data → Ops OperationReceiptView}
    (running : Running runtime rolling track)
    (there : Stands operationId plan snapshot .rollingBack rolling)
    (lenient : strict plan.operationType = false) (kept : operation.snapshot = some record)
    (kindIs : snapshotKind operation.plan.operationType = kind) :
    SafeE step (fun _ _ => True) (onError (readSnapshot runtime kind record)
      (fun error => recoveryRequired runtime operationId error.code nowMs) next) track
      fun _ after => GivenUp runtime operation after := by
  have required (reason : String) {now : Track} (still : Running runtime rolling now) :
      SafeE step (fun _ _ => True) (recoveryRequired runtime operationId reason nowMs) now
        fun _ after => GivenUp runtime operation after :=
    givenUp_recoveryRequired still there reason nowMs
  subst kindIs
  have passing (answer : Except OpsError Bytes) : blocks runtime rolling
      (.readSnapshotFile record.relativePath (snapshotKind operation.plan.operationType).maxBytes)
      answer = false := by
    simp only [blocks, there.plan, lenient, Bool.false_and]
  refine SafeE.onError (safe_readSnapshot (fun _ => required _ running)
    (fun _ => required _ (running.observe (passing _))) fun bytes => ?_)
  cases decoded : decodeSnapshot runtime (snapshotKind operation.plan.operationType) record
      bytes with
  | error error => exact required _ (running.observe (passing _))
  | ok snapshot =>
    refine (safe_grows (next snapshot)).mono fun _ _ grown _ allDamaged => ?_
    have bad := allDamaged record _ _ kept (grown List.mem_cons_self)
    simp only [damaged, kept, decoded, Except.toBool, Bool.not_true] at bad
    cases bad

theorem givenUp_dropReceipt
    (givenUp : SafeE step (fun _ _ => True) program track fun _ after =>
      GivenUp runtime operation after) :
    SafeE step (fun _ _ => True) (dropReceipt program) track
      fun _ after => GivenUp runtime operation after := by
  refine SafeE.bind (givenUp.mono fun result after reached => ?_)
  cases result with
  | ok value => exact SafeE.ret () reached
  | error error => exact reached

/-- Lenient recovery does not stop at a damaged snapshot: it ends in `RECOVERY_REQUIRED`. -/
theorem givenUp_recoverStage (running : Running runtime operation track)
    (recoverable : Recoverable operation) (applied : operation.stage ∈ appliedStages)
    (lenient : strict operation.plan.operationType = false) :
    SafeE step (fun _ _ => True) (recoverStage runtime operation nowMs) track
      fun _ after => GivenUp runtime operation after := by
  obtain ⟨record, kept⟩ := recoverable.kept applied
  have started {restore : StoredOperation → Ops OperationReceiptView}
      (restores : ∀ {rolling : StoredOperation} {now : Track},
        Stands operation.operationId operation.plan operation.snapshot .rollingBack rolling →
        Running runtime rolling now → SafeE step (fun _ _ => True) (restore rolling) now
          fun _ after => GivenUp runtime operation after) :
      SafeE step (fun _ _ => True) (dropReceipt
        (startRollback operation.operationId rollbackStages "restart_recovery"
          (codeDigest runtime "restart_recovery") nowMs >>= restore)) track
        fun _ after => GivenUp runtime operation after := by
    refine givenUp_dropReceipt (SafeE.bind (((safe_startRollback running ⟨rfl, rfl, rfl, rfl⟩
      (.inl (List.contains_iff_mem.mp (rollbackStages_applied applied))) rollbackStages_roll
      "restart_recovery" (codeDigest runtime "restart_recovery") nowMs).weaken fun _ _ _ =>
        trivial).mono ?_))
    intro result after reached
    cases result with
    | error error =>
      intro faultless
      rw [show after.fault = true from reached] at faultless
      cases faultless
    | ok rolling => exact restores reached.1 reached.2
  rw [recoverStage_applied applied]
  unfold recoverApplied
  cases kind : operation.plan.operationType with
  | certbotIssue | certbotRenewTest | serviceControl | ufwRule =>
    rw [kind] at lenient; cases lenient
  | _ =>
    refine started fun there reached => ?_
    rw [there.snapshot, kept.snapshot]
    exact givenUp_readSnapshot reached there lenient kept.snapshot (by rw [kind]; rfl)

end JwOps.Lifecycle.Dispatch
