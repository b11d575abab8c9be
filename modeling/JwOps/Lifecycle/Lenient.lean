/- module: Lifecycle/Lenient
   source: crates/jw-opsd/src/engine.rs, crates/jw-opsd/src/engine/managed_config_rollback.rs
   digest: The executors of sites, configurations and certificate attachment settle their
   operation. -/
import JwOps.Lifecycle.Fragments

set_option autoImplicit false

namespace JwOps.Lifecycle.Lenient

open Contracts Ledger Engine Operation Digest Config Schema Writes Reads Interface Replace Nginx
open Certbot Attach ManagedConfig History Tracking Fragments Foundation.Program

variable {nowMs : Int} {proposal : ProposalRecord} {adapter : ManagedConfigAdapter}
  {payload : ManagedConfigPlanPayload}

variable {runtime : Runtime} {excuse : Observation → Prop} {operation : StoredOperation}
  {track : Track} {α β : Type} {operationId : String} {plan : StoredPlan}
  {kept : Option SnapshotRecord} {stage : OperationStage}

/-! ### Transitions at a known stage -/

/-- The transition is expected at the stage and takes an edge that the engine may take. -/
def takes (operationType : OperationType) (stage : OperationStage) (change : Transition) : Bool :=
  change.expected.contains stage && change.expected.all (fun other => !other.isTerminal) &&
    follows stage change.next && (change.next != .rolledBack || stage == .rollingBack) &&
    change.next != .snapshotted &&
    !((change.next == .validating || change.next == .reloading) &&
      operationType == .serviceControl)

/-- The operation that `operationId` names has this plan and snapshot, and stands at `stage`. -/
structure Stands (operationId : String) (plan : StoredPlan) (kept : Option SnapshotRecord)
    (stage : OperationStage) (operation : StoredOperation) : Prop where
  id : operationId = operation.operationId
  plan : operation.plan = plan
  snapshot : operation.snapshot = kept
  stage : operation.stage = stage

theorem settles_ite {condition : Prop} [Decidable condition] {first second : Ops α}
    (taken : condition → Settles runtime excuse first track)
    (skipped : ¬condition → Settles runtime excuse second track) :
    Settles runtime excuse (if condition then first else second) track := by
  split
  · rename_i holds
    exact taken holds
  · rename_i holds
    exact skipped holds

section Transitions

variable {change : Transition} {diagnostics : Option StoredDiagnostics}
  {command : Option OperationCommandEvidenceView} {next : StoredOperation → Ops β}

section

variable (running : Running runtime operation track)
  (here : Stands operationId plan kept stage operation)
  (taken : takes plan.operationType stage change = true)
include running here taken

theorem settles_transition
    (continued : ∀ moved after, Stands operationId plan kept change.next moved →
      Running runtime moved after → Settles runtime excuse (next moved) after) :
    Settles runtime excuse (ledger (.transition operationId change diagnostics command) >>= next)
      track := by
  obtain ⟨same, rfl, snapshot, rfl⟩ := here
  simp only [takes, Bool.and_eq_true, Bool.or_eq_true, Bool.not_eq_true', bne_iff_ne, ne_eq,
    beq_iff_eq, List.contains_iff_mem, List.all_eq_true, Bool.and_eq_false_iff,
    Bool.or_eq_false_iff, beq_eq_false_iff_ne] at taken
  obtain ⟨⟨⟨⟨⟨expected, working⟩, edge⟩, restored⟩, attached⟩, service⟩ := taken
  refine settles_transitionInternal running same expected working
    ⟨edge, fun rolledBack => ?_, attached, fun kind => ?_⟩
    fun after reached => continued _ after ⟨same, rfl, snapshot, rfl⟩ reached
  · exact restored.resolve_left fun other => other rolledBack
  · exact service.resolve_right fun other => other kind

/-- A transition to a terminal stage, with what is quietly done after it. -/
theorem settles_finish (terminal : change.next.isTerminal = true)
    (ends : ∀ moved, Ends runtime (next moved)) :
    Settles runtime excuse (ledger (.transition operationId change diagnostics command) >>= next)
      track := by
  refine settles_transition running here taken fun moved after here reached => ?_
  exact settles_end reached (by rw [here.stage]; exact terminal) (ends _)

end

end Transitions

section Cancelling

variable (excuse) (running : Running runtime operation track)
  (approved : operation.stage = .approved)
include running approved

theorem settles_cancelApproved (resultCode digest : String) (nowMs : Int) :
    Settles runtime excuse (cancelApproved operation resultCode digest nowMs) track :=
  settles_finish running ⟨rfl, rfl, rfl, approved⟩ rfl rfl fun _ => ends_receipt

theorem settles_cancelCertbot (reason : String) (nowMs : Int) :
    Settles runtime excuse (cancelCertbotBeforeApply runtime operation reason nowMs) track :=
  settles_finish running ⟨rfl, rfl, rfl, approved⟩ rfl rfl fun _ => ends_closing _ _

theorem settles_cancelManaged (reason : String) (nowMs : Int) :
    Settles runtime excuse (cancelManagedBeforeApply runtime operation reason nowMs) track :=
  settles_finish running ⟨rfl, rfl, rfl, approved⟩ rfl rfl fun _ => ends_closing _ _

end Cancelling

theorem settles_recoveryRequired (running : Running runtime operation track)
    (here : Stands operationId plan kept .rollingBack operation) {reason : String} :
    Settles runtime excuse (recoveryRequired runtime operationId reason nowMs) track :=
  settles_finish running here rfl rfl fun _ => ends_closing _ _

/-- Entering the rollback: what follows may rely on `ROLLING_BACK`. -/
theorem safe_startRollback {expected : List OperationStage}
    (running : Running runtime operation track)
    (here : Stands operationId plan kept stage operation)
    (early : stage ∈ expected ∨ stage = .rollingBack)
    (rollsBack : ∀ other ∈ expected, follows other .rollingBack = true ∨ other = .rollingBack)
    (cause digest : String) (nowMs : Int) :
    SafeE step (guard runtime) (startRollback operationId expected cause digest nowMs) track
      fun result after =>
        match result with
        | .ok rolling =>
          Stands operationId plan kept .rollingBack rolling ∧ Running runtime rolling after
        | .error _ => after.fault = true := by
  obtain ⟨same, rfl, snapshot, rfl⟩ := here
  have standing : track.operation = operation := running.same
  refine SafeE.bind (safe_ledger ⟨by rw [standing]; exact same, running.known⟩ (fun _ => rfl) ?_)
  rintro current after ⟨rfl, rfl⟩
  rw [standing]
  dsimp only
  by_cases rolling : operation.stage = .rollingBack
  · rw [if_pos rolling]
    exact SafeE.ret _ ⟨⟨same, rfl, snapshot, rolling⟩, running⟩
  · rw [if_neg rolling]
    have member : operation.stage ∈ expected := early.resolve_right rolling
    have edge := (rollsBack _ member).resolve_right rolling
    have working : ∀ other ∈ expected, other.isTerminal = false := by
      intro other inList
      rcases rollsBack other inList with leaves | rfl
      · exact follows_running leaves
      · rfl
    refine safe_ledger ?_ (fun _ => rfl) ?_
    · change _ ∧ _
      rw [standing]
      exact ⟨same, running.known, member, working, edge, nofun, nofun, fun _ => ⟨nofun, nofun⟩⟩
    · rintro value after ⟨rfl, rfl⟩
      rw [standing]
      exact ⟨⟨same, rfl, snapshot, rfl⟩, running.moveTo _⟩

theorem settles_startRollback {expected : List OperationStage} {cause digest : String}
    {nowMs : Int} {next : StoredOperation → Ops β} (running : Running runtime operation track)
    (here : Stands operationId plan kept stage operation)
    (early : stage ∈ expected ∨ stage = .rollingBack)
    (rollsBack : ∀ other ∈ expected, follows other .rollingBack = true ∨ other = .rollingBack)
    (continued : ∀ rolling after, Stands operationId plan kept .rollingBack rolling →
      Running runtime rolling after → Settles runtime excuse (next rolling) after) :
    Settles runtime excuse (startRollback operationId expected cause digest nowMs >>= next)
      track := by
  refine SafeE.bind ((safe_startRollback running here early rollsBack cause digest nowMs).mono ?_)
  intro result after reached
  cases result with
  | ok rolling => exact continued rolling after reached.1 reached.2
  | error error => exact settled_of_fault reached

theorem rollbackStages_roll :
    ∀ stage ∈ rollbackStages, follows stage .rollingBack = true ∨ stage = .rollingBack := by
  decide

section

variable (here : Stands operationId plan kept stage operation)
  (lenient : strict plan.operationType = false)
include here lenient

/-- While a lenient operation may change the host, every host call is quiet. -/
theorem quiet_effects (effects : effectStages.contains stage = true) (call : Call)
    (hostSide : HostSide call) : Quiet runtime operation call := by
  obtain ⟨_, rfl, _, rfl⟩ := here
  exact hostSide.quiet_lenient lenient (List.contains_iff_mem.mp effects)

/-- Whatever a program of such an operation touches. -/
theorem quiet_touching (effects : effectStages.contains stage = true) {avoided : HostCall → Bool}
    {families : List Family} {program : Ops α}
    (calls : IssuesE (Touches avoided families) program) :
    IssuesE (Quiet runtime operation) program :=
  calls.mono fun call touches => quiet_effects here lenient effects call touches.hostSide

theorem quiet_reads (call : Call) (passive : Passive call) :
    Quiet runtime operation call := by
  obtain ⟨_, rfl, _, _⟩ := here
  exact passive.quiet_lenient lenient

end

variable (excuse) in
/-- While an operation is rolled back it may work on the host, and it can be given up. -/
theorem settles_rolling (here : Stands operationId plan kept .rollingBack operation)
    (lenient : strict plan.operationType = false) (nowMs : Int) :
    (∀ call, HostSide call → Quiet runtime operation call) ∧
      ∀ (reason : String) {now : Track}, Running runtime operation now →
        Settles runtime excuse (recoveryRequired runtime operationId reason nowMs) now :=
  ⟨quiet_effects here lenient rfl, fun _ _ still =>
    settles_recoveryRequired still here⟩

/-! ### Sites -/

variable (excuse) in
theorem settles_rollback (running : Running runtime operation track)
    (here : Stands operationId plan kept stage operation)
    (lenient : strict plan.operationType = false) (rolls : rollbackStages.contains stage = true)
    (cause digest : String) (nowMs : Int) :
    Settles runtime excuse (rollback runtime operationId cause digest nowMs) track := by
  refine settles_startRollback running here (.inl (List.contains_iff_mem.mp rolls))
    rollbackStages_roll fun rolling after here reached => ?_
  obtain ⟨quiet, required⟩ := settles_rolling excuse here lenient nowMs
  cases rolling.snapshot with
  | none => exact required _ reached
  | some record =>
    refine settles_onError reached (quiet_touching here lenient rfl touches_readSnapshot)
      (fun _ _ still => required _ still) fun snapshot _ reached _ => ?_
    refine settles_onError reached (issues_perform (quiet _ trivial))
      (fun _ _ still => required _ still) fun current _ reached _ => ?_
    refine settles_onError reached (quiet_touching here lenient rfl touches_setEnabled)
      (fun _ _ still => required _ still) fun _ _ reached _ => ?_
    refine settles_onError reached (issues_perform (quiet _ trivial))
      (fun _ _ still => required _ still) fun config _ reached _ => ?_
    refine settles_onError reached (quiet_touching here lenient rfl touches_runAfter)
      (fun _ _ still => required _ still) fun reload _ reached _ => ?_
    refine settles_onError reached (quiet_touching here lenient rfl touches_runAfter)
      (fun _ _ still => required _ still) fun active _ reached _ => ?_
    refine settles_attempt reached (issues_perform (quiet _ trivial))
      fun restored _ reached _ => ?_
    refine settles_ite (fun _ => required _ reached) fun _ => ?_
    exact settles_finish reached here rfl rfl fun _ => ends_closing _ _

theorem settles_finishNoop (running : Running runtime operation track)
    (here : Stands operation.operationId plan kept .snapshotted operation)
    (lenient : strict plan.operationType = false) :
    Settles runtime excuse (finishNoop runtime operation nowMs) track := by
  refine settles_transition running here rfl fun moved after here reached => ?_
  have quiet : ∀ call, Passive call → Quiet runtime moved call := quiet_reads here lenient
  have cancel (resultCode digest : String) {now : Track} (still : Running runtime moved now) :
      Settles runtime excuse (cancelNoop operation resultCode digest nowMs) now :=
    settles_finish still here rfl rfl fun _ => ends_receipt
  refine settles_onError reached ((run_passive rfl).mono quiet)
    (fun _ _ still => cancel _ _ still) fun config _ reached _ => ?_
  refine settles_onError reached ((run_passive rfl).mono quiet)
    (fun _ _ still => cancel _ _ still) fun active _ reached _ => ?_
  refine settles_ite (fun _ => cancel _ _ reached) fun _ => ?_
  exact settles_finish reached here rfl rfl fun _ => ends_receipt

theorem settles_reloadAndVerify {snapshotted : StoredOperation}
    (running : Running runtime operation track)
    (here : Stands snapshotted.operationId plan kept .reloading operation)
    (lenient : strict plan.operationType = false) :
    Settles runtime excuse (reloadAndVerify runtime snapshotted nowMs) track := by
  have back (cause digest : String) {now : Track} (still : Running runtime operation now) :=
    settles_rollback excuse still here lenient rfl cause digest nowMs
  refine settles_onError running (issues_perform (quiet_effects here lenient rfl _ trivial))
    (fun _ _ still => back _ _ still) fun reload _ reached _ => ?_
  refine settles_ite (fun _ => back _ _ reached) fun _ => ?_
  refine settles_transition reached here rfl fun moved _ here reached => ?_
  have quiet : ∀ call, Passive call → Quiet runtime moved call := quiet_reads here lenient
  have back (cause digest : String) {now : Track} (still : Running runtime moved now) :=
    settles_rollback excuse still here lenient rfl cause digest nowMs
  refine settles_onError reached (issues_perform (quiet (.host _) ⟨rfl, rfl⟩))
    (fun _ _ still => back _ _ still) fun after _ reached _ => ?_
  refine settles_onError reached ((run_passive rfl).mono quiet)
    (fun _ _ still => back _ _ still) fun active _ reached _ => ?_
  refine settles_ite (fun _ => back _ _ reached) fun _ => ?_
  exact settles_finish reached here rfl rfl fun _ => ends_receipt

theorem settles_applySiteState {snapshotted : StoredOperation} {preflight : NginxSite}
    (running : Running runtime operation track)
    (here : Stands snapshotted.operationId plan kept .snapshotted operation)
    (kind : plan.operationType = .nginxSiteState) :
    Settles runtime excuse (applySiteState runtime preflight snapshotted nowMs) track := by
  have lenient : strict plan.operationType = false := by rw [kind]; rfl
  refine settles_transition running here rfl fun applying _ here reached => ?_
  refine settles_onError reached (quiet_touching here lenient rfl touches_setEnabled)
    (fun _ _ still => settles_rollback excuse still here lenient rfl _ _ _)
    fun _ _ reached _ => ?_
  refine settles_transition reached here (by rw [kind]; rfl) fun validating _ here reached => ?_
  have back (cause digest : String) {now : Track} (still : Running runtime validating now) :=
    settles_rollback excuse still here lenient rfl cause digest nowMs
  refine settles_onError reached ((run_passive rfl).mono (quiet_reads here lenient))
    (fun _ _ still => back _ _ still) fun configTest _ reached _ => ?_
  refine settles_ite (fun _ => back _ _ reached) fun _ => ?_
  refine settles_transition reached here (by rw [kind]; rfl) fun reloading _ here reached => ?_
  exact settles_reloadAndVerify reached here lenient

theorem settles_executeNginxSiteState (running : Running runtime operation track)
    (approved : operation.stage = .approved)
    (kind : operation.plan.operationType = .nginxSiteState) :
    Settles runtime excuse (executeNginxSiteState runtime operation nowMs) track := by
  have lenient : strict operation.plan.operationType = false := by rw [kind]; rfl
  have cancel (error : OpsError) {now : Track} (still : Running runtime operation now) :=
    settles_cancelApproved excuse still approved error.code (codeDigest runtime error.code) nowMs
  refine settles_onSaw (saw_validatePrecondition running) (fun error _ still => cancel error still)
    fun preflight _ reached _ found => ?_
  refine settles_onSaw (saw_writeSnapshot reached _ _ _) (fun error _ still => cancel error still)
    fun record now reached grown path => ?_
  have reread : Reread runtime operation now.seen := by
    simp only [Reread, kind]
    exact ⟨preflight, grown found.1, found.2⟩
  refine settles_attach reached rfl approved reread (by rw [snapshotPath, kind]; exact path)
    fun _ reached => ?_
  refine settles_ite (fun _ => settles_finishNoop reached ⟨rfl, rfl, rfl, rfl⟩ lenient)
    fun _ => ?_
  exact settles_applySiteState reached ⟨rfl, rfl, rfl, rfl⟩ kind

/-! ### Certificate attachment -/

variable (excuse) in
theorem settles_rollbackCertbotAttach (running : Running runtime operation track)
    (here : Stands operationId plan kept stage operation)
    (lenient : strict plan.operationType = false) (rolls : rollbackStages.contains stage = true)
    (cause digest : String) (nowMs : Int) :
    Settles runtime excuse (rollbackCertbotAttach runtime operationId cause digest nowMs)
      track := by
  refine settles_startRollback running here (.inl (List.contains_iff_mem.mp rolls))
    rollbackStages_roll fun rolling after here reached => ?_
  obtain ⟨quiet, required⟩ := settles_rolling excuse here lenient nowMs
  cases rolling.snapshot with
  | none => exact required _ reached
  | some record =>
    refine settles_onError reached (quiet_touching here lenient rfl touches_readSnapshot)
      (fun _ _ still => required _ still) fun snapshot _ reached _ => ?_
    refine settles_onError reached
      (quiet_touching here lenient rfl touches_restoreProtectedConfig)
      (fun _ _ still => required _ still) fun restored _ reached _ => ?_
    refine settles_attempt reached (issues_perform (quiet _ trivial))
      fun config _ reached _ => ?_
    refine settles_attempt reached (issues_perform (quiet _ trivial))
      fun reload _ reached _ => ?_
    refine settles_attempt reached (issues_perform (quiet _ trivial))
      fun active _ reached _ => ?_
    refine settles_ite (fun _ => required _ reached) fun verified => ?_
    cases active with
    | error error => simp [succeeded] at verified
    | ok evidence =>
      exact settles_finish reached here rfl rfl fun _ => ends_receipt

theorem settles_verifyCertbotAttach {snapshotted : StoredOperation}
    {payload : CertbotAttachPlanPayload} (running : Running runtime operation track)
    (here : Stands snapshotted.operationId plan kept .verifying operation)
    (lenient : strict plan.operationType = false) :
    Settles runtime excuse (verifyCertbotAttach runtime snapshotted payload nowMs) track := by
  have quiet : ∀ call, Passive call → Quiet runtime operation call := quiet_reads here lenient
  refine settles_attempt running (issues_perform (quiet (.host _) ⟨rfl, rfl⟩))
    fun config _ reached _ => ?_
  refine settles_attempt reached ((run_passive rfl).mono quiet) fun active _ reached _ => ?_
  refine settles_attempt reached ((certificateInventory_passive nowMs).mono quiet)
    fun inventory _ reached _ => ?_
  refine settles_attempt reached (issues_perform (quiet (.host _) ⟨rfl, rfl⟩))
    fun tls _ reached _ => ?_
  refine settles_ite (fun _ => ?_) fun verified => ?_
  · exact settles_rollbackCertbotAttach excuse reached here lenient rfl _ _ _
  · cases tls with
    | error error => simp [attachmentVerified] at verified
    | ok evidence =>
      exact settles_finish reached here rfl rfl fun _ => ends_receipt

theorem settles_replaceAndReload {snapshotted : StoredOperation}
    {payload : CertbotAttachPlanPayload} {attachment : TlsAttachmentResource}
    {record : SnapshotRecord} (running : Running runtime operation track)
    (here : Stands snapshotted.operationId plan kept .snapshotted operation)
    (kind : plan.operationType = .certbotAttach) :
    Settles runtime excuse (replaceAndReload runtime snapshotted payload attachment record nowMs)
      track := by
  have lenient : strict plan.operationType = false := by rw [kind]; rfl
  have back {moved : StoredOperation} {stage : OperationStage}
      (here : Stands snapshotted.operationId plan kept stage moved)
        (rolls : rollbackStages.contains stage = true)
      (cause digest : String) {now : Track} (still : Running runtime moved now) :=
    settles_rollbackCertbotAttach excuse still here lenient rolls cause digest nowMs
  refine settles_transition running here rfl fun applying _ here reached => ?_
  refine settles_onError reached
    (quiet_touching here lenient rfl touches_replaceProtectedConfig) (fun _ _ still =>
    back here rfl _ _ still)
    fun applied _ reached _ => ?_
  refine settles_ite (fun _ => back here rfl _ _ reached) fun _ => ?_
  refine settles_transition reached here (by rw [kind]; rfl) fun validating _ here reached => ?_
  refine settles_onError reached ((run_passive rfl).mono (quiet_reads here lenient))
    (fun _ _ still => back here rfl _ _ still) fun configTest _ reached _ => ?_
  refine settles_ite (fun _ => back here rfl _ _ reached) fun _ => ?_
  refine settles_transition reached here (by rw [kind]; rfl) fun reloading _ here reached => ?_
  refine settles_onError reached (issues_perform (quiet_effects here lenient rfl _ trivial))
    (fun _ _ still => back here rfl _ _ still) fun reload _ reached _ => ?_
  refine settles_ite (fun _ => back here rfl _ _ reached) fun _ => ?_
  refine settles_transition reached here rfl fun verifying _ here reached => ?_
  exact settles_verifyCertbotAttach reached here lenient

theorem settles_executeCertbotAttach (running : Running runtime operation track)
    (approved : operation.stage = .approved)
    (kind : operation.plan.operationType = .certbotAttach)
    (planned : operation.plan.certbotAttach.isSome = true) :
    Settles runtime excuse (executeCertbotAttach runtime operation nowMs) track := by
  have lenient : strict operation.plan.operationType = false := by rw [kind]; rfl
  obtain ⟨payload, payloadIs⟩ := Option.isSome_iff_exists.mp planned
  unfold executeCertbotAttach
  simp only [payloadIs]
  have cancel (reason : String) {now : Track} (still : Running runtime operation now) :=
    settles_cancelCertbot excuse still approved reason nowMs
  refine settles_onSaw (saw_certificateInventory running
    (quiet_reads ⟨rfl, rfl, rfl, approved⟩ lenient) nowMs)
    (fun _ _ still => cancel _ still) fun inventory _ reached _ facts => ?_
  refine settles_ite (fun _ => cancel _ reached) fun attachable => ?_
  refine settles_onSaw (saw_prepareTlsAttachment reached _ _ _) (fun _ _ still => cancel _ still)
    fun attachment _ reached grown found => ?_
  have saw := SawInventory.mono facts.1 grown
  refine settles_ite (fun _ => cancel _ reached) fun unchanged => ?_
  simp only [ne_eq, not_or, not_not] at unchanged
  refine settles_onSaw (saw_writeSnapshot reached _ _ _) (fun _ _ still => cancel _ still)
    fun record now reached grown path => ?_
  have reread : Reread runtime operation now.seen := by
    have digest : inventory.inventoryDigest = payload.inventoryDigest := by
      simp only [attachableCertificate, Bool.not_eq_true', Bool.not_eq_false, Bool.and_eq_true,
        beq_iff_eq] at attachable
      exact attachable.1.1.1
    rw [digest] at saw
    simp only [Reread, kind]
    exact ⟨payload, attachment.config, payloadIs, grown found.1, found.2, unchanged.1,
      SawInventory.mono saw grown⟩
  refine settles_attach reached rfl approved reread (by rw [snapshotPath, kind]; exact path)
    fun _ reached => ?_
  refine settles_ite (fun _ => ?_) fun _ => ?_
  · refine settles_transition reached ⟨rfl, rfl, rfl, rfl⟩ rfl fun verifying _ here reached => ?_
    exact settles_verifyCertbotAttach reached here lenient
  · exact settles_replaceAndReload reached ⟨rfl, rfl, rfl, rfl⟩ kind

/-! ### Evidence beside a transition -/

theorem prepareCommandEvidence_produced {evidence : CommandEvidence}
    (produced : evidence.Produced) :
    prepareCommandEvidence runtime.toCodec (commandEvidenceView evidence)
      (digestOf runtime evidence) = .ok (commandEvidenceView evidence) := by
  unfold prepareCommandEvidence
  rw [produced.validateShape]
  exact if_neg (by rintro (bad | bad) <;> first | cases bad | exact bad rfl)

/-- What the engine hands to a rollback is accepted by the ledger. -/
structure Sound (runtime : Runtime) (evidence : ManagedConfigRollbackEvidence) : Prop where
  command : ∀ view, evidence.command = some view → ∃ command : CommandEvidence,
    command.Produced ∧ view = commandEvidenceView command ∧
      evidence.digest = digestOf runtime command
  few : evidence.diagnostics.length ≤ managedConfigDiagnosticMaxEntries
  shaped : ∀ diagnostic ∈ evidence.diagnostics, diagnostic.validateShape.toBool = true
  digest : evidence.diagnostics ≠ [] → validateDigest evidence.digest = .ok ()

theorem Sound.plain {cause digest : String} : Sound runtime ⟨cause, digest, [], none⟩ :=
  ⟨nofun, Nat.zero_le _, nofun, fun some => absurd rfl some⟩

theorem Sound.ofCommand {cause : String} {command : CommandEvidence}
    (produced : command.Produced) :
    Sound runtime ⟨cause, digestOf runtime command, [], some (commandEvidenceView command)⟩ := by
  refine ⟨fun view same => ?_, Nat.zero_le _, nofun, fun some => absurd rfl some⟩
  exact ⟨command, produced, (Option.some.inj same).symm, rfl⟩

theorem Sound.ofDiagnostics {cause : String} {command : CommandEvidence}
    (produced : command.Produced) (resource : ManagedConfigResource) (changed : List UInt32)
    (proposed : Bytes) :
    Sound runtime ⟨cause, digestOf runtime command,
      managedConfigDiagnostics runtime resource command changed proposed,
      some (commandEvidenceView command)⟩ := by
  refine ⟨fun view same => ⟨command, produced, (Option.some.inj same).symm, rfl⟩, ?_, ?_,
    fun _ => validateDigest_sha256Digest _ _⟩
  · refine le_trans (List.length_filter_le _ _) ?_
    rw [List.length_take]
    exact Nat.min_le_left _ _
  · intro diagnostic member
    exact (List.mem_filter.mp member).2

theorem prepareDiagnostics_sound {evidence : ManagedConfigRollbackEvidence}
    (sound : Sound runtime evidence) (some_ : evidence.diagnostics ≠ []) :
    ∃ stored combined, prepareDiagnostics runtime.toCodec evidence.digest evidence.diagnostics =
      .ok (stored, combined) := by
  refine ⟨_, _, if_neg ?_⟩
  rintro (none | many | bad | digest)
  · exact some_ none
  · exact absurd sound.few (Nat.not_le.mpr many)
  · obtain ⟨diagnostic, member, shape⟩ := List.any_eq_true.mp bad
    rw [sound.shaped diagnostic member] at shape
    cases shape
  · rw [sound.digest some_] at digest
    cases digest

section Prepared

variable {codec : Codec} {change : Transition}
  {view stored : OperationCommandEvidenceView} {diagnostics : List ManagedConfigDiagnosticView}
  {storedDiagnostics : StoredDiagnostics} {combined : String}

theorem transitionWithCommandEvidence_prepared
    (command : prepareCommandEvidence codec view change.evidenceDigest = .ok stored) :
    transitionWithCommandEvidence codec operationId change view =
      ledger (.transition operationId change none (some stored)) := by
  unfold transitionWithCommandEvidence
  rw [command]
  rfl

theorem transitionWithDiagnostics_prepared (some_ : diagnostics ≠ [])
    (prepared : prepareDiagnostics codec change.evidenceDigest diagnostics =
      .ok (storedDiagnostics, combined)) :
    transitionWithDiagnostics codec operationId change diagnostics =
      ledger (.transition operationId { change with evidenceDigest := combined }
        (some storedDiagnostics) none) := by
  unfold transitionWithDiagnostics
  rw [if_neg some_, prepared]
  rfl

theorem transitionWithDiagnosticsAndCommand_prepared (some_ : diagnostics ≠ [])
    (command : prepareCommandEvidence codec view change.evidenceDigest = .ok stored)
    (prepared : prepareDiagnostics codec change.evidenceDigest diagnostics =
      .ok (storedDiagnostics, combined)) :
    transitionWithDiagnosticsAndCommand codec operationId change diagnostics view =
      ledger (.transition operationId { change with evidenceDigest := combined }
        (some storedDiagnostics) (some stored)) := by
  unfold transitionWithDiagnosticsAndCommand
  rw [if_neg some_, command, prepared]
  rfl

end Prepared

theorem settles_transitionWithCommand {change : Transition} {evidence : CommandEvidence}
    {next : StoredOperation → Ops β} (running : Running runtime operation track)
    (here : Stands operationId plan kept stage operation)
    (taken : takes plan.operationType stage change = true)
    (produced : evidence.Produced) (digest : change.evidenceDigest = digestOf runtime evidence)
    (continued : ∀ moved after, Stands operationId plan kept change.next moved →
      Running runtime moved after → Settles runtime excuse (next moved) after) :
    Settles runtime excuse (transitionWithCommandEvidence runtime.toCodec operationId change
      (commandEvidenceView evidence) >>= next) track := by
  have command := @prepareCommandEvidence_produced runtime _ produced
  rw [← digest] at command
  rw [transitionWithCommandEvidence_prepared command]
  exact settles_transition running here taken continued

/-! ### Managed configurations -/

theorem settles_startManagedRollback {evidence : ManagedConfigRollbackEvidence} {nowMs : Int}
    {next : StoredOperation → Ops β} (running : Running runtime operation track)
    (here : Stands operationId plan kept stage operation)
      (rolls : rollbackStages.contains stage = true)
    (sound : Sound runtime evidence)
    (continued : ∀ rolling after, Stands operationId plan kept .rollingBack rolling →
      Running runtime rolling after → Settles runtime excuse (next rolling) after) :
    Settles runtime excuse (startManagedRollback runtime operationId evidence nowMs >>= next)
      track := by
  obtain ⟨same, rfl, snapshot, rfl⟩ := here
  replace rolls := List.contains_iff_mem.mp rolls
  unfold startManagedRollback
  rw [bind_assoc]
  refine settles_load running same ?_
  by_cases rolling : operation.stage = .rollingBack
  · simp only [rolling, ↓reduceIte, pure_bind]
    exact continued operation track ⟨same, rfl, snapshot, rolling⟩ running
  simp only [rolling, ↓reduceIte]
  -- whatever evidence goes with it, the transition itself is the same
  have enter (digest : String) (diagnostics : Option StoredDiagnostics)
      (command : Option OperationCommandEvidenceView) :
      Settles runtime excuse (ledger (.transition operationId
        (advance rollbackStages .rollingBack evidence.cause digest nowMs) diagnostics command) >>=
        next) track := by
    have working : ∀ stage ∈ rollbackStages, stage.isTerminal = false := by decide
    refine settles_transitionInternal running same rolls working
      ⟨(rollbackStages_roll _ rolls).resolve_right rolling, nofun, nofun, fun _ => ⟨nofun, nofun⟩⟩
      fun after reached => continued _ after ⟨same, rfl, snapshot, rfl⟩ reached
  have command (view : OperationCommandEvidenceView) (given : evidence.command = some view) :
      prepareCommandEvidence runtime.toCodec view evidence.digest = .ok view := by
    obtain ⟨command, produced, rfl, digest⟩ := sound.command view given
    rw [digest]
    exact prepareCommandEvidence_produced produced
  let change := advance rollbackStages .rollingBack evidence.cause evidence.digest nowMs
  cases diagnostics : evidence.diagnostics with
  | nil =>
    cases given : evidence.command with
    | none => exact enter _ none none
    | some view =>
      have sent := @transitionWithCommandEvidence_prepared operationId _ change _ _
        (command view given)
      exact (congrArg (fun program => Settles runtime excuse (program >>= next) track) sent).mpr
        (enter _ none (some view))
  | cons first rest =>
    have some_ : first :: rest ≠ [] := List.cons_ne_nil _ _
    obtain ⟨stored, combined, prepared⟩ := prepareDiagnostics_sound sound
      (by rw [diagnostics]; exact some_)
    rw [diagnostics] at prepared
    cases given : evidence.command with
    | none =>
      have sent := @transitionWithDiagnostics_prepared operationId _ change _ _ _ some_ prepared
      exact (congrArg (fun program => Settles runtime excuse (program >>= next) track) sent).mpr
        (enter combined (some stored) none)
    | some view =>
      have sent := @transitionWithDiagnosticsAndCommand_prepared operationId _ change _ _ _ _ _
        some_ (command view given) prepared
      exact (congrArg (fun program => Settles runtime excuse (program >>= next) track) sent).mpr
        (enter combined (some stored) (some view))

theorem settles_verifyManagedRollback {rolling : StoredOperation}
    {snapshot : ManagedConfigSnapshot} {restored : ManagedConfigResource}
    (running : Running runtime operation track)
    (here : Stands operationId plan kept .rollingBack operation)
    (lenient : strict plan.operationType = false) :
    Settles runtime excuse
      (verifyManagedRollback runtime rolling operationId snapshot restored nowMs)
      track := by
  obtain ⟨quiet, required⟩ := settles_rolling excuse here lenient nowMs
  have finish {evidence : CommandEvidence} (produced : evidence.Produced) {now : Track}
      (still : Running runtime operation now) :
      Settles runtime excuse
        (finishManagedRollback runtime operationId snapshot evidence nowMs) now := by
    refine settles_transitionWithCommand still here rfl produced rfl
      fun moved after here reached => ?_
    refine settles_end reached (by rw [here.stage]; rfl) ?_
    refine ends_bind ends_receipt fun _ => ?_
    exact ends_bind (ends_forM ends_cleanupProposal _) fun _ => ends_ret _
  refine settles_onHost running (quiet _ trivial) (fun _ _ still => required _ still)
    fun answer config produced view reached => ?_
  obtain rfl : answer = .ok config := view
  refine settles_ite (fun _ => required _ reached) fun _ => ?_
  refine settles_ite (fun _ => ?_) fun _ => ?_
  · exact settles_ite (fun _ => required _ reached) fun _ => finish produced reached
  · refine settles_onError reached (issues_perform (quiet _ trivial))
      (fun _ _ still => required _ still) fun reload _ reached _ => ?_
    refine settles_ite (fun _ => required _ reached) fun _ => ?_
    refine settles_onHost reached (quiet _ trivial) (fun _ _ still => required _ still)
      fun answer active produced view reached => ?_
    obtain rfl : answer = .ok active := view
    refine settles_ite (fun _ => required _ reached) fun _ => ?_
    exact settles_ite (fun _ => required _ reached) fun _ => finish produced reached

section

variable (running : Running runtime operation track)
  (here : Stands operationId plan kept stage operation)
  (lenient : strict plan.operationType = false)
include running here lenient

variable (excuse) in
theorem settles_rollbackManagedConfigWithEvidence {evidence : ManagedConfigRollbackEvidence}
    (rolls : rollbackStages.contains stage = true) (sound : Sound runtime evidence) (nowMs : Int) :
    Settles runtime excuse (rollbackManagedConfigWithEvidence runtime operationId evidence nowMs)
      track := by
  refine settles_startManagedRollback running here rolls sound fun rolling after here reached => ?_
  obtain ⟨quiet, required⟩ := settles_rolling excuse here lenient nowMs
  cases rolling.snapshot with
  | none => exact required _ reached
  | some record =>
    refine settles_onError reached (quiet_touching here lenient rfl touches_readSnapshot)
      (fun _ _ still => required _ still) fun snapshot _ reached _ => ?_
    refine settles_onError reached
      (quiet_touching here lenient rfl touches_restoreManagedConfig)
      (fun _ _ still => required _ still) fun restored _ reached _ => ?_
    exact settles_verifyManagedRollback reached here lenient

/-- The active check never ends the operation, and its evidence comes from the runner. -/
theorem settles_runActive {adapter : ManagedConfigAdapter} {action : ServiceAction}
    {next : Option (Except OpsError CommandEvidence) → Ops β}
    (continued : ∀ active after, Running runtime operation after →
      (∀ evidence, active = some (.ok evidence) → evidence.Produced) →
      Settles runtime excuse (next active) after) :
    Settles runtime excuse (runActive adapter action >>= next) track := by
  unfold runActive
  by_cases reloads : action = .reload
  · have quiet : Quiet runtime operation (.host (.run adapter.active)) :=
      quiet_reads here lenient (.host _) ⟨active_reads adapter, rfl⟩
    rw [if_pos reloads, bind_assoc]
    refine SafeE.bind (SafeE.attempt (safe_host (running.quiet quiet) fun answer produced => ?_))
    refine continued (some answer) _ (running.observe (quiet.2 answer)) fun evidence same => ?_
    obtain rfl := Option.some.inj same
    exact produced
  · rw [if_neg reloads]
    refine continued none track running fun evidence same => ?_
    cases same

end

theorem settles_finishManagedNoop {snapshotted : StoredOperation}
    (running : Running runtime operation track)
    (here : Stands snapshotted.operationId plan kept .snapshotted operation)
    (lenient : strict plan.operationType = false)
    (planned : snapshotted.plan.managedConfig.isSome = true) :
    Settles runtime excuse
      (finishManagedNoop runtime snapshotted proposal adapter nowMs) track := by
  refine settles_transition running here rfl fun moved _ here reached => ?_
  refine settles_attempt reached ((run_passive (configTest_reads adapter)).mono
    (quiet_reads here lenient)) fun config _ reached _ => ?_
  obtain ⟨payload, payloadIs⟩ := Option.isSome_iff_exists.mp planned
  simp only [payloadIs]
  refine settles_runActive reached here lenient fun active _ reached _ => ?_
  refine settles_ite (fun _ => ?_) fun verified => ?_
  · exact settles_finish reached here rfl rfl fun _ => ends_closing _ _
  · simp only [Bool.not_eq_true', Bool.not_eq_false, Bool.and_eq_true] at verified
    have present : ∃ evidence, active.getD config = .ok evidence := by
      cases active with
      | none =>
        cases config with
        | error error => cases verified.1
        | ok evidence => exact ⟨evidence, rfl⟩
      | some result =>
        cases result with
        | error error => cases verified.2
        | ok evidence => exact ⟨evidence, rfl⟩
    obtain ⟨evidence, found⟩ := present
    rw [found]
    refine settles_finish reached here rfl rfl fun _ => ?_
    refine ends_bind ends_receipt fun _ => ?_
    exact ends_bind (ends_cleanupProposal _) fun _ => ends_ret _

theorem settles_verifyManagedConfig {snapshotted : StoredOperation} {config : CommandEvidence}
    (produced : config.Produced) {verificationDigest : String}
    (running : Running runtime operation track)
    (here : Stands snapshotted.operationId plan kept .verifying operation)
    (lenient : strict plan.operationType = false) :
    Settles runtime excuse (verifyManagedConfig runtime snapshotted payload proposal adapter config
      verificationDigest nowMs) track := by
  have back {evidence : ManagedConfigRollbackEvidence} (sound : Sound runtime evidence)
      {now : Track} (still : Running runtime operation now) :=
    settles_rollbackManagedConfigWithEvidence excuse still here lenient rfl sound nowMs
  refine settles_attempt running (issues_perform (quiet_reads here lenient (.host _) ⟨rfl, rfl⟩))
    fun readBack _ reached _ => ?_
  refine settles_runActive reached here lenient fun active _ reached evidenceOf => ?_
  refine settles_ite (fun _ => ?_) fun verified => ?_
  · match active, evidenceOf with
    | none, _ => exact back Sound.plain reached
    | some (.error error), _ => exact back Sound.plain reached
    | some (.ok value), evidenceOf => exact back (Sound.ofCommand (evidenceOf value rfl)) reached
  · have present : ∃ evidence : CommandEvidence, evidence.Produced ∧
        active.getD (.ok config) = .ok evidence := by
      match active, evidenceOf, verified with
      | none, _, _ => exact ⟨config, produced, rfl⟩
      | some (.ok value), evidenceOf, _ => exact ⟨value, evidenceOf value rfl, rfl⟩
      | some (.error error), _, verified => simp [serviceVerified, succeeded] at verified
    obtain ⟨evidence, evidenceProduced, found⟩ := present
    rw [found]
    refine settles_transitionWithCommand reached here rfl evidenceProduced rfl
      fun moved after here reached => ?_
    refine settles_end reached (by rw [here.stage]; rfl) ?_
    refine ends_bind ends_receipt fun _ => ?_
    exact ends_bind (ends_cleanupProposal _) fun _ => ends_ret _

theorem settles_reloadManagedConfig {snapshotted : StoredOperation} {config : CommandEvidence}
    (produced : config.Produced) (running : Running runtime operation track)
    (here : Stands snapshotted.operationId plan kept .reloading operation)
    (lenient : strict plan.operationType = false) :
    Settles runtime excuse
      (reloadManagedConfig runtime snapshotted payload proposal adapter config nowMs)
      track := by
  have back {evidence : ManagedConfigRollbackEvidence} (sound : Sound runtime evidence)
      {now : Track} (still : Running runtime operation now) :=
    settles_rollbackManagedConfigWithEvidence excuse still here lenient rfl sound nowMs
  refine settles_onHost running (quiet_effects here lenient rfl _ trivial)
    (fun _ _ still => back Sound.plain still) fun answer reload reloadProduced view reached => ?_
  obtain rfl : answer = .ok reload := view
  refine settles_ite (fun _ => back (Sound.ofCommand reloadProduced) reached) fun _ => ?_
  refine settles_transitionWithCommand reached here rfl reloadProduced rfl
    fun verifying _ here reached => ?_
  exact settles_verifyManagedConfig produced reached here lenient

/-- The two operation types that replace a managed configuration file. -/
def managed (operationType : OperationType) : Prop :=
  operationType = .managedConfig ∨ operationType = .managedConfigRestore

theorem managed.lenient {operationType : OperationType} (kind : managed operationType) :
    strict operationType = false := by
  rcases kind with rfl | rfl <;> rfl

theorem settles_applyManagedConfig {snapshotted : StoredOperation}
    {preflight : ManagedConfigResource} {proposed : Bytes}
    (running : Running runtime operation track)
    (here : Stands snapshotted.operationId plan kept .snapshotted operation)
    (kind : managed plan.operationType) :
    Settles runtime excuse
      (applyManagedConfig runtime snapshotted payload proposal preflight proposed
      nowMs) track := by
  have lenient := kind.lenient
  refine settles_transition running here rfl fun applying _ here reached => ?_
  refine settles_onError reached
    (quiet_touching here lenient rfl touches_replaceManagedConfig) (fun _ _ still =>
      settles_rollbackManagedConfigWithEvidence excuse still here lenient rfl Sound.plain _)
    fun applied _ reached _ => ?_
  refine settles_transition reached here (by rcases kind with same | same <;> rw [same] <;> rfl)
    fun validating _ here reached => ?_
  have back {evidence : ManagedConfigRollbackEvidence} (sound : Sound runtime evidence)
      {now : Track} (still : Running runtime validating now) :=
    settles_rollbackManagedConfigWithEvidence excuse still here lenient rfl sound nowMs
  refine settles_onHost reached
    (quiet_reads here lenient (.host _) ⟨configTest_reads preflight.adapter, rfl⟩)
    (fun _ _ still => back Sound.plain still) fun answer configTest produced view reached => ?_
  obtain rfl : answer = .ok configTest := view
  refine settles_ite (fun _ => back (Sound.ofDiagnostics produced _ _ _) reached) fun _ => ?_
  by_cases reloads : payload.serviceAction = .reload
  · simp only [reloads, ↓reduceIte]
    refine settles_transitionWithCommand reached here
      (by rcases kind with same | same <;> rw [same] <;> rfl) produced rfl
      fun reloading _ here reached => ?_
    exact settles_reloadManagedConfig produced reached here
      lenient
  · simp only [reloads, ↓reduceIte]
    refine settles_transitionWithCommand reached here rfl produced rfl
      fun verifying _ here reached => ?_
    exact settles_verifyManagedConfig produced reached here
      lenient

theorem settles_activeServiceBlocks {preflight : ManagedConfigResource}
    {payload : ManagedConfigPlanPayload} {next : Bool → Ops β}
    (running : Running runtime operation track)
    (here : Stands operationId plan kept stage operation)
    (lenient : strict plan.operationType = false)
    (continued : ∀ blocked after, Running runtime operation after → track.seen ⊆ after.seen →
      Settles runtime excuse (next blocked) after) :
    Settles runtime excuse (activeServiceBlocks preflight payload >>= next) track := by
  unfold activeServiceBlocks
  by_cases validates : payload.serviceAction = .validateOnly
  · rw [if_pos validates, bind_assoc]
    refine settles_attempt running ((run_passive (active_reads preflight.adapter)).mono
      (quiet_reads here lenient)) fun active after reached grown => ?_
    exact continued _ after reached grown
  · rw [if_neg validates]
    exact continued false track running (List.Subset.refl _)

theorem settles_executeManagedConfig (running : Running runtime operation track)
    (approved : operation.stage = .approved) (kind : managed operation.plan.operationType)
    (planned : operation.plan.managedConfig.isSome = true) :
    Settles runtime excuse (executeManagedConfig runtime operation nowMs) track := by
  obtain ⟨payload, payloadIs⟩ := Option.isSome_iff_exists.mp planned
  unfold executeManagedConfig
  simp only [payloadIs]
  have cancel (reason : String) {now : Track} (still : Running runtime operation now) :=
    settles_cancelManaged excuse still approved reason nowMs
  refine settles_onSaw (saw_host running (Silent.quiet ⟨rfl, rfl⟩)) (fun _ _ still =>
    cancel _ still)
    fun preflight _ reached _ found => ?_
  obtain ⟨_, _, rfl, found⟩ := found
  refine settles_ite (fun _ => cancel _ reached) fun unchanged => ?_
  simp only [ne_eq, not_or, not_not] at unchanged
  refine settles_activeServiceBlocks reached ⟨rfl, rfl, rfl, approved⟩ kind.lenient
    fun blocked _ reached grown => ?_
  replace found := grown found
  refine settles_ite (fun _ => cancel _ reached) fun _ => ?_
  refine settles_onSaw (saw_readProposal reached _) (fun _ _ still => cancel _ still)
    fun proposed _ reached grown content => ?_
  replace found := grown found
  refine settles_ite (fun _ => cancel _ reached) fun asProposed => ?_
  refine settles_onSaw (saw_lift reached _) (fun _ _ still => cancel _ still)
    fun _ _ reached grown _ => ?_
  replace found := grown found
  replace content := And.intro (grown content.1) content.2
  refine settles_onSaw (saw_writeSnapshot reached _ _ _) (fun _ _ still => cancel _ still)
    fun record now reached grown path => ?_
  have reread : Reread runtime operation now.seen := by
    have facts : ∃ payload resource bytes,
        operation.plan.managedConfig = some payload ∧
        ⟨operation, .discoverManagedConfig operation.plan.siteId, .ok resource⟩ ∈ now.seen ∧
        resource.contentDigest = operation.plan.availableDigest ∧
        resource.metadataDigest = operation.plan.enabledStateDigest ∧
        ⟨operation, .readProposalFile payload.proposalRelativePath, .ok bytes⟩ ∈ now.seen ∧
        sha256Digest runtime.toCodec bytes = payload.proposalDigest ∧
        sha256Digest runtime.toCodec bytes = payload.proposedContentDigest :=
      ⟨payload, preflight, proposed, payloadIs, grown found, unchanged.1, unchanged.2,
        grown content.1, content.2, not_not.mp asProposed⟩
    rcases kind with same | same <;> simp only [Reread, same] <;> exact facts
  have kept : record.relativePath = snapshotPath operation.operationId
      operation.plan.operationType := by
    rcases kind with same | same <;> rw [snapshotPath, same] <;> exact path
  refine settles_attach reached rfl approved reread kept fun _ reached => ?_
  refine settles_ite (fun _ => ?_) fun _ => ?_
  · exact settles_finishManagedNoop reached ⟨rfl, rfl, rfl, rfl⟩ kind.lenient planned
  · exact settles_applyManagedConfig reached ⟨rfl, rfl, rfl, rfl⟩ kind

end JwOps.Lifecycle.Lenient
