/- module: Lifecycle/Strict
   source: crates/jw-opsd/src/engine.rs, crates/jw-opsd/src/engine/service_operation.rs,
     crates/jw-opsd/src/engine/ufw_operation.rs
   digest: The executors that give up on some answers, and the dispatch over all executors. -/
import JwOps.Lifecycle.Lenient

set_option autoImplicit false

namespace JwOps.Lifecycle.Strict

open Contracts Ledger Engine Operation Digest Config Schema Writes Interface Nginx Certbot
open ServiceControl Ufw Tracking Fragments Lenient Foundation.Program

variable {nowMs : Int}

variable {record : SnapshotRecord} {operationId observedAt : String} {stage : OperationStage}
  {nowMs : Int} {plan : StoredPlan} {kept : Option SnapshotRecord}

variable {runtime : Runtime} {excuse : Observation → Prop} {operation : StoredOperation}
  {track : Track} {α β : Type}

/-! ### Answers that end the execution -/

/-- Host calls other than reading a snapshot. -/
def Acting : Call → Prop
  | .host call => isSnapshotRead call = false
  | .ledger call => isLedgerRead call = true
  | .mark _ => False

variable {call : Call} {kind : SnapshotKind} {action : ManagedServiceAction}
  {payload : UfwPlanPayload}

/-- While an operation may change the host, it only waits for its snapshot. -/
theorem Acting.quiet (acting : Acting call) (stage : operation.stage ∈ effectStages) :
    Quiet runtime operation call := by
  have early :
    (operation.stage == .approved) = false ∧ (operation.stage == .verifying) = false := by
    constructor <;> refine beq_eq_false_iff_ne.mpr fun same => ?_ <;> rw [same] at stage <;>
      exact absurd stage (by decide)
  cases call with
  | mark operationId => exact acting
  | ledger call => exact quiet_ledgerRead acting
  | host call =>
    refine ⟨fun _ => stage, fun answer => ?_⟩
    cases call with
    | runUfw command =>
      cases command with
      | status => cases answer <;> simp [blocks, early]
      | add rule => rfl
      | delete sequence => rfl
    | run _ | managementEdgeReady => simp [blocks, early]
    | readSnapshotFile path maxBytes => cases acting
    | _ => rfl

theorem acting_effects (here : Stands operationId plan kept stage operation)
    (effects : effectStages.contains stage = true) (call : Call) (acting : Acting call) :
    Quiet runtime operation call :=
  acting.quiet (by rw [here.stage]; exact List.contains_iff_mem.mp effects)

theorem Touches.acting {families : List Family} (touches : Touches isSnapshotRead families call) :
    Acting call := by
  cases call with
  | mark operationId => exact touches
  | ledger call => exact touches
  | host call => exact touches.2

/-- A host call on whose error the program gives up. -/
theorem settles_orBlocked {call : HostCall} {view : call.Answer → Except OpsError α}
    {next : α → Ops β} (running : Running runtime operation track)
    (excused : ∀ observation, excuse observation) (reads : isEffect call = false)
    (working : operation.stage.isTerminal = false)
    (waits : ∀ answer error, view answer = .error error →
      blocks runtime operation call answer = true)
    (continued : ∀ answer value, Produced call answer → view answer = .ok value →
      Settles runtime excuse (next value) (track.observe call answer)) :
    Settles runtime excuse (perform (.host call) view >>= next) track := by
  refine SafeE.bind (safe_host (fun effect => ?_) fun answer produced => ?_)
  · rw [reads] at effect
    cases effect
  · cases seen : view answer with
    | ok value => exact continued answer value produced seen
    | error error => exact running.blocked working (excused _) (waits answer error seen)

/-- The snapshot that a rollback of the operation looks for. -/
structure Kept (operation : StoredOperation) (record : SnapshotRecord) : Prop where
  snapshot : operation.snapshot = some record
  path : relativePathRejected record.relativePath = false

theorem snapshotRead_of_stands {rolling : StoredOperation} {later : OperationStage}
    (there : Stands operationId plan (some record) later rolling)
    (here : Stands operationId plan (some record) stage operation)
    {maxBytes : Nat} (bounded : maxBytes = (snapshotKind plan.operationType).maxBytes)
    (answer : Except OpsError Bytes) :
    SnapshotRead operation ⟨rolling, .readSnapshotFile record.relativePath maxBytes, answer⟩ :=
  ⟨there.plan.trans here.plan.symm, there.snapshot.trans here.snapshot.symm, record, here.snapshot,
    by rw [bounded, here.plan]⟩

/-- Reading the snapshot of a strict operation: what comes next decides together with the read
whether the snapshot is of use. -/
theorem settles_readSnapshot {next : kind.Data → Ops β} (kept : Kept operation record)
    (failed : ∀ answer, (∀ bytes, answer = .ok bytes →
      (decodeSnapshot runtime kind record bytes).toBool = false) →
      ∀ error, Settled runtime excuse (.error error :
      Except OpsError β)
      (track.observe (.readSnapshotFile record.relativePath kind.maxBytes) answer))
    (continued : ∀ bytes snapshot, decodeSnapshot runtime kind record bytes = .ok snapshot →
      Settles runtime excuse (next snapshot)
      (track.observe (.readSnapshotFile record.relativePath kind.maxBytes) (.ok bytes))) :
    Settles runtime excuse (readSnapshot runtime kind record >>= next) track := by
  refine SafeE.bind (SafeE.bind (SafeE.rejectIf (fun bad => ?_) fun _ => ?_))
  · rw [kept.path] at bad
    cases bad
  refine SafeE.bind (safe_host nofun fun answer _ => ?_)
  cases answer with
  | error error => exact failed (.error error) nofun error
  | ok bytes =>
    refine SafeE.lift _ ?_
    cases decoded : decodeSnapshot runtime kind record bytes with
    | ok snapshot => exact continued bytes snapshot decoded
    | error error =>
      refine failed (.ok bytes) (fun other same => ?_) error
      obtain rfl := Except.ok.inj same
      rw [decoded]
      rfl

theorem usableAnswer_of_kept (kept : Kept operation record) (bytes : Bytes) :
    usableAnswer runtime operation (.ok bytes) =
      usable runtime operation.plan.operationType record bytes := by
  simp only [usableAnswer, kept.snapshot]

theorem blocks_readSnapshotFile {path : String} {maxBytes : Nat}
    (isStrict : strict operation.plan.operationType = true) (answer : Except OpsError Bytes) :
    blocks runtime operation (.readSnapshotFile path maxBytes) answer =
      !usableAnswer runtime operation answer := by
  simp only [blocks, isStrict, Bool.true_and]

/-- The firewall rules and the certificate inventory are usable as soon as they can be read. -/
theorem settles_readStrict {next : kind.Data → Ops β}
    (running : Running runtime operation track) (kept : Kept operation record)
    (working : operation.stage.isTerminal = false)
    (isStrict : strict operation.plan.operationType = true)
    (excused : ∀ answer, excuse ⟨operation, .readSnapshotFile record.relativePath kind.maxBytes,
      answer⟩)
    (decodes : ∀ bytes, usable runtime operation.plan.operationType record bytes =
      (decodeSnapshot runtime kind record bytes).toBool)
    (continued : ∀ snapshot after, Running runtime operation after →
      Settles runtime excuse (next snapshot) after) :
    Settles runtime excuse (readSnapshot runtime kind record >>= next) track := by
  refine settles_readSnapshot kept (fun answer bad error =>
    running.blocked working (excused answer) ?_)
    fun bytes snapshot decoded => continued snapshot _ (running.observe ?_)
  · rw [blocks_readSnapshotFile isStrict]
    cases answer with
    | error error => simp only [usableAnswer, Bool.not_eq_true']; cases operation.snapshot <;> rfl
    | ok bytes => rw [usableAnswer_of_kept kept, decodes, bad bytes rfl]; rfl
  · rw [blocks_readSnapshotFile isStrict, usableAnswer_of_kept kept, decodes, decoded]
    rfl

/-! ### Services -/

theorem settles_restoreService {service : RegisteredService} {snapshot : ServiceStateSnapshot}
    (running : Running runtime operation track)
    (here : Stands operationId plan kept .rollingBack operation) :
    Settles runtime excuse (restoreService runtime operationId service snapshot nowMs) track := by
  have quiet : ∀ call, Acting call → Quiet runtime operation call := acting_effects here rfl
  refine settles_attempt running (issues_perform (quiet (.host _) rfl))
    fun restore _ reached _ => ?_
  have finish (verified : Bool) {now : Track} (still : Running runtime operation now) :
      Settles runtime excuse (transition operationId {
        expected := [.rollingBack]
        next := if verified then .rolledBack else .recoveryRequired
        resultCode := if verified then "service_state_restored" else "service_restore_failed"
        evidenceDigest := serviceStateDigest runtime.toCodec service.unitName snapshot.active
        afterDigest := some
          (serviceStateDigest runtime.toCodec service.unitName snapshot.active)
        rollbackResult := some (if verified then "restored" else "manual_recovery_required")
        nowMs := nowMs } >>= fun terminal => receipt terminal.operationId) now := by
    cases verified <;>
      exact settles_finish still here rfl rfl fun _ => ends_receipt
  by_cases restored : succeeded restore = true
  · rw [if_pos restored]
    refine settles_attempt reached (issues_perform (quiet (.host _) rfl))
      fun active _ reached _ => ?_
    exact finish _ reached
  · rw [if_neg restored]
    exact finish false reached

variable (excuse) in
theorem settles_rollbackServiceControl (running : Running runtime operation track)
    (here : Stands operationId plan (some record) stage operation)
    (early : stage ∈ [OperationStage.applying, .verifying] ∨ stage = .rollingBack)
    (kind : plan.operationType = .serviceControl)
    (path : relativePathRejected record.relativePath = false)
    (excused : ∀ observation, SnapshotRead operation observation → excuse observation)
    (cause digest : String) (nowMs : Int) :
    Settles runtime excuse
      (rollbackServiceControl runtime operationId cause digest nowMs) track := by
  refine settles_startRollback running here early (by decide) fun rolling _ there reached => ?_
  have bounded :
    SnapshotKind.serviceState.maxBytes = (snapshotKind plan.operationType).maxBytes := by
    rw [kind]
    rfl
  have read answer := excused _ (snapshotRead_of_stands there here bounded answer)
  have kept : Kept rolling record := ⟨there.snapshot, path⟩
  have isStrict : strict rolling.plan.operationType = true := by rw [there.plan, kind]; rfl
  have working : rolling.stage.isTerminal = false := by rw [there.stage]; rfl
  have usableIs (bytes : Bytes) : usable runtime rolling.plan.operationType record bytes =
      ((decodeSnapshot runtime .serviceState record bytes).bind
        (snapshotService runtime.toCodec)).toBool := by
    rw [there.plan, kind]
    unfold usable
    cases decodeSnapshot runtime .serviceState record bytes <;> rfl
  rw [kept.snapshot]
  refine settles_readSnapshot kept (fun answer bad error =>
    reached.blocked working (read answer) ?_)
    fun bytes snapshot decoded => ?_
  · rw [blocks_readSnapshotFile isStrict]
    cases answer with
    | error error => simp only [usableAnswer, Bool.not_eq_true']; cases rolling.snapshot <;> rfl
    | ok bytes =>
      have failed := bad bytes rfl
      rw [usableAnswer_of_kept kept, usableIs]
      cases decoded : decodeSnapshot runtime .serviceState record bytes with
      | error error => rfl
      | ok snapshot => rw [decoded] at failed; cases failed
  · have answered : blocks runtime rolling
        (.readSnapshotFile record.relativePath SnapshotKind.serviceState.maxBytes) (.ok bytes) =
          !(snapshotService runtime.toCodec snapshot).toBool := by
      rw [blocks_readSnapshotFile isStrict, usableAnswer_of_kept kept, usableIs, decoded]
      rfl
    -- a snapshot of another service is as useless as one that cannot be read
    cases named : snapshotService runtime.toCodec snapshot with
    | error error =>
      rw [named] at answered
      exact reached.blocked working (read _) answered
    | ok service =>
      rw [named] at answered
      exact settles_restoreService (reached.observe answered) there

theorem settles_actAndVerify {snapshotted : StoredOperation} {service : RegisteredService}
    {action : ManagedServiceAction} (running : Running runtime operation track)
    (here : Stands snapshotted.operationId plan (some record) .snapshotted operation)
    (kind : plan.operationType = .serviceControl)
    (path : relativePathRejected record.relativePath = false)
    (excused : ∀ observation, excuse observation) :
    Settles runtime excuse (actAndVerify runtime snapshotted service action nowMs) track := by
  refine settles_transition running here rfl fun applying _ here reached => ?_
  have back (cause digest : String) {now : Track} (still : Running runtime applying now) :=
    settles_rollbackServiceControl excuse still here (.inl List.mem_cons_self) kind path
      (fun observation _ => excused observation) cause digest nowMs
  refine settles_onError reached (issues_perform (acting_effects here rfl (.host _) rfl))
    (fun _ _ still => back _ _ still) fun evidence _ reached _ => ?_
  refine settles_ite (fun _ => back _ _ reached) fun _ => ?_
  refine settles_transition reached here (by rw [kind]; rfl) fun verifying _ here reached => ?_
  -- an active check that cannot be run leaves the operation in `VERIFYING`
  have answered (answer : Except OpsError CommandEvidence) :
      blocks runtime verifying (.run service.activeCommand) answer = !answer.toBool := by
    simp [blocks, here.plan, kind, here.stage, advance]
  have reads : isEffect (.run service.activeCommand) = false := by cases service <;> rfl
  refine settles_orBlocked reached excused reads (by rw [here.stage]; rfl) ?_
    fun answer value _ view => ?_
  · rintro answer error failed
    rw [answered, show answer = .error error from failed]
    rfl
  · obtain rfl : answer = .ok value := view
    replace reached := reached.observe (answered (.ok value))
    refine settles_ite (fun _ => ?_) fun _ => ?_
    · exact settles_rollbackServiceControl excuse reached here
        (.inl (List.mem_cons_of_mem _ List.mem_cons_self)) kind path
        (fun observation _ => excused observation) _ _ _
    · exact settles_finish reached here rfl rfl fun _ => ends_receipt

section

variable (running : Running runtime operation track)
  (excused : ∀ observation, excuse observation) (approved : operation.stage = .approved)
include running excused approved

theorem settles_stopBlocked {service : RegisteredService} {next : Bool → Ops β}
    (kind : operation.plan.operationType = .serviceControl)
    (continued : ∀ blocked after, Running runtime operation after →
      Settles runtime excuse (next blocked) after) :
    Settles runtime excuse (stopBlocked service action >>= next) track := by
  unfold stopBlocked
  by_cases stops : service = .nginx ∧ action = .stop
  · rw [if_pos stops, bind_assoc]
    have answered (answer : Except OpsError Bool) :
        blocks runtime operation .managementEdgeReady answer = !answer.toBool := by
      simp [blocks, kind, approved]
    refine settles_orBlocked running excused rfl (by rw [approved]; rfl) ?_
      fun answer value _ view => ?_
    · rintro answer error failed
      rw [answered, show answer = .error error from failed]
      rfl
    · obtain rfl : answer = .ok value := view
      exact continued _ _ (running.observe (answered (.ok value)))
  · rw [if_neg stops]
    exact continued false track running

theorem settles_executeServiceControl {service : RegisteredService}
    (kind : operation.plan.operationType = .serviceControl)
    (registered : registeredService runtime.toCodec operation.plan.siteId = .ok service)
    (planned : serviceActionFromDigest runtime.toCodec operation.plan.availableDigest = .ok action)
    (named : relativePathRejected (snapshotPath operation.operationId .serviceControl) = false) :
      Settles runtime excuse (executeServiceControl runtime operation nowMs) track := by
  unfold executeServiceControl
  rw [registered, planned]
  have cancel (reason digest : String) {now : Track} (still : Running runtime operation now) :=
    settles_cancelApproved excuse still approved reason digest nowMs
  refine settles_stopBlocked running excused approved kind fun blocked _ reached => ?_
  refine settles_ite (fun _ => cancel _ _ reached) fun _ => ?_
  have answered (answer : Except OpsError CommandEvidence) :
      blocks runtime operation (.run service.activeCommand) answer = !answer.toBool := by
    simp [blocks, kind, approved]
  have reads : isEffect (.run service.activeCommand) = false := by cases service <;> rfl
  refine settles_orBlocked reached excused reads (by rw [approved]; rfl) ?_
    fun answer before _ view => ?_
  · rintro answer error failed
    rw [answered, show answer = .error error from failed]
    rfl
  obtain rfl : answer = .ok before := view
  replace reached := reached.observe (answered (.ok before))
  refine settles_ite (fun _ => cancel _ _ reached) fun unchanged => ?_
  simp only [ne_eq, not_or, not_not] at unchanged
  refine settles_onSaw (saw_writeSnapshot reached _ _ _) (fun _ _ still => cancel _ _ still)
    fun record now still grown path => ?_
  have reread : Reread runtime operation now.seen := by
    simp only [Reread, kind]
    refine ⟨service, before, registered, grown ?_, unchanged.1⟩
    rw [← reached.same]
    exact List.mem_cons_self
  refine settles_attach still rfl approved reread (by rw [snapshotPath, kind]; exact path)
    fun _ reached => ?_
  exact settles_actAndVerify reached ⟨rfl, rfl, rfl, rfl⟩ kind
    (by rw [path]; exact named) excused

end

/-! ### Firewall rules -/

theorem settles_restoreRule {payload : UfwPlanPayload} {original : List UfwRuleView}
    (running : Running runtime operation track)
    (here : Stands operationId plan kept .rollingBack operation) :
    Settles runtime excuse (restoreRule runtime operationId payload original nowMs) track := by
  have quiet (call : Call) (touches : Touches isSnapshotRead [.firewall] call) :
      Quiet runtime operation call := acting_effects here rfl call (Touches.acting touches)
  have restores : IssuesE (Quiet runtime operation) (do
      restoreProductEffect runtime payload original
      ufwInventory runtime nowMs) :=
    IssuesE.bind (touches_restoreProductEffect.mono quiet)
      fun _ => touches_ufwInventory.mono quiet
  refine settles_attempt running restores fun restoredView _ reached _ => ?_
  refine settles_attempt reached (touches_ufwInventory.mono quiet)
    fun afterView _ reached _ => ?_
  cases restoredView with
  | error error => exact settles_finish reached here rfl rfl fun _ => ends_receipt
  | ok view =>
    cases verified : rollbackVerified payload view original <;>
      simp only [verified] <;>
      exact settles_finish reached here rfl rfl fun _ => ends_receipt

section

variable (running : Running runtime operation track)
include running

variable (excuse) in
theorem settles_rollbackUfwRule (here : Stands operationId plan (some record) stage operation)
    (early : stage ∈ [OperationStage.applying, .verifying, .validating, .reloading] ∨ stage = .rollingBack)
    (kind : plan.operationType = .ufwRule) (planned : plan.ufwRule.isSome = true)
    (path : relativePathRejected record.relativePath = false)
    (excused : ∀ observation, SnapshotRead operation observation → excuse observation)
    {cause digest : String} :
    Settles runtime excuse (rollbackUfwRule runtime operationId cause digest nowMs) track := by
  refine settles_startRollback running here early (by decide) fun rolling _ there reached => ?_
  have bounded : SnapshotKind.ufwRules.maxBytes = (snapshotKind plan.operationType).maxBytes := by
    rw [kind]
    rfl
  have read answer := excused _ (snapshotRead_of_stands there here bounded answer)
  obtain ⟨payload, payloadIs⟩ := Option.isSome_iff_exists.mp planned
  rw [← there.plan] at payloadIs kind
  simp only [payloadIs, there.snapshot]
  refine settles_readStrict reached ⟨there.snapshot, path⟩ (by rw [there.stage]; rfl)
    (by rw [kind]; rfl) read (fun bytes => by rw [kind]; rfl) fun snapshot _ reached => ?_
  exact settles_restoreRule reached there

/-- Reading the firewall where an error of the command ends the execution. -/
theorem settles_ufwInventory {next : UfwView → Ops β}
    (excused : ∀ observation, excuse observation) (working : operation.stage.isTerminal = false)
    (timed : formatTime runtime.toCodec nowMs = .ok observedAt)
    (waits : ∀ error, blocks runtime operation (.runUfw .status) (.error error) = true)
    (missing : ∀ after, Running runtime operation after →
      Settles runtime excuse (next (ufwNotInstalled runtime observedAt)) after)
    (read : ∀ evidence after, Running runtime operation after →
      Settles runtime excuse (next (parseUfwStatus runtime evidence observedAt))
      (after.observe (.runUfw .status) (.ok evidence))) :
    Settles runtime excuse (ufwInventory runtime nowMs >>= next) track := by
  have quiet : Quiet runtime operation (.host .ufwMissing) := ⟨nofun, fun _ => rfl⟩
  unfold ufwInventory
  rw [timed]
  refine SafeE.bind (SafeE.bind (SafeE.lift _ ?_))
  refine SafeE.bind (safe_host (running.quiet quiet) fun isMissing _ => ?_)
  have reached := running.observe (quiet.2 isMissing)
  cases isMissing with
  | true => exact missing _ reached
  | false =>
    refine SafeE.bind (safe_host nofun fun answer _ => ?_)
    cases answer with
    | error error => exact reached.blocked working (excused _) (waits error)
    | ok evidence => exact read evidence _ reached

theorem settles_applyRule {attached : StoredOperation}
    (here : Stands attached.operationId plan (some record) .snapshotted operation)
    (kind : plan.operationType = .ufwRule) (planned : plan.ufwRule.isSome = true)
    (path : relativePathRejected record.relativePath = false)
    (excused : ∀ observation, excuse observation)
    (timed : formatTime runtime.toCodec nowMs = .ok observedAt) :
    Settles runtime excuse (applyRule runtime attached payload record nowMs) track := by
  refine settles_transition running here rfl fun applying _ here reached => ?_
  refine settles_onError reached (touches_applyPayload.mono
    fun call touches => acting_effects here rfl call (Touches.acting touches)) (fun _ _ still =>
      ?_) fun applyDigest _ reached _ => ?_
  · exact settles_rollbackUfwRule excuse still here (.inl List.mem_cons_self) kind planned path
      (fun observation _ => excused observation)
  refine settles_transition reached here rfl fun verifying _ here reached => ?_
  have finish (after : UfwView) {now : Track} (still : Running runtime verifying now) :
      Settles runtime excuse (if !effectVerified payload after then
          rollbackUfwRule runtime attached.operationId "rule_verify_failed" after.stateDigest nowMs
        else do
          let succeeded ← transition attached.operationId {
            expected := [.verifying]
            next := .succeeded
            resultCode := "ufw_rule_verified"
            evidenceDigest := after.stateDigest
            afterDigest := some after.stateDigest
            rollbackResult := none
            nowMs := nowMs }
          receipt succeeded.operationId) now := by
    refine settles_ite (fun _ => ?_) fun _ => ?_
    · exact settles_rollbackUfwRule excuse still here
        (.inl (List.mem_cons_of_mem _ List.mem_cons_self)) kind planned path
        (fun observation _ => excused observation)
    · exact settles_finish still here rfl rfl fun _ => ends_receipt
  refine settles_ufwInventory reached excused (by rw [here.stage]; rfl) timed (fun _ => ?_)
    (fun _ still => finish _ still) fun evidence _ still => finish _ (still.observe ?_)
  · simp [blocks, here.plan, kind, here.stage, advance]
  · simp [blocks, here.stage, advance]

theorem settles_executeUfwRule (excused : ∀ observation, excuse observation)
    (approved : operation.stage = .approved) (kind : operation.plan.operationType = .ufwRule)
    (planned : operation.plan.ufwRule = some payload)
    (timed : formatTime runtime.toCodec nowMs = .ok observedAt)
    (named : relativePathRejected (snapshotPath operation.operationId .ufwRule) = false) :
    Settles runtime excuse (executeUfwRule runtime operation nowMs) track := by
  have present : operation.plan.ufwRule.isSome = true := by rw [planned]; rfl
  unfold executeUfwRule
  simp only [planned]
  have cancel (reason digest : String) {now : Track} (still : Running runtime operation now) :=
    settles_cancelApproved excuse still approved reason digest nowMs
  have waits (evidence : CommandEvidence) :
      blocks runtime operation (.runUfw .status) (.ok evidence) =
        ruleConflicts runtime operation.plan evidence := by
    simp [blocks, kind, approved]
  refine settles_ufwInventory running excused (by rw [approved]; rfl) timed (fun _ => ?_)
    (fun _ still => ?_) fun evidence now still => ?_
  · simp [blocks, kind, approved]
  · rw [if_pos (.inl (by rintro ⟨⟩))]
    exact cancel _ _ still
  · by_cases changed : (parseUfwStatus runtime evidence observedAt).status ≠ .active ∨
      (parseUfwStatus runtime evidence observedAt).stateDigest ≠ operation.plan.enabledStateDigest
    · have passing : ruleConflicts runtime operation.plan evidence = false := by
        have either : ((parseUfwStatus runtime evidence "").status == .active &&
            (parseUfwStatus runtime evidence "").stateDigest ==
              operation.plan.enabledStateDigest) = false := by
          rcases changed with other | other
          · exact Bool.and_eq_false_iff.mpr (.inl (beq_eq_false_iff_ne.mpr other))
          · exact Bool.and_eq_false_iff.mpr (.inr (beq_eq_false_iff_ne.mpr other))
        simp only [ruleConflicts, either, Bool.false_and]
      rw [if_pos changed]
      exact cancel _ _ (still.observe ((waits evidence).trans passing))
    rw [if_neg changed]
    simp only [ne_eq, not_or, not_not] at changed
    have conflicts : ruleConflicts runtime operation.plan evidence =
        !(validateResolvedRule payload (parseUfwStatus runtime evidence observedAt)).toBool := by
      have active : (parseUfwStatus runtime evidence "").status = .active := changed.1
      have digest : (parseUfwStatus runtime evidence "").stateDigest =
        operation.plan.enabledStateDigest := changed.2
      simp only [ruleConflicts, active, digest, planned, beq_self_eq_true, Bool.true_and,
        Option.any_some]
      rfl
    cases resolved : validateResolvedRule payload (parseUfwStatus runtime evidence observedAt) with
    | error error =>
      rw [resolved] at conflicts
      exact still.blocked (by rw [approved]; rfl) (excused _) ((waits evidence).trans conflicts)
    | ok resolvedRule =>
      rw [resolved] at conflicts
      have reached := still.observe ((waits evidence).trans conflicts)
      refine settles_onSaw (saw_writeSnapshot reached _ _ _) (fun _ _ still => cancel _ _ still)
        fun record now later grown path => ?_
      have reread : Reread runtime operation now.seen := by
        simp only [Reread, kind]
        refine ⟨payload, evidence, planned, grown ?_, changed.2⟩
        rw [← still.same]
        exact List.mem_cons_self
      refine settles_attach later rfl approved reread (by rw [snapshotPath, kind]; exact path)
        fun _ last => ?_
      exact settles_applyRule last ⟨rfl, rfl, rfl, rfl⟩ kind present (by rw [path]; exact named)
        excused timed

end

/-! ### Certbot -/

/-- The two certbot types that leave nothing to restore on the host. -/
def external (operationType : OperationType) : Prop :=
  operationType = .certbotIssue ∨ operationType = .certbotRenewTest

variable (excuse) in
theorem settles_rejectCertbot (running : Running runtime operation track)
    (here : Stands operationId plan kept stage operation)
    (expected : stage = .applying ∨ stage = .validating) (reason digest : String) (nowMs : Int) :
    Settles runtime excuse
      (rejectCertbotExecution operationId stage reason digest nowMs) track := by
  rcases expected with rfl | rfl <;>
    exact settles_finish running here rfl rfl fun _ => ends_closing _ _

theorem settles_issueAndVerify {payload : CertbotIssuePlanPayload} {accountEmail : Bytes}
    {record : SnapshotRecord} (running : Running runtime operation track)
    (here : Stands operationId plan kept .snapshotted operation)
    (kind : plan.operationType = .certbotIssue) :
    Settles runtime excuse (issueAndVerify runtime operationId payload accountEmail record nowMs)
      track := by
  refine settles_transition running here rfl fun applying _ here reached => ?_
  refine settles_onError reached (issues_perform (acting_effects here rfl (.host _) rfl))
    (fun _ _ still => ?_) fun evidence _ reached _ => ?_
  · exact settles_rejectCertbot excuse still here (.inl rfl) _ _ _
  refine settles_transition reached here (by rw [kind]; rfl) fun validating _ here reached => ?_
  have reject (reason digest : String) {now : Track} (still : Running runtime validating now) :=
    settles_rejectCertbot excuse still here (.inr rfl) reason digest nowMs
  refine settles_ite (fun _ => reject _ _ reached) fun _ => ?_
  refine settles_onError reached ((certificateInventory_passive nowMs).mono fun _ passive =>
    passive.quiet_certbot (.inl (by rw [here.plan, kind])))
    (fun _ _ still => reject _ _ still) fun readBack _ reached _ => ?_
  refine settles_ite (fun _ => reject _ _ reached) fun _ => ?_
  exact settles_finish reached here rfl rfl fun _ => ends_closing _ _

theorem settles_snapshotAndIssue {payload : CertbotIssuePlanPayload} {accountEmail : Bytes}
    (running : Running runtime operation track) (approved : operation.stage = .approved)
    (kind : operation.plan.operationType = .certbotIssue)
    (planned : operation.plan.certbotIssue = some payload)
    (email : ⟨operation, .readProposalFile payload.accountEmailProposalRelativePath, .ok accountEmail⟩ ∈ track.seen)
    (digest : sha256Digest runtime.toCodec accountEmail = payload.accountEmailProposalDigest) :
    Settles runtime excuse
      (snapshotAndIssue runtime operation payload accountEmail nowMs) track := by
  have quiet : ∀ call, Passive call → Quiet runtime operation call :=
    fun _ passive => passive.quiet_certbot (.inl kind)
  have cancel (reason : String) {now : Track} (still : Running runtime operation now) :=
    settles_cancelCertbot excuse still approved reason nowMs
  refine settles_onSaw (saw_validateIssueSite running _ _ _) (fun _ _ still => cancel _ still)
    fun site _ reached grown found => ?_
  replace email := grown email
  refine settles_onSaw (saw_certificateInventory reached quiet nowMs)
    (fun _ _ still => cancel _ still) fun inventory _ reached grown facts => ?_
  replace email := grown email
  replace found := And.intro (grown found.1) found.2
  refine settles_ite (fun _ => cancel _ reached) fun unchanged => ?_
  simp only [not_or, ne_eq, not_not] at unchanged
  refine SafeE.bind (SafeE.rejectIf (fun many => ?_) fun _ => ?_)
  · exact absurd facts.2 (Nat.not_lt.mpr many)
  refine settles_onSaw (saw_writeSnapshot reached _ _ _) (fun _ _ still => cancel _ still)
    fun record now reached grown path => ?_
  have reread : Reread runtime operation now.seen := by
    simp only [Reread, kind]
    refine ⟨payload, site, accountEmail, planned, grown found.1, found.2, grown email, digest, ?_⟩
    rw [← unchanged.2]
    exact SawInventory.mono facts.1 grown
  refine settles_attach reached rfl approved reread (by rw [snapshotPath, kind]; exact path)
    fun _ reached => ?_
  exact settles_issueAndVerify reached ⟨rfl, rfl, rfl, rfl⟩ kind

theorem settles_executeCertbotIssue {payload : CertbotIssuePlanPayload}
    (running : Running runtime operation track) (approved : operation.stage = .approved)
    (kind : operation.plan.operationType = .certbotIssue)
    (planned : operation.plan.certbotIssue = some payload) :
    Settles runtime excuse (executeCertbotIssue runtime operation nowMs) track := by
  unfold executeCertbotIssue
  simp only [planned]
  have cancel (reason : String) {now : Track} (still : Running runtime operation now) :=
    settles_cancelCertbot excuse still approved reason nowMs
  refine settles_onSaw (saw_readProposal running _) (fun _ _ still => cancel _ still)
    fun accountEmail _ reached _ email => ?_
  refine settles_ite (fun _ => ?_) fun _ => ?_
  · refine settles_read reached trivial fun recent _ reached grown => ?_
    refine settles_ite (fun _ => cancel _ reached) fun _ => ?_
    exact settles_snapshotAndIssue reached approved kind planned (grown email.1) email.2
  · exact settles_snapshotAndIssue reached approved kind planned email.1 email.2

theorem settles_renewAndVerify {record : SnapshotRecord}
    (running : Running runtime operation track)
    (here : Stands operationId plan kept .snapshotted operation)
    (kind : plan.operationType = .certbotRenewTest) :
    Settles runtime excuse (renewAndVerify runtime operationId record nowMs) track := by
  refine settles_transition running here rfl fun applying _ here reached => ?_
  refine settles_onError reached (issues_perform (acting_effects here rfl (.host _) rfl))
    (fun _ _ still => ?_) fun evidence _ reached _ => ?_
  · exact settles_rejectCertbot excuse still here (.inl rfl) _ _ _
  refine settles_transition reached here (by rw [kind]; rfl) fun validating _ here reached => ?_
  have reject (reason digest : String) {now : Track} (still : Running runtime validating now) :=
    settles_rejectCertbot excuse still here (.inr rfl) reason digest nowMs
  refine settles_ite (fun _ => reject _ _ reached) fun _ => ?_
  refine settles_onError reached ((certificateInventory_passive nowMs).mono fun _ passive =>
    passive.quiet_certbot (.inr (by rw [here.plan, kind])))
    (fun _ _ still => reject _ _ still) fun readBack _ reached _ => ?_
  refine settles_ite (fun _ => reject _ _ reached) fun _ => ?_
  exact settles_finish reached here rfl rfl fun _ => ends_closing _ _

theorem settles_executeCertbotRenewTest {payload : CertbotRenewPlanPayload}
    (running : Running runtime operation track) (approved : operation.stage = .approved)
    (kind : operation.plan.operationType = .certbotRenewTest)
    (planned : operation.plan.certbotRenew = some payload) :
    Settles runtime excuse (executeCertbotRenewTest runtime operation nowMs) track := by
  unfold executeCertbotRenewTest
  simp only [planned]
  have cancel (reason : String) {now : Track} (still : Running runtime operation now) :=
    settles_cancelCertbot excuse still approved reason nowMs
  refine settles_onSaw (saw_certificateInventory running
    (fun _ passive => passive.quiet_certbot (.inr kind)) nowMs)
    (fun _ _ still => cancel _ still) fun inventory _ reached _ facts => ?_
  refine settles_ite (fun _ => cancel _ reached) fun unchanged => ?_
  simp only [not_or, ne_eq, not_not] at unchanged
  refine SafeE.bind (SafeE.rejectIf (fun many => ?_) fun _ => ?_)
  · exact absurd facts.2 (Nat.not_lt.mpr many)
  refine settles_onSaw (saw_writeSnapshot reached _ _ _) (fun _ _ still => cancel _ still)
    fun record now reached grown path => ?_
  have reread : Reread runtime operation now.seen := by
    simp only [Reread, kind]
    refine ⟨payload, planned, ?_⟩
    rw [← unchanged.2]
    exact SawInventory.mono facts.1 grown
  refine settles_attach reached rfl approved reread (by rw [snapshotPath, kind]; exact path)
    fun _ reached => ?_
  exact settles_renewAndVerify reached ⟨rfl, rfl, rfl, rfl⟩ kind

end JwOps.Lifecycle.Strict
