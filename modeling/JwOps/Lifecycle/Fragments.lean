/- module: Lifecycle/Fragments
   source: crates/jw-opsd/src/engine.rs, crates/jw-opsd/src/managed_config.rs
   digest: Which calls the ledger-free parts of the executors can issue. -/
import JwOps.Lifecycle.Tracking

set_option autoImplicit false

namespace JwOps.Lifecycle.Fragments

open Contracts Ledger Engine Operation Digest Config Schema Reads Interface Replace Nginx Certbot
open Attach Tracking Ufw Foundation.Program

variable {content : Bytes} {basename : String} {mode uid gid : Nat}

/-! ### Classes of calls -/

/-- Reads of the ledger after which the engine goes on in any case. -/
def isLedgerRead : LedgerCall → Bool
  | .openLedger | .receipt _ | .hasRecentStagingEvidence _ _ => true
  | _ => false

/-- Calls that some operation type waits for. -/
def mayBlock : HostCall → Bool
  | .run _ | .runUfw .status | .managementEdgeReady | .readSnapshotFile _ _ => true
  | _ => false

def isSnapshotRead : HostCall → Bool
  | .readSnapshotFile _ _ => true
  | _ => false

/-- Any host call. -/
def HostSide : Call → Prop
  | .host _ => True
  | .ledger call => isLedgerRead call = true
  | .mark _ => False

/-- Host calls that change nothing on the administered host and read no snapshot. -/
def Passive : Call → Prop
  | .host call => isEffect call = false ∧ isSnapshotRead call = false
  | .ledger call => isLedgerRead call = true
  | .mark _ => False

/-- Passive calls that no operation type waits for. -/
def Silent : Call → Prop
  | .host call => isEffect call = false ∧ mayBlock call = false
  | .ledger call => isLedgerRead call = true
  | .mark _ => False

/-- What the calls that belong to one operation are about. -/
inductive Family where
  | services | links | files | firewall | certificates
  | snapshot (operationId fileName : String)
  deriving DecidableEq, Repr

def family : HostCall → Option Family
  | .run command => if changesService command then some .services else none
  | .runUfw (.add _) | .runUfw (.delete _) => some .firewall
  | .certbot (.issue _ _ _ _ _) _ | .certbot .renewDryRun _ => some .certificates
  | .createLink _ | .removeLink _ => some .links
  | .createNew _ | .setFileMode _ _ | .setFileOwner _ _ _ | .writeAll _ _ | .rename _ _
  | .removeFile _ => some .files
  | .storeSnapshotFile operationId fileName _ => some (.snapshot operationId fileName)
  | _ => none

theorem family_run {command : CommandClass} {kind : Family}
    (owned : family (.run command) = some kind) : kind = .services := by
  cases changes : changesService command with
  | true => simpa [family, changes, eq_comm] using owned
  | false => simp [family, changes] at owned

/-- The call belongs to nothing, or to one of the families. -/
def Within (families : List Family) (call : HostCall) : Prop :=
  ∀ kind ∈ family call, kind ∈ families

/-- Host calls within the families and not of the avoided kind, and reads of the ledger. -/
def Touches (avoided : HostCall → Bool) (families : List Family) : Call → Prop
  | .host call => Within families call ∧ avoided call = false
  | .ledger call => isLedgerRead call = true
  | .mark _ => False

theorem Silent.passive {call : Call} (silent : Silent call) : Passive call := by
  cases call with
  | mark operationId => exact silent
  | ledger call => exact silent
  | host call =>
    refine ⟨silent.1, ?_⟩
    have open_ := silent.2
    cases call <;> first | rfl | cases open_

theorem Passive.hostSide {call : Call} (passive : Passive call) : HostSide call := by
  cases call with
  | mark operationId => exact passive
  | ledger call => exact passive
  | host call => trivial

section Touches

variable {avoided : HostCall → Bool} {families : List Family} {call : Call}

theorem Touches.hostSide (touches : Touches avoided families call) : HostSide call := by
  cases call with
  | mark operationId => exact touches
  | ledger call => exact touches
  | host call => trivial

theorem isEffect_within {call : HostCall} (inside : Within [] call) : isEffect call = false := by
  refine Bool.eq_false_iff.mpr fun effect => ?_
  obtain ⟨kind, owned⟩ : ∃ kind, family call = some kind := by
    cases call with
    | run command => exact ⟨.services, if_pos effect⟩
    | runUfw command | certbot command _ => cases command <;> first | exact ⟨_, rfl⟩ | cases effect
    | _ => first | exact ⟨_, rfl⟩ | cases effect
  exact List.not_mem_nil (inside kind owned)

theorem Touches.passive (touches : Touches isSnapshotRead [] call) : Passive call := by
  cases call with
  | mark operationId => exact touches
  | ledger call => exact touches
  | host call => exact ⟨isEffect_within touches.1, touches.2⟩

theorem Touches.silent (touches : Touches mayBlock [] call) : Silent call := by
  cases call with
  | mark operationId => exact touches
  | ledger call => exact touches
  | host call => exact ⟨isEffect_within touches.1, touches.2⟩

end Touches

section Quiet

variable {runtime : Runtime} {operation : StoredOperation}

theorem blocks_of_open {call : HostCall} (open_ : mayBlock call = false) (answer : call.Answer) :
    blocks runtime operation call answer = false := by
  cases call with
  | runUfw command => cases command <;> first | rfl | cases open_
  | run _ | managementEdgeReady | readSnapshotFile _ _ => cases open_
  | _ => rfl

theorem blocks_of_lenient (lenient : strict operation.plan.operationType = false)
    (call : HostCall) (answer : call.Answer) : blocks runtime operation call answer = false := by
  have kinds : (operation.plan.operationType == .serviceControl) = false ∧
      (operation.plan.operationType == .ufwRule) = false := by
    constructor <;> refine beq_eq_false_iff_ne.mpr fun same => ?_ <;> rw [same] at lenient <;>
      cases lenient
  cases call with
  | runUfw command =>
    cases command with
    | status => cases answer <;> simp [blocks, kinds.2]
    | add rule => rfl
    | delete sequence => rfl
  | run _ | managementEdgeReady => simp [blocks, kinds.1]
  | readSnapshotFile path maxBytes => simp [blocks, lenient]
  | _ => rfl

/-- The certbot commands only wait for their snapshot. -/
theorem blocks_of_certbot (kind : operation.plan.operationType = .certbotIssue ∨
      operation.plan.operationType = .certbotRenewTest) {call : HostCall}
    (other : isSnapshotRead call = false) (answer : call.Answer) :
    blocks runtime operation call answer = false := by
  have kinds : (operation.plan.operationType == .serviceControl) = false ∧
      (operation.plan.operationType == .ufwRule) = false := by
    rcases kind with same | same <;> rw [same] <;> decide
  cases call with
  | runUfw command =>
    cases command with
    | status => cases answer <;> simp [blocks, kinds.2]
    | add rule => rfl
    | delete sequence => rfl
  | run _ | managementEdgeReady => simp [blocks, kinds.1]
  | readSnapshotFile path maxBytes => cases other
  | _ => rfl

theorem quiet_ledgerRead {call : LedgerCall} (reads : isLedgerRead call = true) :
    Quiet runtime operation (.ledger call) := by
  cases call <;> trivial

theorem Silent.quiet {call : Call} (silent : Silent call) : Quiet runtime operation call := by
  cases call with
  | mark operationId => exact silent
  | ledger call => exact quiet_ledgerRead silent
  | host call =>
    refine ⟨fun effect => ?_, blocks_of_open silent.2⟩
    rw [silent.1] at effect
    cases effect

theorem Passive.quiet_lenient {call : Call} (passive : Passive call)
    (lenient : strict operation.plan.operationType = false) : Quiet runtime operation call := by
  cases call with
  | mark operationId => exact passive
  | ledger call => exact quiet_ledgerRead passive
  | host call =>
    refine ⟨fun effect => ?_, blocks_of_lenient lenient call⟩
    rw [passive.1] at effect
    cases effect

theorem Passive.quiet_certbot {call : Call} (passive : Passive call)
    (kind : operation.plan.operationType = .certbotIssue ∨
      operation.plan.operationType = .certbotRenewTest) : Quiet runtime operation call := by
  cases call with
  | mark operationId => exact passive
  | ledger call => exact quiet_ledgerRead passive
  | host call =>
    refine ⟨fun effect => ?_, blocks_of_certbot kind passive.2⟩
    rw [passive.1] at effect
    cases effect

theorem HostSide.quiet_lenient {call : Call} (hostSide : HostSide call)
    (lenient : strict operation.plan.operationType = false)
    (stage : operation.stage ∈ effectStages) : Quiet runtime operation call := by
  cases call with
  | mark operationId => exact hostSide
  | ledger call => exact quiet_ledgerRead hostSide
  | host call => exact ⟨fun _ => stage, blocks_of_lenient lenient call⟩

end Quiet

/-! ### Fragments -/

section Calls

variable {runtime : Runtime} {α : Type}

theorem issues_perform {allowed : Call → Prop} {call : Call}
    {view : call.Answer → Except OpsError α} (holds : allowed call) :
    IssuesE allowed (perform call view) :=
  ⟨holds, fun _ => trivial⟩

section Calls

variable {avoided : HostCall → Bool} {families : List Family} {call : HostCall}
  {view : call.Answer → Except OpsError α}

/-- A call that changes nothing belongs to nobody. -/
theorem touches_free (free : family call = none) (other : avoided call = false) :
    IssuesE (Touches avoided families) (perform (.host call) view) := by
  refine issues_perform ⟨fun kind about => ?_, other⟩
  rw [free] at about
  cases about

theorem touches_owned {kind : Family} (owned : family call = some kind)
    (other : avoided call = false) :
    IssuesE (Touches avoided [kind]) (perform (.host call) view) := by
  refine issues_perform ⟨fun found about => ?_, other⟩
  rw [owned] at about
  exact List.mem_singleton.mpr (Option.some.inj about).symm

end Calls

theorem touches_removeProposal {record : ProposalRecord} :
    IssuesE (Touches mayBlock []) (removeProposal record) :=
  IssuesE.checked <| touches_free rfl rfl

theorem removeProposal_silent (record : ProposalRecord) :
    IssuesE Silent (removeProposal record) :=
  touches_removeProposal.mono fun _ => Touches.silent

theorem ends_cleanupProposal (record : ProposalRecord) :
    Ends runtime (cleanupProposal record) := by
  refine ends_bind (ends_attempt fun operation => ?_) fun _ => ends_ret _
  exact (removeProposal_silent record).mono fun _ => Silent.quiet

theorem ends_forM {items : Type} {body : items → Ops Unit} (each : ∀ item, Ends runtime (body item))
    (all : List items) : Ends runtime (all.forM body) := by
  induction all with
  | nil => exact ends_ret _
  | cons item rest ih => exact ends_bind (each item) fun _ => ih

theorem ends_removePlanProposal (plan : StoredPlan) :
    Ends runtime (removePlanProposal plan) :=
  ends_forM ends_cleanupProposal _

/-- The receipt at the end of an operation, and the proposal that it no longer needs. -/
theorem ends_closing (operationId : String) (plan : StoredPlan) :
    Ends runtime (do
      let answer ← receipt operationId
      removePlanProposal plan
      pure answer) := by
  refine ends_bind ends_receipt fun _ => ?_
  exact ends_bind (ends_removePlanProposal plan) fun _ => ends_ret _

theorem writeSnapshot_silent (kind : SnapshotKind) (operationId : String) (data : kind.Data) :
    IssuesE Silent (writeSnapshot runtime kind operationId data) := by
  refine IssuesE.bind (issues_perform ⟨rfl, rfl⟩) fun _ => ?_
  exact IssuesE.checked (IssuesE.ret _)

theorem touches_readProposal {record : ProposalRecord} :
    IssuesE (Touches mayBlock []) (readProposal runtime record) := by
  refine IssuesE.checked ?_
  refine IssuesE.bind (touches_free rfl rfl) fun _ => ?_
  exact IssuesE.checked (IssuesE.ret _)

theorem run_passive {command : CommandClass} (reads : changesService command = false) :
    IssuesE Passive (run command) :=
  issues_perform ⟨reads, rfl⟩

theorem touches_certificateInventory {nowMs : Int} :
    IssuesE (Touches isSnapshotRead []) (certificateInventory runtime nowMs) := by
  have reads : IssuesE (Touches isSnapshotRead []) (readInventory runtime nowMs) := by
    refine IssuesE.bind (touches_free rfl rfl) fun _ => ?_
    refine IssuesE.bind (IssuesE.attempt (touches_free rfl rfl)) fun _ => ?_
    refine IssuesE.bind (IssuesE.attempt (touches_free rfl rfl)) fun _ => ?_
    refine IssuesE.bind (touches_free rfl rfl) fun _ => ?_
    exact IssuesE.bind (IssuesE.lift _) fun _ => IssuesE.ret _
  refine IssuesE.bind reads fun inventory => ?_
  refine IssuesE.bind (touches_free rfl rfl) fun locked => ?_
  cases open_ : inventory.certbotInstalled && !locked with
  | true =>
    simp only [↓reduceIte]
    exact IssuesE.bind (IssuesE.attempt (issues_perform rfl)) fun _ => IssuesE.ret _
  | false => exact IssuesE.ret _

theorem certificateInventory_passive (nowMs : Int) :
    IssuesE Passive (certificateInventory runtime nowMs) :=
  touches_certificateInventory.mono fun _ => Touches.passive

theorem touches_validateIssueSite {siteId digest : String} {domains : List String} :
    IssuesE (Touches mayBlock []) (validateIssueSite runtime siteId digest domains) := by
  refine IssuesE.bind (touches_free rfl rfl) fun _ => ?_
  refine IssuesE.checked ?_
  refine IssuesE.checked ?_
  refine IssuesE.bind (touches_free rfl rfl) fun _ => ?_
  refine IssuesE.checked ?_
  exact IssuesE.bind (IssuesE.mapError (touches_free rfl rfl)) fun _ => IssuesE.ret _

theorem touches_readSnapshot {kind : SnapshotKind} {record : SnapshotRecord} :
    IssuesE (Touches (fun _ => false) []) (readSnapshot runtime kind record) := by
  refine IssuesE.checked ?_
  exact IssuesE.bind (touches_free rfl rfl) fun _ => IssuesE.lift _

theorem touches_setEnabled {site : NginxSite} {enabled : Bool} :
    IssuesE (Touches mayBlock [.links]) (setEnabled runtime.paths site enabled) := by
  refine IssuesE.bind (touches_free rfl rfl) fun current => ?_
  by_cases same : current = enabled
  · simp only [same, ↓reduceIte]
    exact IssuesE.ret _
  · simp only [same, ↓reduceIte]
    refine IssuesE.bind ?_ fun _ => ?_
    · cases enabled <;> exact touches_owned rfl rfl
    · refine IssuesE.bind (touches_free rfl rfl) fun _ => ?_
      exact IssuesE.bind (touches_free rfl rfl) fun _ => IssuesE.rejectIf _ _

theorem touches_orRemove {temporary : Path} {action : Ops Unit}
    (calls : IssuesE (Touches mayBlock [.files]) action) :
    IssuesE (Touches mayBlock [.files]) (orRemove temporary action) := by
  refine IssuesE.onError calls (fun error => ?_) fun _ => IssuesE.ret _
  exact IssuesE.bind (IssuesE.attempt (touches_owned rfl rfl)) fun _ => IssuesE.fail _

theorem touches_atomicReplace {root : Path} :
    IssuesE (Touches mayBlock [.files]) (atomicReplace root basename content mode uid gid) := by
  refine IssuesE.bind (touches_free rfl rfl) fun _ => ?_
  refine IssuesE.bind (touches_owned rfl rfl) fun _ => ?_
  refine IssuesE.bind (touches_orRemove (touches_owned rfl rfl)) fun _ => ?_
  refine IssuesE.bind (touches_orRemove (touches_owned rfl rfl)) fun _ => ?_
  refine IssuesE.bind (touches_orRemove (touches_owned rfl rfl)) fun _ => ?_
  refine IssuesE.bind (touches_orRemove (touches_owned rfl rfl)) fun _ => ?_
  exact touches_free rfl rfl

theorem touches_replaceManagedConfig {expected : ManagedConfigResource} :
    IssuesE (Touches mayBlock [.files])
      (replaceManagedConfig runtime.toCodec expected content) := by
  refine IssuesE.bind (touches_free rfl rfl) fun _ => ?_
  refine IssuesE.checked ?_
  refine IssuesE.checked ?_
  refine IssuesE.checked ?_
  exact IssuesE.bind touches_atomicReplace fun _ => touches_free rfl rfl

theorem touches_restoreManagedConfig {resourceId : String} :
    IssuesE (Touches mayBlock [.files])
      (restoreManagedConfig resourceId basename content mode uid gid) := by
  refine IssuesE.bind (touches_free rfl rfl) fun _ => ?_
  refine IssuesE.checked ?_
  exact IssuesE.bind touches_atomicReplace fun _ => touches_free rfl rfl

theorem touches_replaceProtectedConfig {expected : ManagedConfigResource} :
    IssuesE (Touches mayBlock [.files])
      (replaceProtectedConfig runtime.toCodec expected content) := by
  refine IssuesE.bind (touches_free rfl rfl) fun _ => ?_
  refine IssuesE.checked ?_
  refine IssuesE.checked ?_
  exact IssuesE.bind touches_atomicReplace fun _ => touches_free rfl rfl

theorem touches_restoreProtectedConfig {siteId : String} :
    IssuesE (Touches mayBlock [.files])
      (restoreProtectedConfig siteId basename content mode uid gid) := by
  refine IssuesE.bind (touches_free rfl rfl) fun _ => ?_
  refine IssuesE.checked ?_
  refine IssuesE.bind touches_atomicReplace fun _ => ?_
  refine IssuesE.bind (touches_free rfl rfl) fun _ => ?_
  exact IssuesE.checked (IssuesE.ret _)

theorem touches_run {command : CommandClass} :
    IssuesE (Touches isSnapshotRead [.services]) (run command) := by
  cases changes : changesService command with
  | false => exact touches_free (if_neg (by rw [changes]; exact Bool.false_ne_true)) rfl
  | true => exact touches_owned (if_pos changes) rfl

theorem touches_runAfter {previous : CommandEvidence} {command : CommandClass} :
    IssuesE (Touches isSnapshotRead [.services]) (runAfter runtime previous command) := by
  unfold runAfter
  split
  · exact touches_run
  · exact IssuesE.ret _

theorem touches_ufwInventory {families : List Family} {nowMs : Int} :
    IssuesE (Touches isSnapshotRead families) (ufwInventory runtime nowMs) := by
  refine IssuesE.bind (IssuesE.lift _) fun _ => ?_
  refine IssuesE.bind (touches_free rfl rfl) fun missing => ?_
  cases missing with
  | true => exact IssuesE.ret _
  | false => exact IssuesE.bind (touches_free rfl rfl) fun _ => IssuesE.ret _

theorem touches_deleteSequences {sequences : List UInt16} :
    IssuesE (Touches isSnapshotRead [.firewall]) (deleteSequences runtime sequences) := by
  have each : IssuesE (Touches isSnapshotRead [.firewall]) (deleteEach runtime sequences) := by
    induction sequences with
    | nil => exact IssuesE.ret _
    | cons sequence rest ih =>
      refine IssuesE.bind (touches_owned rfl rfl) fun _ => ?_
      refine IssuesE.checked ?_
      exact IssuesE.bind ih fun _ => IssuesE.ret _
  exact IssuesE.bind each fun _ => IssuesE.ret _

theorem touches_applyPayload {payload : UfwPlanPayload} :
    IssuesE (Touches isSnapshotRead [.firewall]) (applyPayload runtime payload) := by
  have add : IssuesE (Touches isSnapshotRead [.firewall]) (do
      let evidence ← runUfw (.add payload.rule)
      rejectIf (evidence.success = false) (.rejected "rule_apply_failed")
      pure (digestOf runtime evidence)) := by
    refine IssuesE.bind (touches_owned rfl rfl) fun _ => ?_
    exact IssuesE.checked (IssuesE.ret _)
  unfold applyPayload
  cases payload.requestedMutation with
  | allow => exact add
  | deny => exact add
  | delete => exact touches_deleteSequences

theorem touches_restoreProductEffect {payload : UfwPlanPayload} {original : List UfwRuleView} :
    IssuesE (Touches isSnapshotRead [.firewall])
      (restoreProductEffect runtime payload original) := by
  refine IssuesE.bind (touches_free rfl rfl) fun _ => IssuesE.bind ?_ fun _ => ?_
  · unfold deleteExisting
    split
    · exact IssuesE.ret _
    · exact IssuesE.bind touches_deleteSequences fun _ => IssuesE.ret _
  · unfold addOriginal
    split
    · exact IssuesE.ret _
    · exact IssuesE.bind (touches_owned rfl rfl) fun _ => IssuesE.rejectIf _ _

theorem active_reads (adapter : ManagedConfigAdapter) :
    changesService adapter.active = false := by
  cases adapter <;> rfl

theorem configTest_reads (adapter : ManagedConfigAdapter) :
    changesService adapter.configTest = false := by
  cases adapter <;> rfl

end Calls

/-! ### Fragments whose findings the rest of an execution relies on -/

section Findings

variable {runtime : Runtime} {excuse : Observation → Prop} {operation : StoredOperation}
  {track : Track} {α β : Type}

variable {program : Ops α} {facts : α → List Observation → Prop}

/-- The operation still runs, nothing seen is forgotten, and a value comes with these facts. -/
def Saw (runtime : Runtime) (operation : StoredOperation) (track : Track)
    (facts : α → List Observation → Prop) (result : Except OpsError α) (after : Track) : Prop :=
  Running runtime operation after ∧ track.seen ⊆ after.seen ∧
    ∀ value, result = .ok value → facts value after.seen

theorem saw_bind {next : α → Ops β} {facts' : β → List Observation → Prop}
    (first : SafeE step (guard runtime) program track (Saw runtime operation track facts))
    (rest : ∀ value after, Running runtime operation after → track.seen ⊆ after.seen →
      facts value after.seen →
      SafeE step (guard runtime) (next value) after (Saw runtime operation after facts')) :
    SafeE step (guard runtime) (program >>= next) track (Saw runtime operation track facts') := by
  refine SafeE.bind (first.mono fun result after reached => ?_)
  obtain ⟨still, grown, known⟩ := reached
  cases result with
  | error error => exact ⟨still, grown, nofun⟩
  | ok value =>
    refine (rest value after still grown (known value rfl)).mono fun _ _ last => ?_
    exact ⟨last.1, List.Subset.trans grown last.2.1, last.2.2⟩

variable (running : Running runtime operation track)

include running

theorem saw_ret {value : α} (holds : facts value track.seen) :
    SafeE step (guard runtime) (pure value : Ops α) track (Saw runtime operation track facts) := by
  refine SafeE.ret _ ⟨running, List.Subset.refl _, fun other same => ?_⟩
  obtain rfl := Except.ok.inj same
  exact holds

theorem saw_lift (result : Except OpsError α) :
    SafeE step (guard runtime) (lift result : Ops α) track
      (Saw runtime operation track fun value _ => result = .ok value) :=
  SafeE.lift _ ⟨running, List.Subset.refl _, fun _ same => same⟩

theorem saw_rejectIf {condition : Prop} [Decidable condition] {error : OpsError}
    :
    SafeE step (guard runtime) (rejectIf condition error : Ops Unit) track
      (Saw runtime operation track fun _ _ => ¬condition) :=
  SafeE.rejectIf (fun _ => ⟨running, List.Subset.refl _, nofun⟩)
    fun passed => ⟨running, List.Subset.refl _, fun _ _ => passed⟩

theorem saw_quiet (calls : IssuesE (Quiet runtime operation) program) :
    SafeE step (guard runtime) program track (Saw runtime operation track fun _ _ => True) :=
  (safe_quiet running calls).mono fun _ _ reached => ⟨reached.1, reached.2, fun _ _ => trivial⟩

theorem saw_host {call : HostCall} {view : call.Answer → Except OpsError α}
    (quiet : Quiet runtime operation (.host call)) :
    SafeE step (guard runtime) (perform (.host call) view) track
      (Saw runtime operation track fun value seen => ∃ answer, Produced call answer ∧
        view answer = .ok value ∧ ⟨operation, call, answer⟩ ∈ seen) := by
  refine safe_host (running.quiet quiet) fun answer produced => ?_
  refine ⟨running.observe (quiet.2 answer), List.subset_cons_self _ _, fun value same => ?_⟩
  refine ⟨answer, produced, same, ?_⟩
  rw [← running.same]
  exact List.mem_cons_self

/-- A command whose failure is only taken note of. -/
theorem saw_attempt_run {command : CommandClass}
    (quiet : Quiet runtime operation (.host (.run command))) :
    SafeE step (guard runtime) (attempt (run command)) track
      (Saw runtime operation track fun result seen =>
        ⟨operation, .run command, result⟩ ∈ seen) := by
  refine SafeE.attempt (safe_host (running.quiet quiet) fun answer _ => ?_)
  refine ⟨running.observe (quiet.2 answer), List.subset_cons_self _ _, fun value same => ?_⟩
  obtain rfl : answer = value := Except.ok.inj same
  rw [← running.same]
  exact List.mem_cons_self

omit running in
theorem settles_onSaw {handler : OpsError → Ops β} {next : α → Ops β}
    (saw : SafeE step (guard runtime) program track (Saw runtime operation track facts))
    (failed : ∀ error after, Running runtime operation after →
      Settles runtime excuse (handler error) after)
    (done : ∀ value after, Running runtime operation after → track.seen ⊆ after.seen →
      facts value after.seen → Settles runtime excuse (next value) after) :
    Settles runtime excuse (onError program handler next) track := by
  refine SafeE.onError (saw.mono fun result after reached => ?_)
  cases result with
  | ok value => exact done value after reached.1 reached.2.1 (reached.2.2 value rfl)
  | error error => exact failed error after reached.1

theorem saw_writeSnapshot (kind : SnapshotKind)
    (operationId : String) (data : kind.Data) :
    SafeE step (guard runtime) (writeSnapshot runtime kind operationId data) track
      (Saw runtime operation track fun record _ =>
        record.relativePath = operationId ++ "/" ++ kind.fileName) := by
  refine saw_bind (saw_host running (Silent.quiet ⟨rfl, rfl⟩)) fun _ _ reached _ _ => ?_
  refine saw_bind (saw_rejectIf reached) fun _ _ reached _ _ => ?_
  exact saw_ret reached rfl

theorem saw_validatePrecondition :
    SafeE step (guard runtime) (validatePrecondition operation) track
      (Saw runtime operation track fun site seen =>
        ⟨operation, .discoverSite operation.plan.siteId, .ok site⟩ ∈ seen ∧
        site.availableDigest = operation.plan.availableDigest ∧
        site.enabledStateDigest = operation.plan.enabledStateDigest) := by
  refine saw_bind (saw_host running (Silent.quiet ⟨rfl, rfl⟩)) fun site _ reached _ found => ?_
  obtain ⟨_, _, rfl, found⟩ := found
  refine saw_bind (saw_rejectIf reached) fun _ _ reached grown _ => ?_
  replace found := grown found
  refine saw_bind (saw_rejectIf reached) fun _ _ reached grown same => ?_
  simp only [ne_eq, not_or, not_not] at same
  exact saw_ret reached ⟨grown found, same.1, same.2.1⟩

theorem saw_readProposal (record : ProposalRecord) :
    SafeE step (guard runtime) (readProposal runtime record) track
      (Saw runtime operation track fun bytes seen =>
        ⟨operation, .readProposalFile record.relativePath, .ok bytes⟩ ∈ seen ∧
        sha256Digest runtime.toCodec bytes = record.digest) := by
  refine saw_bind (saw_rejectIf running) fun _ _ reached _ _ => ?_
  refine saw_bind (saw_host reached (Silent.quiet ⟨rfl, rfl⟩)) fun _ _ reached _ found => ?_
  obtain ⟨_, _, rfl, found⟩ := found
  refine saw_bind (saw_rejectIf reached) fun _ _ reached grown same => ?_
  simp only [ne_eq, not_or, not_not] at same
  exact saw_ret reached ⟨grown found, same.1⟩

/-- The site of a certificate is looked up and has the planned digest. -/
theorem saw_validateIssueSite
    (siteId digest : String) (domains : List String) :
    SafeE step (guard runtime) (validateIssueSite runtime siteId digest domains) track
      (Saw runtime operation track fun site seen =>
        ⟨operation, .discoverSite siteId, .ok site⟩ ∈ seen ∧ site.availableDigest = digest) := by
  refine saw_bind (saw_host running (Silent.quiet ⟨rfl, rfl⟩)) fun _ _ reached _ found => ?_
  obtain ⟨_, _, rfl, found⟩ := found
  refine saw_bind (saw_rejectIf reached) fun _ _ reached grown _ => ?_
  replace found := grown found
  refine saw_bind (saw_rejectIf reached) fun _ _ reached grown same => ?_
  replace found := grown found
  refine saw_bind (saw_host reached (Silent.quiet ⟨rfl, rfl⟩)) fun _ _ reached grown _ => ?_
  replace found := grown found
  refine saw_bind (saw_rejectIf reached) fun _ _ reached grown _ => ?_
  replace found := grown found
  refine saw_bind (saw_quiet reached (IssuesE.mapError (issues_perform
    (Silent.quiet ⟨rfl, rfl⟩)))) fun _ _ reached grown _ => ?_
  exact saw_ret reached ⟨grown found, not_not.mp same⟩

/-- The protected file of a site is read and has the planned digest. -/
theorem saw_prepareTlsAttachment
    (primaryDomain siteId digest : String) :
    SafeE step (guard runtime) (prepareTlsAttachment runtime primaryDomain siteId digest) track
      (Saw runtime operation track fun attachment seen =>
        ⟨operation, .discoverProtectedConfig siteId, .ok attachment.config⟩ ∈ seen ∧
        attachment.config.contentDigest = digest) := by
  refine saw_bind (saw_lift running _) fun _ _ reached _ _ => ?_
  refine saw_bind (saw_host reached (Silent.quiet ⟨rfl, rfl⟩)) fun _ _ reached _ found => ?_
  obtain ⟨_, _, rfl, found⟩ := found
  refine saw_bind (saw_rejectIf reached) fun _ _ reached grown same => ?_
  replace found := grown found
  refine saw_bind (saw_rejectIf reached) fun _ _ reached grown _ => ?_
  replace found := grown found
  refine saw_bind (saw_lift reached _) fun replaced _ reached grown _ => ?_
  exact saw_ret reached ⟨grown found, not_not.mp same⟩

/-- What an inventory tells. -/
def InventoryFacts (runtime : Runtime) (operation : StoredOperation)
    (inventory : CertificateInventoryView) (seen : List Observation) : Prop :=
  SawInventory runtime operation seen inventory.inventoryDigest ∧
    inventory.certificates.length < 2 ^ 32

theorem saw_readInventory
    (quiet : ∀ call, Passive call → Quiet runtime operation call) (nowMs : Int) :
    SafeE step (guard runtime) (readInventory runtime nowMs) track
      (Saw runtime operation track (InventoryFacts runtime operation)) := by
  refine saw_bind (saw_host running (Silent.quiet ⟨rfl, rfl⟩)) fun _ _ reached _ first => ?_
  obtain ⟨installed, _, same, first⟩ := first
  obtain rfl := Except.ok.inj same
  refine saw_bind (saw_attempt_run reached (quiet (.host _) ⟨rfl, rfl⟩))
    fun enabled _ reached grown second => ?_
  replace first := grown first
  refine saw_bind (saw_attempt_run reached (quiet (.host _) ⟨rfl, rfl⟩))
    fun active _ reached grown third => ?_
  replace first := grown first
  replace second := grown second
  refine saw_bind (saw_host reached (Silent.quiet ⟨rfl, rfl⟩))
    fun found _ reached grown fourth => ?_
  obtain ⟨_, few, rfl, fourth⟩ := fourth
  replace first := grown first
  replace second := grown second
  replace third := grown third
  refine saw_bind (saw_lift reached _) fun observedAt _ reached grown _ => ?_
  exact saw_ret reached ⟨⟨installed, enabled, active, found.1, found.2, observedAt, grown first,
    grown second, grown third, grown fourth, rfl⟩, few⟩

theorem saw_certificateInventory
    (quiet : ∀ call, Passive call → Quiet runtime operation call) (nowMs : Int) :
    SafeE step (guard runtime) (certificateInventory runtime nowMs) track
      (Saw runtime operation track (InventoryFacts runtime operation)) := by
  refine saw_bind (saw_readInventory running quiet nowMs) fun inventory _ reached _ facts => ?_
  refine saw_bind (saw_host reached (Silent.quiet ⟨rfl, rfl⟩)) fun locked _ reached grown _ => ?_
  replace facts :
    InventoryFacts runtime operation inventory _ := ⟨SawInventory.mono facts.1 grown, facts.2⟩
  cases inventory.certbotInstalled && !locked with
  | false => exact saw_ret reached facts
  | true =>
    -- what is advertised is not part of the inventory
    refine saw_bind (saw_quiet reached (IssuesE.attempt (issues_perform
      (quiet_ledgerRead rfl)))) fun _ _ reached grown _ => ?_
    exact saw_ret reached ⟨SawInventory.mono facts.1 grown, facts.2⟩

end Findings

end JwOps.Lifecycle.Fragments
