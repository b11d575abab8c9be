/- module: Lifecycle/Tracking
   source: crates/jw-opsd/src/engine.rs, crates/jw-opsd/src/ledger.rs
   digest: One operation as the engine follows it: its committed stage and what the host
   answered. -/
import JwOps.Engine.Recovery
import JwOps.Lifecycle.History

set_option autoImplicit false

namespace JwOps.Lifecycle.Tracking

open Contracts Ledger Engine Operation Digest Config Schema Writes Reads Interface Certbot
open ServiceControl Ufw History Foundation.Program

/-! ### Host calls -/

/-- Commands that change the state of a service. -/
def changesService : CommandClass → Bool
  | .nginxReload | .nginxStart | .nginxStop | .nginxRestart
  | .apacheReload | .apacheStart | .apacheStop | .apacheRestart
  | .phpFpm83Reload | .phpFpm83Start | .phpFpm83Stop | .phpFpm83Restart => true
  | _ => false

/-- Calls that change the administered host. -/
def isEffect : HostCall → Bool
  | .run command => changesService command
  | .runUfw (.add _) | .runUfw (.delete _) => true
  | .certbot (.issue _ _ _ _ _) _ | .certbot .renewDryRun _ => true
  | .createLink _ | .removeLink _ => true
  | .createNew _ | .setFileMode _ _ | .setFileOwner _ _ _ | .writeAll _ _ | .rename _ _
  | .removeFile _ => true
  | _ => false

/-- The stages in which an operation may change the host. -/
def effectStages : List OperationStage := [.applying, .validating, .reloading, .rollingBack]

/-- What the host can answer at all: evidence comes from the command runner, and a directory holds
fewer than `2 ^ 32` certificates. -/
def Produced : (call : HostCall) → call.Answer → Prop
  | .run _, .ok evidence => evidence.Produced
  | .runUfw _, .ok evidence => evidence.Produced
  | .discoverCertificates, .ok (certificates, _) => certificates.length < 2 ^ 32
  | _, _ => True

/-- One host call made for an operation, with the operation as it was committed at that time. -/
structure Observation where
  operation : StoredOperation
  call : HostCall
  answer : call.Answer

/-- The kind of snapshot that an operation type keeps. -/
def snapshotKind : OperationType → SnapshotKind
  | .nginxSiteState | .unregistered _ => .nginxLink
  | .managedConfig | .managedConfigRestore | .certbotAttach => .managedConfig
  | .certbotIssue | .certbotRenewTest => .certificateInventory
  | .serviceControl => .serviceState
  | .ufwRule => .ufwRules

def snapshotPath (operationId : String) (operationType : OperationType) : String :=
  operationId ++ "/" ++ (snapshotKind operationType).fileName

/-- The types whose recovery gives up on a snapshot that it cannot use. -/
def strict : OperationType → Bool
  | .serviceControl | .ufwRule | .certbotIssue | .certbotRenewTest => true
  | _ => false

section Answers

variable (runtime : Runtime)

/-- Whether recovery can work with these bytes of the snapshot file. -/
def usable (operationType : OperationType) (record : SnapshotRecord) (bytes : Bytes) : Bool :=
  match operationType with
  | .serviceControl =>
    match decodeSnapshot runtime .serviceState record bytes with
    | .ok snapshot => (snapshotService runtime.toCodec snapshot).toBool
    | .error _ => false
  | .ufwRule => (decodeSnapshot runtime .ufwRules record bytes).toBool
  | .certbotIssue | .certbotRenewTest =>
    (decodeSnapshot runtime .certificateInventory record bytes).toBool
  | _ => true

def usableAnswer (operation : StoredOperation) (answer : Except OpsError Bytes) : Bool :=
  match operation.snapshot, answer with
  | some record, .ok bytes => usable runtime operation.plan.operationType record bytes
  | _, _ => false

/-- The firewall is as planned, and yet the planned rule does not fit it. -/
def ruleConflicts (plan : StoredPlan) (evidence : CommandEvidence) : Bool :=
  let view := parseUfwStatus runtime evidence ""
  view.status == .active && view.stateDigest == plan.enabledStateDigest &&
    plan.ufwRule.any fun payload => !(validateResolvedRule payload view).toBool

/-- Answers after which the engine returns with the operation neither finished nor rolled back. -/
def blocks (operation : StoredOperation) : (call : HostCall) → call.Answer → Bool
  | .managementEdgeReady, answer =>
    operation.plan.operationType == .serviceControl && operation.stage == .approved &&
      !answer.toBool
  | .run _, answer =>
    operation.plan.operationType == .serviceControl &&
      (operation.stage == .approved || operation.stage == .verifying) && !answer.toBool
  | .runUfw .status, .error _ =>
    operation.plan.operationType == .ufwRule &&
      (operation.stage == .approved || operation.stage == .verifying)
  | .runUfw .status, .ok evidence =>
    operation.plan.operationType == .ufwRule && operation.stage == .approved &&
      ruleConflicts runtime operation.plan evidence
  | .readSnapshotFile _ _, answer =>
    strict operation.plan.operationType && !usableAnswer runtime operation answer
  | _, _ => false

def Observation.blocks (observation : Observation) : Bool :=
  Tracking.blocks runtime observation.operation observation.call observation.answer

/-- A read of the snapshot that the operation keeps. -/
def SnapshotRead (operation : StoredOperation) (observation : Observation) : Prop :=
  observation.operation.plan = operation.plan ∧
    observation.operation.snapshot = operation.snapshot ∧
    ∃ record, operation.snapshot = some record ∧
      observation.call = .readSnapshotFile record.relativePath
        (snapshotKind operation.plan.operationType).maxBytes

/-- The four reads of an inventory were made, and they amount to this digest. -/
def SawInventory (operation : StoredOperation) (seen : List Observation) (digest : String) :
    Prop :=
  ∃ installed enabled active certificates problems observedAt,
    ⟨operation, .certbotInstalled, installed⟩ ∈ seen ∧
    ⟨operation, .run .certbotTimerEnabled, enabled⟩ ∈ seen ∧
    ⟨operation, .run .certbotTimerActive, active⟩ ∈ seen ∧
    ⟨operation, .discoverCertificates, .ok (certificates, problems)⟩ ∈ seen ∧
    (inventoryView runtime observedAt installed (succeeded enabled) (succeeded active)
      certificates problems).inventoryDigest = digest

/-- What the plan was made for was read again, and its digests are those of the plan. -/
def Reread (operation : StoredOperation) (seen : List Observation) : Prop :=
  let plan := operation.plan
  match plan.operationType with
  | .nginxSiteState => ∃ site, ⟨operation, .discoverSite plan.siteId, .ok site⟩ ∈ seen ∧
      site.availableDigest = plan.availableDigest ∧
      site.enabledStateDigest = plan.enabledStateDigest
  | .managedConfig | .managedConfigRestore => ∃ payload resource bytes,
      plan.managedConfig = some payload ∧
      ⟨operation, .discoverManagedConfig plan.siteId, .ok resource⟩ ∈ seen ∧
      resource.contentDigest = plan.availableDigest ∧
      resource.metadataDigest = plan.enabledStateDigest ∧
      ⟨operation, .readProposalFile payload.proposalRelativePath, .ok bytes⟩ ∈ seen ∧
      sha256Digest runtime.toCodec bytes = payload.proposalDigest ∧
      sha256Digest runtime.toCodec bytes = payload.proposedContentDigest
  | .certbotIssue => ∃ payload site bytes,
      plan.certbotIssue = some payload ∧
      ⟨operation, .discoverSite payload.siteId, .ok site⟩ ∈ seen ∧
      site.availableDigest = payload.siteDigest ∧
      ⟨operation, .readProposalFile payload.accountEmailProposalRelativePath, .ok bytes⟩ ∈ seen ∧
      sha256Digest runtime.toCodec bytes = payload.accountEmailProposalDigest ∧
      SawInventory runtime operation seen payload.inventoryDigest
  | .certbotRenewTest => ∃ payload, plan.certbotRenew = some payload ∧
      SawInventory runtime operation seen payload.inventoryDigest
  | .certbotAttach => ∃ payload resource,
      plan.certbotAttach = some payload ∧
      ⟨operation, .discoverProtectedConfig payload.siteId, .ok resource⟩ ∈ seen ∧
      resource.contentDigest = payload.siteDigest ∧
      resource.metadataDigest = payload.metadataDigest ∧
      SawInventory runtime operation seen payload.inventoryDigest
  | .serviceControl => ∃ service evidence,
      registeredService runtime.toCodec plan.siteId = .ok service ∧
      ⟨operation, .run service.activeCommand, .ok evidence⟩ ∈ seen ∧
      serviceStateDigest runtime.toCodec service.unitName evidence.success =
        plan.enabledStateDigest
  | .ufwRule => ∃ payload evidence,
      plan.ufwRule = some payload ∧
      ⟨operation, .runUfw .status, .ok evidence⟩ ∈ seen ∧
      sha256Digest runtime.toCodec evidence.stdout.captured = plan.enabledStateDigest
  | .unregistered _ => False

end Answers

section Growth

variable {runtime : Runtime}

theorem SawInventory.mono {operation : StoredOperation} {seen later : List Observation}
    {digest : String}
    (saw : SawInventory runtime operation seen digest) (grown : seen ⊆ later) :
    SawInventory runtime operation later digest := by
  obtain ⟨installed, enabled, active, certificates, problems, observedAt, a, b, c, d, same⟩ := saw
  exact ⟨installed, enabled, active, certificates, problems, observedAt, grown a, grown b, grown c,
    grown d, same⟩

theorem Reread.mono {operation : StoredOperation} {seen later : List Observation}
    (reread : Reread runtime operation seen) (grown : seen ⊆ later) :
    Reread runtime operation later := by
  unfold Reread at reread ⊢
  cases kind : operation.plan.operationType <;> simp only [kind] at reread ⊢
  case nginxSiteState =>
    obtain ⟨site, read, same⟩ := reread
    exact ⟨site, grown read, same⟩
  case managedConfig =>
    obtain ⟨payload, resource, bytes, planned, read, content, metadata, proposal, same⟩ := reread
    exact ⟨payload, resource, bytes, planned, grown read, content, metadata, grown proposal, same⟩
  case managedConfigRestore =>
    obtain ⟨payload, resource, bytes, planned, read, content, metadata, proposal, same⟩ := reread
    exact ⟨payload, resource, bytes, planned, grown read, content, metadata, grown proposal, same⟩
  case certbotIssue =>
    obtain ⟨payload, site, bytes, planned, read, digest, proposal, same, inventory⟩ := reread
    exact ⟨payload, site, bytes, planned, grown read, digest, grown proposal, same,
      SawInventory.mono inventory grown⟩
  case certbotRenewTest =>
    obtain ⟨payload, planned, inventory⟩ := reread
    exact ⟨payload, planned, SawInventory.mono inventory grown⟩
  case certbotAttach =>
    obtain ⟨payload, resource, planned, read, content, metadata, inventory⟩ := reread
    exact ⟨payload, resource, planned, grown read, content, metadata,
      SawInventory.mono inventory grown⟩
  case serviceControl =>
    obtain ⟨service, evidence, registered, read, same⟩ := reread
    exact ⟨service, evidence, registered, grown read, same⟩
  case ufwRule =>
    obtain ⟨payload, evidence, planned, read, same⟩ := reread
    exact ⟨payload, evidence, planned, grown read, same⟩

end Growth

/-! ### Following one operation -/

/-- `known` is lost when a write fails: its transaction may have been committed or not. `fault`
tells that some ledger call failed. -/
structure Track where
  operation : StoredOperation
  known : Bool
  fault : Bool
  seen : List Observation

def isWrite : LedgerCall → Bool
  | .attachSnapshot _ _ _ | .transition _ _ _ _ => true
  | _ => false

namespace Track

def observe (track : Track) (call : HostCall) (answer : call.Answer) : Track :=
  { track with seen := ⟨track.operation, call, answer⟩ :: track.seen }

def failed (track : Track) (call : LedgerCall) : Track :=
  { track with known := track.known && !isWrite call, fault := true }

def moveTo (track : Track) (operation : StoredOperation) : Track :=
  { track with operation := operation }

end Track

/-- How ledger and host answer. -/
def step : Environment Call Call.Answer Track
  | track, .mark _, _, after => after = track
  | track, .host call, answer, after => Produced call answer ∧ after = track.observe call answer
  | track, .ledger call, .error _, after => after = track.failed call
  | track, .ledger (.loadOperation _), .ok operation, after =>
    operation = track.operation ∧ after = track
  | track, .ledger (.attachSnapshot _ record _), .ok operation, after =>
    operation = withSnapshot track.operation record ∧ after = track.moveTo operation
  | track, .ledger (.transition _ change _ _), .ok operation, after =>
    operation = withTransition track.operation change ∧ after = track.moveTo operation
  | track, .ledger _, .ok _, after => after = track

/-- What the engine may do next. -/
def guard (runtime : Runtime) (track : Track) : Call → Prop
  | .mark _ => False
  | .host call => isEffect call = true →
      track.known = true ∧ track.operation.stage ∈ effectStages
  | .ledger call =>
    match call with
    | .openLedger | .receipt _ | .hasRecentStagingEvidence _ _ => True
    | .loadOperation operationId =>
      operationId = track.operation.operationId ∧ track.known = true
    | .attachSnapshot operationId record _ =>
      operationId = track.operation.operationId ∧ track.known = true ∧
      track.operation.stage = .approved ∧ Reread runtime track.operation track.seen ∧
      record.relativePath = snapshotPath operationId track.operation.plan.operationType
    | .transition operationId change _ _ =>
      operationId = track.operation.operationId ∧ track.known = true ∧
      track.operation.stage ∈ change.expected ∧
      (∀ stage ∈ change.expected, stage.isTerminal = false) ∧
      Moves track.operation.plan.operationType track.operation.stage change.next
    | _ => False

/-- Nothing that was seen stopped the engine. -/
def Unblocked (runtime : Runtime) (seen : List Observation) : Prop :=
  ∀ observation ∈ seen, observation.blocks runtime = false

/-- As long as no ledger call failed, the operation is terminal and the program succeeds, or some
excused answer blocked it. -/
def Settled (runtime : Runtime) (excuse : Observation → Prop) {α : Type}
    (result : Except OpsError α) (track : Track) : Prop :=
  track.fault = false →
    (track.operation.stage.isTerminal = true ∧ result.toBool = true ∧
      Unblocked runtime track.seen) ∨
    (track.operation.stage.isTerminal = false ∧ result.toBool = false ∧
      ∃ observation ∈ track.seen, observation.blocks runtime = true ∧ excuse observation)

/-! ### Rules -/

section Rules

variable {runtime : Runtime} {excuse : Observation → Prop} {operation : StoredOperation}
  {track : Track} {α β : Type}

variable {call : HostCall} {program : Ops α} {handler : OpsError → Ops β} {operationId : String}

theorem safe_host {view : call.Answer → Except OpsError α}
    {post : Except OpsError α → Track → Prop}
    (allowed : isEffect call = true → track.known = true ∧ track.operation.stage ∈ effectStages)
    (answered : ∀ answer, Produced call answer → post (view answer) (track.observe call answer)) :
    SafeE step (guard runtime) (perform (.host call) view) track post := by
  refine ⟨allowed, ?_⟩
  rintro answer after ⟨produced, rfl⟩
  exact answered answer produced

theorem safe_ledger {call : LedgerCall} {post : Except OpsError call.Value → Track → Prop}
    (allowed : guard runtime track (.ledger call))
    (failed : ∀ error, post (.error error) (track.failed call))
    (done : ∀ value after, step track (.ledger call) (.ok value) after → post (.ok value) after) :
    SafeE step (guard runtime) (ledger call) track post := by
  refine ⟨allowed, fun answer after reached => ?_⟩
  cases answer with
  | error error =>
    obtain rfl : after = track.failed call := by cases call <;> exact reached
    exact failed error
  | ok value => exact done value after reached

/-- The program is safe and leaves the operation settled. -/
abbrev Settles (runtime : Runtime) (excuse : Observation → Prop) (program : Ops α)
    (track : Track) : Prop :=
  SafeE step (guard runtime) program track (Settled runtime excuse)

/-- The operation is at the stage the program believes it in, and nothing has blocked it. -/
structure Running (runtime : Runtime) (operation : StoredOperation) (track : Track) : Prop where
  same : track.operation = operation
  known : track.known = true
  clear : Unblocked runtime track.seen

theorem settled_of_fault {result : Except OpsError α} (fault : track.fault = true) :
    Settled runtime excuse result track := by
  intro none
  rw [fault] at none
  cases none

theorem Settled.weaken {excuse' : Observation → Prop} {result : Except OpsError α}
    (settled : Settled runtime excuse result track)
    (allowed : ∀ observation, excuse observation → excuse' observation) :
    Settled runtime excuse' result track := by
  intro faultless
  refine (settled faultless).imp_right fun ⟨working, failed, observation, member, bad,
    excused⟩ => ?_
  exact ⟨working, failed, observation, member, bad, allowed observation excused⟩

section

variable (running : Running runtime operation track)
include running

theorem Running.settled {result : Except OpsError α}
    (terminal : operation.stage.isTerminal = true)
    (succeeds : track.fault = false → result.toBool = true) :
    Settled runtime excuse result track := by
  intro faultless
  rw [running.same]
  exact .inl ⟨terminal, succeeds faultless, running.clear⟩

/-- A blocking answer, given while the operation still runs, accounts for its not being terminal. -/
theorem Running.blocked {answer : call.Answer} {error : OpsError}
    (working : operation.stage.isTerminal = false) (excused : excuse ⟨operation, call, answer⟩)
    (blocking : blocks runtime operation call answer = true) :
    Settled runtime excuse (.error error : Except OpsError α) (track.observe call answer) := by
  have seen : (⟨operation, call, answer⟩ : Observation) ∈ (track.observe call answer).seen := by
    rw [← running.same]
    exact List.mem_cons_self
  refine fun _ => .inr ⟨?_, rfl, _, seen, blocking, excused⟩
  change track.operation.stage.isTerminal = false
  rw [running.same, working]

theorem Running.observe {answer : call.Answer}
    (passing : blocks runtime operation call answer = false) :
    Running runtime operation (track.observe call answer) := by
  refine ⟨running.same, running.known, fun observation member => ?_⟩
  rcases List.mem_cons.mp member with rfl | older
  · rw [Observation.blocks, running.same]
    exact passing
  · exact running.clear observation older

theorem Running.moveTo (next : StoredOperation) :
    Running runtime next (track.moveTo next) :=
  ⟨rfl, running.known, running.clear⟩

theorem Running.read_failed {call : LedgerCall} (reads : isWrite call = false) :
    Running runtime operation (track.failed call) := by
  refine ⟨running.same, ?_, running.clear⟩
  rw [Track.failed, running.known, reads]
  rfl

/-- Calls that change neither the ledger nor what is known of it, and that cannot block. -/
def Quiet (runtime : Runtime) (operation : StoredOperation) : Call → Prop
  | .host call => (isEffect call = true → operation.stage ∈ effectStages) ∧
      ∀ answer, blocks runtime operation call answer = false
  | .ledger .openLedger | .ledger (.receipt _) | .ledger (.hasRecentStagingEvidence _ _) => True
  | _ => False

theorem Running.quiet {call : Call} (quiet : Quiet runtime operation call) :
    guard runtime track call := by
  cases call with
  | mark operationId => exact quiet
  | host call =>
    intro effect
    rw [running.same]
    exact ⟨running.known, quiet.1 effect⟩
  | ledger call => cases call <;> trivial

theorem Running.after_quiet {call : Call} (quiet : Quiet runtime operation call)
    {answer : call.Answer} {after : Track} (reached : step track call answer after) :
    Running runtime operation after ∧ track.seen ⊆ after.seen := by
  cases call with
  | mark operationId => exact quiet.elim
  | host call =>
    obtain ⟨_, rfl⟩ := reached
    exact ⟨running.observe (quiet.2 answer), List.subset_cons_self _ _⟩
  | ledger call =>
    cases answer with
    | error error =>
      cases call <;> first
        | exact quiet.elim
        | (obtain rfl := reached
           exact ⟨running.read_failed rfl, List.Subset.refl _⟩)
    | ok value =>
      cases call <;> first
        | exact quiet.elim
        | (obtain rfl := reached
           exact ⟨running, List.Subset.refl _⟩)

/-- A program of quiet calls leaves the operation where it is and forgets nothing it saw. -/
theorem safe_quiet (calls : IssuesE (Quiet runtime operation) program) :
    SafeE step (guard runtime) program track fun _ after =>
      Running runtime operation after ∧ track.seen ⊆ after.seen := by
  refine @Safe.of_issues _ _ _ _ _ _ _ _ _
    (fun reached => Running runtime operation reached ∧ track.seen ⊆ reached.seen)
    calls ⟨running, List.Subset.refl _⟩ (fun _ _ inv quiet => inv.1.quiet quiet) ?_
  intro reached call answer after inv quiet stepped
  obtain ⟨still, grown⟩ := inv.1.after_quiet quiet stepped
  exact ⟨still, List.Subset.trans inv.2 grown⟩

end

/-- What is done once an operation is terminal: it leaves the operation alone, and it fails only
if the ledger does. -/
def Ends (runtime : Runtime) (program : Ops α) : Prop :=
  ∀ operation track, Running runtime operation track →
    SafeE step (guard runtime) program track fun result after =>
      Running runtime operation after ∧ (after.fault = false → result.toBool = true)

theorem ends_ret (value : α) : Ends runtime (pure value) :=
  fun _ _ running => SafeE.ret value ⟨running, fun _ => rfl⟩

theorem ends_bind {next : α → Ops β} (first : Ends runtime program)
    (rest : ∀ value, Ends runtime (next value)) : Ends runtime (program >>= next) := by
  intro operation track running
  refine SafeE.bind ((first operation track running).mono fun result after reached => ?_)
  cases result with
  | ok value => exact rest value operation after reached.1
  | error error => exact reached

theorem ends_attempt (calls : ∀ operation, IssuesE (Quiet runtime operation) program) :
    Ends runtime (attempt program) := by
  intro operation track running
  refine SafeE.attempt ((safe_quiet running (calls operation)).mono fun _ _ reached => ?_)
  exact ⟨reached.1, fun _ => rfl⟩

theorem ends_receipt {operationId : String} : Ends runtime (receipt operationId) := by
  intro operation track running
  refine safe_ledger trivial (fun _ => ⟨running.read_failed rfl, nofun⟩) ?_
  rintro value after rfl
  exact ⟨running, fun _ => rfl⟩

variable (running : Running runtime operation track)

include running

theorem settles_end (terminal : operation.stage.isTerminal = true) (ends : Ends runtime program) :
    Settles runtime excuse program track :=
  (ends operation track running).mono fun _ _ reached => reached.1.settled terminal reached.2

theorem settles_attempt {next : Except OpsError α → Ops β}
    (calls : IssuesE (Quiet runtime operation) program)
    (continued : ∀ result after, Running runtime operation after → track.seen ⊆ after.seen →
      Settles runtime excuse (next result) after) :
    Settles runtime excuse (attempt program >>= next) track :=
  SafeE.bind (SafeE.attempt ((safe_quiet running calls).mono fun result after reached =>
    continued result after reached.1 reached.2))

theorem settles_onError {next : α → Ops β} (calls : IssuesE (Quiet runtime operation) program)
    (failed : ∀ error after, Running runtime operation after →
      Settles runtime excuse (handler error) after)
    (done : ∀ value after, Running runtime operation after → track.seen ⊆ after.seen →
      Settles runtime excuse (next value) after) :
    Settles runtime excuse (onError program handler next) track := by
  refine SafeE.onError ((safe_quiet running calls).mono fun result after reached => ?_)
  cases result with
  | ok value => exact done value after reached.1 reached.2
  | error error => exact failed error after reached.1

/-- A host call whose answer matters later. -/
theorem settles_onHost {view : call.Answer → Except OpsError α} {next : α → Ops β}
    (quiet : Quiet runtime operation (.host call))
    (failed : ∀ error after, Running runtime operation after →
      Settles runtime excuse (handler error) after)
    (done : ∀ answer value, Produced call answer → view answer = .ok value →
      Running runtime operation (track.observe call answer) →
      Settles runtime excuse (next value) (track.observe call answer)) :
    Settles runtime excuse (onError (perform (.host call) view) handler next) track := by
  refine SafeE.onError (safe_host (running.quiet quiet) fun answer produced => ?_)
  have reached := running.observe (quiet.2 answer)
  cases seen : view answer with
  | ok value => exact done answer value produced seen reached
  | error error => exact failed error _ reached

/-- A ledger read whose failure ends the program. -/
theorem settles_read {call : LedgerCall} {next : call.Value → Ops β}
    (quiet : Quiet runtime operation (.ledger call))
    (continued : ∀ value after, Running runtime operation after → track.seen ⊆ after.seen →
      Settles runtime excuse (next value) after) :
    Settles runtime excuse (ledger call >>= next) track := by
  refine SafeE.bind (safe_ledger (running.quiet quiet) (fun _ => settled_of_fault rfl) ?_)
  intro value after reached
  obtain ⟨still, grown⟩ := running.after_quiet quiet reached
  exact continued value after still grown

theorem settles_load {next : StoredOperation → Ops β}
    (same : operationId = operation.operationId)
    (continued : Settles runtime excuse (next operation) track) :
    Settles runtime excuse (loadOperation operationId >>= next) track := by
  refine SafeE.bind (safe_ledger ⟨?_, running.known⟩ (fun _ => settled_of_fault rfl) ?_)
  · rw [running.same]
    exact same
  · rintro value after ⟨rfl, rfl⟩
    rw [running.same]
    exact continued

/-- A transition: its failure leaves the rest to the next start, its success moves on. -/
theorem settles_transitionInternal {change : Transition}
    {diagnostics : Option StoredDiagnostics} {command : Option OperationCommandEvidenceView}
    {next : StoredOperation → Ops β} (same : operationId = operation.operationId)
    (expected : operation.stage ∈ change.expected)
    (working : ∀ stage ∈ change.expected, stage.isTerminal = false)
    (moves : Moves operation.plan.operationType operation.stage change.next)
    (continued : ∀ after, Running runtime (withTransition operation change) after →
      Settles runtime excuse (next (withTransition operation change)) after) :
    Settles runtime excuse (ledger (.transition operationId change diagnostics command) >>= next)
      track := by
  refine SafeE.bind (safe_ledger ?_ (fun _ => settled_of_fault rfl) ?_)
  · change _ ∧ _
    rw [running.same]
    exact ⟨same, running.known, expected, working, moves⟩
  · rintro value after ⟨rfl, rfl⟩
    rw [running.same]
    exact continued _ (running.moveTo _)

theorem settles_attach {record : SnapshotRecord} {nowMs : Int} {next : StoredOperation → Ops β}
    (same : operationId = operation.operationId) (approved : operation.stage = .approved)
    (reread : Reread runtime operation track.seen)
    (path : record.relativePath = snapshotPath operationId operation.plan.operationType)
    (continued : ∀ after, Running runtime (withSnapshot operation record) after →
      Settles runtime excuse (next (withSnapshot operation record)) after) :
    Settles runtime excuse (attachSnapshot operationId record nowMs >>= next) track := by
  refine SafeE.bind (safe_ledger ?_ (fun _ => settled_of_fault rfl) ?_)
  · change _ ∧ _
    rw [running.same]
    exact ⟨same, running.known, approved, reread, path⟩
  · rintro value after ⟨rfl, rfl⟩
    rw [running.same]
    exact continued _ (running.moveTo _)

end Rules

end JwOps.Lifecycle.Tracking
