/- module: Lifecycle/Services
   source: crates/jw-opsd/src/engine/service_operation.rs, crates/jw-opsd/src/runner.rs
   digest: What the last stage of a service operation says about the unit itself. -/
import JwOps.Lifecycle.Edges
import JwOps.Lifecycle.Sessions

set_option autoImplicit false

namespace JwOps.Lifecycle.Services

open Contracts Ledger Engine Operation Digest Config Schema Writes Commits Locks Interface Nginx
open ServiceControl Recovery History Tracking Fragments Lifecycle.System Runs Sessions
open Foundation.Program

variable {nowMs : Int}

/-! ### Units -/

/-- The real state of every unit, and what it was when it was last asked for. -/
structure Units where
  active : RegisteredService → Bool
  checked : RegisteredService → Option Bool

/-- The service that an `is-active` command asks for. -/
def checkOf : CommandClass → Option RegisteredService
  | .nginxActive => some .nginx
  | .apacheActive => some .apache
  | .phpFpm83Active => some .phpFpm83
  | _ => none

theorem checkOf_activeCommand (service : RegisteredService) :
    checkOf service.activeCommand = some service := by
  cases service <;> rfl

theorem activeCommand_of_checkOf {command : CommandClass} {service : RegisteredService}
    (asks : checkOf command = some service) : command = service.activeCommand := by
  cases command <;> first | (obtain rfl := Option.some.inj asks; rfl) | cases asks

/-- A check that completes without timing out tells the state. -/
def Reports (active : Bool) (answer : Except OpsError CommandEvidence) : Prop :=
  ∀ evidence, answer = .ok evidence → evidence.timedOut = false → evidence.success = active

def Units.check (units : Units) (service : RegisteredService) : RegisteredService → Option Bool :=
  fun other => if other = service then some (units.active service) else units.checked other

/-- Whatever is done, a unit may be in either state afterwards, and every command may succeed, fail,
time out or return an error; only checks are bound to the state, unless they time out. -/
def unitModel : HostModel Units where
  answer units
    | .run command, answer, after =>
      match checkOf command with
      | some service => Reports (units.active service) answer ∧ after.checked = units.check service
      | none => after.checked = units.checked
    | _, _, after => after.checked = units.checked
  drift units after := after.checked = units.checked

/-! ### The last check in the log -/

def answerOf (command : CommandClass) : Event → Option (Except OpsError CommandEvidence)
  | ⟨.run other, answer⟩ => if other = command then some answer else none
  | _ => none

/-- The newest answer to a command. -/
def latest (command : CommandClass) (events : List Event) :
    Option (Except OpsError CommandEvidence) :=
  events.findSome? (answerOf command)

theorem latest_append {command : CommandClass} {events older : List Event}
    {answer : Except OpsError CommandEvidence} (found : latest command events = some answer) :
    latest command (events ++ older) = some answer := by
  rw [latest, List.findSome?_append, show events.findSome? (answerOf command) = some answer from
    found]
  rfl

theorem latest_observe {command : CommandClass} {track : Track}
    {answer : Except OpsError CommandEvidence} :
    latest command ((track.observe (.run command) answer).seen.map Observation.event) =
      some answer := by
  simp [Track.observe, latest, Observation.event, answerOf]

/-- The last check of every unit was made in the state that is remembered. -/
def Checked (world : World Units) : Prop :=
  ∀ service answer, latest service.activeCommand (hostEvents world.log) = some answer →
    ∃ real, world.host.checked service = some real ∧ Reports real answer ∧
      ∀ evidence, answer = .ok evidence → evidence.Produced

theorem Checked.step {runtime : Runtime} {world after : World Units} {call : Call}
    {answer : call.Answer} (checked : Checked world)
    (stepped : environment runtime unitModel world call answer after) : Checked after := by
  cases call with
  | mark operationId =>
    obtain rfl := stepped
    exact checked
  | ledger call =>
    obtain ⟨failure, faults, session, ran, rfl⟩ := stepped
    exact checked
  | host call =>
    obtain ⟨produced, host, answered, rfl⟩ := stepped
    intro service found newest
    -- a call that is no check of the service leaves its last check alone
    have older (other : answerOf service.activeCommand ⟨call, answer⟩ = none)
        (same : host.checked service = world.host.checked service) :
        ∃ real, host.checked service = some real ∧ Reports real found ∧
          ∀ evidence, found = .ok evidence → evidence.Produced := by
      rw [same]
      refine checked service found ?_
      have skipped : latest service.activeCommand (⟨call, answer⟩ :: hostEvents world.log) =
          some found := newest
      rw [latest, List.findSome?_cons, other] at skipped
      exact skipped
    cases call with
    | run command =>
      cases asks : checkOf command with
      | none =>
        simp only [unitModel, asks] at answered
        refine older ?_ (congrFun answered service)
        have differ : command ≠ service.activeCommand := by
          rintro rfl
          rw [checkOf_activeCommand] at asks
          cases asks
        simp only [answerOf, differ, ↓reduceIte]
      | some asked =>
        simp only [unitModel, asks] at answered
        obtain rfl := activeCommand_of_checkOf asks
        by_cases same : asked = service
        · subst same
          have first : latest asked.activeCommand
              (⟨.run asked.activeCommand, answer⟩ :: hostEvents world.log) =
                some found := newest
          rw [latest, List.findSome?_cons, answerOf, if_pos rfl] at first
          obtain rfl := Option.some.inj first
          refine ⟨world.host.active asked, ?_, answered.1, fun evidence same => ?_⟩
          · change host.checked asked = _
            rw [answered.2, Units.check, if_pos rfl]
          · subst same
            exact produced
        · refine older ?_ ?_
          · have differ : asked.activeCommand ≠ service.activeCommand := by
              intro equal
              have both := congrArg checkOf equal
              rw [checkOf_activeCommand, checkOf_activeCommand] at both
              exact same (Option.some.inj both)
            simp only [answerOf, differ, ↓reduceIte]
          · rw [answered.2, Units.check, if_neg (Ne.symm same)]
    | _ => exact older rfl (congrFun answered service)

/-! ### What a service operation has seen when it ends -/

section Rule

variable (runtime : Runtime)

/-- The last check of the planned service found what the planned action is for. -/
def Verified (plan : StoredPlan) (events : List Event) : Prop :=
  ∃ service action evidence,
    registeredService runtime.toCodec plan.siteId = .ok service ∧
    serviceActionFromDigest runtime.toCodec plan.availableDigest = .ok action ∧
    latest service.activeCommand events = some (.ok evidence) ∧
    evidence.success = expectedActive action

/-- The last check of the service found what the snapshot has. -/
def Restored (kept : Option SnapshotRecord) (events : List Event) : Prop :=
  ∃ record bytes snapshot service evidence, kept = some record ∧
    ⟨.readSnapshotFile record.relativePath SnapshotKind.serviceState.maxBytes, .ok bytes⟩ ∈
      events ∧
    decodeSnapshot runtime .serviceState record bytes = .ok snapshot ∧
    snapshotService runtime.toCodec snapshot = .ok service ∧
    latest service.activeCommand events = some (.ok evidence) ∧
    evidence.success = snapshot.active

/-- When an operation of this plan ends. -/
def endsSeen (plan : StoredPlan) (track : Track) : Call → Prop
  | .ledger (.transition _ change _ _) =>
    (change.next = .succeeded → Verified runtime plan (track.seen.map Observation.event)) ∧
    (change.next = .rolledBack →
      Restored runtime track.operation.snapshot (track.seen.map Observation.event))
  | _ => True

/-- Other types end in other ways. -/
def serviceRule (track : Track) (call : Call) : Prop :=
  track.operation.plan.operationType = .serviceControl →
    endsSeen runtime track.operation.plan track call

end Rule

section Service

variable {runtime : Runtime} {plan : StoredPlan} {track : Track} {α β : Type}

variable {program : Ops α}

/-- The rule holds throughout the program. -/
abbrev Ends (runtime : Runtime) (plan : StoredPlan) (program : Ops α) (track : Track) : Prop :=
  SafeE step (endsSeen runtime plan) program track fun _ _ => True

/-- Transitions that neither succeed nor complete a rollback. -/
def Midway : Call → Prop
  | .ledger (.transition _ change _ _) => change.next ≠ .succeeded ∧ change.next ≠ .rolledBack
  | _ => True

theorem endsSeen_of_midway {call : Call} (midway : Midway call) :
    endsSeen runtime plan track call := by
  cases call with
  | ledger call =>
    cases call with
    | transition operationId change diagnostics command =>
      exact ⟨fun next => absurd next midway.1, fun next => absurd next midway.2⟩
    | _ => trivial
  | _ => trivial

theorem ends_midway (calls : IssuesE Midway program) :
    Ends runtime plan program track :=
  Safe.of_issues calls trivial (fun _ _ _ midway => endsSeen_of_midway midway)
    fun _ _ _ _ _ _ _ => trivial

theorem midway_hostSide (calls : IssuesE HostSide program) :
    IssuesE Midway program := by
  refine calls.mono fun call side => ?_
  cases call with
  | ledger call =>
    cases call with
    | transition operationId change diagnostics command => cases side
    | _ => trivial
  | _ => trivial

theorem ends_bind {next : α → Ops β} (first : Ends runtime plan program track)
    (rest : ∀ value after, Ends runtime plan (next value) after) :
    Ends runtime plan (program >>= next) track := by
  refine SafeE.bind (first.mono fun result after _ => ?_)
  cases result with
  | ok value => exact rest value after
  | error error => trivial

theorem ends_onError {handler : OpsError → Ops β} {next : α → Ops β}
    (first : Ends runtime plan program track)
    (failed : ∀ error after, Ends runtime plan (handler error) after)
    (rest : ∀ value after, Ends runtime plan (next value) after) :
    Ends runtime plan (onError program handler next) track := by
  refine SafeE.onError (first.mono fun result after _ => ?_)
  cases result with
  | ok value => exact rest value after
  | error error => exact failed error after

theorem ends_ite {condition : Prop} [Decidable condition] {first second : Ops α}
    (holds : condition → Ends runtime plan first track)
    (fails : ¬condition → Ends runtime plan second track) :
    Ends runtime plan (if condition then first else second) track := by
  split
  · exact holds ‹_›
  · exact fails ‹_›

theorem midway_cancelApproved {operation : StoredOperation} {code digest : String} :
    IssuesE Midway (cancelApproved operation code digest nowMs) :=
  IssuesE.bind (issues_perform ⟨nofun, nofun⟩) fun _ => issues_perform trivial

/-- The operation that a rollback works on is the one that is committed. -/
theorem safe_startRollback (operationId : String) (expected : List OperationStage)
    (cause digest : String) (nowMs : Int) :
    SafeE step (endsSeen runtime plan) (startRollback operationId expected cause digest nowMs)
      track fun result after => ∀ rolling, result = .ok rolling → rolling = after.operation := by
  refine SafeE.bind ⟨trivial, fun answer after stepped => ?_⟩
  cases answer with
  | error error => exact fun _ same => by cases same
  | ok operation =>
    obtain ⟨rfl, rfl⟩ := stepped
    change SafeE step _ (if after.operation.stage = .rollingBack then _ else _) _ _
    split
    · rintro rolling same
      exact (Except.ok.inj same).symm
    · refine ⟨⟨nofun, nofun⟩, fun answer last stepped => ?_⟩
      cases answer with
      | error error => exact fun _ same => by cases same
      | ok moved =>
        obtain ⟨rfl, rfl⟩ := stepped
        rintro rolling same
        exact (Except.ok.inj same).symm

/-- What the snapshot file held when it was read. -/
theorem safe_readSnapshot (kind : SnapshotKind) (record : SnapshotRecord) :
    SafeE step (endsSeen runtime plan) (readSnapshot runtime kind record) track
      fun result after => after.operation = track.operation ∧
        ∀ snapshot, result = .ok snapshot → ∃ bytes,
          ⟨.readSnapshotFile record.relativePath kind.maxBytes, .ok bytes⟩ ∈
            after.seen.map Observation.event ∧
          decodeSnapshot runtime kind record bytes = .ok snapshot := by
  refine SafeE.bind (SafeE.rejectIf (fun _ => ⟨rfl, fun _ same => by cases same⟩) fun _ => ?_)
  refine SafeE.bind ⟨trivial, fun answer after stepped => ?_⟩
  obtain ⟨_, rfl⟩ := stepped
  cases answer with
  | error error => exact ⟨rfl, fun _ same => by cases same⟩
  | ok bytes =>
    refine ⟨rfl, fun snapshot same => ⟨bytes, ?_, same⟩⟩
    exact List.mem_cons_self

/-- The restoring command, the check after it, and the transition that follows from both. -/
theorem ends_restoreService {record : SnapshotRecord} {bytes : Bytes}
    {snapshot : ServiceStateSnapshot} {service : RegisteredService}
    (kept : track.operation.snapshot = some record)
    (read : ⟨.readSnapshotFile record.relativePath SnapshotKind.serviceState.maxBytes, .ok bytes⟩ ∈ track.seen.map Observation.event)
    (decoded : decodeSnapshot runtime .serviceState record bytes = .ok snapshot)
    (named : snapshotService runtime.toCodec snapshot = .ok service) {operationId : String} :
    Ends runtime plan (restoreService runtime operationId service snapshot nowMs) track := by
  have close (verified : Bool) {reached : Track}
      (restored : verified = true → Restored runtime reached.operation.snapshot
        (reached.seen.map Observation.event)) :
      Ends runtime plan (do
        let terminal ← transition operationId {
          expected := [.rollingBack]
          next := if verified then .rolledBack else .recoveryRequired
          resultCode := if verified then "service_state_restored" else "service_restore_failed"
          evidenceDigest := serviceStateDigest runtime.toCodec service.unitName snapshot.active
          afterDigest :=
            some (serviceStateDigest runtime.toCodec service.unitName snapshot.active)
          rollbackResult := some (if verified then "restored" else "manual_recovery_required")
          nowMs := nowMs }
        receipt terminal.operationId) reached := by
    refine SafeE.bind ⟨⟨?_, ?_⟩, fun answer after _ => ?_⟩
    · cases verified <;> nofun
    · cases verified with
      | true => exact fun _ => restored rfl
      | false => nofun
    · cases answer with
      | error error => trivial
      | ok terminal => exact ends_midway (issues_perform trivial)
  refine SafeE.bind (SafeE.attempt ⟨trivial, fun restore after stepped => ?_⟩)
  obtain ⟨_, rfl⟩ := stepped
  refine ends_ite (fun success => ?_) fun failed => ?_
  · refine SafeE.bind (SafeE.attempt ⟨trivial, fun active last stepped => ?_⟩)
    obtain ⟨_, rfl⟩ := stepped
    refine SafeE.bind (SafeE.ret _ (close _ fun verified => ?_))
    cases active with
    | error error => cases verified
    | ok evidence =>
      refine ⟨record, bytes, snapshot, service, evidence, kept, ?_, decoded, named,
        latest_observe, beq_iff_eq.mp verified⟩
      exact List.mem_cons_of_mem _ (List.mem_cons_of_mem _ read)
  · exact SafeE.bind (SafeE.ret _ (close false nofun))

theorem ends_rollbackServiceControl {operationId cause digest : String} :
    Ends runtime plan (rollbackServiceControl runtime operationId cause digest nowMs) track := by
  refine SafeE.bind ((safe_startRollback _ _ _ _ _).mono fun result started current => ?_)
  cases result with
  | error error => trivial
  | ok rolling =>
  obtain rfl := current rolling rfl
  dsimp only
  cases kept : started.operation.snapshot with
  | none => trivial
  | some record =>
  refine SafeE.bind ((safe_readSnapshot _ _).mono fun result found facts => ?_)
  cases result with
  | error error => trivial
  | ok snapshot =>
  obtain ⟨bytes, read, decoded⟩ := facts.2 snapshot rfl
  refine SafeE.bind (SafeE.lift _ ?_)
  cases named : snapshotService runtime.toCodec snapshot with
  | error error => trivial
  | ok service =>
    refine ends_restoreService ?_ read decoded named
    rw [facts.1]
    exact kept

theorem ends_actAndVerify {service : RegisteredService} {action : ManagedServiceAction}
    (planned : registeredService runtime.toCodec plan.siteId = .ok service)
    (chosen : serviceActionFromDigest runtime.toCodec plan.availableDigest = .ok action)
    {snapshotted : StoredOperation} :
    Ends runtime plan (actAndVerify runtime snapshotted service action nowMs) track := by
  refine ends_bind (ends_midway (issues_perform ⟨nofun, nofun⟩)) fun _ _ => ?_
  refine ends_onError (ends_midway (issues_perform trivial))
    (fun _ _ => ends_rollbackServiceControl) fun _ _ => ?_
  refine ends_ite (fun _ => ends_rollbackServiceControl) fun _ => ?_
  refine ends_bind (ends_midway (issues_perform ⟨nofun, nofun⟩)) fun _ _ => ?_
  refine SafeE.bind ⟨trivial, fun answer after stepped => ?_⟩
  obtain ⟨_, rfl⟩ := stepped
  cases answer with
  | error error => trivial
  | ok evidence =>
  refine ends_ite (fun _ => ends_rollbackServiceControl) fun expected => ?_
  refine SafeE.bind ⟨⟨fun _ => ?_, nofun⟩, fun answer _ _ => ?_⟩
  · exact ⟨service, action, evidence, planned, chosen, latest_observe, not_not.mp expected⟩
  · cases answer with
    | error error => trivial
    | ok terminal => exact ends_midway (issues_perform trivial)

theorem ends_executeServiceControl {operation : StoredOperation} :
    Ends runtime operation.plan (executeServiceControl runtime operation nowMs) track := by
  have cancel (code digest : String) {reached : Track} : Ends runtime operation.plan
      (cancelApproved operation code digest nowMs) reached :=
    ends_midway midway_cancelApproved
  refine SafeE.bind (SafeE.lift _ ?_)
  cases planned : registeredService runtime.toCodec operation.plan.siteId with
  | error error => trivial
  | ok service =>
  refine SafeE.bind (SafeE.lift _ ?_)
  cases chosen : serviceActionFromDigest runtime.toCodec operation.plan.availableDigest with
  | error error => trivial
  | ok action =>
  have blocked : IssuesE Midway (stopBlocked service action) :=
    iteInduction (fun _ => IssuesE.bind (issues_perform trivial) fun _ => IssuesE.ret _)
      fun _ => IssuesE.ret _
  refine ends_bind (ends_midway blocked) fun _ _ => ends_ite (fun _ => cancel _ _) fun _ => ?_
  refine ends_bind (ends_midway (issues_perform trivial)) fun _ _ => ?_
  refine ends_ite (fun _ => cancel _ _) fun _ => ?_
  refine ends_onError (ends_midway (midway_hostSide ((writeSnapshot_silent _ _ _).mono
    fun _ silent => silent.passive.hostSide))) (fun _ _ => cancel _ _) fun _ _ => ?_
  refine ends_bind (ends_midway (issues_perform trivial)) fun _ _ => ?_
  exact ends_actAndVerify planned chosen

theorem keeps_serviceRule {runtime : Runtime} : Keeps runtime (serviceRule runtime) := by
  have planned {γ : Type} {program : Ops γ} {operation : StoredOperation}
      (ends : Ends runtime operation.plan program (startTrack operation)) :
      SafeE step (serviceRule runtime) program (startTrack operation) fun _ _ => True := by
    refine safe_planned ends fun track call same holds _ => ?_
    rw [same]
    exact holds
  refine @keeps_of runtime _ (· == .serviceControl) (fun track call exempt => ?_)
    (fun operation nowMs concerned => ?_) (fun operation nowMs _ _ => ?_)
    fun operation nowMs concerned => ?_
  · exact fun service => absurd service (beq_eq_false_iff_ne.mp exempt)
  · unfold executeApproved
    rw [beq_iff_eq.mp concerned]
    exact planned ends_executeServiceControl
  · refine planned (ends_midway (IssuesE.bind (issues_perform ⟨nofun, nofun⟩) fun _ => ?_))
    exact IssuesE.checked <| IssuesE.forM fun record =>
      IssuesE.bind (IssuesE.attempt (midway_hostSide ((removeProposal_silent record).mono
        fun _ silent => silent.passive.hostSide))) fun _ => IssuesE.ret _
  · unfold recoverApplied
    rw [beq_iff_eq.mp concerned]
    exact planned (ends_bind ends_rollbackServiceControl fun _ _ => trivial)

end Service

/-! ### Runs -/

section Runs

variable {runtime : Runtime}

variable {world : World Units} {events older : List Event}

/-- What the check that an operation ended with is worth: it is right about the unit unless it timed
out while the unit was active. -/
def Worth (units : Units) (service : RegisteredService) (expected : Bool)
    (evidence : CommandEvidence) : Prop :=
  units.checked service = some expected ↔
    (evidence.timedOut = true → units.checked service = some false)

theorem Checked.worth (checked : Checked world) {service : RegisteredService}
    {evidence : CommandEvidence} {expected : Bool}
    (found : latest service.activeCommand (hostEvents world.log) = some (.ok evidence))
    (expects : evidence.success = expected) : Worth world.host service expected evidence := by
  obtain ⟨real, remembered, reports, produced⟩ := checked _ _ found
  unfold Worth
  rw [remembered]
  cases late : evidence.timedOut with
  | false =>
    have told := reports evidence rfl late
    refine ⟨nofun, fun _ => ?_⟩
    rw [← told, expects]
  | true =>
    -- evidence of a command that timed out is never a success
    have failed : evidence.success = false := by
      cases success : evidence.success with
      | false => rfl
      | true =>
        have timely := ((produced evidence rfl).success success).1
        rw [late] at timely
        cases timely
    rw [failed] at expects
    subst expects
    exact ⟨fun same _ => same, fun same => same rfl⟩

/-- What is known when the newest entry ended a service operation. -/
def Truthful (runtime : Runtime) (world : World Units) : Prop :=
  ∀ entry earlier, world.log = entry :: earlier →
    ∀ operationId change diagnostics command operation,
      entry.call = .ledger (.transition operationId change diagnostics command) →
      loadOperationFrom world.tables operationId = .ok operation →
      operation.plan.operationType = .serviceControl →
      (operation.stage = .succeeded →
        Verified runtime operation.plan (hostEvents world.log)) ∧
      (operation.stage = .rolledBack →
        Restored runtime operation.snapshot (hostEvents world.log))

theorem Verified.append {plan : StoredPlan} (verified : Verified runtime plan events) :
    Verified runtime plan (events ++ older) := by
  obtain ⟨service, action, evidence, planned, chosen, found, expected⟩ := verified
  exact ⟨service, action, evidence, planned, chosen, latest_append found, expected⟩

theorem Restored.append {kept : Option SnapshotRecord} (restored : Restored runtime kept events) :
    Restored runtime kept (events ++ older) := by
  obtain ⟨record, bytes, snapshot, service, evidence, recorded, read, decoded, named, found,
    expected⟩ := restored
  exact ⟨record, bytes, snapshot, service, evidence, recorded, List.mem_append_left _ read, decoded,
    named, latest_append found, expected⟩

theorem truthful_of_calm {entry : Entry} {earlier : List Entry}
    (newest : world.log = entry :: earlier)
    (calm : ∀ operationId change diagnostics command, entry.call ≠
      .ledger (.transition operationId change diagnostics command)) :
    Truthful runtime world := by
  intro other rest same operationId change diagnostics command operation called
  rw [newest] at same
  obtain ⟨rfl, rfl⟩ := List.cons.inj same
  exact absurd called (calm _ _ _ _)

/-- The transition that ends an operation finds what the operation has seen. -/
theorem truthful_transition {base : World Units} {operationId : String} {track : Track}
    {change : Transition} {diagnostics : Option StoredDiagnostics}
    {command : Option OperationCommandEvidenceView} {answer : Except OpsError StoredOperation}
    {after : World Units} (followed : Followed base operationId world track)
    (allowed : guard runtime track (.ledger (.transition operationId change diagnostics command)))
    (ruled : serviceRule runtime track
      (.ledger (.transition operationId change diagnostics command)))
    (stepped : environment runtime unitModel world
      (.ledger (.transition operationId change diagnostics command)) answer after) :
    Truthful runtime after := by
  obtain ⟨_, known, expected, working, _⟩ := allowed
  obtain ⟨session, rfl, changed⟩ := ledger_stepped stepped
  intro entry earlier newest other otherChange _ _ operation called stored service
  obtain ⟨rfl, rfl⟩ := List.cons.inj newest
  cases called
  have before := followed.stored known
  have events : hostEvents (world.answered session.store world.host
      (.ledger (.transition operationId change diagnostics command)) answer).log =
        track.seen.map Observation.event ++ hostEvents base.log := followed.events known
  rw [events]
  rcases changed with same | ⟨write, writes, commit⟩
  · -- nothing was committed: the operation still runs
    have running : loadOperationFrom world.tables operationId = .ok operation := by
      rw [← stored]
      exact congrArg (loadOperationFrom · operationId) same.symm
    obtain rfl := Except.ok.inj (before.symm.trans running)
    have open_ := working _ expected
    refine ⟨fun ended => ?_, fun ended => ?_⟩ <;> rw [ended] at open_ <;> cases open_
  · obtain rfl := Option.some.inj writes
    obtain ⟨reached, written, read⟩ := Commit.written followed.keyed commit rfl
    obtain rfl : reached = operation := Except.ok.inj (read.symm.trans stored)
    cases written with
    | moved found _ =>
      obtain rfl := Except.ok.inj (before.symm.trans found)
      obtain ⟨succeeded, rolledBack⟩ := ruled service
      exact ⟨fun ended => (succeeded ended).append, fun ended => (rolledBack ended).append⟩

theorem inductive_services (runtime : Runtime) :
    Inductive runtime unitModel (fun _ _ => serviceRule runtime)
      fun world => Checked world ∧ Truthful runtime world := by
  refine ⟨fun _ _ standing => standing,
    fun world host drifted standing => ⟨fun service answer found => ?_, standing.2⟩, ?_, ?_⟩
  · rw [show host.checked = world.host.checked from drifted]
    exact standing.1 service answer found
  · intro world call answer after good standing harmless stepped
    refine ⟨standing.1.step stepped, ?_⟩
    rcases environment_log stepped with ⟨⟨_, rfl⟩, _⟩ | newest
    · exact harmless.elim
    · refine truthful_of_calm newest ?_
      rintro _ _ _ _ rfl
      exact harmless
  · intro base operationId world track call answer after good standing followed allowed
      ruled stepped
    refine ⟨standing.1.step stepped, ?_⟩
    rcases environment_log stepped with ⟨⟨_, rfl⟩, _⟩ | newest
    · exact allowed.elim
    · cases call with
      | ledger call =>
        cases call with
        | transition identifier change diagnostics command =>
          obtain rfl : identifier = operationId := allowed.1.trans followed.id
          exact truthful_transition followed allowed ruled stepped
        | _ => exact truthful_of_calm newest fun _ _ _ _ same => by cases same
      | _ => exact truthful_of_calm newest fun _ _ _ _ same => by cases same

/-- When a service operation has just succeeded, or has just been rolled back, the last check of its
unit is right exactly if it did not time out while the unit was active. -/
theorem service_check_right_iff (runtime : Runtime) (machine : Machine Units)
    (reachable : Reachable runtime unitModel machine) (entry : Entry) (earlier : List Entry)
    (newest : machine.world.log = entry :: earlier) (operationId : String) (change : Transition)
    (diagnostics : Option StoredDiagnostics) (command : Option OperationCommandEvidenceView)
    (called : entry.call = .ledger (.transition operationId change diagnostics command))
    (operation : StoredOperation)
    (stored : loadOperationFrom machine.world.tables operationId = .ok operation)
    (service : operation.plan.operationType = .serviceControl) :
    (operation.stage = .succeeded → ∃ service action evidence,
      registeredService runtime.toCodec operation.plan.siteId = .ok service ∧
      serviceActionFromDigest runtime.toCodec operation.plan.availableDigest = .ok action ∧
      latest service.activeCommand (hostEvents machine.world.log) = some (.ok evidence) ∧
      (machine.world.host.checked service = some (expectedActive action) ↔
        (evidence.timedOut = true → machine.world.host.checked service = some false))) ∧
    (operation.stage = .rolledBack → ∃ record bytes snapshot service evidence,
      operation.snapshot = some record ∧
      ⟨.readSnapshotFile record.relativePath SnapshotKind.serviceState.maxBytes, .ok bytes⟩ ∈
        hostEvents machine.world.log ∧
      decodeSnapshot runtime .serviceState record bytes = .ok snapshot ∧
      snapshotService runtime.toCodec snapshot = .ok service ∧
      latest service.activeCommand (hostEvents machine.world.log) = some (.ok evidence) ∧
      (machine.world.host.checked service = some snapshot.active ↔
        (evidence.timedOut = true → machine.world.host.checked service = some false))) := by
  obtain ⟨checked, truthful⟩ :=
    (inductive_services runtime).reachable keeps_serviceRule
      (fun _ => ⟨fun _ _ found => (by cases found), fun _ _ newest => (by cases newest)⟩) reachable
  obtain ⟨succeeds, restores⟩ :=
    truthful entry earlier newest operationId change diagnostics command
    operation called stored service
  refine ⟨fun ended => ?_, fun ended => ?_⟩
  · obtain ⟨service, action, evidence, planned, chosen, found, expected⟩ := succeeds ended
    exact ⟨service, action, evidence, planned, chosen, found, checked.worth found expected⟩
  · obtain ⟨record, bytes, snapshot, service, evidence, recorded, read, decoded, named, found,
      expected⟩ := restores ended
    exact ⟨record, bytes, snapshot, service, evidence, recorded, read, decoded, named, found,
      checked.worth found expected⟩

end Runs

/-! ### A check that times out -/

def apacheStopPlan : StoredPlan :=
  { samplePlan with
    operationType := .serviceControl
    siteId := serviceId sampleCodec "apache2.service"
    currentState := .enabled
    targetState := .disabled
    availableDigest := serviceActionDigest sampleCodec .stop
    enabledStateDigest := serviceStateDigest sampleCodec "apache2.service" true }

def timedOutEvidence (command : CommandClass) : CommandEvidence :=
  { sampleEvidence command false with
    exitCode := none
    timedOut := true }

/-- Every command succeeds and changes nothing, and the second check of a unit times out. -/
def stuckUnits (units : Units) : (call : HostCall) → call.Answer × Units
  | .run command =>
    match checkOf command with
    | some service =>
      (.ok (if units.checked service = none then sampleEvidence command (units.active service)
        else timedOutEvidence command), { units with checked := units.check service })
    | none => (.ok (sampleEvidence command true), units)
  | .storeSnapshotFile _ _ bytes => (.ok bytes, units)
  | call => (failing call, units)

theorem stuckUnits_plays : Plays stuckUnits unitModel := by
  intro units call
  cases call with
  | run command =>
    cases asks : checkOf command with
    | none =>
      simp only [stuckUnits, asks, unitModel]
      exact ⟨sampleEvidence_produced _ _, trivial⟩
    | some service =>
      simp only [stuckUnits, asks, unitModel]
      refine ⟨?_, ?_, trivial⟩
      · split
        · exact sampleEvidence_produced _ _
        · exact ⟨nofun, validateDigest_sha256Digest _ _, validateDigest_sha256Digest _ _⟩
      · rintro evidence same timely
        split at same
        · obtain rfl := Except.ok.inj same
          rfl
        · obtain rfl := Except.ok.inj same
          cases timely
  | _ => exact ⟨trivial, rfl⟩

def stuckStarted : Except OpsError Unit × World Units :=
  playStart sampleRuntime stuckUnits noFaults 5
    ⟨emptyLedger, ⟨fun _ => true, fun _ => none⟩, none, []⟩

/-- The stop of apache has just been recorded as succeeded. -/
def apacheStopped : World Units :=
  playCrash sampleRuntime stuckUnits noFaults 5 (.execute operator "op_00")
    (fun world => stageOf world.tables "op_00" == some .succeeded)
    (playRequest sampleRuntime stuckUnits noFaults 5
      (.approve operator (.serviceControl true) ⟨"plan_0", "hash_0", "key_0"⟩)
      (playRequest sampleRuntime stuckUnits noFaults 5 (.storePlan operator apacheStopPlan)
        stuckStarted.2))

theorem reachable_apacheStopped :
    Reachable sampleRuntime unitModel ⟨.stopped, apacheStopped⟩ := by
  have plays := stuckUnits_plays
  have started : stuckStarted.1 = .ok () := by decide +kernel
  refine reachable_playCrash plays (reachable_playRequest plays (reachable_playRequest plays ?_ _)
    _) _
  exact reachable_playStart plays ⟨_, .refl⟩ started

/-- The newest entry is a transition of the operation, which is a service operation. -/
def endsService (world : World Units) : Bool :=
  (match world.log with
    | ⟨_, _, _, .ledger (.transition operationId _ _ _), _⟩ :: _ => operationId == "op_00"
    | _ => false) &&
  (match loadOperationFrom world.tables "op_00" with
    | .ok operation => operation.plan == apacheStopPlan && operation.stage == .succeeded
    | .error _ => false)

theorem endsService_facts {world : World Units} (ends : endsService world = true) :
    ∃ entry earlier change diagnostics command operation, world.log = entry :: earlier ∧
      entry.call = .ledger (.transition "op_00" change diagnostics command) ∧
      loadOperationFrom world.tables "op_00" = .ok operation ∧
      operation.plan = apacheStopPlan ∧ operation.stage = .succeeded := by
  unfold endsService at ends
  obtain ⟨newest, stored⟩ := (Bool.and_eq_true _ _).mp ends
  split at newest
  · rename_i before after focus operationId change diagnostics command answer earlier log
    split at stored
    · rename_i operation read
      simp only [Bool.and_eq_true, beq_iff_eq] at stored
      obtain rfl := beq_iff_eq.mp newest
      exact ⟨_, earlier, change, diagnostics, command, operation, log, rfl, read, stored⟩
    · cases stored
  · cases newest

theorem apacheStopped_ends : endsService apacheStopped = true ∧
    apacheStopped.host.checked .apache = some true := by
  decide +kernel

theorem service_check_of_apacheStopped : ∃ service action evidence,
    registeredService sampleCodec apacheStopPlan.siteId = .ok service ∧
    serviceActionFromDigest sampleCodec apacheStopPlan.availableDigest = .ok action ∧
    latest service.activeCommand (hostEvents apacheStopped.log) = some (.ok evidence) ∧
    (apacheStopped.host.checked service = some (expectedActive action) ↔
      (evidence.timedOut = true → apacheStopped.host.checked service = some false)) := by
  obtain ⟨entry, earlier, change, diagnostics, command, operation, newest, called, stored, plan,
    stage⟩ := endsService_facts apacheStopped_ends.1
  have reachable := reachable_apacheStopped
  -- the world is only to be looked at, not to be run again
  generalize apacheStopped = world at newest stored reachable ⊢
  have right := (service_check_right_iff sampleRuntime ⟨.stopped, world⟩ reachable entry earlier
    newest "op_00" change diagnostics command called operation stored (by rw [plan]; rfl)).1 stage
  rw [plan] at right
  exact right

/-- Apache is recorded as stopped while it runs. -/
theorem apache_stop_succeeds_while_active :
    Reachable sampleRuntime unitModel ⟨.stopped, apacheStopped⟩ ∧
    (∃ operation, loadOperationFrom apacheStopped.tables "op_00" = .ok operation ∧
      operation.plan = apacheStopPlan ∧ operation.stage = .succeeded) ∧
    registeredService sampleCodec apacheStopPlan.siteId = .ok .apache ∧
    serviceActionFromDigest sampleCodec apacheStopPlan.availableDigest = .ok .stop ∧
    expectedActive .stop = false ∧ apacheStopped.host.checked .apache = some true := by
  obtain ⟨_, _, _, _, _, operation, _, _, stored, plan, stage⟩ :=
    endsService_facts apacheStopped_ends.1
  have static : registeredService sampleCodec apacheStopPlan.siteId = .ok .apache ∧
      serviceActionFromDigest sampleCodec apacheStopPlan.availableDigest = .ok .stop := by
    decide +kernel
  exact ⟨reachable_apacheStopped, ⟨operation, stored, plan, stage⟩, static.1, static.2, rfl,
    apacheStopped_ends.2⟩

end JwOps.Lifecycle.Services
