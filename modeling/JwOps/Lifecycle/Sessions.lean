/- module: Lifecycle/Sessions
   source: crates/jw-opsd/src/{main,engine}.rs
   digest: A rule that every execution and every recovery keeps holds along every run. -/
import JwOps.Lifecycle.Runs

set_option autoImplicit false

namespace JwOps.Lifecycle.Sessions

open Contracts Ledger Engine Operation Digest Config Schema Writes Locks Interface Recovery Requests
open History Tracking Fragments Dispatch Lifecycle.System Simulation Safety Serving Starting Runs
open Foundation.Program

variable {request : Request}

/-! ### Rules of a session -/

/-- The track with which an operation comes into focus. -/
def startTrack (operation : StoredOperation) : Track := ⟨operation, true, false, []⟩

/-- Nothing changes the plan or the identifier of an operation. -/
private theorem step_fixed {track after : Track} {call : Call} {answer : call.Answer}
    (stepped : step track call answer after) :
    after.operation.plan = track.operation.plan ∧
      after.operation.operationId = track.operation.operationId := by
  cases call with
  | mark operationId =>
    obtain rfl := stepped
    exact ⟨rfl, rfl⟩
  | host call =>
    obtain ⟨_, rfl⟩ := stepped
    exact ⟨rfl, rfl⟩
  | ledger call =>
    cases answer with
    | error error =>
      obtain rfl : after = track.failed call := by cases call <;> exact stepped
      exact ⟨rfl, rfl⟩
    | ok value =>
      cases call with
      | loadOperation operationId =>
        obtain ⟨_, rfl⟩ := stepped
        exact ⟨rfl, rfl⟩
      | attachSnapshot _ _ _ | transition _ _ _ _ =>
        obtain ⟨rfl, rfl⟩ := stepped
        exact ⟨rfl, rfl⟩
      | _ =>
        obtain rfl := stepped
        exact ⟨rfl, rfl⟩

theorem step_plan {track after : Track} {call : Call} {answer : call.Answer}
    (stepped : step track call answer after) : after.operation.plan = track.operation.plan :=
  (step_fixed stepped).1

theorem step_id {track after : Track} {call : Call} {answer : call.Answer}
    (stepped : step track call answer after) :
    after.operation.operationId = track.operation.operationId :=
  (step_fixed stepped).2

/-- A ledger call tells nothing about the host. -/
theorem step_ledger_seen {track after : Track} {call : LedgerCall}
    {answer : Except OpsError call.Value} (stepped : step track (.ledger call) answer after) :
    after.seen = track.seen ∧ (after.known = true → track.known = true) := by
  cases answer with
  | error error =>
    obtain rfl : after = track.failed call := by cases call <;> exact stepped
    exact ⟨rfl, fun known => ((Bool.and_eq_true _ _).mp known).1⟩
  | ok value =>
    cases call with
    | loadOperation _ | attachSnapshot _ _ _ | transition _ _ _ _ =>
      obtain ⟨_, rfl⟩ := stepped
      exact ⟨rfl, id⟩
    | _ =>
      obtain rfl := stepped
      exact ⟨rfl, id⟩

/-- The rule holds at every call of an execution and of a recovery, whatever is answered. -/
structure Keeps (runtime : Runtime) (rule : Track → Call → Prop) : Prop where
  executed : ∀ operation nowMs, operation.stage = .approved →
    SafeE step rule (executeApproved runtime operation nowMs) (startTrack operation)
      fun _ _ => True
  recovered : ∀ operation nowMs, Recoverable operation → operation.stage.isTerminal = false →
    SafeE step rule (recoverStage runtime operation nowMs) (startTrack operation)
      fun _ _ => True

variable {H : Type} {runtime : Runtime} {model : HostModel H} {world : World H}
  {rule : Track → Call → Prop}

/-- A rule for operations of one plan. -/
theorem safe_planned {α : Type} {rule' : Track → Call → Prop} {program : Ops α}
    {operation : StoredOperation} {post : Except OpsError α → Track → Prop}
    (safe : SafeE step rule' program (startTrack operation) post)
    (stronger : ∀ track call, track.operation.plan = operation.plan → rule' track call →
      rule track call) :
    SafeE step rule program (startTrack operation) fun _ _ => True := by
  have kept := @Safe.keep _ _ _ _ _ _ _ _ _ (fun track => track.operation.plan = operation.plan)
    safe (fun _ _ _ _ same _ stepped => (step_plan stepped).trans same) rfl
  refine (kept.weaken ?_).mono fun _ _ _ => trivial
  rintro track call ⟨same, holds⟩
  exact stronger track call same holds

/-- A rule that asks nothing of a plan holds for whatever is done for it. -/
theorem safe_exempt {α : Type} {program : Ops α} {operation : StoredOperation}
    (exempt : ∀ track call, track.operation.plan = operation.plan → rule track call) :
    SafeE step rule program (startTrack operation) fun _ _ => True := by
  have free : SafeE step (fun _ _ => True) program (startTrack operation) fun _ _ => True :=
    Safe.of_issues (Issues.any _) trivial (fun _ _ _ _ => trivial) fun _ _ _ _ _ _ _ => trivial
  exact safe_planned free fun track call same _ => exempt track call same

/-- A rule about some operation types: what is to be shown for executions and recoveries of
these. -/
theorem keeps_of {concerns : OperationType → Bool}
    (exempt : ∀ track call, concerns track.operation.plan.operationType = false → rule track call)
    (executed : ∀ operation nowMs, concerns operation.plan.operationType = true →
      SafeE step rule (executeApproved runtime operation nowMs) (startTrack operation)
        fun _ _ => True)
    (early : ∀ operation nowMs, concerns operation.plan.operationType = true →
      operation.stage = .approved ∨ operation.stage = .snapshotted →
      SafeE step rule (recoverBeforeApply runtime operation nowMs) (startTrack operation)
        fun _ _ => True)
    (late : ∀ operation nowMs, concerns operation.plan.operationType = true →
      SafeE step rule (recoverApplied runtime operation nowMs) (startTrack operation)
        fun _ _ => True) : Keeps runtime rule := by
  have free {α : Type} {program : Ops α} {operation : StoredOperation}
      (other : concerns operation.plan.operationType = false) :
      SafeE step rule program (startTrack operation) fun _ _ => True := by
    refine safe_exempt fun track call same => exempt track call ?_
    rw [same]
    exact other
  refine ⟨fun operation nowMs _ => ?_, fun operation nowMs _ _ => ?_⟩
  · cases kind : concerns operation.plan.operationType with
    | false => exact free kind
    | true => exact executed operation nowMs kind
  · cases kind : concerns operation.plan.operationType with
    | false => exact free kind
    | true =>
      unfold recoverStage
      cases stage : operation.stage with
      | approved => exact early operation nowMs kind (.inl stage)
      | snapshotted => exact early operation nowMs kind (.inr stage)
      | applying | validating | reloading | verifying | rollingBack =>
        exact late operation nowMs kind
      | _ => trivial

/-! ### Host calls as they were made -/

/-- A host call and its answer. -/
structure Event where
  call : HostCall
  answer : call.Answer

def Observation.event (observation : Observation) : Event := ⟨observation.call, observation.answer⟩

def Entry.event : Entry → Option Event
  | ⟨_, _, _, .host call, answer⟩ => some ⟨call, answer⟩
  | _ => none

def hostEvents (log : List Entry) : List Event := log.filterMap Entry.event

/-- Since an operation came into focus, every host call was made for it. -/
structure Followed (base : World H) (operationId : String) (world : World H) (track : Track) : Prop
    extends Related base operationId world track where
  events : track.known = true →
    hostEvents world.log = track.seen.map Observation.event ++ hostEvents base.log

theorem followed_start {operation : StoredOperation} (keyed : OperationsKeyed world.tables)
    (stored : loadOperationFrom world.tables operation.operationId = .ok operation) :
    Followed world operation.operationId (world.focusOn (some operation.operationId))
      (startTrack operation) :=
  ⟨related_start keyed stored, fun _ => rfl⟩

theorem simulates_followed (runtime : Runtime) (model : HostModel H) (base : World H)
    (operationId : String) :
    Simulates (environment runtime model) step (guard runtime) (Followed base operationId) := by
  refine ⟨?_⟩
  intro world track call answer after followed allowed stepped
  obtain ⟨next, matched, related⟩ :=
    (simulates runtime model base operationId).step followed.toRelated allowed stepped
  refine ⟨next, matched, related, fun known => ?_⟩
  cases call with
  | mark identifier => exact allowed.elim
  | host call =>
    obtain ⟨_, host, _, rfl⟩ := stepped
    obtain ⟨_, rfl⟩ := matched
    exact congrArg (Event.mk call answer :: ·) (followed.events known)
  | ledger call =>
    obtain ⟨failure, faults, session, ran, rfl⟩ := stepped
    obtain ⟨seen, before⟩ := step_ledger_seen matched
    rw [seen]
    exact followed.events (before known)

/-! ### The host beside the track -/

/-- What a call does to the host. -/
def hostMoves (model : HostModel H) (host : H) : (call : Call) → call.Answer → H → Prop
  | .host call, answer, after => model.answer host call answer after
  | .ledger _, _, after => after = host
  | .mark _, _, after => after = host

/-- The track of an operation together with the host that its calls are made to. -/
def hosted (model : HostModel H) (before : Track × H) (call : Call) (answer : call.Answer)
    (after : Track × H) : Prop :=
  step before.1 call answer after.1 ∧ hostMoves model before.2 call answer after.2

/-- A rule about track and host holds at every call of an execution and of a recovery of an
operation
that starts in a world which is ready for it. -/
structure Upholds (runtime : Runtime) (model : HostModel H)
    (rule : World H → H → Track → Call → Prop) (ready : World H → StoredOperation → Prop) :
    Prop where
  executed : ∀ base operation nowMs, operation.stage = .approved → ready base operation →
    SafeE (hosted model) (fun spot call => rule base spot.2 spot.1 call)
      (executeApproved runtime operation nowMs) (startTrack operation, base.host) fun _ _ => True
  recovered : ∀ base operation nowMs, Recoverable operation →
    operation.stage.isTerminal = false → ready base operation →
    SafeE (hosted model) (fun spot call => rule base spot.2 spot.1 call)
      (recoverStage runtime operation nowMs) (startTrack operation, base.host) fun _ _ => True

/-- What holds whatever the host does holds beside it. -/
theorem safe_hosted {α : Type} {program : Ops α} {track : Track}
    {post : Except OpsError α → Track → Prop} (safe : SafeE step rule program track post)
    {host : H} :
    SafeE (hosted model) (fun spot call => rule spot.1 call) program (track, host)
      fun result spot => post result spot.1 := by
  have simulation : Simulates (hosted model) step rule fun spot track => spot.1 = track := by
    refine ⟨?_⟩
    rintro spot _ call answer after rfl _ stepped
    exact ⟨after.1, stepped.1, rfl⟩
  refine ((Safe.simulated simulation rfl safe).weaken ?_).mono ?_
  · rintro spot call ⟨_, rfl, holds⟩
    exact holds
  · rintro result spot ⟨_, rfl, holds⟩
    exact holds

theorem Keeps.upholds (keeps : Keeps runtime rule) :
    Upholds runtime model (fun _ _ => rule) fun _ _ => True :=
  ⟨fun _ operation nowMs approved _ => safe_hosted (keeps.executed operation nowMs approved),
    fun _ operation nowMs recoverable working _ =>
      safe_hosted (keeps.recovered operation nowMs recoverable working)⟩

theorem simulates_hosted {runtime : Runtime} {model : HostModel H} {base : World H}
    {operationId : String} :
    Simulates (environment runtime model) (hosted model) (fun spot call =>
      guard runtime spot.1 call)
      fun world spot => Followed base operationId world spot.1 ∧ world.host = spot.2 := by
  refine ⟨?_⟩
  rintro world ⟨track, _⟩ call answer after ⟨followed, rfl⟩ allowed stepped
  obtain ⟨next, matched, related⟩ :=
    (simulates_followed runtime model base operationId).step followed allowed stepped
  refine ⟨(next, after.host), ⟨matched, ?_⟩, related, rfl⟩
  cases call with
  | mark identifier => exact allowed.elim
  | host call =>
    obtain ⟨_, host, moved, rfl⟩ := stepped
    exact moved
  | ledger call =>
    obtain ⟨failure, faults, session, ran, rfl⟩ := stepped
    rfl

/-! ### What a rule gives -/

section Rules

variable {rule : World H → H → Track → Call → Prop} {ready : World H → StoredOperation → Prop}
  {invariant : World H → Prop}

/-- What is done in a world: a call for the operation in focus, under the rule, or a harmless
one. -/
def Obeyed (runtime : Runtime) (rule : World H → H → Track → Call → Prop) (world : World H)
    (call : Call) : Prop :=
  Harmless call ∨ (∃ operationId, call = .mark operationId) ∨
    ∃ base operationId track, Followed base operationId world track ∧
      guard runtime track call ∧ rule base world.host track call

theorem Obeyed.permitted {call : Call} (obeyed : Obeyed runtime rule world call) :
    Permitted runtime world call := by
  rcases obeyed with harmless | ⟨operationId, rfl⟩ | ⟨base, operationId, track, followed,
    allowed, _⟩
  · exact harmless.permitted
  · trivial
  · exact permitted_of_guard followed.toRelated allowed

/-- An invariant that harmless calls keep, and that calls under the rule keep. -/
structure Inductive (runtime : Runtime) (model : HostModel H)
    (rule : World H → H → Track → Call → Prop) (invariant : World H → Prop) : Prop where
  focused : ∀ world focus, invariant world → invariant (world.focusOn focus)
  drifted : ∀ world host, model.drift world.host host → invariant world →
    invariant { world with host := host }
  harmless : ∀ world call answer after, Good runtime world → invariant world → Harmless call →
    environment runtime model world call answer after → invariant after
  ruled : ∀ base operationId world track call answer after, Good runtime world →
    invariant world → Followed base operationId world track → guard runtime track call →
    rule base world.host track call → environment runtime model world call answer after →
    invariant after

/-- What every lawful commit keeps of the tables. -/
theorem inductive_tables {holds : Tables → Prop}
    (step : ∀ tables write after, OperationsKeyed tables → EventsFollowGraph tables →
      holds tables → Lawful tables write →
      Ledger.Commits.Commit runtime.toCodec tables write after →
      holds after) :
    Inductive runtime model rule fun world => holds world.tables := by
  have call {world after : World H} {call : Call} {answer : call.Answer}
      (good : Good runtime world) (kept : holds world.tables)
      (permitted : Permitted runtime world call)
      (stepped : environment runtime model world call answer after) : holds after.tables := by
    cases call with
    | mark identifier =>
      obtain rfl := stepped
      exact kept
    | host call =>
      obtain ⟨_, host, _, rfl⟩ := stepped
      exact kept
    | ledger call =>
      obtain ⟨session, rfl, same | ⟨write, writes, commit⟩⟩ := ledger_stepped stepped
      · change holds session.store.tables
        rw [same]
        exact kept
      · exact step _ _ _ good.keyed good.events kept (lawful_of_permitted permitted writes) commit
  constructor
  · intro world focus kept
    exact kept
  · intro world host _ kept
    exact kept
  · intro world other answer after good kept harmless stepped
    exact call good kept harmless.permitted stepped
  · intro base operationId world track other answer after good kept followed allowed _ stepped
    exact call good kept (permitted_of_guard followed.toRelated allowed) stepped

/-- A good world with the invariant. -/
structure Standing (runtime : Runtime) (invariant : World H → Prop) (world : World H) : Prop where
  good : Good runtime world
  kept : invariant world

theorem Standing.focusOn (sound : Inductive runtime model rule invariant)
    (standing : Standing runtime invariant world) (focus : Option String) :
    Standing runtime invariant (world.focusOn focus) :=
  ⟨standing.good.focusOn focus, sound.focused _ _ standing.kept⟩

theorem Inductive.step (sound : Inductive runtime model rule invariant)
    {call : Call} {answer : call.Answer} {after : World H}
    (standing : Standing runtime invariant world) (obeyed : Obeyed runtime rule world call)
    (stepped : environment runtime model world call answer after) :
    Standing runtime invariant after := by
  refine ⟨standing.good.step obeyed.permitted stepped, ?_⟩
  rcases obeyed with harmless | ⟨operationId, rfl⟩ | ⟨base, operationId, track, followed,
    allowed, held⟩
  · exact sound.harmless _ _ _ _ standing.good standing.kept harmless stepped
  · obtain rfl := stepped
    exact sound.focused _ _ standing.kept
  · exact sound.ruled _ _ _ _ _ _ _ standing.good standing.kept followed allowed held stepped

/-- In a world with the invariant every stored operation is ready. -/
def Prepares (runtime : Runtime) (invariant : World H → Prop)
    (ready : World H → StoredOperation → Prop) : Prop :=
  ∀ world operation, Standing runtime invariant world →
    loadOperationFrom world.tables operation.operationId = .ok operation →
    ready world operation

section Programs

variable {α : Type} (sound : Inductive runtime model rule invariant)

include sound

theorem serves_obeyed :
    Serves runtime model (Obeyed runtime rule) (Standing runtime invariant) where
  permits _ _ harmless := .inl harmless
  keeps standing harmless stepped := sound.step standing (.inl harmless) stepped

/-- A program that works on one operation. -/
theorem obeys_session {program : Ops α} {operation : StoredOperation}
    (standing : Standing runtime invariant world)
    (stored : loadOperationFrom world.tables operation.operationId = .ok operation)
    {post post' : Except OpsError α → Track × H → Prop}
    (guarded : SafeE (hosted model) (fun spot call => guard runtime spot.1 call) program
      (startTrack operation, world.host) post)
    (ruled : SafeE (hosted model) (fun spot call => rule world spot.2 spot.1 call) program
      (startTrack operation, world.host) post') :
    SafeE (environment runtime model) (Obeyed runtime rule)
      (mark operation.operationId >>= fun _ => program) world fun _ after =>
        Standing runtime invariant after ∧ ∀ other, other ≠ operation.operationId →
          loadOperationFrom after.tables other = loadOperationFrom world.tables other := by
  refine SafeE.bind ⟨.inr (.inl ⟨_, rfl⟩), ?_⟩
  rintro _ _ rfl
  have tracked := Safe.simulated
    (simulates_hosted.narrow fun _ _ both => both.1)
    ⟨followed_start standing.good.keyed stored, rfl⟩ (guarded.guards ruled)
  have obeyed : SafeE (environment runtime model) (Obeyed runtime rule) program
      (world.focusOn (some operation.operationId)) fun _ after =>
        ∃ last, Followed world operation.operationId after last := by
    refine (tracked.weaken ?_).mono ?_
    · rintro reached call ⟨⟨track, _⟩, ⟨followed, rfl⟩, allowed, held⟩
      exact .inr (.inr ⟨_, _, track, followed, allowed, held⟩)
    · rintro _ _ ⟨⟨last, _⟩, ⟨followed, _⟩, _⟩
      exact ⟨last, followed⟩
  have kept := obeyed.keep (fun _ _ _ _ standing obeyed stepped =>
    sound.step standing obeyed stepped) (standing.focusOn sound _)
  refine (kept.weaken fun _ _ both => both.2).mono ?_
  rintro _ _ ⟨standing, last, followed⟩
  exact ⟨standing, followed.others⟩

/-! ### Requests -/

variable (upholds : Upholds runtime model rule ready) (prepares : Prepares runtime invariant ready)

include upholds prepares

theorem obeys_handleBody (standing : Standing runtime invariant world)
    (request : Request) (nowMs : Int) :
    SafeE (environment runtime model) (Obeyed runtime rule) (handleBody runtime request nowMs)
      world fun _ _ => True := by
  have serves := serves_obeyed sound
  refine serves.safe_body standing (fun actor operationId standing => ?_) request
  refine serves.safe_execution standing fun operation standing stored approved => ?_
  have guarded := @safe_executeApproved runtime operation _ nowMs running_start
    approved (Sane.accepted (standing.good.sane _ _ stored))
  have ruled := upholds.executed _ operation nowMs approved (prepares _ operation standing stored)
  exact (obeys_session sound standing stored (safe_hosted guarded) ruled).mono
    fun _ _ _ => trivial

/-! ### Starts -/

section

variable (nowMs : Int) (standing : Standing runtime invariant world)
include nowMs standing

theorem obeys_recoverAll {operations : List StoredOperation}
    (distinct : (operations.map StoredOperation.operationId).Nodup)
    (stored : ∀ operation ∈ operations, loadOperationFrom world.tables operation.operationId =
      .ok operation ∧ operation.stage.isTerminal = false) :
    SafeE (environment runtime model) (Obeyed runtime rule) (recoverAll runtime nowMs operations)
      world fun _ after => Standing runtime invariant after := by
  induction operations generalizing world with
  | nil => exact SafeE.ret () standing
  | cons operation rest ih =>
    obtain ⟨fresh, distinct⟩ := List.nodup_cons.mp distinct
    obtain ⟨read, working⟩ := stored operation List.mem_cons_self
    have recoverable := Sane.recoverable (standing.good.sane _ _ read)
    have guarded := @settles_recoverStage runtime (fun _ => True) operation _
      running_start recoverable (fun _ _ _ => trivial) nowMs
    have ruled := upholds.recovered _ operation nowMs recoverable working
      (prepares _ operation standing read)
    refine SafeE.bind ((obeys_session sound standing read (safe_hosted guarded) ruled).mono ?_)
    rintro result middle ⟨standing, others⟩
    cases result with
    | error error => exact standing
    | ok _ =>
      refine ih standing distinct fun other member => ?_
      obtain ⟨read, working⟩ := stored other (List.mem_cons_of_mem _ member)
      refine ⟨?_, working⟩
      rw [others _ fun same => fresh (same ▸ List.mem_map_of_mem member)]
      exact read

theorem obeys_resume :
    SafeE (environment runtime model) (Obeyed runtime rule)
      (ledger .incompleteOperations >>= fun operations =>
        recoverAll runtime nowMs operations >>= fun _ => removeExpiredProposals nowMs) world
      fun _ _ => True := by
  refine SafeE.bind ⟨.inl trivial, fun answer after stepped => ?_⟩
  have standingAfter : Standing runtime invariant after :=
    @Inductive.step _ _ _ _ _ _ sound (.ledger .incompleteOperations) answer _ standing
      (.inl trivial) stepped
  cases answer with
  | error error => trivial
  | ok operations =>
  obtain ⟨distinct, listed, _⟩ :=
    incompleteOperationsFrom_ok standingAfter.good.keyed (incomplete_stored stepped)
  refine SafeE.bind ((obeys_recoverAll sound upholds prepares nowMs standingAfter distinct
    listed).mono fun result middle standing => ?_)
  cases result with
  | error error => trivial
  | ok _ =>
    exact ((serves_obeyed sound).harmless standing (removeExpiredProposals_harmless nowMs)).mono
      fun _ _ _ => trivial

theorem obeys_initializeService :
    SafeE (environment runtime model) (Obeyed runtime rule) (initializeService runtime nowMs) world
      fun _ _ => True := by
  have swept : IssuesE Harmless (perform (.host .cleanupInternalTemporaries) id : Ops Unit) :=
    issues_perform rfl
  have opened : IssuesE Harmless (ledger .openLedger) := issues_perform trivial
  refine SafeE.bind
    (((serves_obeyed sound).harmless standing swept).mono fun result after standing => ?_)
  cases result with
  | error error => trivial
  | ok _ =>
  refine SafeE.onError
    (((serves_obeyed sound).harmless standing opened).mono fun result after standing => ?_)
  cases result with
  | error error =>
    dsimp only
    split
    · exact ⟨.inl rfl, fun _ _ _ => trivial⟩
    · trivial
  | ok _ => exact obeys_resume sound upholds prepares nowMs standing

end

/-! ### Runs -/

/-- From a machine with the invariant the daemon reaches only machines with it. -/
theorem standing_of_steps {machine later : Machine H}
    (path : Relation.ReflTransGen (MachineStep runtime model) machine later)
    (standing : Standing runtime invariant machine.world) :
    Standing runtime invariant later.world := by
  induction path with
  | refl => exact standing
  | tail _ step ih =>
    have start := ih.focusOn sound none
    refine step.keeps (fun _ _ _ _ standing obeyed stepped =>
      sound.step standing obeyed stepped) start
      (fun nowMs => obeys_initializeService sound upholds prepares nowMs start)
      (obeys_handleBody sound upholds prepares start) fun host change => ?_
    exact ⟨⟨ih.good.keyed, ih.good.locks, ih.good.events, ih.good.sane, ih.good.guarded⟩,
      sound.drifted _ _ change ih.kept⟩

end Programs

end Rules

/-- An invariant of a rule about tracks alone, from the installed daemon on. -/
theorem Inductive.reachable {invariant : World H → Prop}
    (sound : Inductive runtime model (fun _ _ => rule) invariant) (keeps : Keeps runtime rule)
    (initial : ∀ host, invariant ⟨emptyLedger, host, none, []⟩) {machine : Machine H}
    (reachable : Reachable runtime model machine) : invariant machine.world := by
  obtain ⟨host, path⟩ := reachable
  exact (standing_of_steps sound keeps.upholds (fun _ _ _ _ => trivial) path
    ⟨good_empty, initial host⟩).kept

/-! ### Hosts that answer by a function -/

section Playing

variable (runtime) (play : H → (call : HostCall) → call.Answer × H)
  (faults : LedgerCall → List Bool)

variable {nowMs : Int}

/-- Answers every call: the ledger under a schedule of faults, the host by its state. -/
def playing (world : World H) : (call : Call) → call.Answer × World H
  | .mark operationId => ((), world.focusOn (some operationId))
  | .host call =>
    let played := play world.host call
    (played.1, world.answered world.ledger played.2 (.host call) played.1)
  | .ledger call =>
    let ran := runLedger runtime.toCodec sqlError call ⟨world.ledger, faults call⟩
    (ran.1, world.answered ran.2.store world.host (.ledger call) ran.1)

/-- The host plays by the model. -/
def Plays (model : HostModel H) : Prop :=
  ∀ host call, Produced call (play host call).1 ∧
    model.answer host call (play host call).1 (play host call).2

/-- A host that may answer anything and do anything by itself. -/
def unconstrained : HostModel H := ⟨fun _ _ _ _ => True, fun _ _ => True⟩

/-- The world after a start of the daemon. -/
def playStart (nowMs : Int) (world : World H) : Except OpsError Unit × World H :=
  runWith (playing runtime play faults) (initializeService runtime nowMs).run (world.focusOn none)

/-- The world after a request. -/
def playRequest (nowMs : Int) (request : Request) (world : World H) : World H :=
  (runWith (playing runtime play faults) (handleBody runtime request nowMs).run
    (world.focusOn none)).2

/-- The world in which a request is cut off. -/
def playCrash (nowMs : Int) (request : Request) (halt : World H → Bool) (world : World H) :
    World H :=
  runUntil (playing runtime play faults) halt (handleBody runtime request nowMs).run
    (world.focusOn none)

variable {runtime play faults}

theorem environment_playing (plays : Plays play model) (world : World H) (call : Call) :
    environment runtime model world call (playing runtime play faults world call).1
      (playing runtime play faults world call).2 := by
  cases call with
  | mark operationId => rfl
  | host call => exact ⟨(plays _ _).1, _, (plays _ _).2, rfl⟩
  | ledger call => exact ⟨sqlError, faults call, _, rfl, rfl⟩

theorem completes_playing (plays : Plays play model) {α : Type} (program : Ops α)
    (world : World H) :
    Completes (environment runtime model) program.run world
      (runWith (playing runtime play faults) program.run world).1
      (runWith (playing runtime play faults) program.run world).2 :=
  completes_runWith (environment_playing plays) _ _

theorem reachable_playStart (plays : Plays play model) {world : World H}
    (reachable : Reachable runtime model ⟨.stopped, world⟩)
    (started : (playStart runtime play faults nowMs world).1 = .ok ()) :
    Reachable runtime model ⟨.serving, (playStart runtime play faults nowMs world).2⟩ := by
  have run := @completes_playing H runtime model play faults plays Unit
    (initializeService runtime nowMs) (world.focusOn none)
  rw [playStart] at started
  rw [started] at run
  exact reachable_next reachable (.started run)

theorem step_playRequest (plays : Plays play model) {world : World H} :
    MachineStep runtime model ⟨.serving, world⟩
      ⟨.serving, playRequest runtime play faults nowMs request world⟩ :=
  .served (completes_playing plays _ _)

theorem step_playCrash (plays : Plays play model) (halt : World H → Bool) {world : World H} :
    MachineStep runtime model ⟨.serving, world⟩
      ⟨.stopped, playCrash runtime play faults nowMs request halt world⟩ :=
  .crashed (interrupted_runUntil (environment_playing plays) _ _)

theorem reachable_playRequest (plays : Plays play model) {world : World H}
    (reachable : Reachable runtime model ⟨.serving, world⟩) (request : Request) :
    Reachable runtime model ⟨.serving, playRequest runtime play faults nowMs request world⟩ :=
  reachable_next reachable (step_playRequest plays)

theorem reachable_playCrash (plays : Plays play model) {world : World H}
    (reachable : Reachable runtime model ⟨.serving, world⟩) (halt : World H → Bool) :
    Reachable runtime model
      ⟨.stopped, playCrash runtime play faults nowMs request halt world⟩ :=
  reachable_next reachable (step_playCrash plays halt)

end Playing

/-- A command that exits in time. -/
def sampleEvidence (command : CommandClass) (success : Bool) : CommandEvidence where
  class_ := command
  success := success
  exitCode := some (if success then 0 else 1)
  timedOut := false
  stdout := ⟨sha256Digest sampleCodec [], [], false⟩
  stderr := ⟨sha256Digest sampleCodec [], [], false⟩

theorem sampleEvidence_produced (command : CommandClass) (success : Bool) :
    (sampleEvidence command success).Produced := by
  refine ⟨fun succeeds => ?_, validateDigest_sha256Digest _ _, validateDigest_sha256Digest _ _⟩
  cases success with
  | true => exact ⟨rfl, rfl⟩
  | false => cases succeeds

/-! ### Facts about the log -/

/-- Every entry of the log has the property, given what came before it. -/
def Along (holds : Entry → List Entry → Prop) : List Entry → Prop
  | [] => True
  | entry :: earlier => holds entry earlier ∧ Along holds earlier

theorem Along.split {holds : Entry → List Entry → Prop} {later earlier : List Entry} {entry : Entry}
    (along : Along holds (later ++ entry :: earlier)) : holds entry earlier := by
  induction later with
  | nil => exact along.1
  | cons _ _ ih => exact ih along.2

/-- The entry that a call leaves in the log. -/
theorem environment_log {call : Call} {answer : call.Answer} {after : World H}
    (stepped : environment runtime model world call answer after) :
    (∃ operationId, call = .mark operationId) ∧ after.log = world.log ∨
      after.log = ⟨world.tables, after.tables, world.focus, call, answer⟩ :: world.log := by
  cases call with
  | mark operationId =>
    obtain rfl := stepped
    exact .inl ⟨⟨operationId, rfl⟩, rfl⟩
  | host call =>
    obtain ⟨_, host, _, rfl⟩ := stepped
    exact .inr rfl
  | ledger call =>
    obtain ⟨failure, faults, session, ran, rfl⟩ := stepped
    exact .inr rfl

/-- A property of entries that holds of harmless calls and of calls under the rule. -/
theorem inductive_along {holds : Entry → List Entry → Prop}
    (harmless : ∀ before after focus call answer earlier, Harmless call →
      holds ⟨before, after, focus, call, answer⟩ earlier)
    (ruled : ∀ (base : World H) operationId world track call answer after, Good runtime world →
      Followed base operationId world track → guard runtime track call → rule track call →
      holds ⟨world.tables, after, world.focus, call, answer⟩ world.log) :
    Inductive runtime model (fun _ _ => rule) fun world : World H => Along holds world.log := by
  refine ⟨fun _ _ along => along, fun _ _ _ along => along, ?_, ?_⟩
  · intro world call answer after _ along quiet stepped
    rcases environment_log stepped with ⟨⟨_, rfl⟩, same⟩ | grown
    · exact quiet.elim
    · rw [grown]
      exact ⟨harmless _ _ _ _ _ _ quiet, along⟩
  · intro base operationId world track call answer after good along followed allowed held stepped
    rcases environment_log stepped with ⟨⟨_, rfl⟩, same⟩ | grown
    · exact allowed.elim
    · rw [grown]
      exact ⟨ruled base operationId world track call answer _ good followed allowed held, along⟩

end JwOps.Lifecycle.Sessions
