/- module: Lifecycle/Lives
   source: crates/jw-opsd/src/{engine,ledger}.rs
   digest: What holds of the host from the approval of one operation to its last stage. -/
import JwOps.Lifecycle.EffectFree

set_option autoImplicit false

namespace JwOps.Lifecycle.Lives

open Contracts Ledger Engine Foundation Operation Digest Schema Writes Commits Locks Interface
open Recovery History Tracking Fragments Dispatch Lifecycle.System Safety Serving Runs Edges
open Sessions EffectFree Keyed Program

variable {H : Type} {runtime : Runtime} {model : HostModel H} {world after base : World H}
  {call : HostCall} {identifier : String} {track : Track} {change : Transition}
  {post : Except OpsError StoredOperation → Track × H → Prop}

/-! ### One operation at a time -/

/-- All operations but those that run certbot share one lock, so at most one of them is running. -/
theorem Good.exclusive (good : Good runtime world) {first second : StoredOperation}
    {firstId secondId : String}
    (firstStored : loadOperationFrom world.tables firstId = .ok first)
    (secondStored : loadOperationFrom world.tables secondId = .ok second)
    (firstRuns : first.stage.isTerminal = false) (secondRuns : second.stage.isTerminal = false)
    (firstShares : skipsReloadLock first.plan.operationType = false)
    (secondShares : skipsReloadLock second.plan.operationType = false) : firstId = secondId := by
  obtain ⟨firstRow, firstPlan, firstFound, firstPlanned, rfl⟩ :=
    loadOperationFrom_ok_iff.mp firstStored
  obtain ⟨secondRow, secondPlan, secondFound, secondPlanned, rfl⟩ :=
    loadOperationFrom_ok_iff.mp secondStored
  have firstHolds : nginxReloadKey ∈ heldKeys firstRow.stage firstPlan := by
    simp [heldKeys, lockKeys, firstRuns, firstShares]
  have secondHolds : nginxReloadKey ∈ heldKeys secondRow.stage secondPlan := by
    simp [heldKeys, lockKeys, secondRuns, secondShares]
  have same := running_eq_of_shared_key good.keyed good.locks (lookup_mem firstFound)
    (lookup_mem secondFound) firstPlanned secondPlanned firstHolds secondHolds
  rw [← lookup_key firstFound, ← lookup_key secondFound, same]

/-! ### The life of an operation -/

/-- What is to hold of an operation, of the host and of the host calls so far, newest first. -/
abbrev Life (H : Type) := StoredOperation → H → List Event → Prop

/-- The operation is running, or the newest call has ended it. -/
def Present (operationId : String) (operation : StoredOperation) (world : World H) : Prop :=
  loadOperationFrom world.tables operationId = .ok operation ∧
    (operation.stage.isTerminal = false ∨ ∃ entry earlier before, world.log = entry :: earlier ∧
      loadOperationFrom entry.before operationId = .ok before ∧ before.stage.isTerminal = false)

structure Living (life : Life H) (operationId : String) (world : World H) : Prop where
  stored : ∃ operation, loadOperationFrom world.tables operationId = .ok operation ∧
    skipsReloadLock operation.plan.operationType = false
  alive : ∀ operation, Present operationId operation world →
    life operation world.host (hostEvents world.log)

/-- What the host calls of a session add to those before it. -/
def eventsSince (earlier : List Event) (track : Track) : List Event :=
  track.seen.map Observation.event ++ earlier

/-- A call made for the operation itself leaves what is to hold, whatever its answer; a write may
have been committed even if it fails. -/
def Upkeep (model : HostModel H) (life : Life H) (earlier : List Event) (host : H) (track : Track) :
    Call → Prop
  | .host call => family call ≠ none → track.known = true ∧ ∀ answer after,
      Produced call answer → model.answer host call answer after →
      life track.operation after (⟨call, answer⟩ :: eventsSince earlier track)
  | .ledger (.attachSnapshot _ record _) =>
    life (withSnapshot track.operation record) host (eventsSince earlier track)
  | .ledger (.transition _ change _ _) =>
    life (withTransition track.operation change) host (eventsSince earlier track)
  | _ => True

/-- Neither the host by itself nor calls for other operations disturb what is to hold. -/
structure Steady (model : HostModel H) (operationId : String) (life : Life H) : Prop where
  drifted : ∀ operation host after events, model.drift host after →
    life operation host events → life operation after events
  quiet : ∀ operation host call answer after events, operation.stage.isTerminal = false →
    family call = none → model.answer host call answer after →
    life operation host events → life operation after (⟨call, answer⟩ :: events)
  foreign : ∀ operation host call answer after events kind,
    operation.stage.isTerminal = false → family call = some kind →
    (kind = .certificates ∨ ∃ other, other ≠ operationId ∧
      ∃ data : SnapshotKind, kind = .snapshot other data.fileName) →
    model.answer host call answer after →
    life operation host events → life operation after (⟨call, answer⟩ :: events)

/-- What is to be shown: nothing else disturbs the operation, and its own sessions keep it up. -/
structure Sustains (runtime : Runtime) (model : HostModel H) (operationId : String)
    (life : Life H) : Prop extends Steady model operationId life where
  executed : ∀ operation nowMs host events, operation.operationId = operationId →
    operation.stage = .approved → life operation host events →
    SafeE (hosted model) (fun spot call => Upkeep model life events spot.2 spot.1 call)
      (executeApproved runtime operation nowMs) (startTrack operation, host) fun _ _ => True
  recovered : ∀ operation nowMs host events, operation.operationId = operationId →
    Recoverable operation → operation.stage.isTerminal = false → life operation host events →
    SafeE (hosted model) (fun spot call => Upkeep model life events spot.2 spot.1 call)
      (recoverStage runtime operation nowMs) (startTrack operation, host) fun _ _ => True

/-! ### Steps -/

variable {life : Life H} {operationId : String} {operation : StoredOperation}

/-- After a call the operation is present only if it was running before. -/
theorem Present.ran {call : Call} {answer : call.Answer} {ledger : LedgerState} {host : H}
    (present : Present operationId operation (world.answered ledger host call answer))
    {current : StoredOperation} (stored : loadOperationFrom world.tables operationId = .ok current)
    (same : current.stage.isTerminal = true →
      loadOperationFrom ledger.tables operationId = .ok current) :
    current.stage.isTerminal = false := by
  by_contra ended
  rw [Bool.not_eq_false] at ended
  obtain ⟨read, running | ⟨entry, earlier, before, log, was, running⟩⟩ := present
  · obtain rfl := Except.ok.inj ((same ended).symm.trans read)
    rw [ended] at running
    cases running
  · obtain ⟨rfl, rfl⟩ := List.cons.inj log
    obtain rfl := Except.ok.inj (stored.symm.trans was)
    rw [ended] at running
    cases running

/-- A host call that leaves what is to hold of the running operation. -/
theorem Living.observed (living : Living life operationId world) {answer : call.Answer}
    {host : H}
    (kept : ∀ operation, loadOperationFrom world.tables operationId = .ok operation →
      operation.stage.isTerminal = false → life operation world.host (hostEvents world.log) →
      life operation host (⟨call, answer⟩ :: hostEvents world.log)) :
    Living life operationId (world.answered world.ledger host (.host call) answer) := by
  refine ⟨living.stored, fun operation present => ?_⟩
  have stored : loadOperationFrom world.tables operationId = .ok operation := present.1
  have running := present.ran stored fun _ => stored
  exact kept operation stored running (living.alive operation ⟨stored, .inl running⟩)

/-- A ledger call that does not change the operation. -/
theorem Living.untouched (living : Living life operationId world) {call : LedgerCall}
    {answer : Except OpsError call.Value} {ledger : LedgerState}
    (same : loadOperationFrom ledger.tables operationId =
      loadOperationFrom world.tables operationId) :
    Living life operationId (world.answered ledger world.host (.ledger call) answer) := by
  obtain ⟨current, stored, shares⟩ := living.stored
  have kept : loadOperationFrom ledger.tables operationId = .ok current := same.trans stored
  refine ⟨⟨current, kept, shares⟩, fun operation present => ?_⟩
  have running := present.ran stored fun _ => kept
  obtain rfl := Except.ok.inj (kept.symm.trans present.1)
  exact living.alive current ⟨stored, .inl running⟩

/-- A ledger call that may change the operation, to something that is known to hold. -/
theorem Living.written (living : Living life operationId world) {call : LedgerCall}
    {answer : Except OpsError call.Value} {ledger : LedgerState} {next : StoredOperation}
    {current : StoredOperation} (stored : loadOperationFrom world.tables operationId = .ok current)
    (changed : loadOperationFrom ledger.tables operationId = .ok next)
    (plan : next.plan = current.plan) (holds : life next world.host (hostEvents world.log)) :
    Living life operationId (world.answered ledger world.host (.ledger call) answer) := by
  obtain ⟨known, read, shares⟩ := living.stored
  obtain rfl := Except.ok.inj (stored.symm.trans read)
  refine ⟨⟨next, changed, by rw [plan]; exact shares⟩, fun operation present => ?_⟩
  obtain rfl := Except.ok.inj (changed.symm.trans present.1)
  exact holds

theorem family_of_quiet (quiet : isQuiet call = true) : family call = none := by
  cases call with
  | run command =>
    have reads : changesService command = false := by simpa [isQuiet, isEffect] using quiet
    simp [family, reads]
  | runUfw command | certbot command _ => cases command <;> first | rfl | cases quiet
  | _ => first | rfl | cases quiet

theorem isEffect_of_family {kind : Family} (owned : family call = some kind)
    (kept : ∀ other fileName, kind ≠ .snapshot other fileName) : isEffect call = true := by
  cases call with
  | run command =>
    cases changes : changesService command with
    | true => exact changes
    | false => simp [family, changes] at owned
  | runUfw command | certbot command _ => cases command <;> first | rfl | cases owned
  | storeSnapshotFile other fileName bytes =>
    exact absurd (Option.some.inj owned).symm (kept other fileName)
  | _ => first | rfl | cases owned

/-- What a call for another operation may touch while an operation that shares the lock runs. -/
theorem family_of_other (good : Good runtime world)
    (stored : loadOperationFrom world.tables operationId = .ok operation)
    (running : operation.stage.isTerminal = false)
    (shares : skipsReloadLock operation.plan.operationType = false) {otherId : String}
    (differ : otherId ≠ operationId) (followed : Followed base otherId world track)
    (allowed : guard runtime track (.host call)) (open_ : openRule track (.host call))
    {kind : Family} (owned : family call = some kind) :
    kind = .certificates ∨ ∃ other, other ≠ operationId ∧
      ∃ data : SnapshotKind, kind = .snapshot other data.fileName := by
  rcases List.mem_cons.mp (open_ kind owned) with rfl | inside
  · rw [followed.id]
    exact .inr ⟨otherId, differ, _, rfl⟩
  cases skips : skipsReloadLock track.operation.plan.operationType with
  | true =>
    left
    unfold skipsReloadLock at skips
    cases type : track.operation.plan.operationType <;> rw [type] at skips inside <;>
      first | exact List.mem_singleton.mp inside | cases skips
  | false =>
    -- two operations with the lock would be running
    have effect := isEffect_of_family owned fun other fileName same => by
      subst same
      cases type : track.operation.plan.operationType <;> rw [type] at inside <;>
        simp [familiesOf, siteFamilies, fileFamilies] at inside
    obtain ⟨known, stage⟩ := allowed effect
    have active : track.operation.stage.isTerminal = false := by
      simp only [effectStages, List.mem_cons, List.not_mem_nil, or_false] at stage
      rcases stage with stage | stage | stage | stage <;> rw [stage] <;> rfl
    exact absurd (Good.exclusive good (followed.stored known) stored active running skips shares)
      differ

/-- The rule of all sessions while one operation is looked at. -/
def lifeRule (model : HostModel H) (life : Life H) (operationId : String) (base : World H)
    (host : H)
    (track : Track) (call : Call) : Prop :=
  openRule track call ∧ (track.operation.operationId = operationId →
    Upkeep model life (hostEvents base.log) host track call)

/-- A ledger call of a session for the operation itself. -/
theorem Living.own (living : Living life operationId world) (good : Good runtime world)
    (followed : Followed base operationId world track) {call : LedgerCall}
    {answer : Except OpsError call.Value} {ledger : LedgerState}
    (allowed : guard runtime track (.ledger call))
    (upkeep : Upkeep model life (hostEvents base.log) world.host track (.ledger call))
    (changed : ledger.tables = world.tables ∨ ∃ write, writeOf call = some write ∧
      Commit runtime.toCodec world.tables write ledger.tables) :
    Living life operationId (world.answered ledger world.host (.ledger call) answer) := by
  rcases changed with same | ⟨write, writes, commit⟩
  · exact living.untouched (congrArg (loadOperationFrom · operationId) same)
  cases call with
  | attachSnapshot identifier record nowMs =>
    obtain rfl := Option.some.inj writes
    obtain rfl : identifier = operationId := allowed.1.trans followed.id
    have stored := followed.stored allowed.2.1
    obtain ⟨next, written, read⟩ := Commit.written good.keyed commit rfl
    cases written with
    | attached before _ =>
      obtain rfl := Except.ok.inj (stored.symm.trans before)
      refine living.written stored read rfl ?_
      rw [followed.events allowed.2.1]
      exact upkeep
  | transition identifier change diagnostics command =>
    obtain rfl := Option.some.inj writes
    obtain rfl : identifier = operationId := allowed.1.trans followed.id
    have stored := followed.stored allowed.2.1
    obtain ⟨next, written, read⟩ := Commit.written good.keyed commit rfl
    cases written with
    | moved before _ =>
      obtain rfl := Except.ok.inj (stored.symm.trans before)
      refine living.written stored read rfl ?_
      rw [followed.events allowed.2.1]
      exact upkeep
  | createOrReusePlan _ | beginOperation _ => exact allowed.elim
  | _ => cases writes

/-- A ledger call of a session for another operation. -/
theorem Living.aside (living : Living life operationId world) {otherId : String}
    (differ : otherId ≠ operationId) (followed : Followed base otherId world track)
    {call : LedgerCall} {answer : Except OpsError call.Value} {ledger : LedgerState}
    (allowed : guard runtime track (.ledger call))
    (changed : ledger.tables = world.tables ∨ ∃ write, writeOf call = some write ∧
      Commit runtime.toCodec world.tables write ledger.tables) :
    Living life operationId (world.answered ledger world.host (.ledger call) answer) := by
  refine living.untouched ?_
  obtain ⟨_, others, _⟩ := followed.toRelated.framed allowed changed
  exact (others _ differ.symm).trans (followed.others _ differ.symm).symm

theorem inductive_living (sustains : Sustains runtime model operationId life) :
    Inductive runtime model (lifeRule model life operationId) (Living life operationId) := by
  refine ⟨fun _ _ living => ⟨living.stored, living.alive⟩, fun world host change living =>
    ?_, ?_, ?_⟩
  · exact ⟨living.stored, fun operation present =>
      sustains.drifted _ _ _ _ change (living.alive operation present)⟩
  · intro world call answer after good living harmless stepped
    cases call with
    | mark identifier => exact harmless.elim
    | host call =>
      obtain ⟨_, host, answered, rfl⟩ := stepped
      refine living.observed fun operation _ running alive => ?_
      exact sustains.quiet _ _ _ _ _ _ running (family_of_quiet harmless) answered alive
    | ledger call =>
      have untouched := Harmless.untouched harmless good stepped
      obtain ⟨failure, faults, session, ran, rfl⟩ := stepped
      obtain ⟨current, stored, _⟩ := living.stored
      exact living.untouched ((untouched.operations _ _ stored).trans stored.symm)
  · intro base focus world track call answer after good living followed allowed ruled stepped
    obtain ⟨open_, upkeep⟩ := ruled
    cases call with
    | mark identifier => exact allowed.elim
    | host call =>
      obtain ⟨produced, host, answered, rfl⟩ := stepped
      refine living.observed fun operation stored running alive => ?_
      cases owned : family call with
      | none => exact sustains.quiet _ _ _ _ _ _ running owned answered alive
      | some kind =>
        by_cases same : focus = operationId
        · subst same
          have mine : family call ≠ none := by
            rw [owned]
            nofun
          obtain ⟨known, kept⟩ := upkeep followed.id mine
          obtain rfl := Except.ok.inj (stored.symm.trans (followed.stored known))
          rw [followed.events known]
          exact kept answer host produced answered
        · obtain ⟨current, read, shares⟩ := living.stored
          obtain rfl := Except.ok.inj (stored.symm.trans read)
          exact sustains.foreign _ _ _ _ _ _ kind running owned
            (family_of_other good stored running shares same followed allowed open_ owned)
            answered alive
    | ledger call =>
      obtain ⟨session, rfl, changed⟩ := ledger_stepped stepped
      by_cases same : focus = operationId
      · subst same
        exact living.own good followed allowed (upkeep followed.id) changed
      · exact living.aside same followed allowed changed

/-! ### Runs -/

/-- A world is ready for the operation's own sessions. -/
def Fit (life : Life H) (operationId : String) (base : World H) (operation : StoredOperation) :
    Prop :=
  operation.operationId = operationId → operation.stage.isTerminal = false →
    life operation base.host (hostEvents base.log)

/-- A session for another operation only has to keep to what is open to it. -/
theorem safe_aside {α : Type} {program : Ops α} (differ : operation.operationId ≠ operationId)
    (safe : SafeE step openRule program (startTrack operation) fun _ _ => True) :
    SafeE (hosted model) (fun spot call => lifeRule model life operationId base spot.2 spot.1 call)
      program (startTrack operation, base.host) fun _ _ => True := by
  have kept := @Safe.keep _ _ _ _ _ _ _ _ _
    (fun track => track.operation.operationId = operation.operationId)
    safe (fun _ _ _ _ same _ stepped => (step_id stepped).trans same) rfl
  refine ((safe_hosted kept).weaken ?_).mono fun _ _ _ => trivial
  rintro spot call ⟨same, open_⟩
  exact ⟨open_, fun own => absurd (same.symm.trans own) differ⟩

theorem upholds_life (sustains : Sustains runtime model operationId life) :
    Upholds runtime model (lifeRule model life operationId) (Fit life operationId) := by
  have keeps := keeps_openRule runtime
  refine ⟨fun base operation nowMs approved fit => ?_,
    fun base operation nowMs recoverable working fit => ?_⟩
  · by_cases own : operation.operationId = operationId
    · have running : operation.stage.isTerminal = false := by
        rw [approved]
        rfl
      have ruled := sustains.executed operation nowMs base.host _ own approved (fit own running)
      refine ((safe_hosted (keeps.executed operation nowMs approved)).guards ruled).weaken ?_
      exact fun _ _ holds => ⟨holds.1, fun _ => holds.2⟩
    · exact safe_aside own (keeps.executed operation nowMs approved)
  · by_cases own : operation.operationId = operationId
    · have ruled := sustains.recovered operation nowMs base.host _ own recoverable working
        (fit own working)
      refine ((safe_hosted (keeps.recovered operation nowMs recoverable working)).guards
        ruled).weaken ?_
      exact fun _ _ holds => ⟨holds.1, fun _ => holds.2⟩
    · exact safe_aside own (keeps.recovered operation nowMs recoverable working)

/-- From the moment an operation is looked at, what is to hold of it holds until its last stage. -/
theorem life_of_steps (sustains : Sustains runtime model operationId life)
    {first last : Machine H} (reachable : Reachable runtime model first)
    (path : Relation.ReflTransGen (MachineStep runtime model) first last)
    {initial final : StoredOperation}
    (stored : loadOperationFrom first.world.tables operationId = .ok initial)
    (shares : skipsReloadLock initial.plan.operationType = false)
    (begins : life initial first.world.host (hostEvents first.world.log))
    (present : Present operationId final last.world) :
    life final last.world.host (hostEvents last.world.log) := by
  have living : Living life operationId first.world := by
    refine ⟨⟨initial, stored, shares⟩, fun operation now => ?_⟩
    obtain rfl := Except.ok.inj (stored.symm.trans now.1)
    exact begins
  have standing := standing_of_steps (inductive_living sustains) (upholds_life sustains)
    (fun world operation standing read own running => standing.kept.alive operation
      ⟨own ▸ read, .inl running⟩) path ⟨reachable_good reachable, living⟩
  exact standing.kept.alive final present

/-! ### Walking through a session -/

/-- Within a session of the operation itself: what is to hold holds, and the operation is the one
that the program works on. -/
structure Alive (life : Life H) (earlier : List Event) (operation : StoredOperation)
    (spot : Track × H) : Prop where
  same : spot.1.operation = operation
  known : spot.1.known = true
  holds : life operation spot.2 (eventsSince earlier spot.1)

section Walk

variable {earlier : List Event} {spot : Track × H} {α : Type}

/-- The program keeps up the life of the operation. -/
abbrev Upkeeps (model : HostModel H) (life : Life H) (earlier : List Event) (program : Ops α)
    (spot : Track × H) (post : Except OpsError α → Track × H → Prop) : Prop :=
  SafeE (hosted model) (fun spot call => Upkeep model life earlier spot.2 spot.1 call) program spot
    post

theorem alive_start {host : H} (holds : life operation host earlier) :
    Alive life earlier operation (startTrack operation, host) :=
  ⟨rfl, rfl, holds⟩

section

variable (alive : Alive life earlier operation spot)
include alive

/-- Any host call, with what is to hold after it. -/
theorem upkeep_host {view : call.Answer → Except OpsError α}
    {post : Except OpsError α → Track × H → Prop}
    (kept : ∀ answer after, Produced call answer → model.answer spot.2 call answer after →
      life operation after (⟨call, answer⟩ :: eventsSince earlier spot.1))
    (next : ∀ answer after, Produced call answer → model.answer spot.2 call answer after.2 →
      Alive life earlier operation after → post (view answer) after) :
    Upkeeps model life earlier (perform (.host call) view) spot post := by
  refine ⟨fun _ => ⟨alive.known, ?_⟩, ?_⟩
  · rw [alive.same]
    exact kept
  · rintro answer ⟨track, host⟩ ⟨⟨produced, rfl⟩, answered⟩
    refine next answer _ produced answered ⟨alive.same, alive.known, ?_⟩
    have event : eventsSince earlier (spot.1.observe call answer) =
        ⟨call, answer⟩ :: eventsSince earlier spot.1 := rfl
    rw [event]
    exact kept answer host produced answered

theorem upkeep_transition {diagnostics : Option StoredDiagnostics}
    {command : Option OperationCommandEvidenceView}
    (holds : life (withTransition operation change) spot.2 (eventsSince earlier spot.1))
    (failed : ∀ error after, post (.error error) after)
    (done : ∀ after, after.2 = spot.2 → eventsSince earlier after.1 = eventsSince earlier spot.1 →
      Alive life earlier (withTransition operation change) after →
      post (.ok (withTransition operation change)) after) :
    Upkeeps model life earlier (ledger (.transition identifier change diagnostics command)) spot
      post := by
  refine ⟨?_, ?_⟩
  · change life (withTransition spot.1.operation change) _ _
    rw [alive.same]
    exact holds
  · rintro answer ⟨track, host⟩ ⟨stepped, rfl⟩
    cases answer with
    | error error => exact failed error _
    | ok value =>
      obtain ⟨rfl, rfl⟩ := stepped
      change post (.ok (withTransition spot.1.operation change)) _
      rw [alive.same]
      exact done _ rfl rfl ⟨rfl, alive.known, holds⟩

theorem upkeep_attach {record : SnapshotRecord} {nowMs : Int}
    (holds : life (withSnapshot operation record) spot.2 (eventsSince earlier spot.1))
    (failed : ∀ error after, post (.error error) after)
    (done : ∀ after, after.2 = spot.2 → eventsSince earlier after.1 = eventsSince earlier spot.1 →
      Alive life earlier (withSnapshot operation record) after →
      post (.ok (withSnapshot operation record)) after) :
    Upkeeps model life earlier (attachSnapshot identifier record nowMs) spot post := by
  refine ⟨?_, ?_⟩
  · change life (withSnapshot spot.1.operation record) _ _
    rw [alive.same]
    exact holds
  · rintro answer ⟨track, host⟩ ⟨stepped, rfl⟩
    cases answer with
    | error error => exact failed error _
    | ok value =>
      obtain ⟨rfl, rfl⟩ := stepped
      change post (.ok (withSnapshot spot.1.operation record)) _
      rw [alive.same]
      exact done _ rfl rfl ⟨rfl, alive.known, holds⟩

theorem upkeep_load (failed : ∀ error after, post (.error error) after)
    (done : post (.ok operation) spot) :
    Upkeeps model life earlier (loadOperation identifier) spot post := by
  refine ⟨trivial, ?_⟩
  rintro answer ⟨track, host⟩ ⟨stepped, rfl⟩
  cases answer with
  | error error => exact failed error _
  | ok value =>
    obtain ⟨rfl, rfl⟩ := stepped
    change post (.ok spot.1.operation) spot
    rw [alive.same]
    exact done

end

/-- Once the operation has come to its end, or got lost, harmless calls follow. -/
theorem upkeep_harmless {program : Ops α} (calls : IssuesE Harmless program) :
    Upkeeps model life earlier program spot fun _ _ => True := by
  refine Safe.of_issues calls trivial (fun spot call _ harmless => ?_) fun _ _ _ _ _ _ _ => trivial
  cases call with
  | mark identifier => trivial
  | host call => exact fun owned => absurd (family_of_quiet harmless) owned
  | ledger call =>
    cases call with
    | attachSnapshot _ _ _ | transition _ _ _ _ => exact harmless.elim
    | _ => trivial

section

variable (alive : Alive life earlier operation spot)
  (holds : life (withTransition operation change) spot.2 (eventsSince earlier spot.1))
include alive holds

/-- A transition in the middle of a session. -/
theorem upkeep_next {next : StoredOperation → Ops α}
    (go : ∀ after, after.2 = spot.2 → Alive life earlier (withTransition operation change) after →
      Upkeeps model life earlier (next (withTransition operation change)) after fun _ _ => True) :
    Upkeeps model life earlier (transition identifier change >>= next) spot fun _ _ => True := by
  apply SafeE.bind
  apply upkeep_transition alive holds
  · intro error after
    trivial
  · intro after host _ alive
    exact go after host alive

/-- The last transition of a session. -/
theorem upkeep_last {next : StoredOperation → Ops α}
    (tail : ∀ terminal, IssuesE Harmless (next terminal)) :
    Upkeeps model life earlier (transition identifier change >>= next) spot fun _ _ => True :=
  upkeep_next alive holds fun _ _ _ => upkeep_harmless (tail _)

end

theorem receipt_harmless {identifier : String} : IssuesE Harmless (receipt identifier) :=
  issues_perform trivial

/-- The receipt, and the proposal that is no longer needed. -/
theorem closing_harmless (terminal : StoredOperation) : IssuesE Harmless (do
    let answer ← receipt terminal.operationId
    removePlanProposal terminal.plan
    pure answer) :=
  IssuesE.bind receipt_harmless fun _ =>
    IssuesE.bind (removePlanProposal_harmless _) fun _ => IssuesE.ret _

end Walk

/-! ### Looking at a world -/

/-- The operation is stored with this plan at this stage. -/
def storedAs (operationId : String) (plan : StoredPlan) (stage : OperationStage)
    (world : World H) : Bool :=
  match loadOperationFrom world.tables operationId with
  | .ok operation => operation.plan == plan && operation.stage == stage
  | .error _ => false

theorem storedAs_ok {plan : StoredPlan} {stage : OperationStage}
    (holds : storedAs operationId plan stage world = true) :
    ∃ operation, loadOperationFrom world.tables operationId = .ok operation ∧
      operation.plan = plan ∧ operation.stage = stage := by
  unfold storedAs at holds
  split at holds
  · rename_i operation read
    simp only [Bool.and_eq_true, beq_iff_eq] at holds
    exact ⟨operation, read, holds⟩
  · cases holds

/-- Before the newest call the operation was running. -/
def ranBefore (operationId : String) (world : World H) : Bool :=
  match world.log with
  | [] => false
  | entry :: _ =>
    match loadOperationFrom entry.before operationId with
    | .ok before => !before.stage.isTerminal
    | .error _ => false

theorem present_of_ranBefore (ran : ranBefore operationId world = true)
    (stored : loadOperationFrom world.tables operationId = .ok operation) :
    Present operationId operation world := by
  refine ⟨stored, .inr ?_⟩
  unfold ranBefore at ran
  split at ran
  · cases ran
  · rename_i entry earlier log
    split at ran
    · rename_i before read
      exact ⟨entry, earlier, before, log, read, by simpa using ran⟩
    · cases ran

end JwOps.Lifecycle.Lives
