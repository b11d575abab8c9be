/- module: Lifecycle/Safety
   source: crates/jw-opsd/src/{engine,ledger}.rs
   digest: What the ledger and the log of calls look like as long as only permitted calls are
   made. -/
import JwOps.Lifecycle.Simulation

set_option autoImplicit false

namespace JwOps.Lifecycle.Safety

open Contracts Ledger Engine Foundation Operation Digest Schema Writes Commits Locks Interface
open Requests History Tracking Lifecycle.System Simulation Keyed Program

variable {H : Type} {runtime : Runtime}

/-! ### What the log tells of an operation -/

/-- The approval that the operation comes from. -/
def Begins (runtime : Runtime) (operation : StoredOperation) (entry : Entry) : Prop :=
  ∃ approval, entry.call = .ledger (.beginOperation approval) ∧
    approval.operationId = operation.operationId ∧ approval.planId = operation.plan.planId ∧
    Approves approval operation.plan ∧
    Commit runtime.toCodec entry.before (.beginOperation approval) entry.after

/-- Before its snapshot was attached, the operation had read again what its plan was made for. -/
def Rechecked (runtime : Runtime) (operation : StoredOperation) (log : List Entry) : Prop :=
  ∃ asked : StoredOperation, asked.operationId = operation.operationId ∧
    asked.plan = operation.plan ∧ asked.stage = .approved ∧
    Reread runtime asked (seenFor operation.operationId log)

/-- What holds of every operation in the ledger. -/
structure Sane (runtime : Runtime) (log : List Entry) (operation : StoredOperation) : Prop where
  minted : ∃ bytes, operation.operationId = idOf "op" bytes
  begun : operation.stage ≠ .planned
  begins : ∃ entry ∈ log, Begins runtime operation entry
  kept : operation.stage = .approved ∨ operation.stage = .cancelledBeforeApply ∨
    ∃ record, operation.snapshot = some record ∧
      record.relativePath = snapshotPath operation.operationId operation.plan.operationType
  rechecked : operation.snapshot.isSome = true → Rechecked runtime operation log
  service : operation.plan.operationType = .serviceControl →
    operation.stage ≠ .validating ∧ operation.stage ≠ .reloading

/-- A change of the host was made for an operation that was committed to it. -/
def Justified (runtime : Runtime) (entry : Entry) (earlier : List Entry) : Prop :=
  ∀ call, entry.call = .host call → isEffect call = true →
    ∃ operationId operation, entry.focus = some operationId ∧
      loadOperationFrom entry.before operationId = .ok operation ∧
      operation.stage ∈ effectStages ∧ operation.snapshot.isSome = true ∧
      (∃ begin_ ∈ earlier, Begins runtime operation begin_) ∧
      Rechecked runtime operation earlier

def Guarded (runtime : Runtime) : List Entry → Prop
  | [] => True
  | entry :: earlier => Justified runtime entry earlier ∧ Guarded runtime earlier

structure Good (runtime : Runtime) (world : World H) : Prop where
  keyed : OperationsKeyed world.tables
  locks : LocksFollowStages world.tables
  events : EventsFollowGraph world.tables
  sane : ∀ operationId operation, loadOperationFrom world.tables operationId = .ok operation →
    Sane runtime world.log operation
  guarded : Guarded runtime world.log

/-- The calls that the engine makes. -/
def Permitted (runtime : Runtime) (world : World H) : Call → Prop
  | .mark _ => True
  | .host call => isEffect call = true → ∃ operationId operation,
      world.focus = some operationId ∧
      loadOperationFrom world.tables operationId = .ok operation ∧
      operation.stage ∈ effectStages
  | .ledger call =>
    match call with
    | .beginOperation approval => ∃ bytes, approval.operationId = idOf "op" bytes
    | .attachSnapshot operationId record _ => ∃ operation,
      loadOperationFrom world.tables operationId = .ok operation ∧
      operation.stage = .approved ∧
      Reread runtime operation (seenFor operationId world.log) ∧
      record.relativePath = snapshotPath operationId operation.plan.operationType
    | .transition operationId change _ _ =>
      (∀ stage ∈ change.expected, stage.isTerminal = false) ∧ ∃ operation,
        loadOperationFrom world.tables operationId = .ok operation ∧
        Moves operation.plan.operationType operation.stage change.next
    | _ => True

/-! ### Growth of the log -/

theorem seenFor_subset {operationId : String} {log later : List Entry} (grown : log ⊆ later) :
    seenFor operationId log ⊆ seenFor operationId later :=
  List.filterMap_subset _ grown

theorem Rechecked.mono {operation : StoredOperation} {log later : List Entry}
    (rechecked : Rechecked runtime operation log) (grown : log ⊆ later) :
    Rechecked runtime operation later := by
  obtain ⟨asked, id, plan, approved, reread⟩ := rechecked
  exact ⟨asked, id, plan, approved, Reread.mono reread (seenFor_subset grown)⟩

theorem Sane.mono {operation : StoredOperation} {log later : List Entry}
    (sane : Sane runtime log operation) (grown : log ⊆ later) : Sane runtime later operation := by
  obtain ⟨entry, member, begins⟩ := sane.begins
  exact ⟨sane.minted, sane.begun, ⟨entry, grown member, begins⟩, sane.kept,
    fun kept => (sane.rechecked kept).mono grown, sane.service⟩

/-! ### Permitted calls keep the world good -/

theorem idOf_ne_empty (bytes : Bytes) : idOf "op" bytes ≠ "" := by
  intro empty
  have chars : (idOf "op" bytes).toList = [] := by rw [empty]; rfl
  simp [idOf] at chars

theorem follows_ne_planned {stage next : OperationStage} (edge : follows stage next = true) :
    next ≠ .planned := by
  rintro rfl
  cases stage <;> cases edge

section Writes

variable {tables after : Tables} {log : List Entry} {entry : Entry}

theorem Sane.ofApproval {approval : Approval} {plan : StoredPlan}
    (stored : tables.findPlan approval.planId = some plan) (approves : Approves approval plan)
    (minted : ∃ bytes, approval.operationId = idOf "op" bytes)
    (called : entry.call = .ledger (.beginOperation approval))
    (committed : Commit runtime.toCodec entry.before (.beginOperation approval) entry.after) :
    Sane runtime (entry :: log) (approvedOperation plan approval) := by
  refine ⟨minted, nofun, ⟨entry, List.mem_cons_self, approval, called, rfl, ?_, approves,
    committed⟩, .inl rfl, nofun, fun _ => ⟨nofun, nofun⟩⟩
  exact (lookup_key stored).symm

theorem Sane.withSnapshot {current : StoredOperation} {record : SnapshotRecord}
    (sane : Sane runtime (entry :: log) current)
    (approved : current.stage = .approved)
    (reread : Reread runtime current (seenFor current.operationId log))
    (path : record.relativePath = snapshotPath current.operationId current.plan.operationType) :
    Sane runtime (entry :: log) (withSnapshot current record) := by
  refine ⟨sane.minted, nofun, sane.begins, .inr (.inr ⟨record, rfl, path⟩), fun _ => ?_,
    fun _ => ⟨nofun, nofun⟩⟩
  exact ⟨current, rfl, rfl, approved,
    Reread.mono reread (seenFor_subset (List.subset_cons_self _ _))⟩

theorem Sane.withTransition {current : StoredOperation} {change : Transition}
    (sane : Sane runtime (entry :: log) current)
    (moves : Moves current.plan.operationType current.stage change.next) :
    Sane runtime (entry :: log) (withTransition current change) := by
  refine ⟨sane.minted, follows_ne_planned moves.edge, sane.begins, ?_, sane.rechecked,
    moves.service⟩
  rcases sane.kept with approved | cancelled | kept
  · -- without a snapshot there is no other way than to cancel
    have edge := moves.edge
    rw [approved] at edge
    simp only [follows, List.mem_cons, List.not_mem_nil, or_false, decide_eq_true_eq] at edge
    exact .inr (.inl (edge.resolve_left moves.attached))
  · have edge := moves.edge
    rw [cancelled] at edge
    cases edge
  · exact .inr (.inr kept)

end Writes

section Step

variable {model : HostModel H} {world after : World H}

theorem Good.focusOn (good : Good runtime world) (focus : Option String) :
    Good runtime (world.focusOn focus) :=
  ⟨good.keyed, good.locks, good.events, good.sane, good.guarded⟩

theorem lawful_of_permitted {call : LedgerCall} {write : LedgerWrite}
    (permitted : Permitted runtime world (.ledger call)) (writes : writeOf call = some write) :
    Lawful world.tables write := by
  cases call with
  | createOrReusePlan _ | attachSnapshot _ _ _ => obtain rfl := Option.some.inj writes; trivial
  | beginOperation approval =>
    obtain rfl := Option.some.inj writes
    obtain ⟨bytes, minted⟩ := permitted
    change approval.operationId ≠ ""
    rw [minted]
    exact idOf_ne_empty bytes
  | transition operationId change diagnostics command =>
    obtain rfl := Option.some.inj writes
    obtain ⟨working, operation, stored, moves⟩ := permitted
    refine ⟨working, fun current read _ => ?_⟩
    obtain rfl := Except.ok.inj (stored.symm.trans read)
    exact moves
  | _ => cases writes

theorem Good.commit (good : Good runtime world) {call : LedgerCall} {write : LedgerWrite}
    {ledger : LedgerState} {host : H} (answer : Except OpsError call.Value)
    (permitted : Permitted runtime world (.ledger call)) (writes : writeOf call = some write)
    (commit : Commit runtime.toCodec world.tables write ledger.tables) :
    Good runtime (world.answered ledger host (.ledger call) answer) := by
  have lawful := lawful_of_permitted permitted writes
  refine ⟨good.keyed.commit commit, LocksFollowStages.commit lawful.admissible good.keyed good.locks
    commit, EventsFollowGraph.commit good.keyed good.events lawful commit, ?_,
    ⟨(fun other same => by cases same), good.guarded⟩⟩
  have earlier : ∀ operationId operation,
      loadOperationFrom world.tables operationId = .ok operation →
      Sane runtime (world.answered ledger host (.ledger call) answer).log operation :=
    fun operationId operation stored =>
      (good.sane operationId operation stored).mono (List.subset_cons_self _ _)
  refine Commit.preserves good.keyed commit earlier fun operation written => ?_
  cases call with
  | beginOperation approval =>
    obtain rfl := Option.some.inj writes
    cases written with
    | begun stored approves => exact Sane.ofApproval stored approves permitted rfl commit
  | attachSnapshot operationId record nowMs =>
    obtain rfl := Option.some.inj writes
    obtain ⟨current, stored, approved, reread, path⟩ := permitted
    cases written with
    | attached read _ =>
      obtain rfl := Except.ok.inj (stored.symm.trans read)
      have id := loadOperationFrom_id stored
      subst id
      exact Sane.withSnapshot (earlier _ _ stored) approved reread path
  | transition operationId change diagnostics command =>
    obtain rfl := Option.some.inj writes
    obtain ⟨_, current, stored, moves⟩ := permitted
    cases written with
    | moved read _ =>
      obtain rfl := Except.ok.inj (stored.symm.trans read)
      exact Sane.withTransition (earlier _ _ stored) moves
  | createOrReusePlan plan =>
    obtain rfl := Option.some.inj writes
    cases written
  | _ => cases writes

/-- One permitted call, whatever its answer. -/
theorem Good.step (good : Good runtime world) {call : Call}
    (permitted : Permitted runtime world call)
    {answer : call.Answer} (stepped : environment runtime model world call answer after) :
    Good runtime after := by
  have grown {entry : Entry} (operationId : String) (operation : StoredOperation)
      (stored : loadOperationFrom world.tables operationId = .ok operation) :
      Sane runtime (entry :: world.log) operation :=
    (good.sane operationId operation stored).mono (List.subset_cons_self _ _)
  cases call with
  | mark operationId =>
    obtain rfl := stepped
    exact ⟨good.keyed, good.locks, good.events, good.sane, good.guarded⟩
  | host call =>
    obtain ⟨_, host, _, rfl⟩ := stepped
    refine ⟨good.keyed, good.locks, good.events, grown, ?_, good.guarded⟩
    intro other same effect
    obtain rfl := Call.host.inj same
    obtain ⟨operationId, operation, focus, stored, stage⟩ := permitted effect
    have sane := good.sane operationId operation stored
    have id := loadOperationFrom_id stored
    have kept : operation.snapshot.isSome = true := by
      rcases sane.kept with early | early | ⟨record, present, _⟩
      · rw [early] at stage
        exact absurd stage (by decide)
      · rw [early] at stage
        exact absurd stage (by decide)
      · rw [present]
        rfl
    exact ⟨operationId, operation, focus, stored, stage, kept, sane.begins, sane.rechecked kept⟩
  | ledger call =>
    obtain ⟨session, rfl, same | ⟨write, writes, commit⟩⟩ := ledger_stepped stepped
    · have tables : (world.answered session.store world.host (.ledger call) answer).tables =
        world.tables := same
      refine ⟨?_, ?_, ?_, ?_, ⟨(fun other bad => by cases bad), good.guarded⟩⟩
      · rw [tables]; exact good.keyed
      · rw [tables]; exact good.locks
      · rw [tables]; exact good.events
      · rw [tables]; exact grown
    · exact good.commit answer permitted writes commit

end Step

/-! ### Programs that make permitted calls -/

section Programs

variable {model : HostModel H} {base world : World H} {operationId : String} {track : Track}
  {α : Type}

variable {call : Call} {program : Prog Call Call.Answer α}

/-- What a track allows is permitted in the world that it follows. -/
theorem permitted_of_guard (related : Related base operationId world track)
    (allowed : guard runtime track call) : Permitted runtime world call := by
  cases call with
  | mark identifier => trivial
  | host call =>
    intro effect
    obtain ⟨known, stage⟩ := allowed effect
    exact ⟨operationId, track.operation, related.focus, related.stored known, stage⟩
  | ledger call =>
    cases call with
    | attachSnapshot identifier record nowMs =>
      obtain ⟨id, known, approved, reread, path⟩ := allowed
      obtain rfl : identifier = operationId := id.trans related.id
      obtain ⟨recent, log, _, seen⟩ := related.log
      refine ⟨track.operation, related.stored known, approved, Reread.mono reread ?_, path⟩
      rw [seen known, log]
      exact seenFor_subset (List.subset_append_left _ _)
    | transition identifier change diagnostics command =>
      obtain ⟨id, known, _, working, moves⟩ := allowed
      obtain rfl : identifier = operationId := id.trans related.id
      exact ⟨working, track.operation, related.stored known, moves⟩
    | beginOperation approval => exact allowed.elim
    | _ => trivial

/-- A program that is safe for a track is safe in the world that the track follows. -/
theorem permits_tracked {post : α → Track → Prop}
    (related : Related base operationId world track)
    (safe : Safe step (guard runtime) program track post) :
    Safe (environment runtime model) (Permitted runtime) program world fun value after =>
      ∃ last, Related base operationId after last ∧ post value last := by
  refine (Safe.simulated (simulates runtime model base operationId) related safe).weaken ?_
  rintro reached call ⟨current, follows, allowed⟩
  exact permitted_of_guard follows allowed

/-- The world stays good at every call of a program that makes permitted calls. -/
theorem Good.along {post : α → World H → Prop} (good : Good runtime world)
    (safe : Safe (environment runtime model) (Permitted runtime) program world post) :
    Safe (environment runtime model) (Permitted runtime) program world fun value after =>
      Good runtime after ∧ post value after := by
  have kept := safe.keep (fun _ _ _ _ standing permitted stepped => standing.step permitted stepped)
    good
  exact kept.weaken fun _ _ both => both.2

/-- Host calls that belong to no operation: no effects and no snapshots. -/
def isQuiet : HostCall → Bool
  | .storeSnapshotFile _ _ _ => false
  | call => !isEffect call

theorem isEffect_of_isQuiet {call : HostCall} (quiet : isQuiet call = true) :
    isEffect call = false := by
  unfold isQuiet at quiet
  split at quiet
  · cases quiet
  · simpa using quiet

/-- Calls that are permitted in every world. -/
def Harmless : Call → Prop
  | .mark _ => False
  | .host call => isQuiet call = true
  | .ledger call =>
    match call with
    | .beginOperation approval => ∃ bytes, approval.operationId = idOf "op" bytes
    | .attachSnapshot _ _ _ | .transition _ _ _ _ => False
    | _ => True

theorem Harmless.permitted (harmless : Harmless call) :
    Permitted runtime world call := by
  cases call with
  | mark identifier => trivial
  | host call =>
    intro effect
    rw [isEffect_of_isQuiet harmless] at effect
    cases effect
  | ledger call =>
    cases call with
    | attachSnapshot _ _ _ | transition _ _ _ _ => exact harmless.elim
    | beginOperation approval => exact harmless
    | _ => trivial

/-- What a program of harmless calls leaves alone: every operation that was there before. -/
structure Untouched (world after : World H) : Prop where
  focus : after.focus = world.focus
  grown : ∃ recent, after.log = recent ++ world.log
  operations : ∀ operationId operation,
    loadOperationFrom world.tables operationId = .ok operation →
    loadOperationFrom after.tables operationId = .ok operation

theorem Harmless.untouched (harmless : Harmless call) (good : Good runtime world)
    {answer : call.Answer} {after : World H}
    (stepped : environment runtime model world call answer after) : Untouched world after := by
  cases call with
  | mark identifier => exact harmless.elim
  | host call =>
    obtain ⟨_, host, _, rfl⟩ := stepped
    exact ⟨rfl, ⟨[_], rfl⟩, fun _ _ stored => stored⟩
  | ledger call =>
    obtain ⟨session, rfl, changed⟩ := ledger_stepped stepped
    refine ⟨rfl, ⟨[_], rfl⟩, fun operationId operation stored => ?_⟩
    change loadOperationFrom session.store.tables operationId = _
    rcases changed with same | ⟨write, writes, commit⟩
    · rw [same]
      exact stored
    rw [Commit.others good.keyed commit]
    · exact stored
    · -- a new operation has an identifier that no row has
      cases call with
      | beginOperation approval =>
        obtain rfl := Option.some.inj writes
        intro about
        obtain ⟨row, _, found, _⟩ := loadOperationFrom_ok_iff.mp stored
        obtain ⟨_, written, _⟩ := Commit.written good.keyed commit about
        cases written with
        | begun _ _ fresh =>
          refine (fresh row (lookup_mem found)).1 ?_
          rw [lookup_key found]
          exact (Option.some.inj about).symm
      | createOrReusePlan plan =>
        obtain rfl := Option.some.inj writes
        nofun
      | attachSnapshot _ _ _ | transition _ _ _ _ => exact harmless.elim
      | _ => cases writes

theorem Untouched.trans {middle after : World H} (first : Untouched world middle)
    (second : Untouched middle after) : Untouched world after := by
  obtain ⟨older, old⟩ := first.grown
  obtain ⟨newer, new⟩ := second.grown
  refine ⟨second.focus.trans first.focus, ⟨newer ++ older, ?_⟩, fun _ _ stored =>
    second.operations _ _ (first.operations _ _ stored)⟩
  rw [new, old, List.append_assoc]

theorem permits_harmless {program : Prog Call Call.Answer α} (good : Good runtime world)
    (calls : Issues Harmless program) :
    Safe (environment runtime model) (Permitted runtime) program world fun _ after =>
      Good runtime after ∧ Untouched world after := by
  refine @Safe.of_issues _ _ _ _ _ _ _ _ _
    (fun after => Good runtime after ∧ Untouched world after) calls
    ⟨good, rfl, ⟨[], rfl⟩, fun _ _ stored => stored⟩ (fun _ _ _ harmless => harmless.permitted) ?_
  intro reached call answer after inv harmless stepped
  exact ⟨inv.1.step harmless.permitted stepped, inv.2.trans (harmless.untouched inv.1 stepped)⟩

end Programs

end JwOps.Lifecycle.Safety
