/- module: Lifecycle/System
   source: crates/jw-opsd/src/{main,engine,ledger}.rs
   digest: The daemon with its ledger and its host: every answer, every request, every crash. -/
import JwOps.Engine.Requests
import JwOps.Lifecycle.Tracking
import Mathlib.Logic.Relation

set_option autoImplicit false

namespace JwOps.Lifecycle.System

open Contracts Ledger Engine Operation Digest Schema Writes Commits Interface Recovery Requests
open Tracking Foundation.Transaction
open Foundation.Program (Environment Completes Interrupted SafeE)

/-! ### Ledger calls -/

/-- The statements behind a ledger call. `failure` is how opening may fail before any table is
looked at. -/
def runLedger (codec : Codec) (failure : OpsError) : (call : LedgerCall) → Sql call.Value
  | .openLedger => Ledger.Reads.openLedger codec failure
  | .loadPlan planId => loadPlan planId
  | .loadOperation operationId => Ledger.Writes.loadOperation operationId
  | .createOrReusePlan plan => createOrReusePlan codec plan
  | .beginOperation approval => beginOperation codec approval
  | .attachSnapshot operationId snapshot nowMs =>
    Ledger.Writes.attachSnapshot codec operationId snapshot nowMs
  | .transition operationId change diagnostics command =>
    transitionInternal codec operationId change diagnostics command
  | .receipt operationId => load fun tables => Ledger.Reads.receiptFrom codec tables operationId
  | .incompleteOperations => load Ledger.Reads.incompleteOperationsFrom
  | .expiredUnexecutedProposalPlans nowMs =>
    load fun tables => Ledger.Reads.expiredUnexecutedProposalPlansFrom tables nowMs
  | .hasRecentStagingEvidence evidenceKey notBeforeMs =>
    select fun tables =>
      Ledger.Reads.hasRecentStagingEvidenceFrom tables evidenceKey notBeforeMs

/-- The write that a ledger call may commit. -/
def writeOf : LedgerCall → Option LedgerWrite
  | .createOrReusePlan plan => some (.createOrReusePlan plan)
  | .beginOperation approval => some (.beginOperation approval)
  | .attachSnapshot operationId snapshot nowMs => some (.attachSnapshot operationId snapshot nowMs)
  | .transition operationId change diagnostics command =>
    some (.transition operationId change diagnostics command)
  | _ => none

section Ledger

variable {codec : Codec} {failure : OpsError} {ledger : LedgerState}

private theorem outcome_openLedger :
    Outcome (Ledger.Reads.openLedger codec failure) ledger fun _ after =>
      after.tables = ledger.tables := by
  refine Outcome.bind (Outcome.execute rfl (Outcome.bind (Outcome.query rfl ?_)))
  dsimp only [id]
  cases Ledger.Reads.validateContinuity codec ledger with
  | error error => rfl
  | ok value => exact outcome_completePendingCheckpoint

/-- A ledger call changes the tables by the commit of its write or not at all. -/
theorem outcome_runLedger (call : LedgerCall) :
    Outcome (runLedger codec failure call) ledger fun _ after =>
      after.tables = ledger.tables ∨
        ∃ write, writeOf call = some write ∧ Commit codec ledger.tables write after.tables := by
  have writes {α : Type} {write : LedgerWrite} {reused : α → Prop}
      {reply : Tables → Except OpsError α} {program : Sql α}
      (holds : Outcome program ledger (CallPost codec ledger write reused reply)) :
      Outcome program ledger fun _ after => after.tables = ledger.tables ∨
        ∃ other, some write = some other ∧ Commit codec ledger.tables other after.tables := by
    refine holds.mono fun result after post => ?_
    rcases post with ⟨rfl, _⟩ | ⟨commit, _⟩
    · exact .inl rfl
    · exact .inr ⟨write, rfl, commit⟩
  have reads {α : Type} (read : Tables → Except OpsError α) :
      Outcome (load read) ledger fun _ after => after.tables = ledger.tables ∨
        ∃ other, none = some other ∧ Commit codec ledger.tables other after.tables :=
    outcome_load (.inl rfl) (.inl rfl)
  cases call with
  | openLedger => exact outcome_openLedger.mono fun _ _ same => .inl same
  | createOrReusePlan plan => exact writes outcome_createOrReusePlan
  | beginOperation approval => exact writes outcome_beginOperation
  | attachSnapshot operationId snapshot nowMs =>
    exact writes outcome_attachSnapshot
  | transition operationId change diagnostics command =>
    exact writes outcome_transitionInternal
  | loadPlan planId => exact reads fun tables => loadPlanFrom tables planId
  | loadOperation operationId => exact reads fun tables => loadOperationFrom tables operationId
  | receipt operationId =>
    exact reads fun tables => Ledger.Reads.receiptFrom codec tables operationId
  | incompleteOperations => exact reads Ledger.Reads.incompleteOperationsFrom
  | expiredUnexecutedProposalPlans nowMs =>
    exact reads fun tables => Ledger.Reads.expiredUnexecutedProposalPlansFrom tables nowMs
  | hasRecentStagingEvidence key notBeforeMs =>
    exact reads fun tables =>
      .ok (Ledger.Reads.hasRecentStagingEvidenceFrom tables key notBeforeMs)

theorem outcome_runLedger_load (operationId : String) :
    Outcome (runLedger codec failure (.loadOperation operationId)) ledger fun result _ =>
      ∀ value, result = .ok value → loadOperationFrom ledger.tables operationId = .ok value := by
  change Outcome (load fun tables => loadOperationFrom tables operationId) ledger _
  refine outcome_load ?_ fun _ same => same
  intro value bad
  cases bad

theorem outcome_runLedger_incomplete :
    Outcome (runLedger codec failure .incompleteOperations) ledger fun result _ =>
      ∀ value, result = .ok value →
        Ledger.Reads.incompleteOperationsFrom ledger.tables = .ok value := by
  change Outcome (load Ledger.Reads.incompleteOperationsFrom) ledger _
  refine outcome_load ?_ fun _ same => same
  intro value bad
  cases bad

private theorem CallPost.committed {write : LedgerWrite} {operationId : String}
    {result : Except OpsError StoredOperation} {after : LedgerState}
    (post : CallPost codec ledger write (fun _ => False)
      (fun tables => loadOperationFrom tables operationId) result after)
    {value : StoredOperation} (same : result = .ok value) :
    Commit codec ledger.tables write after.tables ∧
      loadOperationFrom after.tables operationId = .ok value := by
  subst same
  rcases post with ⟨_, ⟨_, bad⟩ | ⟨_, _, reused⟩⟩ | ⟨commit, ⟨_, bad⟩ | read⟩
  · cases bad
  · exact reused.elim
  · cases bad
  · exact ⟨commit, read.symm⟩

theorem outcome_runLedger_attach (operationId : String) (snapshot : SnapshotRecord) (nowMs : Int) :
    Outcome (runLedger codec failure (.attachSnapshot operationId snapshot nowMs)) ledger
      fun result after => ∀ value, result = .ok value →
        Commit codec ledger.tables (.attachSnapshot operationId snapshot nowMs) after.tables ∧
          loadOperationFrom after.tables operationId = .ok value :=
  outcome_attachSnapshot.mono fun _ _ post _ same =>
    CallPost.committed post same

theorem outcome_runLedger_transition (operationId : String) (change : Transition)
    (diagnostics : Option StoredDiagnostics) (command : Option OperationCommandEvidenceView) :
    Outcome (runLedger codec failure (.transition operationId change diagnostics command)) ledger
      fun result after => ∀ value, result = .ok value →
        Commit codec ledger.tables (.transition operationId change diagnostics command)
          after.tables ∧ loadOperationFrom after.tables operationId = .ok value :=
  outcome_transitionInternal.mono fun _ _ post _ same =>
    CallPost.committed post same

end Ledger

/-! ### Worlds -/

/-- One call as it happened: the tables around it, the operation it was made for, its answer. -/
structure Entry where
  before : Tables
  after : Tables
  focus : Option String
  call : Call
  answer : call.Answer

/-- The ledger on disk, the host and, newest first, all calls made so far. -/
structure World (H : Type) where
  ledger : LedgerState
  host : H
  focus : Option String
  log : List Entry

/-- How a host answers, and how it changes by itself. -/
structure HostModel (H : Type) where
  answer : H → (call : HostCall) → call.Answer → H → Prop
  drift : H → H → Prop

namespace World

variable {H : Type}

def tables (world : World H) : Tables := world.ledger.tables

def focusOn (world : World H) (focus : Option String) : World H := { world with focus := focus }

def answered (world : World H) (ledger : LedgerState) (host : H) (call : Call)
    (answer : call.Answer) : World H where
  ledger := ledger
  host := host
  focus := world.focus
  log := ⟨world.tables, ledger.tables, world.focus, call, answer⟩ :: world.log

end World

/-- Ledger calls run their statements under any schedule of faults. -/
def environment (runtime : Runtime) {H : Type} (model : HostModel H) :
    Environment Call Call.Answer (World H)
  | world, .mark operationId, _, after => after = world.focusOn (some operationId)
  | world, .host call, answer, after => Produced call answer ∧
      ∃ host, model.answer world.host call answer host ∧
        after = world.answered world.ledger host (.host call) answer
  | world, .ledger call, answer, after => ∃ failure faults ledger,
      runLedger runtime.toCodec failure call ⟨world.ledger, faults⟩ = (answer, ledger) ∧
        after = world.answered ledger.store world.host (.ledger call) answer

/-- A ledger call leaves the host alone and changes the tables by one commit or not at all. -/
theorem ledger_stepped {runtime : Runtime} {H : Type} {model : HostModel H}
    {world after : World H} {call : LedgerCall} {answer : (Call.ledger call).Answer}
    (stepped : environment runtime model world (.ledger call) answer after) :
    ∃ session : Session LedgerState,
      after = world.answered session.store world.host (.ledger call) answer ∧
      (session.store.tables = world.tables ∨ ∃ write, writeOf call = some write ∧
        Commit runtime.toCodec world.tables write session.store.tables) := by
  obtain ⟨failure, faults, session, ran, rfl⟩ := stepped
  have changed := @outcome_runLedger runtime.toCodec failure world.ledger call faults
  rw [ran] at changed
  exact ⟨session, rfl, changed⟩

section Reads

variable {runtime : Runtime} {H : Type} {model : HostModel H} {world after : World H}

theorem tables_of_read {call : LedgerCall} {answer : (Call.ledger call).Answer}
    (stepped : environment runtime model world (.ledger call) answer after)
    (reads : writeOf call = none) : after.tables = world.tables := by
  obtain ⟨session, rfl, same | ⟨write, writes, _⟩⟩ := ledger_stepped stepped
  · exact same
  · rw [reads] at writes
    cases writes

/-- What the ledger answers about an operation is what it keeps. -/
theorem loaded_stored {operationId : String} {operation : StoredOperation}
    (stepped : environment runtime model world (.ledger (.loadOperation operationId))
      (.ok operation) after) :
    loadOperationFrom after.tables operationId = .ok operation := by
  rw [tables_of_read stepped rfl]
  obtain ⟨failure, faults, session, ran, rfl⟩ := stepped
  have read := @outcome_runLedger_load runtime.toCodec failure world.ledger operationId faults
  rw [ran] at read
  exact read _ rfl

theorem incomplete_stored {operations : List StoredOperation}
    (stepped : environment runtime model world (.ledger .incompleteOperations) (.ok operations)
      after) : Ledger.Reads.incompleteOperationsFrom after.tables = .ok operations := by
  rw [tables_of_read stepped rfl]
  obtain ⟨failure, faults, session, ran, rfl⟩ := stepped
  have read := @outcome_runLedger_incomplete runtime.toCodec failure world.ledger faults
  rw [ran] at read
  exact read _ rfl

end Reads

/-! ### The daemon -/

inductive Phase where
  | stopped | serving
  deriving DecidableEq, Repr

structure Machine (H : Type) where
  phase : Phase
  world : World H

section Machine

variable (runtime : Runtime) {H : Type} (model : HostModel H)

/-- The daemon starts with `initialize` and serves one request after the other; it may stop within
either, and the host may change between them. -/
inductive MachineStep : Machine H → Machine H → Prop where
  | started {world after : World H} {nowMs : Int}
      (run : Completes (environment runtime model) (initializeService runtime nowMs).run
        (world.focusOn none) (.ok ()) after) :
      MachineStep ⟨.stopped, world⟩ ⟨.serving, after⟩
  | startFailed {world after : World H} {nowMs : Int} {error : OpsError}
      (run : Completes (environment runtime model) (initializeService runtime nowMs).run
        (world.focusOn none) (.error error) after) :
      MachineStep ⟨.stopped, world⟩ ⟨.stopped, after⟩
  | crashedStarting {world after : World H} {nowMs : Int}
      (run : Interrupted (environment runtime model) (initializeService runtime nowMs).run
        (world.focusOn none) after) :
      MachineStep ⟨.stopped, world⟩ ⟨.stopped, after⟩
  | served {world after : World H} {request : Request} {nowMs : Int}
      {result : Except OpsError Unit}
      (run : Completes (environment runtime model) (handleBody runtime request nowMs).run
        (world.focusOn none) result after) :
      MachineStep ⟨.serving, world⟩ ⟨.serving, after⟩
  | crashed {world after : World H} {request : Request} {nowMs : Int}
      (run : Interrupted (environment runtime model) (handleBody runtime request nowMs).run
        (world.focusOn none) after) :
      MachineStep ⟨.serving, world⟩ ⟨.stopped, after⟩
  | drifted {world : World H} {phase : Phase} {host : H}
      (change : model.drift world.host host) :
      MachineStep ⟨phase, world⟩ ⟨phase, { world with host := host }⟩

variable {runtime model} in
/-- What guarded calls keep, the daemon keeps if its programs make guarded calls. -/
theorem MachineStep.keeps {guard : World H → Call → Prop} {invariant : World H → Prop}
    {machine next : Machine H} (step : MachineStep runtime model machine next)
    (kept : ∀ world call answer after, invariant world → guard world call →
      environment runtime model world call answer after → invariant after)
    (start : invariant (machine.world.focusOn none))
    (starts : ∀ nowMs, SafeE (environment runtime model) guard (initializeService runtime nowMs)
      (machine.world.focusOn none) fun _ _ => True)
    (serves : ∀ request nowMs, SafeE (environment runtime model) guard
      (handleBody runtime request nowMs) (machine.world.focusOn none) fun _ _ => True)
    (drifts : ∀ host, model.drift machine.world.host host →
      invariant { machine.world with host := host }) : invariant next.world := by
  cases step with
  | started run | startFailed run => exact (starts _).interrupted kept start run.interrupted
  | crashedStarting run => exact (starts _).interrupted kept start run
  | served run => exact (serves _ _).interrupted kept start run.interrupted
  | crashed run => exact (serves _ _).interrupted kept start run
  | drifted change => exact drifts _ change

/-- Reached from the installed daemon with an empty ledger. -/
def Reachable (machine : Machine H) : Prop :=
  ∃ host, Relation.ReflTransGen (MachineStep runtime model) ⟨.stopped, emptyLedger, host, none, []⟩
    machine

end Machine

end JwOps.Lifecycle.System
