/- module: Lifecycle/Simulation
   source: crates/jw-opsd/src/{engine,ledger}.rs
   digest: Whatever ledger and host answer while one operation is worked on, its track follows. -/
import JwOps.Lifecycle.System

set_option autoImplicit false

namespace JwOps.Lifecycle.Simulation

open Ledger Contracts.Digest Schema Writes Commits Locks Engine.Interface History Tracking
open Lifecycle.System
open Foundation.Program (Simulates)

/-! ### What the log tells of one operation -/

/-- A host call made for the operation, with the operation as it was committed then. -/
def observedFor (operationId : String) : Entry → Option Observation
  | ⟨before, _, focus, .host call, answer⟩ =>
    if focus = some operationId then
      match loadOperationFrom before operationId with
      | .ok operation => some ⟨operation, call, answer⟩
      | .error _ => none
    else none
  | _ => none

def seenFor (operationId : String) (log : List Entry) : List Observation :=
  log.filterMap (observedFor operationId)

def ledgerFailed : Entry → Bool
  | ⟨_, _, _, .ledger _, answer⟩ => !answer.toBool
  | _ => false

/-! ### The relation -/

variable {H : Type}

/-- The world since `base`, with one operation in focus. -/
structure Related (base : World H) (operationId : String) (world : World H) (track : Track) :
    Prop where
  id : track.operation.operationId = operationId
  focus : world.focus = some operationId
  keyed : OperationsKeyed world.tables
  others : ∀ other, other ≠ operationId →
    loadOperationFrom world.tables other = loadOperationFrom base.tables other
  stored : track.known = true → loadOperationFrom world.tables operationId = .ok track.operation
  faultless : track.fault = false → track.known = true
  log : ∃ recent, world.log = recent ++ base.log ∧ track.fault = recent.any ledgerFailed ∧
    (track.known = true → track.seen = seenFor operationId recent)

section Steps

variable {runtime : Runtime} {model : HostModel H} {base world : World H} {operationId : String}
  {track : Track} {codec : Codec}

variable {call : LedgerCall}

section

variable (related : Related base operationId world track)
include related

theorem Related.observe {call : HostCall} (answer : call.Answer) (host : H) :
    Related base operationId (world.answered world.ledger host (.host call) answer)
      (track.observe call answer) := by
  refine ⟨related.id, related.focus, related.keyed, related.others, related.stored,
    related.faultless, ?_⟩
  obtain ⟨recent, log, fault, seen⟩ := related.log
  refine ⟨_ :: recent, congrArg _ log, ?_, fun known => ?_⟩
  · rw [Track.observe, fault]
    rfl
  · have added : observedFor operationId
        ⟨world.tables, world.ledger.tables, world.focus, .host call, answer⟩ =
          some ⟨track.operation, call, answer⟩ := by
      simp only [observedFor, related.focus, ↓reduceIte, related.stored known]
    rw [Track.observe, seenFor, List.filterMap_cons_some added]
    exact congrArg _ (seen known)

/-- What a ledger call does to the operations other than the one in focus: nothing. -/
theorem Related.framed (allowed : guard runtime track (.ledger call)) {after : Tables}
    (changed : after = world.tables ∨ ∃ write, writeOf call = some write ∧
      Commit codec world.tables write after) :
    OperationsKeyed after ∧
      (∀ other, other ≠ operationId →
        loadOperationFrom after other = loadOperationFrom base.tables other) ∧
      (isWrite call = false → after = world.tables) := by
  rcases changed with rfl | ⟨write, writes, commit⟩
  · exact ⟨related.keyed, related.others, fun _ => rfl⟩
  have about : target write = some operationId ∧ isWrite call = true := by
    cases call with
    | attachSnapshot _ _ _ | transition _ _ _ _ =>
      obtain rfl := Option.some.inj writes
      exact ⟨congrArg some (allowed.1.trans related.id), rfl⟩
    | createOrReusePlan _ | beginOperation _ => exact allowed.elim
    | _ => cases writes
  refine ⟨related.keyed.commit commit, fun other differ => ?_, fun reads => ?_⟩
  · rw [Commit.others related.keyed commit]
    · exact related.others other differ
    · rw [about.1]
      exact fun same => differ (Option.some.inj same).symm
  · rw [about.2] at reads
    cases reads

theorem Related.failed (allowed : guard runtime track (.ledger call)) {ledger : LedgerState}
    (changed : ledger.tables = world.tables ∨ ∃ write, writeOf call = some write ∧
      Commit codec world.tables write ledger.tables)
    (error : OpsError) :
    Related base operationId (world.answered ledger world.host (.ledger call) (.error error))
      (track.failed call) := by
  obtain ⟨keyed, others, reads⟩ := related.framed allowed changed
  obtain ⟨recent, log, _, seen⟩ := related.log
  refine ⟨related.id, related.focus, keyed, others, fun known => ?_, nofun,
    _ :: recent, congrArg _ log, rfl, fun known => ?_⟩
  · simp only [Track.failed, Bool.and_eq_true, Bool.not_eq_true'] at known
    change loadOperationFrom ledger.tables operationId = _
    rw [reads known.2]
    exact related.stored known.1
  · simp only [Track.failed, Bool.and_eq_true] at known
    exact seen known.1

/-- A ledger call that succeeds leaves the operation that it read or wrote. -/
theorem Related.advanced (allowed : guard runtime track (.ledger call)) {ledger : LedgerState}
    (changed : ledger.tables = world.tables ∨ ∃ write, writeOf call = some write ∧
      Commit codec world.tables write ledger.tables)
    (value : call.Value) {operation : StoredOperation} (id : operation.operationId = operationId)
    (known : track.known = true)
    (stored : loadOperationFrom ledger.tables operationId = .ok operation) :
    Related base operationId (world.answered ledger world.host (.ledger call) (.ok value))
      (track.moveTo operation) := by
  obtain ⟨keyed, others, _⟩ := related.framed allowed changed
  obtain ⟨recent, log, fault, seen⟩ := related.log
  refine ⟨id, related.focus, keyed, others, fun _ => stored, fun _ => known,
    _ :: recent, congrArg _ log, ?_, fun _ => ?_⟩
  · rw [Track.moveTo, fault]
    rfl
  · exact seen known

/-- Reads that tell nothing about the operation. -/
theorem Related.read (allowed : guard runtime track (.ledger call)) {ledger : LedgerState}
    (changed : ledger.tables = world.tables ∨ ∃ write, writeOf call = some write ∧
      Commit codec world.tables write ledger.tables)
    (reads : isWrite call = false) (value : call.Value) :
    Related base operationId (world.answered ledger world.host (.ledger call) (.ok value))
      track := by
  obtain ⟨keyed, others, same⟩ := related.framed allowed changed
  obtain ⟨recent, log, fault, seen⟩ := related.log
  refine ⟨related.id, related.focus, keyed, others, fun known => ?_, related.faultless,
    _ :: recent, congrArg _ log, ?_, seen⟩
  · change loadOperationFrom ledger.tables operationId = _
    rw [same reads]
    exact related.stored known
  · rw [fault]
    rfl

end

end Steps

/-- Every call that a track allows is answered by the system as the track says. -/
theorem simulates (runtime : Runtime) (model : HostModel H) (base : World H)
    (operationId : String) :
    Simulates (environment runtime model) step (guard runtime) (Related base operationId) := by
  refine ⟨?_⟩
  intro world track call answer after related allowed stepped
  cases call with
  | mark identifier => exact allowed.elim
  | host call =>
    obtain ⟨produced, host, _, rfl⟩ := stepped
    exact ⟨track.observe call answer, ⟨produced, rfl⟩, related.observe answer host⟩
  | ledger call =>
    obtain ⟨failure, faults, session, ran, rfl⟩ := stepped
    have changed := @outcome_runLedger runtime.toCodec failure world.ledger call faults
    rw [ran] at changed
    cases answer with
    | error error =>
      exact ⟨track.failed call, by cases call <;> rfl, related.failed allowed changed error⟩
    | ok value =>
      cases call with
      | openLedger | receipt _ | hasRecentStagingEvidence _ _ =>
        exact ⟨track, rfl, related.read allowed changed rfl value⟩
      | loadOperation identifier =>
        obtain rfl : identifier = operationId := allowed.1.trans related.id
        have read := @outcome_runLedger_load runtime.toCodec failure world.ledger identifier
          faults
        rw [ran] at read
        have same := (read value rfl).symm.trans (related.stored allowed.2)
        exact ⟨track, ⟨Except.ok.inj same, rfl⟩, related.read allowed changed rfl value⟩
      | attachSnapshot identifier record nowMs =>
        obtain rfl : identifier = operationId := allowed.1.trans related.id
        have written := @outcome_runLedger_attach runtime.toCodec failure world.ledger
          identifier record nowMs faults
        rw [ran] at written
        obtain ⟨commit, stored⟩ := written value rfl
        obtain ⟨reached, change, read⟩ := Commit.written related.keyed commit rfl
        obtain rfl : reached = value := Except.ok.inj (read.symm.trans stored)
        cases change with
        | attached before approved =>
          have same := Except.ok.inj (before.symm.trans (related.stored allowed.2.1))
          refine ⟨track.moveTo _, ⟨by rw [same], rfl⟩,
            related.advanced allowed changed _ ?_ allowed.2.1 stored⟩
          exact loadOperationFrom_id stored
      | transition identifier change diagnostics command =>
        obtain rfl : identifier = operationId := allowed.1.trans related.id
        have written := @outcome_runLedger_transition runtime.toCodec failure world.ledger
          identifier change diagnostics command faults
        rw [ran] at written
        obtain ⟨commit, stored⟩ := written value rfl
        obtain ⟨reached, moved, read⟩ := Commit.written related.keyed commit rfl
        obtain rfl : reached = value := Except.ok.inj (read.symm.trans stored)
        cases moved with
        | moved before expected =>
          have same := Except.ok.inj (before.symm.trans (related.stored allowed.2.1))
          refine ⟨track.moveTo _, ⟨by rw [same], rfl⟩,
            related.advanced allowed changed _ ?_ allowed.2.1 stored⟩
          exact loadOperationFrom_id stored
      | _ => exact allowed.elim

/-- The world in which an operation comes into focus. -/
theorem related_start {world : World H} {operation : StoredOperation}
    (keyed : OperationsKeyed world.tables)
    (stored : loadOperationFrom world.tables operation.operationId = .ok operation) :
    Related world operation.operationId (world.focusOn (some operation.operationId))
      ⟨operation, true, false, []⟩ :=
  ⟨rfl, rfl, keyed, fun _ _ => rfl, fun _ => stored, fun _ => rfl, [], rfl, rfl, fun _ => rfl⟩

end JwOps.Lifecycle.Simulation
