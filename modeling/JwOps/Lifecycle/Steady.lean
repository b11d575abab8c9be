/- module: Lifecycle/Steady
   source: crates/jw-opsd/src/engine.rs
   digest: Runs on a host that keeps to its answers, and runs in which nothing fails either. -/
import JwOps.Ledger.Checkpoints
import JwOps.Ledger.Idempotency
import JwOps.Lifecycle.Sessions

set_option autoImplicit false

namespace JwOps.Lifecycle.Steady

open Contracts Ledger Digest Config Schema Writes
open Ledger.Commits (Commit outcome_load outcome_check)
open Ledger.Reads (expiredUnexecutedProposalPlansFrom hasRecentStagingEvidenceFrom)
open Ledger.Checkpoints (Sound sound_openLedger openLedger_quiet Cut runCuts)
open Ledger.Idempotency Engine.Interface Engine.Recovery Lifecycle.System
open Fragments (issues_perform)
open Lifecycle.Sessions Foundation.Keyed Foundation.Program
open Foundation.Transaction (Outcome run_query_quiet)

/-! ### Hosts that keep to their answers -/

abbrev Answers := (call : HostCall) → call.Answer

/-- Every call has one answer, whenever it is made. -/
def steadyHost (answers : Answers) : HostModel Unit :=
  ⟨fun _ call answer _ => answer = answers call, fun _ _ => False⟩

/-- The host keeps to its answers and no statement of the ledger fails. -/
def quietly (runtime : Runtime) (answers : Answers) :
    World Unit → (call : Call) → call.Answer × World Unit :=
  playing runtime (fun _ call => (answers call, ())) fun _ => []

def quiet (runtime : Runtime) (answers : Answers) : Environment Call Call.Answer (World Unit) :=
  fun world call answer after => quietly runtime answers world call = (answer, after)

/-- What `program` gives in every run of the environment. -/
abbrev Gives {α : Type} (env : Environment Call Call.Answer (World Unit)) (program : Ops α)
    (world : World Unit) (post : Except OpsError α → World Unit → Prop) : Prop :=
  SafeE env (fun _ _ => True) program world post

/-- Calls to the host do not touch the ledger. -/
def KeepsTo (env : Environment Call Call.Answer (World Unit)) (answers : Answers) : Prop :=
  ∀ world call answer after, env world (.host call) answer after →
    answer = answers call ∧ after.ledger = world.ledger

variable {runtime : Runtime} {answers : Answers} {world : World Unit} {α β : Type}

theorem steady_environment : KeepsTo (environment runtime (steadyHost answers)) answers := by
  rintro world call answer after ⟨_, host, same, rfl⟩
  exact ⟨same, rfl⟩

theorem steady_quiet : KeepsTo (quiet runtime answers) answers := by
  intro world call answer after played
  cases played
  exact ⟨rfl, rfl⟩

/-- The quiet run is the one that the handler computes. -/
theorem Gives.result {program : Ops α} {post : Except OpsError α → World Unit → Prop}
    (gives : Gives (quiet runtime answers) program world post) :
    post (runWith (quietly runtime answers) program.run world).1
      (runWith (quietly runtime answers) program.run world).2 :=
  gives.completes (completes_runWith (fun _ _ => rfl) _ _)

/-! ### Calls -/

section Calls

variable {env : Environment Call Call.Answer (World Unit)}

variable {call : LedgerCall} {post : Except OpsError call.Value → World Unit → Prop}

theorem gives_host (steady : KeepsTo env answers) {call : HostCall}
    {view : call.Answer → Except OpsError α} {post : Except OpsError α → World Unit → Prop}
    (holds : ∀ after : World Unit, after.ledger = world.ledger → post (view (answers call)) after) :
    Gives env (perform (.host call) view) world post := by
  refine ⟨trivial, fun answer after stepped => ?_⟩
  obtain ⟨rfl, same⟩ := steady world call answer after stepped
  exact holds after same

/-- Ledger calls under any faults. -/
theorem gives_ledger
    (holds : ∀ failure, Outcome (runLedger runtime.toCodec failure call) world.ledger
      fun result ledger => ∀ after : World Unit, after.ledger = ledger → post result after) :
    Gives (environment runtime (steadyHost answers)) (ledger call) world post := by
  refine ⟨trivial, fun answer after stepped => ?_⟩
  obtain ⟨failure, faults, session, ran, rfl⟩ := stepped
  have outcome := holds failure faults
  rw [ran] at outcome
  exact outcome _ rfl

theorem quiet_ledger {answer : Except OpsError call.Value} {session : _}
    (ran : runLedger runtime.toCodec sqlError call ⟨world.ledger, []⟩ = (answer, session))
    (holds : ∀ after : World Unit, after.ledger = session.store → post answer after) :
    Gives (quiet runtime answers) (ledger call) world post := by
  refine ⟨trivial, fun given after played => ?_⟩
  unfold quiet quietly playing at played
  dsimp only at played
  rw [ran] at played
  cases played
  exact holds _ rfl

end Calls

/-! ### Programs that only ask the host -/

/-- Calls to the host for anything but random bytes. -/
def Asking : Call → Prop
  | .host call => call ≠ .randomBytes
  | _ => False

/-- The result of a program that only asks the host. -/
def steadily (answers : Answers) (program : Ops α) : Except OpsError α :=
  (runWith (fun (_ : Unit) call =>
    match call with
    | .host call => (answers call, ())
    | .ledger _ => (.error sqlError, ())
    | .mark _ => ((), ())) program.run ()).1

@[simp] theorem steadily_pure (value : α) : steadily answers (pure value) = .ok value := rfl

@[simp] theorem steadily_lift (result : Except OpsError α) :
    steadily answers (lift result) = result := rfl

@[simp] theorem steadily_host {call : HostCall} (view : call.Answer → Except OpsError α) :
    steadily answers (perform (.host call) view) = view (answers call) := rfl

@[simp] theorem steadily_bind (program : Ops α) (next : α → Ops β) :
    steadily answers (program >>= next) =
      (steadily answers program >>= fun value => steadily answers (next value)) := by
  unfold steadily
  change (runWith _ (program.run >>= _) ()).1 = _
  rw [runWith_bind]
  cases (runWith _ program.run ()).1 with
  | error error => rfl
  | ok value => rfl

@[simp] theorem steadily_attempt (program : Ops α) :
    steadily answers (attempt program) = .ok (steadily answers program) := by
  unfold steadily attempt
  change (runWith _ (program.run >>= _) ()).1 = _
  rw [runWith_bind]
  rfl

@[simp] theorem steadily_rejectIf {condition : Prop} [Decidable condition] {error : OpsError} :
    steadily answers (rejectIf condition error) = if condition then .error error else .ok () := by
  unfold rejectIf
  split
  · rfl
  · rfl

@[simp] theorem steadily_mapError (program : Ops α) (change : OpsError → OpsError) :
    steadily answers (mapError program change) = (steadily answers program).mapError change := by
  unfold steadily mapError onError
  change (runWith _ (program.run >>= _) ()).1 = _
  rw [runWith_bind]
  cases (runWith _ program.run ()).1 with
  | error error => rfl
  | ok value => rfl

theorem gives_steadily {env : Environment Call Call.Answer (World Unit)}
    (steady : KeepsTo env answers) {program : Ops α} (asks : IssuesE Asking program) :
    Gives env program world fun result after =>
      result = steadily answers program ∧ after.ledger = world.ledger := by
  change Safe env _ program.run world _
  unfold steadily
  change Issues Asking program.run at asks
  generalize program.run = tree at asks
  induction tree generalizing world with
  | ret value => exact ⟨rfl, rfl⟩
  | call op next ih =>
    refine ⟨trivial, fun answer after stepped => ?_⟩
    cases op with
    | mark operationId => exact asks.1.elim
    | ledger call => exact asks.1.elim
    | host call =>
      obtain ⟨rfl, same⟩ := steady world call answer after stepped
      refine (ih _ (asks.2 _)).mono fun result last given => ?_
      exact ⟨given.1, given.2.trans same⟩

theorem steadily_congr {answers later : Answers}
    (same : ∀ call, call ≠ .randomBytes → later call = answers call) {program : Ops α}
    (asks : IssuesE Asking program) : steadily later program = steadily answers program := by
  unfold steadily
  change Issues Asking program.run at asks
  generalize program.run = tree at asks
  induction tree with
  | ret value => rfl
  | call op next ih =>
    cases op with
    | mark operationId => exact asks.1.elim
    | ledger call => exact asks.1.elim
    | host call =>
      unfold runWith
      dsimp only
      rw [same call asks.1]
      exact ih _ (asks.2 _)

/-! ### The ledger -/

/-- What a call that may be cut short does to the tables. -/
theorem outcome_cut {codec : Codec} {ledger : LedgerState} {call : Ledger.Checkpoints.Call} :
    Outcome (call.run codec) ledger fun _ after =>
      after.tables = ledger.tables ∨ ∃ write, Commit codec ledger.tables write after.tables := by
  have known (call : LedgerCall) : Outcome (runLedger codec sqlError call) ledger fun _ after =>
      after.tables = ledger.tables ∨ ∃ write, Commit codec ledger.tables write after.tables :=
    (outcome_runLedger call).mono fun _ _ kept => kept.imp_right fun ⟨write, _, commit⟩ =>
      ⟨write, commit⟩
  have unanswered {α : Type} {program : Sql α}
      (holds : Outcome program ledger fun _ after =>
        after.tables = ledger.tables ∨ ∃ write, Commit codec ledger.tables write after.tables) :
      Outcome (do let _ ← program) ledger fun _ after =>
        after.tables = ledger.tables ∨ ∃ write, Commit codec ledger.tables write after.tables := by
    refine Outcome.bind (holds.mono ?_)
    intro result after kept
    cases result with
    | error error => exact kept
    | ok value => exact Outcome.ret _ kept
  have prepared {α : Type} (result : Except OpsError α) (next : α → Sql StoredOperation)
      (holds : ∀ value, Outcome (next value) ledger fun _ after =>
        after.tables = ledger.tables ∨ ∃ write, Commit codec ledger.tables write after.tables) :
      Outcome (check result >>= next) ledger fun _ after =>
        after.tables = ledger.tables ∨ ∃ write, Commit codec ledger.tables write after.tables := by
    refine Outcome.bind (outcome_check ?_)
    cases result with
    | error error => exact .inl rfl
    | ok value => exact holds value
  cases call with
  | openLedger failure =>
    exact (@outcome_runLedger codec failure ledger .openLedger).mono fun _ _ kept =>
      kept.imp_right fun ⟨write, _, commit⟩ => ⟨write, commit⟩
  | createOrReusePlan plan => exact unanswered (known (.createOrReusePlan plan))
  | beginOperation approval => exact unanswered (known (.beginOperation approval))
  | attachSnapshot operationId snapshot nowMs =>
    exact unanswered (known (.attachSnapshot operationId snapshot nowMs))
  | transition operationId change =>
    exact unanswered (known (.transition operationId change none none))
  | transitionWithCommandEvidence operationId change command =>
    exact unanswered (prepared _ _ fun _ => known (.transition operationId _ _ _))
  | transitionWithDiagnostics operationId change diagnostics =>
    refine unanswered ?_
    unfold Ledger.Checkpoints.transitionWithDiagnostics
    split
    · exact known (.transition operationId change none none)
    · exact prepared _ _ fun _ => known (.transition operationId _ _ _)
  | transitionWithDiagnosticsAndCommand operationId change diagnostics command =>
    refine unanswered ?_
    unfold Ledger.Checkpoints.transitionWithDiagnosticsAndCommand
    split
    · exact prepared _ _ fun _ => known (.transition operationId _ _ _)
    · exact prepared _ _ fun _ => prepared _ _ fun _ => known (.transition operationId _ _ _)

theorem committed_runCuts {codec : Codec} {ledger : LedgerState} {cuts : List Cut} :
    Committed codec ledger.tables (runCuts codec ledger cuts).tables := by
  induction cuts generalizing ledger with
  | nil => exact .refl
  | cons cut rest ih =>
    have later := @ih (cut.perform codec ledger)
    rcases @outcome_cut codec ledger cut.call cut.faults with same | ⟨write, commit⟩
    · exact same ▸ later
    · exact .head ⟨write, commit⟩ later

/-- The ledger kept its tables and still passes its own checks. -/
structure Held (runtime : Runtime) (world after : World Unit) : Prop where
  tables : after.ledger.tables = world.ledger.tables
  sound : Sound runtime.toCodec after.ledger

theorem Held.refl (sound : Sound runtime.toCodec world.ledger) : Held runtime world world :=
  ⟨rfl, sound⟩

theorem Held.same {middle after : World Unit} (held : Held runtime world middle)
    (same : after.ledger = middle.ledger) : Held runtime world after :=
  ⟨by rw [same, held.tables], by rw [same]; exact held.sound⟩

theorem Held.trans {middle after : World Unit} (first : Held runtime world middle)
    (second : Held runtime middle after) : Held runtime world after :=
  ⟨second.tables.trans first.tables, second.sound⟩

/-- The host keeps to its answers, and opening a sound ledger keeps its tables. -/
structure Lasting (runtime : Runtime) (env : Environment Call Call.Answer (World Unit))
    (answers : Answers) : Prop where
  host : KeepsTo env answers
  opens : ∀ world : World Unit, Sound runtime.toCodec world.ledger →
    Gives env (ledger .openLedger) world fun _ after => Held runtime world after

theorem lasting_environment :
    Lasting runtime (environment runtime (steadyHost answers)) answers := by
  refine ⟨steady_environment, fun world sound => gives_ledger fun failure => ?_⟩
  refine ((outcome_runLedger .openLedger).and (sound_openLedger sound failure)).mono ?_
  rintro result reached ⟨kept, stays⟩ after rfl
  rcases kept with same | ⟨write, writes, _⟩
  · exact ⟨same, stays⟩
  · cases writes

theorem held_openLedger {env : Environment Call Call.Answer (World Unit)}
    (lasting : Lasting runtime env answers) (sound : Sound runtime.toCodec world.ledger) :
    Gives env openLedger world fun _ after => Held runtime world after := by
  refine SafeE.onError ((lasting.opens world sound).mono fun result after held => ?_)
  cases result with
  | ok _ => exact held
  | error error =>
    dsimp only
    split
    · exact SafeE.bind (gives_host lasting.host fun last same => held.same same)
    · exact held

/-- Without faults a sound ledger opens. -/
theorem quiet_openLedger (sound : Sound runtime.toCodec world.ledger)
    (few : (world.ledger.tables.ledgerEvents.length : Int) < i64Max) :
    Gives (quiet runtime answers) openLedger world fun result after =>
      result = .ok () ∧ Held runtime world after := by
  obtain ⟨checkpoint, ran⟩ := openLedger_quiet sound few sqlError
  have kept := sound_openLedger sound sqlError []
  rw [ran] at kept
  refine SafeE.onError (quiet_ledger ran fun after same => ?_)
  exact ⟨rfl, by rw [same], by rw [same]; exact kept⟩

theorem lasting_quiet : Lasting runtime (quiet runtime answers) answers := by
  refine ⟨steady_quiet, fun world sound => ?_⟩
  refine quiet_ledger rfl fun after same => ?_
  have stays := sound_openLedger sound sqlError []
  have kept := @outcome_runLedger runtime.toCodec sqlError world.ledger .openLedger []
  refine ⟨?_, by rw [same]; exact stays⟩
  rw [same]
  rcases kept with tables | ⟨write, writes, _⟩
  · exact tables
  · cases writes

/-- A ledger call that only reads, under any faults. -/
theorem held_read {call : LedgerCall} {read : Tables → Except OpsError call.Value}
    (reads : ∀ failure, runLedger runtime.toCodec failure call = load read) :
    Gives (environment runtime (steadyHost answers)) (ledger call) world fun result after =>
      after.ledger = world.ledger ∧
        (result = read world.ledger.tables ∨ ∃ error, result = .error error) := by
  refine gives_ledger fun failure => ?_
  rw [reads]
  refine outcome_load ?_ ?_
  · exact fun after same => ⟨same, .inr ⟨_, rfl⟩⟩
  · exact fun after same => ⟨same, .inl rfl⟩

theorem quiet_read {call : LedgerCall} {read : Tables → Except OpsError call.Value}
    (reads : runLedger runtime.toCodec sqlError call = load read) :
    Gives (quiet runtime answers) (ledger call) world fun result after =>
      result = read world.ledger.tables ∧ after.ledger = world.ledger := by
  have ran : runLedger runtime.toCodec sqlError call ⟨world.ledger, []⟩ =
      (read world.ledger.tables, ⟨world.ledger, []⟩) := by
    rw [reads]
    exact run_query_quiet rfl
  exact quiet_ledger ran fun after same => ⟨rfl, same⟩

/-- The plans whose proposals are to be swept can always be listed. -/
theorem expiredUnexecutedProposalPlansFrom_ok (tables : Tables) (nowMs : Int) :
    ∃ plans, expiredUnexecutedProposalPlansFrom tables nowMs = .ok plans := by
  have loads (rows : List StoredPlan) (stored : ∀ plan ∈ rows, plan ∈ tables.plans) :
      ∃ plans, rows.mapM (fun plan => loadPlanFrom tables plan.planId) = .ok plans := by
    induction rows with
    | nil => exact ⟨[], rfl⟩
    | cons plan rest ih =>
      obtain ⟨plans, loaded⟩ := ih fun other member => stored other (List.mem_cons_of_mem _ member)
      cases found : tables.findPlan plan.planId with
      | none => exact absurd rfl (lookup_eq_none.mp found plan (stored plan List.mem_cons_self))
      | some known =>
        refine ⟨known :: plans, ?_⟩
        rw [List.mapM_cons, loaded, loadPlanFrom, found]
        rfl
  refine loads _ fun plan member => ?_
  exact List.mem_of_mem_filter (List.mem_insertionSort _ |>.mp member)

theorem asking_cleanupProposal (record : ProposalRecord) :
    IssuesE Asking (cleanupProposal record) := by
  refine IssuesE.bind (IssuesE.attempt (IssuesE.checked ?_))
    fun _ => IssuesE.ret _
  exact issues_perform (by simp [Asking])

theorem succeeds_cleanupProposal (record : ProposalRecord) : Succeeds (cleanupProposal record) :=
  Succeeds.bind (Succeeds.attempt _) fun _ => rfl

/-- A program that only asks the host and never fails. -/
theorem gives_succeeds {env : Environment Call Call.Answer (World Unit)}
    (steady : KeepsTo env answers) {program : Ops Unit} (asks : IssuesE Asking program)
    (succeeds : Succeeds program) :
    Gives env program world fun result after => result = .ok () ∧ after.ledger = world.ledger := by
  refine Safe.mono (Safe.and (gives_steadily steady asks) (succeeds.safe env world)) ?_
  rintro result after ⟨⟨_, same⟩, isOk⟩
  cases result with
  | ok value => exact ⟨rfl, same⟩
  | error error => cases isOk

theorem asking_removePlanProposals {plans : List StoredPlan} :
    IssuesE Asking (plans.forM removePlanProposal) :=
  IssuesE.forM fun _ => IssuesE.forM asking_cleanupProposal

theorem held_removeExpiredProposals {nowMs : Int} (sound : Sound runtime.toCodec world.ledger) :
    Gives (environment runtime (steadyHost answers)) (removeExpiredProposals nowMs) world
      fun _ after => Held runtime world after := by
  refine SafeE.bind ((@held_read runtime answers world (.expiredUnexecutedProposalPlans nowMs)
    (fun tables => expiredUnexecutedProposalPlansFrom tables nowMs) fun _ => rfl).mono ?_)
  rintro result after ⟨same, _⟩
  have held := (Held.refl sound).same same
  cases result with
  | error error => exact held
  | ok plans =>
    refine (gives_steadily steady_environment asking_removePlanProposals).mono ?_
    rintro given last ⟨_, kept⟩
    exact held.same kept

/-- Sweeping never fails and leaves the ledger alone. -/
theorem quiet_removeExpiredProposals {nowMs : Int} :
    Gives (quiet runtime answers) (removeExpiredProposals nowMs) world fun result after =>
      result = .ok () ∧ after.ledger = world.ledger := by
  obtain ⟨plans, listed⟩ := expiredUnexecutedProposalPlansFrom_ok world.ledger.tables nowMs
  refine SafeE.bind ((@quiet_read runtime answers world (.expiredUnexecutedProposalPlans nowMs)
    (fun tables => expiredUnexecutedProposalPlansFrom tables nowMs) rfl).mono ?_)
  rintro result after ⟨rfl, same⟩
  rw [listed]
  refine (gives_succeeds steady_quiet asking_removePlanProposals
    (Succeeds.forM fun plan => Succeeds.forM succeeds_cleanupProposal)).mono ?_
  rintro result last ⟨rfl, kept⟩
  exact ⟨rfl, kept.trans same⟩

end JwOps.Lifecycle.Steady
