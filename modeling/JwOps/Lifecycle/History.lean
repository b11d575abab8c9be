/- module: Lifecycle/History
   source: crates/jw-opsd/src/ledger.rs, docs/40-contracts/operation-lifecycle.md
   digest: The lifecycle graph, and the chained events of an operation as a path of it. -/
import JwOps.Ledger.Locks
import Mathlib.Data.List.Chain

set_option autoImplicit false

namespace JwOps.Lifecycle.History

open Contracts Ledger Operation Digest Schema Writes Commits Locks Foundation.Keyed

/-! ### The graph -/

/-- The edges of the documented lifecycle. -/
def follows : OperationStage → OperationStage → Bool
  | .approved, next => next ∈ [.snapshotted, .cancelledBeforeApply]
  | .snapshotted, next => next ∈ [.applying, .verifying, .cancelledBeforeApply]
  | .applying, next => next ∈ [.validating, .reloading, .verifying, .rollingBack] || next.isTerminal
  | .validating, next => next ∈ [.reloading, .verifying, .rollingBack] || next.isTerminal
  | .reloading, next => next ∈ [.verifying, .rollingBack] || next.isTerminal
  | .verifying, next => next = .rollingBack || next.isTerminal
  | .rollingBack, next => next ∈ [.rolledBack, .recoveryRequired]
  | _, _ => false

theorem follows_running {stage next : OperationStage} (edge : follows stage next = true) :
    stage.isTerminal = false := by
  cases stage <;> first | rfl | cases edge

/-- The edges that the engine takes by a transition: `ROLLED_BACK` is entered from `ROLLING_BACK`
only, `SNAPSHOTTED` never, and a service has nothing to validate or to reload. -/
structure Moves (operationType : OperationType) (stage next : OperationStage) : Prop where
  edge : follows stage next = true
  restored : next = .rolledBack → stage = .rollingBack
  attached : next ≠ .snapshotted
  service : operationType = .serviceControl → next ≠ .validating ∧ next ≠ .reloading

/-- The edges of the path that is recorded. -/
def Step (stage next : OperationStage) : Prop :=
  follows stage next = true ∧ (next = .rolledBack → stage = .rollingBack)

/-! ### Operations under commits -/

def withTransition (operation : StoredOperation) (change : Transition) : StoredOperation :=
  { operation with
    stage := change.next
    afterDigest := change.afterDigest.getD operation.afterDigest
    rollbackResult := change.rollbackResult.or operation.rollbackResult }

def withSnapshot (operation : StoredOperation) (record : SnapshotRecord) : StoredOperation :=
  { operation with stage := .snapshotted, snapshot := some record }

def approvedOperation (plan : StoredPlan) (approval : Approval) : StoredOperation where
  operationId := approval.operationId
  plan := plan
  stage := .approved
  beforeDigest := plan.beforeDigest
  afterDigest := plan.beforeDigest
  rollbackResult := none
  snapshot := none

/-- The operation as a write leaves it, where the write is about one. -/
inductive Written (tables : Tables) : LedgerWrite → StoredOperation → Prop where
  | begun {approval : Approval} {plan : StoredPlan}
      (stored : tables.findPlan approval.planId = some plan) (approves : Approves approval plan)
      (fresh : ∀ row ∈ tables.operations, row.operationId ≠ approval.operationId ∧
        row.planId ≠ approval.planId) :
      Written tables (.beginOperation approval) (approvedOperation plan approval)
  | attached {operationId : String} {snapshot : SnapshotRecord} {nowMs : Int}
      {current : StoredOperation} (stored : loadOperationFrom tables operationId = .ok current)
      (approved : current.stage = .approved) :
      Written tables (.attachSnapshot operationId snapshot nowMs) (withSnapshot current snapshot)
  | moved {operationId : String} {change : Transition} {diagnostics : Option StoredDiagnostics}
      {command : Option OperationCommandEvidenceView} {current : StoredOperation}
      (stored : loadOperationFrom tables operationId = .ok current)
      (expected : current.stage ∈ change.expected) :
      Written tables (.transition operationId change diagnostics command)
        (withTransition current change)

/-- The operation that a write is about. -/
def target : LedgerWrite → Option String
  | .createOrReusePlan _ => none
  | .beginOperation approval => some approval.operationId
  | .attachSnapshot operationId _ _ | .transition operationId _ _ _ => some operationId

theorem loadOperationFrom_id {tables : Tables} {operationId : String} {operation : StoredOperation}
    (stored : loadOperationFrom tables operationId = .ok operation) :
    operation.operationId = operationId := by
  obtain ⟨row, plan, _, _, rfl⟩ := loadOperationFrom_ok_iff.mp stored
  rfl

theorem loadOperationFrom_row {tables : Tables} (keyed : OperationsKeyed tables)
    {row : OperationRow} (member : row ∈ tables.operations) :
    ∃ operation, loadOperationFrom tables row.operationId = .ok operation ∧
      operation.stage = row.stage := by
  obtain ⟨plan, planned⟩ := keyed.planned row member
  exact ⟨_, loadOperationFrom_ok_iff.mpr ⟨row, plan, lookup_of_mem keyed.unique member, planned,
    rfl⟩, rfl⟩

/-- Loading depends on nothing but the row under the identifier and on the plans. -/
theorem loadOperationFrom_congr {tables after : Tables} {operationId : String}
    (row : after.findOperation operationId = tables.findOperation operationId)
    (plans : ∀ row, tables.findOperation operationId = some row →
      after.findPlan row.planId = tables.findPlan row.planId) :
    loadOperationFrom after operationId = loadOperationFrom tables operationId := by
  unfold loadOperationFrom
  rw [row]
  cases found : tables.findOperation operationId with
  | none => rfl
  | some row => simp only [loadPlanFrom, plans row found]

section Commits

variable {codec : Codec} {tables after : Tables} {call : LedgerWrite}

section

variable (keyed : OperationsKeyed tables) (commit : Commit codec tables call after)
include keyed commit

/-- A commit leaves every operation alone but the one it is about. -/
theorem Commit.others {operationId : String} (differ : target call ≠ some operationId) :
    loadOperationFrom after operationId = loadOperationFrom tables operationId := by
  cases commit with
  | planned plan event =>
    refine loadOperationFrom_congr rfl fun row found => ?_
    obtain ⟨stored, planFound⟩ := keyed.planned row (lookup_mem found)
    rw [planFound, findPlan_planned planFound]
  | begun approval plan event =>
    refine loadOperationFrom_congr ?_ fun _ _ => rfl
    have other : approval.operationId ≠ operationId := fun same => differ (by rw [← same]; rfl)
    unfold Tables.findOperation
    rw [begun, lookup_concat]
    simp [approvedRow, other]
  | attached identifier snapshot nowMs current event =>
    refine loadOperationFrom_congr ?_ fun _ _ => rfl
    exact lookup_updateAt_other (snapshotRow_operationId snapshot nowMs)
      fun same => differ (by rw [same]; rfl)
  | moved identifier change diagnostics command current event stored =>
    refine loadOperationFrom_congr ?_ fun _ _ => rfl
    refine lookup_updateAt_other (moveRow_operationId change current) fun same => differ ?_
    rw [same, loadOperationFrom_id stored]
    rfl

/-- A commit that is about an operation leaves it as `Written` says. -/
theorem Commit.written {operationId : String} (about : target call = some operationId) :
    ∃ operation, Written tables call operation ∧
      loadOperationFrom after operationId = .ok operation := by
  cases commit with
  | planned plan event => cases about
  | begun approval plan event stored approves fresh =>
    obtain rfl : approval.operationId = operationId := Option.some.inj about
    refine ⟨_, .begun stored approves fresh, loadOperationFrom_ok_iff.mpr ?_⟩
    have absent : tables.findOperation approval.operationId = none :=
      lookup_eq_none.mpr fun row member => (fresh row member).1
    refine ⟨approvedRow plan approval, plan, ?_, stored, rfl⟩
    unfold Tables.findOperation at absent ⊢
    rw [begun, lookup_concat, absent]
    simp [approvedRow]
  | attached identifier snapshot nowMs current event stored approved =>
    obtain rfl : identifier = operationId := Option.some.inj about
    obtain ⟨row, plan, found, planFound, rfl⟩ := loadOperationFrom_ok_iff.mp stored
    obtain ⟨approvedRow, member, same, stage⟩ := approved
    obtain rfl : approvedRow = row :=
      eq_of_column_eq keyed.unique member (lookup_mem found) (same.trans (lookup_key found).symm)
    refine ⟨_, .attached stored stage, loadOperationFrom_ok_iff.mpr
      ⟨snapshotRow snapshot nowMs approvedRow, plan, ?_, ?_, ?_⟩⟩
    · unfold Tables.findOperation at found ⊢
      rw [attached, updateRows,
        lookup_updateAt_self (snapshotRow_operationId snapshot nowMs), found]
      rfl
    · rw [snapshotRow_planId]
      exact planFound
    · simp [withSnapshot, snapshotRow, stage]
  | moved identifier change diagnostics command current event stored expected =>
    obtain rfl : identifier = operationId := Option.some.inj about
    refine ⟨_, .moved stored expected, ?_⟩
    obtain ⟨row, plan, found, planFound, rfl⟩ := loadOperationFrom_ok_iff.mp stored
    refine loadOperationFrom_ok_iff.mpr ⟨moveRow change _ row, plan, ?_, planFound, rfl⟩
    unfold Tables.findOperation at found ⊢
    rw [moved, updateRows, lookup_updateAt_self (moveRow_operationId change _), found]
    rfl

/-- A property of single operations is kept by a commit that writes only operations that have it. -/
theorem Commit.preserves {holds : StoredOperation → Prop}
    (before : ∀ operationId operation, loadOperationFrom tables operationId = .ok operation →
      holds operation)
    (written : ∀ operation, Written tables call operation → holds operation) :
    ∀ operationId operation, loadOperationFrom after operationId = .ok operation →
      holds operation := by
  intro operationId operation stored
  by_cases about : target call = some operationId
  · obtain ⟨reached, change, read⟩ := Commit.written keyed commit about
    obtain rfl : reached = operation := Except.ok.inj (read.symm.trans stored)
    exact written reached change
  · rw [Commit.others keyed commit about] at stored
    exact before operationId operation stored

end

end Commits

/-! ### Events -/

def stagesOf (tables : Tables) (operationId : String) : List OperationStage :=
  (tables.eventsOf operationId).map EventRow.stage

/-- The stage of the event that a write appends. -/
def writtenStage : LedgerWrite → OperationStage
  | .createOrReusePlan _ => .planned
  | .beginOperation _ => .approved
  | .attachSnapshot _ _ _ => .snapshotted
  | .transition _ change _ _ => change.next

theorem Appended.fields {codec : Codec} {tables : Tables} {input : EventInput} {event : EventRow}
    (appended : Appended codec tables input event) :
    event.operationId = input.operationId ∧ event.stage = input.stage := by
  have computed := appended.1
  unfold nextEvent at computed
  simp only [bind, Except.bind] at computed
  split at computed
  · cases computed
  · obtain rfl := Except.ok.inj computed
    exact ⟨rfl, rfl⟩

section Events

variable {codec : Codec} {tables after : Tables} {call : LedgerWrite}

/-- Every commit appends one event, under the operation it is about. -/
theorem Commit.event (commit : Commit codec tables call after) :
    ∃ event, after.ledgerEvents = tables.ledgerEvents ++ [event] ∧
      event.operationId = (target call).getD "" ∧ event.stage = writtenStage call := by
  cases commit with
  | planned _ event _ _ appended | begun _ _ event _ _ _ _ _ appended
  | attached _ _ _ _ event _ _ appended | moved _ _ _ _ _ event _ _ _ appended =>
    exact ⟨event, rfl, Appended.fields appended⟩

theorem Commit.stagesOf_other (commit : Commit codec tables call after) {operationId : String}
    (named : operationId ≠ "") (differ : target call ≠ some operationId) :
    stagesOf after operationId = stagesOf tables operationId := by
  obtain ⟨event, events, owner, _⟩ := Commit.event commit
  have skipped : ¬event.operationId = operationId := by
    rw [owner]
    cases about : target call with
    | none => exact fun same => named same.symm
    | some other => exact fun same => differ (about.trans (congrArg some same))
  simp [stagesOf, Tables.eventsOf, events, skipped]

theorem Commit.stagesOf_target (commit : Commit codec tables call after) {operationId : String}
    (about : target call = some operationId) :
    stagesOf after operationId = stagesOf tables operationId ++ [writtenStage call] := by
  obtain ⟨event, events, owner, stage⟩ := Commit.event commit
  have hit : event.operationId = operationId := by rw [owner, about]; rfl
  simp [stagesOf, Tables.eventsOf, events, hit, stage]

theorem Commit.operationIds (commit : Commit codec tables call after) {operationId : String} :
    (∃ row ∈ after.operations, row.operationId = operationId) ↔
      (∃ row ∈ tables.operations, row.operationId = operationId) ∨
        (∃ approval, call = .beginOperation approval ∧ approval.operationId = operationId) := by
  have ids {rows : List OperationRow} : (∃ row ∈ rows, row.operationId = operationId) ↔
      operationId ∈ rows.map OperationRow.operationId := by simp
  rw [ids, ids]
  cases commit with
  | planned plan event => simp [planned]
  | begun approval plan event => simp [begun, approvedRow, eq_comm]
  | attached identifier snapshot nowMs current event =>
    rw [attached, updateRows, map_updateAt (snapshotRow_operationId snapshot nowMs)]
    simp
  | moved identifier change diagnostics command current event =>
    rw [moved, updateRows, map_updateAt (moveRow_operationId change current)]
    simp

end Events

/-! ### Recorded paths -/

/-- The recorded stages are a path of the graph from the approval to the current stage. -/
structure Recorded (stages : List OperationStage) (stage : OperationStage) : Prop where
  first : stages.head? = some .approved
  path : stages.IsChain Step
  last : stages.getLast? = some stage

theorem Recorded.extend {stages : List OperationStage} {stage next : OperationStage}
    (recorded : Recorded stages stage) (step : Step stage next) :
    Recorded (stages ++ [next]) next := by
  refine ⟨?_, recorded.path.append (.singleton next) ?_, by simp⟩
  · rw [List.head?_append, recorded.first]
    rfl
  · intro last lastMember first firstMember
    rw [recorded.last] at lastMember
    obtain rfl := Option.some.inj lastMember
    obtain rfl : next = first := by simpa using firstMember
    exact step

/-- The last step of a recorded path. -/
theorem Recorded.split {stages : List OperationStage} {stage : OperationStage}
    (recorded : Recorded stages stage) : (stages = [.approved] ∧ stage = .approved) ∨
      ∃ front before, stages = front ++ [stage] ∧ Recorded front before ∧ Step before stage := by
  obtain ⟨first, path, last⟩ := recorded
  rcases List.eq_nil_or_concat stages with rfl | ⟨front, final, rfl⟩
  · cases last
  rw [List.concat_eq_append] at first path last ⊢
  obtain rfl : final = stage := by simpa using last
  rcases List.eq_nil_or_concat front with rfl | ⟨earlier, before, rfl⟩
  · left
    simpa using first
  · rw [List.concat_eq_append] at first path ⊢
    right
    have joined := List.isChain_append.mp path
    refine ⟨earlier ++ [before], before, rfl, ⟨?_, joined.1, by simp⟩, ?_⟩
    · rw [List.head?_append] at first
      cases earlier <;> simpa using first
    · exact joined.2.2 before (by simp) final (by simp)

theorem Recorded.ends {stages : List OperationStage} {stage : OperationStage}
    (recorded : Recorded stages stage) {before after : List OperationStage}
    {terminal : OperationStage} (split : stages = before ++ terminal :: after)
    (isTerminal : terminal.isTerminal = true) : after = [] := by
  cases after with
  | nil => rfl
  | cons next rest =>
    have path := recorded.path
    rw [split] at path
    have edge : Step terminal next := (List.isChain_append_cons_cons.mp path).2.1
    have running := follows_running edge.1
    rw [isTerminal] at running
    cases running

structure EventsFollowGraph (tables : Tables) : Prop where
  named : ∀ row ∈ tables.operations, row.operationId ≠ ""
  owned : ∀ event ∈ tables.ledgerEvents, event.operationId = "" ∨
    ∃ row ∈ tables.operations, row.operationId = event.operationId
  recorded : ∀ operationId operation, loadOperationFrom tables operationId = .ok operation →
    Recorded (stagesOf tables operationId) operation.stage

/-- The writes that the engine makes. -/
def Lawful (tables : Tables) : LedgerWrite → Prop
  | .beginOperation approval => approval.operationId ≠ ""
  | .transition operationId change _ _ =>
    (∀ stage ∈ change.expected, stage.isTerminal = false) ∧
    ∀ current, loadOperationFrom tables operationId = .ok current →
      current.stage ∈ change.expected →
      Moves current.plan.operationType current.stage change.next
  | _ => True

theorem Lawful.admissible {tables : Tables} {call : LedgerWrite} (lawful : Lawful tables call) :
    Admissible call := by
  cases call with
  | transition operationId change diagnostics command => exact lawful.1
  | createOrReusePlan _ | beginOperation _ | attachSnapshot _ _ _ => trivial

theorem EventsFollowGraph.commit {codec : Codec} {tables after : Tables} {call : LedgerWrite}
    (keyed : OperationsKeyed tables) (events : EventsFollowGraph tables)
    (lawful : Lawful tables call) (commit : Commit codec tables call after) :
    EventsFollowGraph after := by
  have rows (operationId : String) :=
    @Commit.operationIds codec tables after call commit operationId
  have named : ∀ row ∈ after.operations, row.operationId ≠ "" := by
    intro row member empty
    rcases (rows _).mp ⟨row, member, rfl⟩ with ⟨old, oldMember, same⟩ | ⟨approval, rfl, same⟩
    · exact events.named old oldMember (same.trans empty)
    · exact lawful (same.trans empty)
  refine ⟨named, fun event member => ?_, fun operationId operation stored => ?_⟩
  · obtain ⟨appended, list, owner, _⟩ := Commit.event commit
    rw [list] at member
    rcases List.mem_append.mp member with old | new
    · exact (events.owned event old).imp_right fun row => (rows _).mpr (.inl row)
    · obtain rfl := List.mem_singleton.mp new
      rw [owner]
      cases about : target call with
      | none => exact .inl rfl
      | some identifier =>
        obtain ⟨operation, _, read⟩ := Commit.written keyed commit about
        obtain ⟨row, _, found, _⟩ := loadOperationFrom_ok_iff.mp read
        exact .inr ⟨row, lookup_mem found, lookup_key found⟩
  · by_cases about : target call = some operationId
    · obtain ⟨reached, written, read⟩ := Commit.written keyed commit about
      obtain rfl : reached = operation := Except.ok.inj (read.symm.trans stored)
      rw [Commit.stagesOf_target commit about]
      cases written with
      | @begun approval plan planStored approves fresh =>
        -- nothing is recorded yet under a new identifier
        obtain rfl := Option.some.inj about
        have none : stagesOf tables approval.operationId = [] := by
          refine List.map_eq_nil_iff.mpr (List.filter_eq_nil_iff.mpr fun event member hit => ?_)
          rcases events.owned event member with empty | ⟨row, rowMember, same⟩
          · exact lawful ((beq_iff_eq.mp hit).symm.trans empty)
          · exact (fresh row rowMember).1 (same.trans (beq_iff_eq.mp hit))
        rw [none]
        exact ⟨rfl, .singleton _, rfl⟩
      | attached before approved =>
        obtain rfl := Option.some.inj about
        refine (events.recorded _ _ before).extend ⟨?_, fun same => by cases same⟩
        rw [approved]
        rfl
      | moved before expected =>
        obtain rfl := Option.some.inj about
        have moves := lawful.2 _ before expected
        exact (events.recorded _ _ before).extend ⟨moves.edge, moves.restored⟩
    · obtain ⟨row, plan, found, _, _⟩ := loadOperationFrom_ok_iff.mp stored
      have present : operationId ≠ "" := by
        rw [← lookup_key found]
        exact named row (lookup_mem found)
      rw [Commit.stagesOf_other commit present about]
      rw [Commit.others keyed commit about] at stored
      exact events.recorded operationId operation stored

end JwOps.Lifecycle.History
