/- module: Lifecycle/Records
   source: crates/jw-opsd/src/ledger.rs, crates/jw-opsd/src/engine.rs
   digest: Plans and operations agree with the chained events because no call writes one without the
     other; an opening does not compare them. -/
import JwOps.Lifecycle.EffectFree

set_option autoImplicit false

namespace JwOps.Lifecycle.Records

open Contracts Ledger Operation Digest Schema Writes Commits Locks Reads
open Engine.Interface (Runtime sampleRuntime)
open Lifecycle.History Lifecycle.System Lifecycle.Safety Lifecycle.Runs Lifecycle.Sessions
open Lifecycle.EffectFree
open Foundation.Chain (bind_ok)
open Foundation.Keyed Foundation.Transaction

/-! ### Rows and their events -/

/-- Every plan has an event, and its hash is what that event recorded. -/
structure PlansAttested (tables : Tables) : Prop where
  planned : ∀ plan ∈ tables.plans, ∃ event ∈ tables.ledgerEvents,
    event.stage = .planned ∧ event.planId = plan.planId
  hashes : ∀ plan ∈ tables.plans, ∀ event ∈ tables.ledgerEvents,
    event.stage = .planned → event.planId = plan.planId → event.evidenceDigest = plan.planHash
  known : ∀ event ∈ tables.ledgerEvents, event.stage = .planned →
    ∃ plan ∈ tables.plans, plan.planId = event.planId

/-- The snapshot of an operation is the one that its event recorded. -/
structure RowAttested (tables : Tables) (row : OperationRow) : Prop where
  taken : ∀ record, row.snapshot = some record →
    ∃ event ∈ tables.eventsOf row.operationId, event.stage = .snapshotted
  digests : ∀ event ∈ tables.eventsOf row.operationId, event.stage = .snapshotted →
    row.snapshot.map SnapshotRecord.digest = some event.evidenceDigest
  waiting : row.stage = .approved →
    ∀ event ∈ tables.eventsOf row.operationId, event.stage ≠ .snapshotted

structure Attested (tables : Tables) : Prop where
  plans : PlansAttested tables
  rows : ∀ row ∈ tables.operations, RowAttested tables row

theorem attested_empty : Attested emptyTables := by
  constructor
  · constructor
    · intro plan member
      cases member
    · intro plan member
      cases member
    · intro event member
      cases member
  · intro row member
    cases member

theorem Appended.columns {codec : Codec} {tables : Tables} {input : EventInput} {event : EventRow}
    (appended : Appended codec tables input event) :
    event.operationId = input.operationId ∧ event.planId = input.planId ∧
      event.stage = input.stage ∧ event.evidenceDigest = input.evidenceDigest := by
  obtain ⟨digest, _, done⟩ := bind_ok.mp appended.1
  obtain rfl := Except.ok.inj done
  exact ⟨rfl, rfl, rfl, rfl⟩

theorem follows_ne_approved {stage next : OperationStage} (edge : follows stage next = true) :
    next ≠ .approved := by
  rintro rfl
  cases stage <;> cases edge

section Commits

variable {codec : Codec} {tables after : Tables} {write : LedgerWrite} {event : EventRow}

theorem mem_eventsOf {operationId : String} :
    event ∈ tables.eventsOf operationId ↔
      event ∈ tables.ledgerEvents ∧ event.operationId = operationId := by
  simp [Tables.eventsOf]

/-- A write that stores no plan and whose event is not about planning. -/
theorem PlansAttested.kept (attested : PlansAttested tables) (plans : after.plans = tables.plans)
    (events : after.ledgerEvents = tables.ledgerEvents ++ [event])
    (other : event.stage ≠ .planned) : PlansAttested after := by
  have old {planned : EventRow} (member : planned ∈ tables.ledgerEvents ++ [event])
      (stage : planned.stage = .planned) : planned ∈ tables.ledgerEvents := by
    rcases List.mem_append.mp member with before | new
    · exact before
    · rw [List.mem_singleton.mp new] at stage
      exact absurd stage other
  constructor
  · intro plan member
    rw [plans] at member
    obtain ⟨planned, there, facts⟩ := attested.planned plan member
    rw [events]
    exact ⟨planned, List.mem_append_left _ there, facts⟩
  · intro plan member planned there stage
    rw [plans] at member
    rw [events] at there
    exact attested.hashes plan member planned (old there stage) stage
  · intro planned there stage
    rw [events] at there
    rw [plans]
    exact attested.known planned (old there stage) stage

theorem PlansAttested.stored (attested : PlansAttested tables) {plan : StoredPlan}
    (fresh : ∀ other ∈ tables.plans, other.planId ≠ plan.planId)
    (appended : Appended codec tables (planEvent plan) event) :
    PlansAttested (Ledger.Commits.planned tables plan event) := by
  obtain ⟨_, planId, stage, digest⟩ := Appended.columns appended
  constructor
  · intro other member
    rcases List.mem_append.mp member with old | new
    · obtain ⟨found, there, facts⟩ := attested.planned other old
      exact ⟨found, List.mem_append_left _ there, facts⟩
    · obtain rfl := List.mem_singleton.mp new
      exact ⟨event, List.mem_append_right _ (List.mem_singleton_self _), stage, planId⟩
  · intro other member found there isPlanned same
    rcases List.mem_append.mp member with old | new
    · rcases List.mem_append.mp there with before | last
      · exact attested.hashes other old found before isPlanned same
      · rw [List.mem_singleton.mp last, planId] at same
        exact absurd same.symm (fresh other old)
    · obtain rfl := List.mem_singleton.mp new
      rcases List.mem_append.mp there with before | last
      · obtain ⟨known, stored, id⟩ := attested.known found before isPlanned
        exact absurd (id.trans same) (fresh known stored)
      · rw [List.mem_singleton.mp last, digest]
        rfl
  · intro found there isPlanned
    rcases List.mem_append.mp there with before | last
    · obtain ⟨known, stored, id⟩ := attested.known found before isPlanned
      exact ⟨known, List.mem_append_left _ stored, id⟩
    · rw [List.mem_singleton.mp last, planId]
      exact ⟨plan, List.mem_append_right _ (List.mem_singleton_self _), rfl⟩

/-- A row that keeps its key and its snapshot, next to an event that takes none of it. -/
theorem RowAttested.kept {row changed : OperationRow} (attested : RowAttested tables row)
    (sameId : changed.operationId = row.operationId)
      (sameSnapshot : changed.snapshot = row.snapshot)
    (approved : changed.stage = .approved → row.stage = .approved)
    (events : after.ledgerEvents = tables.ledgerEvents ++ [event])
    (other : event.operationId = row.operationId → event.stage ≠ .snapshotted) :
    RowAttested after changed := by
  have old {taken : EventRow} (there : taken ∈ after.eventsOf row.operationId)
      (stage : taken.stage = .snapshotted) : taken ∈ tables.eventsOf row.operationId := by
    obtain ⟨inside, owner⟩ := mem_eventsOf.mp there
    rw [events] at inside
    rcases List.mem_append.mp inside with before | new
    · exact mem_eventsOf.mpr ⟨before, owner⟩
    · rw [List.mem_singleton.mp new] at owner stage
      exact absurd stage (other owner)
  constructor
  · intro record present
    rw [sameSnapshot] at present
    obtain ⟨found, there, stage⟩ := attested.taken record present
    obtain ⟨inside, owner⟩ := mem_eventsOf.mp there
    refine ⟨found, mem_eventsOf.mpr ⟨?_, owner.trans sameId.symm⟩, stage⟩
    rw [events]
    exact List.mem_append_left _ inside
  · intro taken there stage
    rw [sameId] at there
    rw [sameSnapshot]
    exact attested.digests taken (old there stage) stage
  · intro isApproved taken there stage
    rw [sameId] at there
    exact attested.waiting (approved isApproved) taken (old there stage) stage

/-- The row of an approved operation that takes its snapshot. -/
theorem RowAttested.snapshot {row : OperationRow} {record : SnapshotRecord} {nowMs : Int}
    (attested : RowAttested tables row) (approved : row.stage = .approved)
    (events : after.ledgerEvents = tables.ledgerEvents ++ [event])
    (owner : event.operationId = row.operationId) (stage : event.stage = .snapshotted)
    (digest : event.evidenceDigest = record.digest) :
    RowAttested after (snapshotRow record nowMs row) := by
  have shape : snapshotRow record nowMs row =
      { row with stage := .snapshotted, snapshot := some record, updatedAtMs := nowMs } :=
    if_pos approved
  rw [shape]
  constructor
  · intro _ _
    refine ⟨event, mem_eventsOf.mpr ⟨?_, owner⟩, stage⟩
    rw [events]
    exact List.mem_append_right _ (List.mem_singleton_self _)
  · intro found there taken
    obtain ⟨inside, same⟩ := mem_eventsOf.mp there
    rw [events] at inside
    rcases List.mem_append.mp inside with before | last
    · exact absurd taken (attested.waiting approved found (mem_eventsOf.mpr ⟨before, same⟩))
    · rw [List.mem_singleton.mp last, digest]
      rfl
  · nofun

theorem Attested.commit (keyed : OperationsKeyed tables) (graph : EventsFollowGraph tables)
    (attested : Attested tables) (lawful : Lawful tables write)
    (commit : Commit codec tables write after) : Attested after := by
  cases commit with
  | planned plan event unbound fresh appended =>
    have owner := (Appended.columns appended).1
    constructor
    · exact attested.plans.stored (fun other member => (fresh other member).1) appended
    · intro row member
      refine (attested.rows row member).kept rfl rfl (fun same => same) rfl fun same => ?_
      exact absurd (owner.symm.trans same).symm (graph.named row member)
  | begun approval plan event stored approves fresh free distinct appended =>
    obtain ⟨_, _, stage, _⟩ := Appended.columns appended
    have notTaken : event.stage ≠ .snapshotted := by
      rw [stage]
      nofun
    constructor
    · refine attested.plans.kept rfl rfl ?_
      rw [stage]
      nofun
    · intro row member
      rcases List.mem_append.mp member with old | new
      · exact (attested.rows row old).kept rfl rfl (fun same => same) rfl fun _ => notTaken
      · obtain rfl := List.mem_singleton.mp new
        -- no event is older than the operation it belongs to
        have unused : ∀ found ∈
            (Ledger.Commits.begun tables plan approval event).eventsOf approval.operationId,
            found.stage ≠ .snapshotted := by
          intro found there
          obtain ⟨inside, same⟩ := mem_eventsOf.mp there
          rcases List.mem_append.mp inside with before | last
          · rcases graph.owned found before with none | ⟨row, member, id⟩
            · exact absurd (same.symm.trans none) lawful
            · exact absurd (id.trans same) (fresh row member).1
          · rw [List.mem_singleton.mp last]
            exact notTaken
        exact ⟨nofun, fun found there taken => absurd taken (unused found there),
          fun _ => unused⟩
  | attached operationId snapshot nowMs current event stored approved appended =>
    obtain ⟨owner, _, stage, digest⟩ := Appended.columns appended
    constructor
    · refine attested.plans.kept rfl rfl ?_
      rw [stage]
      nofun
    · intro row member
      rcases mem_updateAt member with ⟨old, differ⟩ | ⟨old, before, same, rfl⟩
      · refine (attested.rows row old).kept rfl rfl (fun same => same) rfl fun same => ?_
        exact absurd (owner.symm.trans same).symm differ
      · obtain ⟨other, otherMember, otherId, isApproved⟩ := approved
        obtain rfl : other = old :=
          eq_of_column_eq keyed.unique otherMember before (otherId.trans same.symm)
        exact (attested.rows other before).snapshot isApproved rfl (owner.trans same.symm) stage
          digest
  | moved operationId change diagnostics command current event stored expected eligible appended =>
    obtain ⟨_, _, stage, _⟩ := Appended.columns appended
    have moves := lawful.2 current stored expected
    constructor
    · refine attested.plans.kept rfl rfl ?_
      rw [stage]
      exact follows_ne_planned moves.edge
    · intro row member
      have notTaken : event.stage ≠ .snapshotted := by
        rw [stage]
        exact moves.attached
      rcases mem_updateAt member with ⟨old, _⟩ | ⟨old, before, _, rfl⟩
      · exact (attested.rows row old).kept rfl rfl (fun same => same) rfl fun _ => notTaken
      · exact (attested.rows old before).kept rfl rfl
          (fun same => absurd same (follows_ne_approved moves.edge)) rfl fun _ => notTaken

end Commits

/-! ### What an opening looks at -/

section Opening

variable {codec : Codec}

/-- Other rows in the four tables that no opening reads. -/
def withRows (plans : List StoredPlan) (operations : List OperationRow)
    (idempotency : List IdempotencyRow) (resourceLocks : List LockRow) (ledger : LedgerState) :
    LedgerState :=
  { ledger with
    tables := { ledger.tables with
      plans := plans
      operations := operations
      idempotency := idempotency
      resourceLocks := resourceLocks } }

variable (plans : List StoredPlan) (operations : List OperationRow)
  (idempotency : List IdempotencyRow) (resourceLocks : List LockRow)

theorem validateChain_withRows (ledger : LedgerState) (events : List EventRow) (expected : Int)
    (previous : String) :
    validateChain codec (withRows plans operations idempotency resourceLocks ledger).tables
      expected previous events = validateChain codec ledger.tables expected previous events := by
  induction events generalizing expected previous with
  | nil => rfl
  | cons event rest ih =>
    unfold validateChain
    rw [ih]
    rfl

theorem openLedger_ignores (failure : OpsError) :
    Ignores (openLedger codec failure)
      (withRows plans operations idempotency resourceLocks) := by
  unfold openLedger completePendingCheckpoint writeCheckpoint
  refine Ignores.bind (Ignores.execute fun _ => rfl) fun _ => ?_
  refine Ignores.bind (Ignores.query fun ledger => ?_) fun _ => ?_
  · unfold validateContinuity
    have same : (withRows plans operations idempotency resourceLocks ledger).tables.ledgerEvents =
      ledger.tables.ledgerEvents := rfl
    rw [same, validateChain_withRows]
    rfl
  · refine Ignores.bind (Ignores.query fun _ => rfl) fun marker => ?_
    cases marker with
    | none => exact Ignores.ret _
    | some required =>
      refine Ignores.bind (Ignores.query fun _ => rfl) fun last => ?_
      refine Ignores.bind Ignores.rejectIf fun _ => ?_
      refine Ignores.bind ?_ fun _ => Ignores.execute fun _ => rfl
      refine Ignores.bind (Ignores.execute fun _ => rfl) fun _ => ?_
      exact Ignores.bind (Ignores.execute fun _ => rfl) fun _ => Ignores.execute fun _ => rfl

end Opening

/-! ### Runs -/

theorem attested_of_reachable {H : Type} {runtime : Runtime} {model : HostModel H}
    {machine : Machine H} (reachable : Reachable runtime model machine) :
    Attested machine.world.tables :=
  (inductive_tables fun _ _ _ keyed graph attested lawful commit =>
    attested.commit keyed graph lawful commit).reachable (keeps_openRule runtime)
    (fun _ => attested_empty) reachable

/-- An approved operation whose row was set to `SUCCEEDED`. -/
def restaged : LedgerState :=
  let ledger := performAll sampleCodec emptyLedger sampleAttempts
  withRows ledger.tables.plans
    (ledger.tables.operations.map fun row => { row with stage := .succeeded })
    ledger.tables.idempotency ledger.tables.resourceLocks ledger

end JwOps.Lifecycle.Records
