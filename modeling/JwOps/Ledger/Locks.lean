/- module: Ledger/Locks
   source: crates/jw-opsd/src/ledger.rs, crates/jw-opsd/migrations/0001_initial.sql
   digest: Lock rows follow the stage of their operation through every faulty run of the ledger. -/
import JwOps.Ledger.Commits

set_option autoImplicit false

namespace JwOps.Ledger.Locks

open Contracts Foundation Operation Digest Schema Writes Commits Keyed Transaction

/-! ### Runs -/

/-- One call with the fault schedule of its statements. -/
structure Attempt where
  call : LedgerWrite
  faults : List Bool

def Attempt.result (codec : Codec) (ledger : LedgerState) (attempt : Attempt) :
    Except OpsError Reply :=
  (attempt.call.run codec ⟨ledger, attempt.faults⟩).1

def Attempt.perform (codec : Codec) (ledger : LedgerState) (attempt : Attempt) : LedgerState :=
  (attempt.call.run codec ⟨ledger, attempt.faults⟩).2.store

def performAll (codec : Codec) (ledger : LedgerState) (attempts : List Attempt) : LedgerState :=
  attempts.foldl (Attempt.perform codec) ledger

/-- No transition names a terminal stage among the stages it expects. -/
def Admissible : LedgerWrite → Prop
  | .transition _ change _ _ => ∀ stage ∈ change.expected, stage.isTerminal = false
  | _ => True

/-- A property of the tables that every admissible commit keeps holds after every run. -/
theorem performAll_invariant {codec : Codec} {holds : Tables → Prop}
    (step : ∀ tables after call, Admissible call → holds tables →
      Commit codec tables call after → holds after)
    {attempts : List Attempt} (admissible : ∀ attempt ∈ attempts, Admissible attempt.call)
    {ledger : LedgerState} (initial : holds ledger.tables) :
    holds (performAll codec ledger attempts).tables := by
  induction attempts generalizing ledger with
  | nil => exact initial
  | cons attempt rest ih =>
    refine ih (fun other member => admissible other (List.mem_cons_of_mem _ member)) ?_
    rcases @outcome_run codec ledger attempt.call attempt.faults with same | commit
    · rw [Attempt.perform, same]
      exact initial
    · exact step _ _ _ (admissible attempt List.mem_cons_self) initial commit

/-! ### Keys of the operations table -/

/-- The primary key, the unique column and the foreign key of `operations`. -/
structure OperationsKeyed (tables : Tables) : Prop where
  unique : (tables.operations.map OperationRow.operationId).Nodup
  oncePerPlan : (tables.operations.map OperationRow.planId).Nodup
  planned : ∀ row ∈ tables.operations, ∃ plan, tables.findPlan row.planId = some plan

variable {plan : StoredPlan} {operationId : String} {change : OperationRow → OperationRow}
  {codec : Codec} {call : LedgerWrite} {approval : Approval}

theorem findPlan_planned {tables : Tables} {planId : String} {stored : StoredPlan}
    {event : EventRow} (found : tables.findPlan planId = some stored) :
    (planned tables plan event).findPlan planId = some stored := by
  unfold Tables.findPlan at found ⊢
  rw [Commits.planned, lookup_concat, found]
  rfl

theorem planned_updateRows {tables : Tables} (keeps : ∀ row, (change row).planId = row.planId)
    (keyed : ∀ row ∈ tables.operations, ∃ plan, tables.findPlan row.planId = some plan) :
    ∀ row ∈ updateRows operationId change tables.operations,
      ∃ plan, tables.findPlan row.planId = some plan := by
  intro row member
  rcases mem_updateAt member with ⟨old, _⟩ | ⟨old, oldMember, _, rfl⟩
  · exact keyed row old
  · rw [keeps]
    exact keyed old oldMember

theorem OperationsKeyed.commit {tables after : Tables} (keyed : OperationsKeyed tables)
    (commit : Commit codec tables call after) :
    OperationsKeyed after := by
  cases commit with
  | planned plan event =>
    refine ⟨keyed.unique, keyed.oncePerPlan, fun row member => ?_⟩
    obtain ⟨stored, found⟩ := keyed.planned row member
    exact ⟨stored, findPlan_planned found⟩
  | begun approval plan event stored approves fresh =>
    refine ⟨nodup_concat keyed.unique fun row member => (fresh row member).1,
      nodup_concat keyed.oncePerPlan fun row member => (fresh row member).2,
      fun row member => ?_⟩
    rcases List.mem_append.mp member with old | new
    · exact keyed.planned row old
    · rw [List.mem_singleton.mp new]
      exact ⟨plan, stored⟩
  | attached operationId snapshot nowMs current event =>
    refine ⟨?_, ?_, planned_updateRows (snapshotRow_planId snapshot nowMs) keyed.planned⟩
    · rw [Commits.attached, updateRows, map_updateAt (snapshotRow_operationId snapshot nowMs)]
      exact keyed.unique
    · rw [Commits.attached, updateRows, map_updateAt (snapshotRow_planId snapshot nowMs)]
      exact keyed.oncePerPlan
  | moved operationId change diagnostics command current event =>
    refine ⟨?_, ?_, planned_updateRows (moveRow_planId change current) keyed.planned⟩
    · rw [Commits.moved, updateRows, map_updateAt (moveRow_operationId change current)]
      exact keyed.unique
    · rw [Commits.moved, updateRows, map_updateAt (moveRow_planId change current)]
      exact keyed.oncePerPlan

/-! ### Locks -/

/-- The keys that an operation in a stage holds. -/
def heldKeys (stage : OperationStage) (plan : StoredPlan) : List String :=
  if stage.isTerminal then [] else lockKeys plan

/-- Lock rows are keyed, belong to operations, and are exactly those that each stage calls for. -/
structure LocksFollowStages (tables : Tables) : Prop where
  unique : (tables.resourceLocks.map LockRow.resourceKey).Nodup
  owned : ∀ lock ∈ tables.resourceLocks, ∃ row ∈ tables.operations,
    row.operationId = lock.operationId
  exact : ∀ row ∈ tables.operations, ∀ plan, tables.findPlan row.planId = some plan →
    (tables.locksOf row.operationId).map LockRow.resourceKey = heldKeys row.stage plan

/-- Updating operations without touching locks keeps the locks exact when no stage changes between
running and terminal. -/
theorem LocksFollowStages.updated {tables : Tables} {events : List EventRow}
    {diagnostics : List DiagnosticsRow} {commands : List CommandRow}
    (locks : LocksFollowStages tables)
    (sameId : ∀ row, (change row).operationId = row.operationId)
    (samePlan : ∀ row, (change row).planId = row.planId)
    (sameKind : ∀ row ∈ tables.operations, row.operationId = operationId →
      (change row).stage.isTerminal = row.stage.isTerminal) :
    LocksFollowStages { tables with
      operations := updateRows operationId change tables.operations
      ledgerEvents := events
      managedConfigDiagnostics := diagnostics
      operationCommandEvidence := commands } := by
  refine ⟨locks.unique, fun lock member => ?_, fun row member plan found => ?_⟩
  · obtain ⟨row, rowMember, owner⟩ := locks.owned lock member
    refine ⟨_, List.mem_map_of_mem rowMember, ?_⟩
    split
    · rw [sameId, owner]
    · exact owner
  · rcases mem_updateAt member with ⟨old, _⟩ | ⟨old, oldMember, hit, rfl⟩
    · exact locks.exact row old plan found
    · rw [samePlan] at found
      have exact_ := locks.exact old oldMember plan found
      rw [sameId, heldKeys, sameKind old oldMember hit]
      exact exact_

theorem lockRows_of_other (differ : operationId ≠ approval.operationId) :
    (lockRows plan approval).filter (fun row => row.operationId == operationId) = [] := by
  refine List.filter_eq_nil_iff.mpr fun row member => ?_
  obtain ⟨key, _, rfl⟩ := List.mem_map.mp member
  simpa using differ.symm

theorem lockRows_of_self {plan : StoredPlan} {approval : Approval} :
    ((lockRows plan approval).filter fun row => row.operationId == approval.operationId).map
      LockRow.resourceKey = lockKeys plan := by
  have all : (lockRows plan approval).filter (fun row => row.operationId == approval.operationId) =
      lockRows plan approval := by
    refine List.filter_eq_self.mpr fun row member => ?_
    obtain ⟨key, _, rfl⟩ := List.mem_map.mp member
    simp
  rw [all, lockRows, List.map_map]
  exact List.map_id' _

theorem LocksFollowStages.begun {tables : Tables} {plan : StoredPlan} {approval : Approval}
    {event : EventRow} (locks : LocksFollowStages tables)
    (stored : tables.findPlan approval.planId = some plan)
    (fresh : ∀ row ∈ tables.operations, row.operationId ≠ approval.operationId)
    (free : ∀ lock ∈ tables.resourceLocks, lock.resourceKey ∉ lockKeys plan)
    (distinct : (lockKeys plan).Nodup) :
    LocksFollowStages (begun tables plan approval event) := by
  have newKeys : (lockRows plan approval).map LockRow.resourceKey = lockKeys plan := by
    rw [lockRows, List.map_map]
    exact List.map_id' _
  refine ⟨?_, fun lock member => ?_, fun row member other found => ?_⟩
  · rw [Commits.begun, List.map_append, newKeys]
    refine List.Nodup.append locks.unique distinct fun key old => ?_
    obtain ⟨lock, member, rfl⟩ := List.mem_map.mp old
    exact free lock member
  · rcases List.mem_append.mp member with old | new
    · obtain ⟨row, rowMember, owner⟩ := locks.owned lock old
      exact ⟨row, List.mem_append_left _ rowMember, owner⟩
    · obtain ⟨key, _, rfl⟩ := List.mem_map.mp new
      exact ⟨_, List.mem_append_right _ (List.mem_singleton_self _), rfl⟩
  · have split : (Commits.begun tables plan approval event).locksOf row.operationId =
        tables.locksOf row.operationId ++
          (lockRows plan approval).filter (fun lock => lock.operationId == row.operationId) :=
      List.filter_append _ _
    rw [split, List.map_append]
    rcases List.mem_append.mp member with old | new
    · rw [lockRows_of_other (fresh row old), List.map_nil, List.append_nil]
      exact locks.exact row old other found
    · -- the new operation's id is not in the table, so no lock row can name it yet
      obtain rfl := List.mem_singleton.mp new
      have none : tables.locksOf (approvedRow plan approval).operationId = [] := by
        refine List.filter_eq_nil_iff.mpr fun lock lockMember owner => ?_
        obtain ⟨row, rowMember, same⟩ := locks.owned lock lockMember
        exact fresh row rowMember (same.trans (beq_iff_eq.mp owner))
      obtain rfl : plan = other := Option.some.inj (stored.symm.trans found)
      rw [none, List.map_nil, List.nil_append]
      exact lockRows_of_self

theorem LocksFollowStages.released {tables : Tables} {current : StoredOperation}
    {change : Transition} {diagnostics : Option StoredDiagnostics}
    {command : Option OperationCommandEvidenceView} {event : EventRow}
    (locks : LocksFollowStages tables) (terminal : change.next.isTerminal = true) :
    LocksFollowStages (moved tables current change diagnostics command event) := by
  have kept : (Commits.moved tables current change diagnostics command event).resourceLocks =
      tables.resourceLocks.filter fun row => row.operationId != current.operationId := by
    simp [Commits.moved, remainingLocks, terminal]
  refine ⟨?_, fun lock member => ?_, fun row member plan found => ?_⟩
  · rw [kept]
    exact locks.unique.sublist (List.filter_sublist.map _)
  · rw [kept] at member
    obtain ⟨row, rowMember, owner⟩ := locks.owned lock (List.mem_of_mem_filter member)
    refine ⟨_, List.mem_map_of_mem rowMember, ?_⟩
    split <;> exact owner
  · rw [Tables.locksOf, kept, List.filter_filter]
    rcases mem_updateAt member with ⟨old, differ⟩ | ⟨old, oldMember, hit, rfl⟩
    · rw [← locks.exact row old plan found, Tables.locksOf]
      congr 1
      refine List.filter_congr fun lock _ => ?_
      by_cases owner : lock.operationId = row.operationId
      · simp [owner, differ]
      · simp [owner]
    · have nothing : ∀ lock ∈ tables.resourceLocks,
          ¬((lock.operationId == (moveRow change current old).operationId &&
            lock.operationId != current.operationId) = true) := by
        intro lock _
        simp [hit]
      rw [List.filter_eq_nil_iff.mpr nothing]
      simp [heldKeys, moveRow, terminal]

theorem LocksFollowStages.commit {tables after : Tables} (admissible : Admissible call)
    (keyed : OperationsKeyed tables) (locks : LocksFollowStages tables)
    (commit : Commit codec tables call after) :
    LocksFollowStages after := by
  cases commit with
  | planned plan event =>
    refine ⟨locks.unique, locks.owned, fun row member stored found => ?_⟩
    obtain ⟨old, oldFound⟩ := keyed.planned row member
    obtain rfl := Option.some.inj ((findPlan_planned oldFound).symm.trans found)
    exact locks.exact row member old oldFound
  | begun approval plan event stored approves fresh free distinct =>
    exact locks.begun stored (fun row member => (fresh row member).1) free distinct
  | attached operationId snapshot nowMs current event =>
    refine locks.updated (snapshotRow_operationId snapshot nowMs)
      (snapshotRow_planId snapshot nowMs) fun row _ _ => ?_
    unfold snapshotRow
    split
    · rename_i approved
      rw [approved]
      rfl
    · rfl
  | moved operationId change diagnostics command current event stored expected =>
    cases terminal : change.next.isTerminal with
    | true => exact locks.released terminal
    | false =>
      have kept : Commits.moved tables current change diagnostics command event =
          { tables with
            operations := updateRows current.operationId (moveRow change current)
              tables.operations
            ledgerEvents := tables.ledgerEvents ++ [event]
            managedConfigDiagnostics := tables.managedConfigDiagnostics ++
              diagnosticsRows event.sequence diagnostics
            operationCommandEvidence := tables.operationCommandEvidence ++
              commandRows event.sequence command } := by
        simp [Commits.moved, remainingLocks, terminal]
      rw [kept]
      refine locks.updated (moveRow_operationId change current)
        (moveRow_planId change current) fun row member hit => ?_
      -- the row that is updated is the one that was read, whose stage was expected
      obtain ⟨read, plan, found, _, rfl⟩ := loadOperationFrom_ok_iff.mp stored
      have same : row = read :=
        eq_of_column_eq keyed.unique member (lookup_mem found)
          (hit.trans (lookup_key found).symm)
      rw [same]
      exact terminal.trans (admissible _ expected).symm

/-! ### Errors of an approval -/

/-- A failed approval either had its transaction rolled back or failed after the commit. -/
theorem beginOperation_error {ledger : LedgerState} {faults : List Bool} {error : OpsError}
    (failed : (beginOperation codec approval ⟨ledger, faults⟩).1 = .error error) :
    ((transaction sqlError (beginTransaction codec approval) ⟨ledger, faults⟩).1 = .error error ∧
      (beginOperation codec approval ⟨ledger, faults⟩).2.store = ledger) ∨
    ((transaction sqlError (beginTransaction codec approval) ⟨ledger, faults⟩).1 =
        .ok (.committed ()) ∧
      ∃ plan event, ledger.tables.findPlan approval.planId = some plan ∧
        Approves approval plan ∧
        (beginOperation codec approval ⟨ledger, faults⟩).2.store.tables =
          begun ledger.tables plan approval event) := by
  have committed : Outcome (transaction sqlError (beginTransaction codec approval)) ledger
      fun result after => BlockPost codec ledger (.beginOperation approval) (fun _ => True)
        result after ∧ ∀ error, result = .error error → after = ledger := by
    refine Outcome.transaction ⟨trivial, fun _ _ => rfl⟩
      (outcome_beginTransaction.mono ?_)
    rintro result reached ⟨holds, -⟩
    match result, holds with
    | .error error, _ => exact ⟨trivial, fun _ _ => rfl⟩
    | .ok (.dropped value), reuse => exact ⟨trivial, fun _ equal => by cases equal⟩
    | .ok (.committed ()), commit => exact ⟨commit, fun _ equal => by cases equal⟩
  have atOnce := committed faults
  unfold beginOperation committing at failed ⊢
  rw [run_bind] at failed ⊢
  rcases run : transaction sqlError (beginTransaction codec approval) ⟨ledger, faults⟩ with
    ⟨reason | value | _, session⟩
  · rw [run] at atOnce failed
    obtain rfl : reason = error := by simpa using failed
    exact .inl ⟨rfl, atOnce.2 reason rfl⟩
  · rw [run] at failed
    cases failed
  · rw [run] at atOnce
    obtain ⟨plan, event, stored, approves, same⟩ := Commit.begun_cases atOnce.1
    refine .inr ⟨rfl, plan, event, stored, approves, ?_⟩
    -- neither the checkpoint nor the last read touches a table
    have kept : Outcome (do completePendingCheckpoint; loadOperation approval.operationId)
        session.store fun _ after => after.tables = session.store.tables := by
      refine Outcome.bind (outcome_completePendingCheckpoint.mono fun result marked equal => ?_)
      cases result with
      | error error => exact equal
      | ok _ => exact outcome_load equal equal
    exact (kept session.faults).trans same

/-! ### Ownership in every run -/

theorem ledger_invariant {codec : Codec} {attempts : List Attempt}
    (admissible : ∀ attempt ∈ attempts, Admissible attempt.call) :
    OperationsKeyed (performAll codec emptyLedger attempts).tables ∧
      LocksFollowStages (performAll codec emptyLedger attempts).tables := by
  refine @performAll_invariant codec
    (fun tables => OperationsKeyed tables ∧ LocksFollowStages tables)
    (fun tables after call allowed inv commit =>
      ⟨inv.1.commit commit, LocksFollowStages.commit allowed inv.1 inv.2 commit⟩)
    attempts admissible emptyLedger ?_
  refine ⟨⟨List.nodup_nil, List.nodup_nil, ?_⟩, ⟨List.nodup_nil, ?_, ?_⟩⟩ <;>
    intro row member <;> cases member

/-- Two running operations that hold one key are the same operation. -/
theorem running_eq_of_shared_key {tables : Tables} (keyed : OperationsKeyed tables)
    (locks : LocksFollowStages tables) {first second : OperationRow}
    (firstMember : first ∈ tables.operations) (secondMember : second ∈ tables.operations)
    {firstPlan secondPlan : StoredPlan}
    (firstFound : tables.findPlan first.planId = some firstPlan)
    (secondFound : tables.findPlan second.planId = some secondPlan) {key : String}
    (firstHolds : key ∈ heldKeys first.stage firstPlan)
    (secondHolds : key ∈ heldKeys second.stage secondPlan) : first = second := by
  rw [← locks.exact first firstMember firstPlan firstFound] at firstHolds
  rw [← locks.exact second secondMember secondPlan secondFound] at secondHolds
  obtain ⟨firstLock, firstOwned, rfl⟩ := List.mem_map.mp firstHolds
  obtain ⟨secondLock, secondOwned, same⟩ := List.mem_map.mp secondHolds
  obtain ⟨firstIn, firstOwner⟩ := List.mem_filter.mp firstOwned
  obtain ⟨secondIn, secondOwner⟩ := List.mem_filter.mp secondOwned
  obtain rfl := eq_of_column_eq locks.unique secondIn firstIn same
  exact eq_of_column_eq keyed.unique firstMember secondMember
    ((beq_iff_eq.mp firstOwner).symm.trans (beq_iff_eq.mp secondOwner))

/-- In every faulty run from the empty ledger the lock rows of each operation are exactly those its
stage calls for, so running operations never share a resource or the reload lock; an approval that
fails changes no table unless its transaction had been committed, and then exactly that commit. -/
theorem lock_rows_follow_stages (codec : Codec) (attempts : List Attempt)
    (admissible : ∀ attempt ∈ attempts, Admissible attempt.call) (ledger : LedgerState)
    (reached : ledger = performAll codec emptyLedger attempts) :
    (∀ row ∈ ledger.tables.operations, ∃ plan, ledger.tables.findPlan row.planId = some plan ∧
      (ledger.tables.locksOf row.operationId).map LockRow.resourceKey =
        if row.stage.isTerminal then []
        else plan.resourceKey ::
          if plan.operationType = .certbotRenewTest ∨ plan.operationType = .certbotIssue then []
          else ["nginx/reload"]) ∧
    (∀ first ∈ ledger.tables.operations, ∀ second ∈ ledger.tables.operations,
      first.stage.isTerminal = false → second.stage.isTerminal = false →
      ∀ firstPlan secondPlan, ledger.tables.findPlan first.planId = some firstPlan →
        ledger.tables.findPlan second.planId = some secondPlan →
        (firstPlan.operationType ∉ [.certbotRenewTest, .certbotIssue] ∧
          secondPlan.operationType ∉ [.certbotRenewTest, .certbotIssue]) ∨
          firstPlan.resourceKey = secondPlan.resourceKey →
        first = second) ∧
    (∀ approval faults error,
      (beginOperation codec approval ⟨ledger, faults⟩).1 = .error error →
      ((transaction sqlError (beginTransaction codec approval) ⟨ledger, faults⟩).1 =
          .error error ∧ (beginOperation codec approval ⟨ledger, faults⟩).2.store = ledger) ∨
      ((transaction sqlError (beginTransaction codec approval) ⟨ledger, faults⟩).1 =
          .ok (.committed ()) ∧
        ∃ plan event, ledger.tables.findPlan approval.planId = some plan ∧
          Approves approval plan ∧
          (beginOperation codec approval ⟨ledger, faults⟩).2.store.tables =
            begun ledger.tables plan approval event)) := by
  obtain ⟨keyed, locks⟩ := @ledger_invariant codec attempts admissible
  rw [← reached] at keyed locks
  have reload : ∀ plan : StoredPlan, lockKeys plan = plan.resourceKey ::
      if plan.operationType = .certbotRenewTest ∨ plan.operationType = .certbotIssue then []
      else ["nginx/reload"] := by
    intro plan
    cases kind : plan.operationType <;> simp [lockKeys, skipsReloadLock, kind, nginxReloadKey]
  refine ⟨fun row member => ?_, ?_, fun approval faults error => beginOperation_error⟩
  · obtain ⟨plan, found⟩ := keyed.planned row member
    refine ⟨plan, found, ?_⟩
    rw [locks.exact row member plan found, heldKeys, reload]
  · intro first firstMember second secondMember firstRuns secondRuns firstPlan secondPlan
      firstFound secondFound shared
    rcases shared with ⟨firstKind, secondKind⟩ | same
    · have firstHolds : "nginx/reload" ∈ heldKeys first.stage firstPlan := by
        simp_all [heldKeys]
      have secondHolds : "nginx/reload" ∈ heldKeys second.stage secondPlan := by
        simp_all [heldKeys]
      exact running_eq_of_shared_key keyed locks firstMember secondMember firstFound secondFound
        firstHolds secondHolds
    · have firstHolds : firstPlan.resourceKey ∈ heldKeys first.stage firstPlan := by
        simp [heldKeys, firstRuns, lockKeys]
      have secondHolds : firstPlan.resourceKey ∈ heldKeys second.stage secondPlan := by
        simp [heldKeys, secondRuns, lockKeys, same]
      exact running_eq_of_shared_key keyed locks firstMember secondMember firstFound secondFound
        firstHolds secondHolds

def samplePlan : StoredPlan where
  operationType := .nginxSiteState
  planId := "plan_0"
  planHash := "hash_0"
  actor := ⟨1000, "operator", .operator⟩
  siteId := "ngs_0"
  displayName := "site"
  currentState := .disabled
  targetState := .enabled
  availableDigest := "available"
  enabledStateDigest := "disabled"
  createdAtMs := 0
  expiresAtMs := 10
  idempotencyKey := "key_0"
  requestDigest := "request"
  resourceKey := "nginx/site/ngs_0"
  managedConfig := none
  certbotRenew := none
  certbotIssue := none
  certbotAttach := none
  ufwRule := none

def sampleApproval : Approval :=
  ⟨"op_0", "plan_0", "hash_0", "key_0", ⟨1000, "operator", .operator⟩, 5⟩

def sampleAttempts : List Attempt :=
  [⟨.createOrReusePlan samplePlan, []⟩, ⟨.beginOperation sampleApproval, []⟩]

theorem lock_rows_of_sample :
    (performAll sampleCodec emptyLedger sampleAttempts).tables.operations.length = 1 ∧
    ∀ row ∈ (performAll sampleCodec emptyLedger sampleAttempts).tables.operations,
      ∃ plan, (performAll sampleCodec emptyLedger sampleAttempts).tables.findPlan row.planId =
          some plan ∧
        ((performAll sampleCodec emptyLedger sampleAttempts).tables.locksOf
          row.operationId).map LockRow.resourceKey =
        if row.stage.isTerminal then []
        else plan.resourceKey ::
          if plan.operationType = .certbotRenewTest ∨ plan.operationType = .certbotIssue then []
          else ["nginx/reload"] :=
  ⟨by decide +kernel,
    (lock_rows_follow_stages sampleCodec sampleAttempts
      (by simp [sampleAttempts, Admissible]) _ rfl).1⟩

/-- The read of the pending checkpoint after the commit fails: the approval reports an error, and
its operation and its two lock rows stay. -/
theorem beginOperation_error_after_commit :
    ∃ error, (beginOperation sampleCodec sampleApproval
        ⟨performAll sampleCodec emptyLedger [⟨.createOrReusePlan samplePlan, []⟩],
          List.replicate 10 false ++ [true]⟩).1 = .error error ∧
      (beginOperation sampleCodec sampleApproval
        ⟨performAll sampleCodec emptyLedger [⟨.createOrReusePlan samplePlan, []⟩],
          List.replicate 10 false ++ [true]⟩).2.store.tables ≠
        (performAll sampleCodec emptyLedger [⟨.createOrReusePlan samplePlan, []⟩]).tables :=
  ⟨sqlError, by decide +kernel⟩

end JwOps.Ledger.Locks
