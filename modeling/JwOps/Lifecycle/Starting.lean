/- module: Lifecycle/Starting
   source: crates/jw-opsd/src/engine.rs, crates/jw-opsd/src/ledger.rs
   digest: How a start of the daemon recovers the operations that it finds incomplete. -/
import JwOps.Lifecycle.Serving

set_option autoImplicit false

namespace JwOps.Lifecycle.Starting

open Contracts Ledger Operation Digest Schema Reads Locks Commits
open Engine.Interface hiding openLedger
open Engine.Recovery Lifecycle.History Lifecycle.Tracking Lifecycle.Dispatch Lifecycle.System
open Lifecycle.Simulation Lifecycle.Safety Lifecycle.Serving Foundation.Keyed Foundation.Program

variable {H : Type} {runtime : Runtime} {model : HostModel H} {world : World H}

/-! ### Recovering one operation -/

/-- The snapshot directory as the reads of a stretch of the log found it. -/
def FilesRead (files : String → Nat → Except OpsError Bytes) (log : List Entry) : Prop :=
  ∀ before after focus path maxBytes answer,
    (⟨before, after, focus, .host (.readSnapshotFile path maxBytes), answer⟩ : Entry) ∈ log →
      answer = files path maxBytes

/-- Recovery can work with what is left of the operation's snapshot. -/
def Restorable (runtime : Runtime) (files : String → Nat → Except OpsError Bytes)
    (operation : StoredOperation) : Prop :=
  strict operation.plan.operationType = true → operation.stage ∈ appliedStages →
    ∃ record, operation.snapshot = some record ∧
      usableAnswer runtime operation
        (files record.relativePath (snapshotKind operation.plan.operationType).maxBytes) = true

/-- The host may have been changed for the operation, and its snapshot does not decode. -/
def Damaged (runtime : Runtime) (files : String → Nat → Except OpsError Bytes)
    (operation : StoredOperation) : Prop :=
  operation.stage ∈ appliedStages ∧ ∀ record, operation.snapshot = some record →
    damaged runtime operation
      (files record.relativePath (snapshotKind operation.plan.operationType).maxBytes) = true

variable {operationId : String} {files : String → Nat → Except OpsError Bytes}
  {operation : StoredOperation} {operations : List StoredOperation}

theorem mem_seenFor {log : List Entry} {observation : Observation}
    (member : observation ∈ seenFor operationId log) : ∃ before after focus,
      (⟨before, after, focus, .host observation.call, observation.answer⟩ : Entry) ∈ log := by
  obtain ⟨⟨before, after, focus, call, answer⟩, inLog, observed⟩ := List.mem_filterMap.mp member
  cases call with
  | ledger call => cases observed
  | mark identifier => cases observed
  | host call =>
    simp only [observedFor] at observed
    split at observed
    · split at observed
      · obtain rfl := Option.some.inj observed
        exact ⟨before, after, focus, inLog⟩
      · cases observed
    · cases observed

/-- A read of the snapshot blocks exactly if the file is of no use. -/
theorem blocks_snapshotRead {files : String → Nat → Except OpsError Bytes} {operationId : String}
    {recent : List Entry} (read : FilesRead files recent) {operation : StoredOperation}
    {observation : Observation} (member : observation ∈ seenFor operationId recent)
    (snapshot : SnapshotRead operation observation) :
    ∃ record, operation.snapshot = some record ∧ observation.blocks runtime =
      (strict operation.plan.operationType && !usableAnswer runtime operation
        (files record.relativePath (snapshotKind operation.plan.operationType).maxBytes)) := by
  obtain ⟨plan, kept, record, present, call⟩ := snapshot
  refine ⟨record, present, ?_⟩
  obtain ⟨before, after, focus, inLog⟩ := mem_seenFor member
  obtain ⟨standing, other, answer⟩ := observation
  obtain rfl : other = _ := call
  rw [← read _ _ _ _ _ _ inLog]
  simp only at plan kept
  simp only [Observation.blocks, blocks, plan, usableAnswer, kept]

/-- The operation is terminal, and given up if its snapshot is damaged. -/
def Ended (runtime : Runtime) (files : String → Nat → Except OpsError Bytes)
    (operation : StoredOperation) (tables : Tables) : Prop :=
  ∃ reached, loadOperationFrom tables operation.operationId = .ok reached ∧
    reached.stage.isTerminal = true ∧
    (Damaged runtime files operation → reached.stage = .recoveryRequired)

/-- How recovery leaves one operation, if the ledger works. -/
structure Recovered (runtime : Runtime) (operation : StoredOperation)
    (result : Except OpsError Unit) (world after : World H) : Prop where
  others : ∀ other, other ≠ operation.operationId →
    loadOperationFrom after.tables other = loadOperationFrom world.tables other
  grown : ∃ recent, after.log = recent ++ world.log ∧ ∀ files, FilesRead files recent →
    recent.any ledgerFailed = false →
    (result.toBool = true ↔ Restorable runtime files operation) ∧
    (result.toBool = true → Ended runtime files operation after.tables)

theorem Damaged.seen {recent : List Entry} (bad : Damaged runtime files operation)
    (read : FilesRead files recent) {record : SnapshotRecord} {standing : StoredOperation}
    {answer : Except OpsError Bytes} (kept : operation.snapshot = some record)
    (member : (⟨standing,
      .readSnapshotFile record.relativePath (snapshotKind operation.plan.operationType).maxBytes,
      answer⟩ : Observation) ∈ seenFor operationId recent) :
      damaged runtime operation answer = true := by
  obtain ⟨before, after, focus, inLog⟩ := mem_seenFor member
  obtain rfl : answer = _ := read _ _ _ _ _ _ inLog
  exact bad.2 record kept

theorem not_damaged_of_restorable (isStrict : strict operation.plan.operationType = true)
    (restorable : Restorable runtime files operation) : ¬Damaged runtime files operation := by
  rintro ⟨applied, bad⟩
  obtain ⟨record, kept, useful⟩ := restorable isStrict applied
  have fine := damaged_of_usable isStrict useful
  rw [bad record kept] at fine
  cases fine

theorem safe_recoverOperation {operation : StoredOperation} (good : Good runtime world)
    (stored : loadOperationFrom world.tables operation.operationId = .ok operation) {nowMs : Int} :
    SafeE (environment runtime model) (Permitted runtime)
      (recoverOperation runtime operation nowMs) world fun result after =>
        Recovered runtime operation result world after := by
  have recoverable := Sane.recoverable (good.sane _ _ stored)
  have start := @running_start runtime operation
  have settles := @settles_recoverStage runtime
    (fun observation => operation.stage ∈ appliedStages ∧ SnapshotRead operation observation)
    operation _ start recoverable (fun applied _ read => ⟨applied, read⟩) nowMs
  have reads : SafeE step (fun _ _ => True) (recoverStage runtime operation nowMs)
      ⟨operation, true, false, []⟩ fun result after => operation.stage ∈ appliedStages →
        (strict operation.plan.operationType = true → Reads operation result after) ∧
        (strict operation.plan.operationType = false → GivenUp runtime operation after) := by
    by_cases applied : operation.stage ∈ appliedStages
    · cases kind : strict operation.plan.operationType with
      | true =>
        exact (reads_recoverStage start recoverable applied kind).mono
          fun _ _ read _ => ⟨fun _ => read, nofun⟩
      | false =>
        exact (givenUp_recoverStage start recoverable applied kind).mono
          fun _ _ givenUp _ => ⟨nofun, fun _ => givenUp⟩
    · exact (safe_grows _).mono fun _ _ _ reached => absurd reached applied
  refine safe_mark ((permits_tracked (related_start good.keyed stored)
    (settles.and reads)).mono ?_)
  rintro result after ⟨last, related, settled, read⟩
  obtain ⟨recent, log, fault, seen⟩ := related.log
  refine ⟨related.others, recent, log, fun files consistent faultless => ?_⟩
  have quiet : last.fault = false := fault.trans faultless
  have known := related.faultless quiet
  have seen := seen known
  rcases settled quiet with ⟨terminal, succeeds, clear⟩ |
    ⟨_, fails, observation, member, bad, applied, snapshot⟩
  · have restorable : Restorable runtime files operation := by
      intro isStrict applied
      obtain ⟨observation, member, snapshot⟩ := (read applied).1 isStrict succeeds
      have passed := clear observation member
      rw [seen] at member
      obtain ⟨record, present, answer⟩ := @blocks_snapshotRead runtime _ _ _ consistent _ _ member
        snapshot
      rw [answer, isStrict, Bool.true_and, Bool.not_eq_false'] at passed
      exact ⟨record, present, passed⟩
    refine ⟨iff_of_true succeeds restorable, fun _ =>
      ⟨last.operation, related.stored known, terminal, fun bad => ?_⟩⟩
    cases kind : strict operation.plan.operationType with
    | true => exact absurd bad (not_damaged_of_restorable kind restorable)
    | false =>
      refine (read bad.1).2 kind quiet fun record standing answer kept member => ?_
      rw [seen] at member
      exact bad.seen consistent kept member
  · rw [seen] at member
    obtain ⟨record, present, answer⟩ := @blocks_snapshotRead runtime _ _ _ consistent _ _ member
      snapshot
    rw [answer, Bool.and_eq_true, Bool.not_eq_true'] at bad
    refine ⟨iff_of_false (by rw [fails]; exact Bool.false_ne_true) fun restorable => ?_,
      fun succeeds => by rw [fails] at succeeds; cases succeeds⟩
    obtain ⟨other, otherIs, useful⟩ := restorable bad.1 applied
    obtain rfl := Option.some.inj (present.symm.trans otherIs)
    rw [bad.2] at useful
    cases useful

/-! ### Incomplete operations -/

/-- What `incomplete_operations` answers: every incomplete operation, once. -/
theorem incompleteOperationsFrom_ok {tables : Tables} (keyed : OperationsKeyed tables)
    (read : incompleteOperationsFrom tables = .ok operations) :
    (operations.map StoredOperation.operationId).Nodup ∧
    (∀ operation ∈ operations,
      loadOperationFrom tables operation.operationId = .ok operation ∧
        operation.stage.isTerminal = false) ∧
    ∀ operationId operation, loadOperationFrom tables operationId = .ok operation →
      operation.stage.isTerminal = false → operation ∈ operations := by
  obtain ⟨ids, listed, known⟩ := mapM_ok (fun _ _ stored => loadOperationFrom_id stored) read
  have member {row : OperationRow} : row ∈ incompleteRows tables ↔
      row ∈ tables.operations ∧ row.stage.isTerminal = false := by
    simp [incompleteRows, List.mem_insertionSort]
  refine ⟨?_, fun operation inList => ?_, fun operationId operation stored working => ?_⟩
  · rw [ids, incompleteRows, ((List.perm_insertionSort byCreation _).map _).nodup_iff]
    exact keyed.unique.sublist (List.filter_sublist.map _)
  · obtain ⟨row, rowIn, stored⟩ := known operation inList
    have id := loadOperationFrom_id stored
    rw [← id] at stored
    refine ⟨stored, ?_⟩
    obtain ⟨found, plan, foundIs, _, shape⟩ := loadOperationFrom_ok_iff.mp stored
    obtain ⟨rowMember, working⟩ := member.mp rowIn
    have same : found = row := eq_of_column_eq keyed.unique (lookup_mem foundIs) rowMember
      ((lookup_key foundIs).trans id)
    have stage : operation.stage = found.stage := congrArg StoredOperation.stage shape
    rw [stage, same]
    exact working
  · obtain ⟨row, plan, found, _, rfl⟩ := loadOperationFrom_ok_iff.mp stored
    obtain ⟨loaded, inList, storedOne⟩ := listed row (member.mpr ⟨lookup_mem found, working⟩)
    rw [lookup_key found] at storedOne
    obtain rfl := Except.ok.inj (storedOne.symm.trans stored)
    exact inList

/-! ### Recovering all -/

/-- How the recovery loop leaves the operations it was given, if the ledger works. -/
structure RecoveredAll (runtime : Runtime) (operations : List StoredOperation)
    (result : Except OpsError Unit) (world after : World H) : Prop where
  good : Good runtime after
  others : ∀ other, other ∉ operations.map StoredOperation.operationId →
    loadOperationFrom after.tables other = loadOperationFrom world.tables other
  grown : ∃ recent, after.log = recent ++ world.log ∧ ∀ files, FilesRead files recent →
    recent.any ledgerFailed = false →
    (result.toBool = true ↔ ∀ operation ∈ operations, Restorable runtime files operation) ∧
    (result.toBool = true → ∀ operation ∈ operations,
      Ended runtime files operation after.tables)

theorem FilesRead.append {newer older : List Entry} (read : FilesRead files (newer ++ older)) :
    FilesRead files newer ∧ FilesRead files older :=
  ⟨fun _ _ _ _ _ _ member => read _ _ _ _ _ _ (List.mem_append_left _ member),
    fun _ _ _ _ _ _ member => read _ _ _ _ _ _ (List.mem_append_right _ member)⟩

section

variable (nowMs : Int) (good : Good runtime world)
include nowMs good

theorem safe_recoverAll (distinct : (operations.map StoredOperation.operationId).Nodup)
    (stored : ∀ operation ∈ operations, loadOperationFrom world.tables operation.operationId =
      .ok operation) :
    SafeE (environment runtime model) (Permitted runtime) (recoverAll runtime nowMs operations)
      world (fun result after => RecoveredAll runtime operations result world after) := by
  induction operations generalizing world with
  | nil =>
    refine SafeE.ret () ⟨good, fun _ _ => rfl, [], rfl, fun _ _ _ => ⟨iff_of_true rfl ?_, ?_⟩⟩
    · exact fun _ member => absurd member List.not_mem_nil
    · exact fun _ _ member => absurd member List.not_mem_nil
  | cons operation rest ih =>
    obtain ⟨fresh, distinct⟩ := List.nodup_cons.mp distinct
    have first := good.along (@safe_recoverOperation H runtime model world operation good
      (stored operation List.mem_cons_self) nowMs)
    refine SafeE.bind (first.mono ?_)
    rintro result middle ⟨goodMiddle, recovered⟩
    obtain ⟨older, log, recoveredIs⟩ := recovered.grown
    have foreign {other : String} (outside : other ∉ (operation :: rest).map
        StoredOperation.operationId) : other ≠ operation.operationId ∧
        other ∉ rest.map StoredOperation.operationId := by
      simpa [not_or] using outside
    cases result with
    | error error =>
      refine ⟨goodMiddle, fun other outside => recovered.others other (foreign outside).1,
        older, log, fun files consistent faultless => ?_⟩
      obtain ⟨restorable, _⟩ := recoveredIs files consistent faultless
      refine ⟨iff_of_false nofun fun all => ?_, nofun⟩
      exact Bool.false_ne_true (restorable.mpr (all operation List.mem_cons_self))
    | ok _ =>
      have still : ∀ other ∈ rest,
          loadOperationFrom middle.tables other.operationId = .ok other := by
        intro other member
        rw [recovered.others]
        · exact stored other (List.mem_cons_of_mem _ member)
        · rintro same
          exact fresh (same ▸ List.mem_map_of_mem member)
      refine (ih goodMiddle distinct still).mono fun result after all => ?_
      obtain ⟨newer, later, allIs⟩ := all.grown
      refine ⟨all.good, fun other outside => ?_, newer ++ older, ?_, ?_⟩
      · rw [all.others other (foreign outside).2, recovered.others other (foreign outside).1]
      · rw [later, log, List.append_assoc]
      · intro files consistent faultless
        obtain ⟨readNewer, readOlder⟩ := consistent.append
        rw [List.any_append, Bool.or_eq_false_iff] at faultless
        obtain ⟨restorable, ended⟩ := recoveredIs files readOlder faultless.2
        obtain ⟨restorables, endedAll⟩ := allIs files readNewer faultless.1
        rw [List.forall_mem_cons, restorables, and_iff_right (restorable.mp rfl)]
        refine ⟨Iff.rfl, fun succeeds => List.forall_mem_cons.mpr ⟨?_, endedAll ?_⟩⟩
        · obtain ⟨reached, read, terminal⟩ := ended rfl
          refine ⟨reached, ?_, terminal⟩
          rw [all.others _ fresh]
          exact read
        · exact restorables.mpr succeeds

/-! ### Starting -/

/-- Expired proposals are removed as far as that is possible; only the ledger can fail. -/
theorem safe_removeExpiredProposals :
    SafeE (environment runtime model) (Permitted runtime) (removeExpiredProposals nowMs) world
      fun result after => Untouched world after ∧ ∃ recent, after.log = recent ++ world.log ∧
        (recent.any ledgerFailed = false → result.toBool = true) := by
  have outcome : SafeE (environment runtime model) (fun _ _ => True)
      (removeExpiredProposals nowMs) world fun result after => result.toBool = true ∨
        ∃ entry, after.log = entry :: world.log ∧ ledgerFailed entry = true := by
    refine SafeE.bind ⟨trivial, ?_⟩
    rintro answer _ ⟨_, _, _, _, rfl⟩
    cases answer with
    | error error => exact .inr ⟨_, rfl, rfl⟩
    | ok plans =>
      have succeeds : Succeeds (plans.forM removePlanProposal) :=
        Succeeds.forM fun plan => Succeeds.forM fun record =>
          Succeeds.bind (Succeeds.attempt _) fun _ => rfl
      exact (succeeds.safe _ _).mono fun _ _ done => .inl done
  have harmless := @permits_harmless H runtime model world _ _ good
    (removeExpiredProposals_harmless nowMs)
  refine (harmless.and outcome).mono ?_
  rintro result after ⟨⟨_, untouched⟩, done | ⟨entry, log, failed⟩⟩
  · obtain ⟨recent, log⟩ := untouched.grown
    exact ⟨untouched, recent, log, fun _ => done⟩
  · refine ⟨untouched, [entry], log, fun faultless => ?_⟩
    simp [failed] at faultless

/-- The incomplete operations of a ledger. -/
def Incomplete (tables : Tables) (operation : StoredOperation) : Prop :=
  loadOperationFrom tables operation.operationId = .ok operation ∧
    operation.stage.isTerminal = false

/-- How a start leaves what was incomplete before it, if the ledger works. -/
def Resumed (runtime : Runtime) (files : String → Nat → Except OpsError Bytes)
    (result : Except OpsError Unit) (before after : Tables) : Prop :=
  result.toBool = true ∧ ∀ operation, Incomplete before operation →
    Ended runtime files operation after

/-- From the query of the incomplete operations on. -/
theorem safe_resume {before : Tables} (same : world.tables = before) :
    SafeE (environment runtime model) (Permitted runtime)
      (ledger .incompleteOperations >>= fun operations =>
        recoverAll runtime nowMs operations >>= fun _ => removeExpiredProposals nowMs) world
      fun result after => ∃ recent, after.log = recent ++ world.log ∧
        ∀ files, FilesRead files recent → recent.any ledgerFailed = false →
          (Resumed runtime files result before after.tables ↔
            ∀ operation, Incomplete before operation → Restorable runtime files operation) := by
  subst same
  refine SafeE.bind (safe_call trivial fun answer after stepped => ?_)
  have goodAfter : Good runtime after := @Good.step H runtime model world after good
    (.ledger .incompleteOperations) trivial answer stepped
  have kept := tables_of_read stepped rfl
  cases answer with
  | error error =>
    obtain ⟨session, rfl, _⟩ := ledger_stepped stepped
    exact ⟨[_], rfl, fun _ _ faultless => by cases faultless⟩
  | ok operations =>
    have read := incomplete_stored stepped
    obtain ⟨session, rfl, _⟩ := ledger_stepped stepped
    rw [kept] at read
    obtain ⟨distinct, listed, complete⟩ := incompleteOperationsFrom_ok good.keyed read
    have incomplete : ∀ operation, Incomplete world.tables operation ↔ operation ∈ operations :=
      fun operation => ⟨fun both => complete _ _ both.1 both.2, listed operation⟩
    simp only [Resumed, incomplete]
    refine SafeE.bind ((safe_recoverAll nowMs goodAfter distinct ?_).mono ?_)
    · intro operation member
      rw [kept]
      exact (listed operation member).1
    intro result middle recovered
    obtain ⟨older, log, outcome⟩ := recovered.grown
    obtain ⟨queried, log⟩ : ∃ entry, middle.log = (older ++ [entry]) ++ world.log :=
      ⟨_, by rw [log, List.append_assoc]; rfl⟩
    cases result with
    | error error =>
      refine ⟨older ++ [queried], log, ?_⟩
      intro files consistent faultless
      rw [List.any_append, Bool.or_eq_false_iff] at faultless
      rw [← (outcome files consistent.append.1 faultless.1).1]
      exact iff_of_false (fun both => Bool.false_ne_true both.1) Bool.false_ne_true
    | ok _ =>
      refine (safe_removeExpiredProposals nowMs recovered.good).mono ?_
      rintro result after ⟨untouched, newer, later, succeeds⟩
      refine ⟨newer ++ (older ++ [queried]), by rw [later, log, List.append_assoc newer], ?_⟩
      intro files consistent faultless
      simp only [List.any_append, Bool.or_eq_false_iff] at faultless
      obtain ⟨restorable, ended⟩ := outcome files consistent.append.2.append.1 faultless.2.1
      rw [← restorable]
      refine iff_of_true ⟨succeeds faultless.1, fun operation member => ?_⟩ rfl
      obtain ⟨reached, stored, terminal⟩ := ended rfl operation member
      exact ⟨reached, untouched.operations _ _ stored, terminal⟩

/-- The oldest call of a start swept the temporaries, and it succeeded. -/
def Swept (recent : List Entry) : Prop :=
  ∃ before after focus, recent.getLast? =
    some ⟨before, after, focus, .host .cleanupInternalTemporaries, .ok ()⟩

/-- A start of the daemon, if the ledger works. -/
def Started (runtime : Runtime) (result : Except OpsError Unit) (world after : World H) : Prop :=
  ∃ recent, after.log = recent ++ world.log ∧
    ∀ files, FilesRead files recent → recent.any ledgerFailed = false →
      (Resumed runtime files result world.tables after.tables ↔
        Swept recent ∧ ∀ operation, Incomplete world.tables operation →
          Restorable runtime files operation)

theorem safe_initializeService :
    SafeE (environment runtime model) (Permitted runtime) (initializeService runtime nowMs) world
      fun result after => Started runtime result world after := by
  refine SafeE.bind (safe_call nofun fun answer swept stepped => ?_)
  have goodSwept : Good runtime swept := @Good.step H runtime model world swept good
    (.host .cleanupInternalTemporaries) nofun answer stepped
  obtain ⟨_, host, _, rfl⟩ := stepped
  cases answer with
  | error error =>
    refine ⟨[_], rfl, fun _ _ _ => iff_of_false (fun both => Bool.false_ne_true both.1) ?_⟩
    rintro ⟨⟨_, _, _, last⟩, _⟩
    simp at last
  | ok _ =>
  refine SafeE.onError (safe_call trivial fun answer opened stepped => ?_)
  have goodOpened : Good runtime opened := @Good.step H runtime model _ opened goodSwept
    (.ledger .openLedger) trivial answer stepped
  have same := tables_of_read stepped rfl
  have kept : opened.tables = world.tables := same
  obtain ⟨session, rfl, _⟩ := ledger_stepped stepped
  cases answer with
  | error error =>
    dsimp only [id]
    split
    · refine safe_call nofun ?_
      rintro _ _ ⟨_, host, _, rfl⟩
      exact ⟨[_, _, _], rfl, fun _ _ faultless => by cases faultless⟩
    · exact ⟨[_, _], rfl, fun _ _ faultless => by cases faultless⟩
  | ok _ =>
    refine (safe_resume nowMs goodOpened kept).mono ?_
    rintro result after ⟨recent, log, outcome⟩
    refine ⟨recent ++ [_, _], by rw [log, List.append_assoc]; rfl, ?_⟩
    intro files consistent faultless
    rw [List.any_append, Bool.or_eq_false_iff] at faultless
    rw [outcome files consistent.append.1 faultless.1, and_iff_right]
    exact ⟨_, _, _, by rw [List.getLast?_append]; rfl⟩

end

end JwOps.Lifecycle.Starting
