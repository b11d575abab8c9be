/- module: Ledger/Idempotency
   source: crates/jw-opsd/src/ledger.rs (create_or_reuse_plan, begin_operation),
     crates/jw-opsd/migrations/0001_initial.sql
   digest: A key stays with its plan and a plan with its operation, however often calls are
   repeated. -/
import JwOps.Ledger.Locks
import Mathlib.Logic.Relation

set_option autoImplicit false

namespace JwOps.Ledger.Idempotency

open Foundation Contracts.Digest Schema Writes Commits Locks Keyed Transaction

variable {codec : Codec} {tables after : Tables} {call : LedgerWrite}

/-! ### Runs as chains of commits -/

/-- The tables that commits can lead to. -/
abbrev Committed (codec : Codec) : Tables → Tables → Prop :=
  Relation.ReflTransGen fun tables after => ∃ call, Commit codec tables call after

theorem committed_performAll {ledger : LedgerState} {attempts : List Attempt} :
    Committed codec ledger.tables (performAll codec ledger attempts).tables := by
  induction attempts generalizing ledger with
  | nil => exact .refl
  | cons attempt rest ih =>
    have later := @ih (Attempt.perform codec ledger attempt)
    change Committed codec ledger.tables
      (performAll codec (Attempt.perform codec ledger attempt) rest).tables
    rcases @outcome_run codec ledger attempt.call attempt.faults with same | commit
    · have kept : Attempt.perform codec ledger attempt = ledger := same
      rw [kept] at later ⊢
      exact later
    · exact .head ⟨attempt.call, commit⟩ later

/-! ### Keys and plans -/

/-- Every key has one plan, and every plan is under its key. -/
structure KeysBound (tables : Tables) : Prop where
  keys : (tables.idempotency.map IdempotencyRow.idempotencyKey).Nodup
  plans : (tables.plans.map StoredPlan.planId).Nodup
  bound : ∀ row ∈ tables.idempotency, ∃ plan ∈ tables.plans, plan.planId = row.planId ∧
    plan.idempotencyKey = row.idempotencyKey ∧ plan.requestDigest = row.requestDigest
  filed : ∀ plan ∈ tables.plans, ∃ row ∈ tables.idempotency,
    row.idempotencyKey = plan.idempotencyKey ∧ row.planId = plan.planId

theorem KeysBound.commit (keyed : KeysBound tables) (commit : Commit codec tables call after) :
    KeysBound after := by
  cases commit with
  | planned plan event unbound fresh =>
    have free := lookup_eq_none.mp unbound
    constructor
    · exact nodup_concat keyed.keys free
    · exact nodup_concat keyed.plans fun other member => (fresh other member).1
    · intro row member
      rcases List.mem_append.mp member with old | new
      · obtain ⟨known, stored, facts⟩ := keyed.bound row old
        exact ⟨known, List.mem_append_left _ stored, facts⟩
      · obtain rfl := List.mem_singleton.mp new
        exact ⟨plan, List.mem_append_right _ (List.mem_singleton_self _), rfl, rfl, rfl⟩
    · intro other member
      rcases List.mem_append.mp member with old | new
      · obtain ⟨row, filed, facts⟩ := keyed.filed other old
        exact ⟨row, List.mem_append_left _ filed, facts⟩
      · obtain rfl := List.mem_singleton.mp new
        exact ⟨_, List.mem_append_right _ (List.mem_singleton_self _), rfl, rfl⟩
  | begun approval plan event =>
    have kept : ∀ row : IdempotencyRow,
        ({ row with operationId := some approval.operationId } : IdempotencyRow).idempotencyKey =
          row.idempotencyKey := fun _ => rfl
    constructor
    · change ((updateAt _ _ _ _).map _).Nodup
      rw [map_updateAt kept]
      exact keyed.keys
    · exact keyed.plans
    · intro row member
      rcases mem_updateAt member with ⟨old, _⟩ | ⟨old, before, _, rfl⟩
      · exact keyed.bound row old
      · exact keyed.bound old before
    · intro other member
      obtain ⟨row, filed, key, planId⟩ := keyed.filed other member
      refine ⟨_, List.mem_map_of_mem filed, ?_⟩
      split
      · exact ⟨key, planId⟩
      · exact ⟨key, planId⟩
  | attached _ _ _ _ _ | moved _ _ _ _ _ _ =>
    exact ⟨keyed.keys, keyed.plans, keyed.bound, keyed.filed⟩

/-- Everything that lookups found is found again, but for what may change by design. -/
structure Grows (tables after : Tables) : Prop where
  plans : ∀ planId plan, tables.findPlan planId = some plan → after.findPlan planId = some plan
  keys : ∀ key row, tables.findIdempotency key = some row →
    ∃ later, after.findIdempotency key = some later ∧ later.planId = row.planId ∧
      later.requestDigest = row.requestDigest
  operations : ∀ planId row, tables.findOperationOfPlan planId = some row →
    ∃ later, after.findOperationOfPlan planId = some later ∧ later.operationId = row.operationId

theorem Grows.refl (tables : Tables) : Grows tables tables :=
  ⟨fun _ _ found => found, fun _ row found => ⟨row, found, rfl, rfl⟩,
    fun _ row found => ⟨row, found, rfl⟩⟩

theorem Grows.trans {middle : Tables} (first : Grows tables middle) (second : Grows middle after) :
    Grows tables after := by
  constructor
  · intro planId plan found
    exact second.plans planId plan (first.plans planId plan found)
  · intro key row found
    obtain ⟨between, here, planId, digest⟩ := first.keys key row found
    obtain ⟨later, there, samePlan, sameDigest⟩ := second.keys key between here
    exact ⟨later, there, samePlan.trans planId, sameDigest.trans digest⟩
  · intro planId row found
    obtain ⟨between, here, same⟩ := first.operations planId row found
    obtain ⟨later, there, again⟩ := second.operations planId between here
    exact ⟨later, there, again.trans same⟩

/-- A row of `operations` keeps its two keys when one operation is updated. -/
theorem grows_updateRows {operationId : String} {change : OperationRow → OperationRow}
    (keepsId : ∀ row, (change row).operationId = row.operationId)
    (keepsPlan : ∀ row, (change row).planId = row.planId) {planId : String} {row : OperationRow}
    (found : tables.findOperationOfPlan planId = some row) :
    ∃ later, lookup OperationRow.planId planId
        (updateRows operationId change tables.operations) = some later ∧
      later.operationId = row.operationId := by
  rw [updateRows, lookup_updateAt_column keepsPlan]
  refine ⟨_, congrArg _ found, ?_⟩
  beta_reduce
  split
  · exact keepsId row
  · rfl

theorem Grows.commit (commit : Commit codec tables call after) : Grows tables after := by
  cases commit with
  | planned plan event =>
    constructor
    · intro planId known found
      exact findPlan_planned found
    · intro key row found
      refine ⟨row, ?_, rfl, rfl⟩
      unfold Tables.findIdempotency at found ⊢
      rw [Commits.planned, lookup_concat, found]
      rfl
    · intro planId row found
      exact ⟨row, found, rfl⟩
  | begun approval plan event =>
    constructor
    · intro planId known found
      exact found
    · intro key row found
      have kept : ∀ row : IdempotencyRow,
          ({ row with operationId := some approval.operationId } :
            IdempotencyRow).idempotencyKey = row.idempotencyKey := fun _ => rfl
      unfold Tables.findIdempotency at found ⊢
      rw [Commits.begun, lookup_updateAt_column kept, found]
      refine ⟨_, rfl, ?_⟩
      beta_reduce
      split
      · exact ⟨rfl, rfl⟩
      · exact ⟨rfl, rfl⟩
    · intro planId row found
      refine ⟨row, ?_, rfl⟩
      unfold Tables.findOperationOfPlan at found ⊢
      rw [Commits.begun, lookup_concat, found]
      rfl
  | attached operationId snapshot nowMs current event =>
    constructor
    · intro planId known found
      exact found
    · intro key row found
      exact ⟨row, found, rfl, rfl⟩
    · intro planId row found
      exact grows_updateRows (snapshotRow_operationId snapshot nowMs)
        (snapshotRow_planId snapshot nowMs) found
  | moved operationId change diagnostics command current event =>
    constructor
    · intro planId known found
      exact found
    · intro key row found
      exact ⟨row, found, rfl, rfl⟩
    · intro planId row found
      exact grows_updateRows (moveRow_operationId change current)
        (moveRow_planId change current) found

theorem Grows.committed (path : Committed codec tables after) : Grows tables after := by
  induction path with
  | refl => exact Grows.refl tables
  | tail _ step ih =>
    obtain ⟨call, commit⟩ := step
    exact ih.trans (Grows.commit commit)

theorem keyed_committed (path : Committed codec emptyLedger.tables after) :
    KeysBound after ∧ OperationsKeyed after := by
  induction path with
  | refl =>
    constructor
    · constructor
      · exact List.nodup_nil
      · exact List.nodup_nil
      · intro row member
        cases member
      · intro plan member
        cases member
    · constructor
      · exact List.nodup_nil
      · exact List.nodup_nil
      · intro row member
        cases member
  | tail _ step ih =>
    obtain ⟨call, commit⟩ := step
    exact ⟨ih.1.commit commit, ih.2.commit commit⟩

/-- The plan under a key. -/
def planOf (tables : Tables) (key : String) : Option StoredPlan :=
  (tables.findIdempotency key).bind fun row => tables.findPlan row.planId

theorem Grows.planOf {key : String} {plan : StoredPlan} (grows : Grows tables after)
    (found : planOf tables key = some plan) : Idempotency.planOf after key = some plan := by
  obtain ⟨row, bound, stored⟩ := Option.bind_eq_some_iff.mp found
  obtain ⟨later, kept, planId, _⟩ := grows.keys key row bound
  refine Option.bind_eq_some_iff.mpr ⟨later, kept, ?_⟩
  rw [planId]
  exact grows.plans row.planId plan stored

/-! ### Answers -/

variable {ledger : LedgerState}

/-- The plan stands under the key, for the request with the digest. -/
def Filed (tables : Tables) (key digest : String) (plan : StoredPlan) : Prop :=
  ∃ row, tables.findIdempotency key = some row ∧ row.requestDigest = digest ∧
    tables.findPlan row.planId = some plan

theorem Filed.grows {key digest : String} {plan : StoredPlan} (filed : Filed tables key digest plan)
    (grows : Grows tables after) : Filed after key digest plan := by
  obtain ⟨row, found, rfl, stored⟩ := filed
  obtain ⟨later, kept, planId, same⟩ := grows.keys key row found
  exact ⟨later, kept, same, planId ▸ grows.plans row.planId plan stored⟩

theorem createOrReusePlan_filed {request : StoredPlan} :
    Outcome (createOrReusePlan codec request) ledger fun result reached =>
      ∀ stored, result = .ok stored →
        Filed reached.tables request.idempotencyKey request.requestDigest stored := by
  refine outcome_createOrReusePlan.mono ?_
  rintro result reached (⟨rfl, answer⟩ | ⟨commit, answer⟩) stored rfl
  · rcases answer with ⟨_, bad⟩ | ⟨value, same, filed⟩
    · cases bad
    · obtain rfl := Except.ok.inj same
      exact filed
  · rcases answer with ⟨_, bad⟩ | same
    · cases bad
    · obtain rfl := Except.ok.inj same
      generalize reached.tables = final at commit ⊢
      cases commit with
      | planned _ event unbound fresh =>
        refine ⟨⟨stored.idempotencyKey, stored.requestDigest, stored.planId, none⟩,
          lookup_concat_fresh rfl (lookup_eq_none.mp unbound), rfl, ?_⟩
        exact lookup_concat_fresh rfl fun other member => (fresh other member).1

/-- The plan that a successful call answers is the one under its key. -/
theorem createOrReusePlan_ok (request : StoredPlan) :
    Outcome (createOrReusePlan codec request) ledger fun result reached =>
      Grows ledger.tables reached.tables ∧ ∀ stored, result = .ok stored →
        planOf reached.tables request.idempotencyKey = some stored := by
  refine (outcome_createOrReusePlan.and createOrReusePlan_filed).mono ?_
  rintro result reached ⟨post, answers⟩
  constructor
  · rcases post with ⟨rfl, _⟩ | ⟨commit, _⟩
    · exact Grows.refl _
    · exact Grows.commit commit
  · intro stored same
    obtain ⟨row, found, _, filed⟩ := answers stored same
    exact Option.bind_eq_some_iff.mpr ⟨row, found, filed⟩

section Conflict

variable {request : StoredPlan} {row : IdempotencyRow}

/-- A key that is in use for another request. -/
theorem createOrReusePlan_conflict
    (found : ledger.tables.findIdempotency request.idempotencyKey = some row)
    (differ : row.requestDigest ≠ request.requestDigest) :
    Outcome (createOrReusePlan codec request) ledger fun result reached =>
      reached = ledger ∧ ∃ error, result = .error error := by
  refine Outcome.bind (Outcome.transaction ⟨rfl, _, rfl⟩ ?_)
  refine Outcome.bind (outcome_select ⟨rfl, _, rfl⟩ ?_)
  rw [found]
  refine Outcome.bind (Outcome.rejectIf ⟨rfl, _, rfl⟩ ?_)
  intro same
  exact absurd differ same

theorem createOrReusePlan_conflict_quiet
    (found : ledger.tables.findIdempotency request.idempotencyKey = some row)
    (differ : row.requestDigest ≠ request.requestDigest) :
    (createOrReusePlan codec request ⟨ledger, []⟩).1 =
      .error (.rejected "idempotency_conflict") := by
  have block : createPlanTransaction codec request ⟨ledger, []⟩ =
      (.error (.rejected "idempotency_conflict"), ⟨ledger, []⟩) := by
    unfold createPlanTransaction Writes.select
    rw [run_bind, run_query_quiet rfl]
    dsimp only
    rw [found]
    dsimp only
    rw [run_bind, rejectIf, if_pos differ]
    rfl
  unfold createOrReusePlan committing
  rw [run_bind, run_transaction_quiet block]

end Conflict

/-- The plan under a key is found again for the same request. -/
theorem createOrReusePlan_reuse_quiet {request plan : StoredPlan}
    (filed : Filed ledger.tables request.idempotencyKey request.requestDigest plan) :
    createOrReusePlan codec request ⟨ledger, []⟩ = (.ok plan, ⟨ledger, []⟩) := by
  obtain ⟨row, found, same, stored⟩ := filed
  have block : createPlanTransaction codec request ⟨ledger, []⟩ =
      (.ok (.dropped plan), ⟨ledger, []⟩) := by
    unfold createPlanTransaction Writes.select
    rw [run_bind, run_query_quiet rfl]
    dsimp only
    rw [found]
    dsimp only
    rw [run_bind, rejectIf, if_neg (not_not_intro same)]
    change (loadPlan row.planId >>= fun stored => pure (Ending.dropped stored)) ⟨ledger, []⟩ = _
    have read : loadPlanFrom ledger.tables row.planId = .ok plan := by
      rw [loadPlanFrom, stored]
    unfold loadPlan load
    rw [run_bind, run_query_quiet rfl]
    dsimp only
    rw [read]
    rfl
  unfold createOrReusePlan committing
  rw [run_bind, run_transaction_dropped block]
  rfl

/-- The operation that a successful approval answers is the one of the plan, as it is now. -/
theorem beginOperation_ok (approval : Approval) :
    Outcome (beginOperation codec approval) ledger fun result reached =>
      ∀ operation, result = .ok operation → ∃ row,
        reached.tables.findOperationOfPlan approval.planId = some row ∧
        row.operationId = operation.operationId ∧
        loadOperationFrom reached.tables row.operationId = .ok operation ∧
        ∀ old, ledger.tables.findOperationOfPlan approval.planId = some old →
          reached = ledger := by
  refine outcome_beginOperation.mono ?_
  rintro result reached post operation rfl
  have named {tables : Tables} {operationId : String}
      (read : loadOperationFrom tables operationId = .ok operation) :
      operation.operationId = operationId := by
    obtain ⟨_, _, _, _, rfl⟩ := loadOperationFrom_ok_iff.mp read
    rfl
  rcases post with ⟨rfl, ⟨_, bad⟩ | ⟨value, same, plan, row, _, _, found, read⟩⟩ |
    ⟨commit, ⟨_, bad⟩ | same⟩
  · cases bad
  · obtain rfl := Except.ok.inj same
    exact ⟨row, found, (named read).symm, read, fun _ _ => rfl⟩
  · cases bad
  · have read := same.symm
    generalize reached.tables = final at commit read ⊢
    cases commit with
    | begun _ plan event stored approves fresh =>
      refine ⟨approvedRow plan approval, ?_, (named read).symm, read, ?_⟩
      · exact lookup_concat_fresh rfl fun row member => (fresh row member).2
      · intro old found
        exact absurd (lookup_key found) (fresh old (lookup_mem found)).2

/-- The errors of the checkpoint are never rejections. -/
theorem unrejected_completePendingCheckpoint :
    Outcome completePendingCheckpoint ledger fun result _ =>
      ∀ code, result ≠ .error (.rejected code) := by
  refine Outcome.bind (Outcome.query nofun ?_)
  cases ledger.metadata with
  | none => exact Outcome.ret _ nofun
  | some required =>
    refine Outcome.bind (outcome_load nofun ?_)
    cases ledger.tables.lastEvent with
    | none => nofun
    | some last =>
      refine Outcome.bind (Outcome.rejectIf nofun fun _ => Outcome.bind ?_)
      refine Outcome.bind (Outcome.execute nofun (Outcome.bind
        (Outcome.execute nofun (Outcome.execute nofun ?_))))
      exact Outcome.execute nofun nofun

/-- A rejected approval is one whose transaction was left: past the commit nothing rejects. -/
theorem beginOperation_rejected {approval : Approval} :
    Outcome (beginOperation codec approval) ledger fun result reached =>
      ∀ code, result = .error (.rejected code) → reached = ledger := by
  refine Outcome.bind (Outcome.transaction (fun _ _ => rfl)
    (outcome_beginTransaction.mono ?_))
  rintro result reached ⟨holds, -⟩
  match result, holds with
  | .error error, _ => exact fun _ _ => rfl
  | .ok (.dropped value), _ => exact Outcome.ret _ fun _ _ => rfl
  | .ok (.committed ()), commit =>
    have commit : Commit codec ledger.tables (.beginOperation approval) reached.tables := commit
    have answered : ∃ operation,
        loadOperationFrom reached.tables approval.operationId = .ok operation := by
      generalize reached.tables = final at commit
      cases commit with
      | begun _ plan event stored approves fresh =>
        refine ⟨_, loadOperationFrom_ok_iff.mpr ⟨approvedRow plan approval, plan, ?_, ?_, rfl⟩⟩
        · exact lookup_concat_fresh rfl fun row member => (fresh row member).1
        · exact stored
    obtain ⟨operation, answered⟩ := answered
    refine Outcome.bind ((outcome_completePendingCheckpoint.and
      unrejected_completePendingCheckpoint).mono ?_)
    rintro result marked ⟨same, unrejected⟩
    match result with
    | .error error =>
      intro code rejected
      obtain rfl := Except.error.inj rejected
      exact absurd rfl (unrejected code)
    | .ok () =>
      refine outcome_load nofun ?_
      rw [same, answered]
      exact nofun

/-! ### Whole runs -/

/-- What callers that repeat their calls can rely on in a ledger, and in what becomes of it. -/
structure Idempotent (codec : Codec) (ledger : LedgerState) (later : List Attempt) : Prop where
  /-- No two plans share a key. -/
  onePlan : ∀ plan ∈ ledger.tables.plans, planOf ledger.tables plan.idempotencyKey = some plan
  keptPlan : ∀ key plan, planOf ledger.tables key = some plan →
    planOf (performAll codec ledger later).tables key = some plan
  created : ∀ request faults stored,
    (createOrReusePlan codec request ⟨ledger, faults⟩).1 = .ok stored →
    planOf (createOrReusePlan codec request ⟨ledger, faults⟩).2.store.tables
      request.idempotencyKey = some stored
  reused : ∀ plan request faults stored,
    planOf ledger.tables request.idempotencyKey = some plan →
    (createOrReusePlan codec request ⟨performAll codec ledger later, faults⟩).1 = .ok stored →
    stored = plan
  conflict : ∀ plan request faults,
    planOf ledger.tables request.idempotencyKey = some plan →
    request.requestDigest ≠ plan.requestDigest →
    (createOrReusePlan codec request ⟨performAll codec ledger later, faults⟩).2.store =
        performAll codec ledger later ∧
      (∃ error, (createOrReusePlan codec request
        ⟨performAll codec ledger later, faults⟩).1 = .error error) ∧
      (createOrReusePlan codec request ⟨performAll codec ledger later, []⟩).1 =
        .error (.rejected "idempotency_conflict")
  oneOperation : ∀ row ∈ ledger.tables.operations, ∀ other ∈ ledger.tables.operations,
    row.planId = other.planId → row = other
  keptOperation : ∀ planId row, ledger.tables.findOperationOfPlan planId = some row →
    ∃ now, (performAll codec ledger later).tables.findOperationOfPlan planId = some now ∧
      now.operationId = row.operationId
  begun : ∀ approval faults operation,
    (beginOperation codec approval ⟨ledger, faults⟩).1 = .ok operation →
    ∃ row, (beginOperation codec approval ⟨ledger, faults⟩).2.store.tables.findOperationOfPlan
        approval.planId = some row ∧ row.operationId = operation.operationId ∧
      loadOperationFrom (beginOperation codec approval ⟨ledger, faults⟩).2.store.tables
        row.operationId = .ok operation
  resumed : ∀ row approval faults operation,
    ledger.tables.findOperationOfPlan approval.planId = some row →
    (beginOperation codec approval ⟨performAll codec ledger later, faults⟩).1 = .ok operation →
    operation.operationId = row.operationId ∧
      loadOperationFrom (performAll codec ledger later).tables row.operationId = .ok operation
  refused : ∀ approval faults code,
    (beginOperation codec approval ⟨ledger, faults⟩).1 = .error (.rejected code) →
    (beginOperation codec approval ⟨ledger, faults⟩).2.store = ledger

theorem idempotent_run (codec : Codec) (attempts later : List Attempt) :
    Idempotent codec (performAll codec emptyLedger attempts) later := by
  have keyed := keyed_committed (@committed_performAll codec emptyLedger attempts)
  generalize performAll codec emptyLedger attempts = ledger at keyed
  obtain ⟨bound, operations⟩ := keyed
  have grows := Grows.committed (@committed_performAll codec ledger later)
  constructor
  case onePlan =>
    intro plan member
    obtain ⟨row, filed, key, planId⟩ := bound.filed plan member
    refine Option.bind_eq_some_iff.mpr ⟨row, ?_, ?_⟩
    · rw [← key]
      exact lookup_of_mem bound.keys filed
    · rw [planId]
      exact lookup_of_mem bound.plans member
  case keptPlan =>
    intro key plan found
    exact grows.planOf found
  case created =>
    intro request faults stored done
    exact (createOrReusePlan_ok request faults).2 stored done
  case reused =>
    intro plan request faults stored found done
    obtain ⟨grown, answer⟩ := createOrReusePlan_ok request faults
    have again := grown.planOf (grows.planOf found)
    rw [answer stored done] at again
    exact Option.some.inj again
  case conflict =>
    intro plan request faults found differ
    obtain ⟨row, key, filed⟩ := Option.bind_eq_some_iff.mp found
    obtain ⟨now, kept, _, digest⟩ := grows.keys _ row key
    have recorded : now.requestDigest ≠ request.requestDigest := by
      obtain ⟨known, member, samePlan, _, sameDigest⟩ := bound.bound row (lookup_mem key)
      have same : known = plan := by
        have stored := lookup_of_mem bound.plans member
        rw [samePlan] at stored
        exact Option.some.inj (stored.symm.trans filed)
      rw [digest, ← sameDigest, same]
      exact differ.symm
    obtain ⟨unchanged, failed⟩ := createOrReusePlan_conflict kept recorded faults
    exact ⟨unchanged, failed, createOrReusePlan_conflict_quiet kept recorded⟩
  case oneOperation =>
    intro row member other otherMember same
    exact eq_of_column_eq operations.oncePerPlan member otherMember same
  case keptOperation =>
    exact grows.operations
  case begun =>
    intro approval faults operation done
    obtain ⟨row, found, named, read, _⟩ := beginOperation_ok approval faults operation done
    exact ⟨row, found, named, read⟩
  case resumed =>
    intro row approval faults operation found done
    obtain ⟨now, kept, sameId⟩ := grows.operations _ row found
    obtain ⟨same, there, named, read, unchanged⟩ :=
      beginOperation_ok approval faults operation done
    rw [unchanged now kept] at there read
    obtain rfl := Option.some.inj (there.symm.trans kept)
    rw [← sameId]
    exact ⟨named.symm, read⟩
  case refused =>
    intro approval faults code rejected
    exact beginOperation_rejected faults code rejected

end JwOps.Ledger.Idempotency
