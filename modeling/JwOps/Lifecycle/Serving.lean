/- module: Lifecycle/Serving
   source: crates/jw-opsd/src/engine.rs
   digest: Every request and every start makes permitted calls only, and how executions end. -/
import JwOps.Lifecycle.Dispatch
import JwOps.Lifecycle.Safety

set_option autoImplicit false

namespace JwOps.Lifecycle.Serving

open Contracts Ledger Engine Operation Digest Config Certificate Schema Writes Commits Interface
open Certbot Recovery Requests History Tracking Fragments Dispatch Lifecycle.System Simulation
open Safety Foundation.Program

variable {nowMs : Int} {actor : Subject} {input : CertbotIssuePlanInput}
  {request : ApprovalRequest}

variable {H : Type} {runtime : Runtime} {model : HostModel H} {world : World H}

/-! ### Planning and approving -/

section Harmless

variable {α β : Type}

theorem openLedger_harmless : IssuesE Harmless openLedger := by
  refine IssuesE.onError (issues_perform trivial) (fun error => ?_) fun _ => IssuesE.ret _
  split
  · exact IssuesE.bind (issues_perform rfl) fun _ => IssuesE.fail _
  · exact IssuesE.fail _

theorem cleanupProposal_harmless (record : ProposalRecord) :
    IssuesE Harmless (cleanupProposal record) := by
  refine IssuesE.bind (IssuesE.attempt (IssuesE.checked ?_))
    fun _ => IssuesE.ret _
  exact issues_perform rfl

theorem removePlanProposal_harmless (plan : StoredPlan) :
    IssuesE Harmless (removePlanProposal plan) :=
  IssuesE.forM cleanupProposal_harmless

theorem removeExpiredProposals_harmless (nowMs : Int) :
    IssuesE Harmless (removeExpiredProposals nowMs) :=
  IssuesE.bind (issues_perform trivial) fun _ => IssuesE.forM removePlanProposal_harmless

theorem writeProposal_harmless {planId : String} {content : Bytes} :
    IssuesE Harmless (writeProposal runtime planId content) := by
  refine IssuesE.checked <| IssuesE.checked ?_
  exact IssuesE.bind (issues_perform rfl) fun _ => IssuesE.ret _

theorem readSnapshot_harmless {kind : SnapshotKind} {record : SnapshotRecord} :
    IssuesE Harmless (readSnapshot runtime kind record) :=
  IssuesE.checked <|
    IssuesE.bind (issues_perform rfl) fun _ => IssuesE.lift _

/-- The identifier of a new operation is minted, whatever the random bytes are. -/
theorem randomId_harmless {start : String} {next : String → Ops β}
    (minted : ∀ bytes, IssuesE Harmless (next (idOf start bytes))) :
    IssuesE Harmless (randomId start >>= next) := by
  unfold randomId
  rw [bind_assoc]
  exact IssuesE.bind (issues_perform rfl) minted

theorem storeManagedConfigPlan_harmless {request : ManagedConfigPlanRequest}
    {resource : ManagedConfigResource} {storage : ManagedPlanStorage} :
    IssuesE Harmless (storeManagedConfigPlan runtime actor request resource storage nowMs) := by
  refine IssuesE.checked <| IssuesE.checked ?_
  refine IssuesE.bind (IssuesE.lift _) fun _ => IssuesE.bind openLedger_harmless fun _ => ?_
  exact issues_perform trivial

theorem keepOrDropProposal_harmless {proposal : ProposalRecord} {planId : String}
    {result : Except OpsError StoredPlan} :
    IssuesE Harmless (keepOrDropProposal runtime proposal planId result) := by
  have reopen (stored : StoredPlan) : IssuesE Harmless
      (openLedger >>= fun _ => lift (managedConfigPlanView runtime stored)) :=
    IssuesE.bind openLedger_harmless fun _ => IssuesE.lift _
  cases result with
  | error error => exact IssuesE.bind (cleanupProposal_harmless _) fun _ => IssuesE.fail _
  | ok stored =>
    unfold keepOrDropProposal
    dsimp only
    split
    · exact IssuesE.bind (cleanupProposal_harmless _) fun _ => reopen stored
    · exact reopen stored

theorem planManagedConfig_harmless {request : ManagedConfigPlanRequest} : IssuesE Harmless (planManagedConfig runtime actor request nowMs) := by
  refine IssuesE.bind (IssuesE.lift _) fun _ => IssuesE.bind openLedger_harmless fun _ => ?_
  refine IssuesE.bind (removeExpiredProposals_harmless nowMs) fun _ => ?_
  refine IssuesE.bind (issues_perform rfl) fun _ => IssuesE.checked ?_
  refine IssuesE.checked <| IssuesE.bind (IssuesE.lift _) fun _ => ?_
  refine randomId_harmless fun bytes => ?_
  refine IssuesE.bind writeProposal_harmless fun _ => ?_
  refine IssuesE.bind (IssuesE.attempt storeManagedConfigPlan_harmless) fun _ => ?_
  exact keepOrDropProposal_harmless

theorem planManagedConfigRestore_harmless {request : ManagedConfigRestorePlanRequest} :
    IssuesE Harmless (planManagedConfigRestore runtime actor request nowMs) := by
  refine IssuesE.bind (IssuesE.lift _) fun _ => IssuesE.bind openLedger_harmless fun _ => ?_
  refine IssuesE.bind (issues_perform trivial) fun _ => IssuesE.bind (IssuesE.lift _) fun _ => ?_
  refine IssuesE.bind readSnapshot_harmless fun _ =>
    IssuesE.bind (issues_perform rfl) fun _ => ?_
  refine IssuesE.checked <| IssuesE.bind (IssuesE.lift _) fun _ => ?_
  refine randomId_harmless fun bytes => ?_
  refine IssuesE.bind writeProposal_harmless fun _ => ?_
  refine IssuesE.bind (IssuesE.attempt storeManagedConfigPlan_harmless) fun _ => ?_
  exact keepOrDropProposal_harmless

theorem run_harmless {command : CommandClass} (quiet : isQuiet (.run command) = true) :
    IssuesE Harmless (run command) :=
  issues_perform quiet

theorem certificateInventory_harmless :
    IssuesE Harmless (certificateInventory runtime nowMs) := by
  refine IssuesE.bind ?_ fun inventory => IssuesE.bind (issues_perform rfl) fun locked => ?_
  · refine IssuesE.bind (issues_perform rfl) fun _ => ?_
    refine IssuesE.bind (IssuesE.attempt (run_harmless rfl)) fun _ => ?_
    refine IssuesE.bind (IssuesE.attempt (run_harmless rfl)) fun _ => ?_
    refine IssuesE.bind (issues_perform rfl) fun _ => ?_
    exact IssuesE.bind (IssuesE.lift _) fun _ => IssuesE.ret _
  · split
    · exact IssuesE.bind (IssuesE.attempt (issues_perform trivial)) fun _ => IssuesE.ret _
    · exact IssuesE.ret _

theorem validateIssuePreconditions_harmless :
    IssuesE Harmless (validateIssuePreconditions runtime input nowMs) := by
  refine IssuesE.bind (IssuesE.lift _) fun _ => IssuesE.bind (issues_perform rfl) fun _ => ?_
  refine IssuesE.checked <| IssuesE.checked ?_
  refine IssuesE.bind (issues_perform rfl) fun _ => IssuesE.checked ?_
  exact IssuesE.bind (IssuesE.mapError (issues_perform rfl)) fun _ => IssuesE.ret _

theorem proposeCertbotIssue_harmless {site : NginxSite} {inventory : CertificateInventoryView}
    {valid : Bool} :
    IssuesE Harmless (proposeCertbotIssue runtime actor input site inventory valid nowMs) := by
  refine IssuesE.checked <| randomId_harmless fun bytes => ?_
  refine IssuesE.bind writeProposal_harmless fun _ => ?_
  refine IssuesE.bind (IssuesE.attempt ?_) fun result => ?_
  · refine IssuesE.bind openLedger_harmless fun _ => ?_
    exact IssuesE.bind (issues_perform trivial) fun _ => IssuesE.lift _
  · cases result with
    | error error => exact IssuesE.bind (cleanupProposal_harmless _) fun _ => IssuesE.fail _
    | ok stored =>
      dsimp only
      split
      · exact IssuesE.bind (cleanupProposal_harmless _) fun _ => IssuesE.ret _
      · exact IssuesE.ret _

theorem planCertbotIssue_harmless : IssuesE Harmless (planCertbotIssue runtime actor input nowMs) := by
  refine IssuesE.bind openLedger_harmless fun _ => ?_
  refine IssuesE.bind (removeExpiredProposals_harmless nowMs) fun _ => ?_
  refine IssuesE.bind validateIssuePreconditions_harmless fun _ => ?_
  refine IssuesE.bind certificateInventory_harmless fun _ => ?_
  refine IssuesE.checked <| IssuesE.checked ?_
  refine IssuesE.bind (run_harmless rfl) fun _ => IssuesE.bind (run_harmless rfl) fun _ => ?_
  refine IssuesE.checked <| IssuesE.bind openLedger_harmless fun _ => ?_
  refine IssuesE.bind (issues_perform trivial) fun _ => IssuesE.checked ?_
  exact proposeCertbotIssue_harmless

theorem approvePlan_harmless (accepts : StoredPlan → Except OpsError Unit) :
    IssuesE Harmless (approvePlan accepts actor request nowMs) := by
  refine IssuesE.bind openLedger_harmless fun _ => IssuesE.bind (issues_perform trivial) fun _ => ?_
  refine IssuesE.bind (IssuesE.lift _) fun _ => randomId_harmless fun bytes => ?_
  exact IssuesE.bind (issues_perform ⟨bytes, rfl⟩) fun _ => issues_perform trivial

theorem approveManagedConfig_harmless {validation action : Bool} :
    IssuesE Harmless (approveManagedConfig validation action actor request nowMs) := by
  refine IssuesE.checked <| IssuesE.bind openLedger_harmless fun _ => ?_
  refine IssuesE.bind (issues_perform trivial) fun plan => ?_
  refine IssuesE.checked <| randomId_harmless fun bytes => ?_
  refine IssuesE.onError (issues_perform ⟨bytes, rfl⟩) (fun error => ?_)
    fun _ => issues_perform trivial
  split
  · exact IssuesE.bind (removePlanProposal_harmless plan) fun _ => IssuesE.fail _
  · exact IssuesE.fail _

theorem approve_harmless {kind : ApprovalKind} : IssuesE Harmless (approve actor kind request nowMs) := by
  cases kind with
  | nginx => exact approvePlan_harmless _
  | managedConfig validation action => exact approveManagedConfig_harmless
  | serviceControl _ | ufwRule _ | certbotRenewTest _ =>
    exact IssuesE.checked <| approvePlan_harmless _
  | certbotIssue _ _ | certbotAttach _ _ =>
    exact IssuesE.checked <|
      IssuesE.checked <| approvePlan_harmless _

end Harmless

/-! ### Snapshots are found under a minted identifier -/

theorem hexDigit_ne_slash : ∀ n < 16, hexDigit n ≠ '/' := by decide

theorem no_slash {text : List Char} (plain : (text.all fun c => c != '/') = true) :
    ∀ c ∈ text, (c == '/') = false := by
  intro c member
  have differ := List.all_eq_true.mp plain c member
  rwa [bne, Bool.not_eq_true'] at differ

theorem idOf_no_slash {bytes : Bytes} : ∀ c ∈ (idOf "op" bytes).toList, (c == '/') = false := by
  intro c member
  simp only [idOf, String.toList_append, String.toList_ofList, List.mem_append,
    List.mem_flatMap] at member
  rcases member with (tag | tag) | ⟨byte, _, digit⟩
  · exact no_slash (by decide) c tag
  · exact no_slash (by decide) c tag
  · obtain ⟨n, small, rfl⟩ := mem_hexByte digit
    exact beq_eq_false_iff_ne.mpr (hexDigit_ne_slash n small)

theorem fileName_no_slash (kind : SnapshotKind) :
    (∀ c ∈ kind.fileName.toList, (c == '/') = false) ∧
      kind.fileName.toList ∉ [[], ['.'], ['.', '.']] := by
  cases kind <;> exact ⟨no_slash (by decide), by decide⟩

theorem snapshotPath_accepted {bytes : Bytes} {operationType : OperationType} :
    relativePathRejected (snapshotPath (idOf "op" bytes) operationType) = false := by
  have chars : (snapshotPath (idOf "op" bytes) operationType).toList =
      (idOf "op" bytes).toList ++ '/' :: (snapshotKind operationType).fileName.toList := by
    simp [snapshotPath]
  have tagged : ∃ rest, (idOf "op" bytes).toList = 'o' :: 'p' :: '_' :: rest :=
    ⟨bytes.flatMap hexByte, by simp [idOf]⟩
  obtain ⟨rest, start⟩ := tagged
  have split : (snapshotPath (idOf "op" bytes) operationType).toList.splitOn '/' =
      [(idOf "op" bytes).toList, (snapshotKind operationType).fileName.toList] := by
    rw [chars, List.splitOn, List.splitOnP_append_cons_of_forall_mem idOf_no_slash '/' rfl,
      List.splitOnP_eq_singleton (fileName_no_slash _).1]
  have relative : startsWith (snapshotPath (idOf "op" bytes) operationType) "/" = false := by
    rw [startsWith, chars, start]
    rfl
  have plain : [[], ['.'], ['.', '.']].contains (snapshotKind operationType).fileName.toList =
      false := by
    rw [Bool.eq_false_iff]
    exact fun listed => (fileName_no_slash _).2 (List.contains_iff_mem.mp listed)
  rw [relativePathRejected, relative, split, start, List.any_cons, List.any_cons, plain]
  simp

theorem Sane.accepted {log : List Entry} {operation : StoredOperation}
    (sane : Sane runtime log operation) : relativePathRejected
      (snapshotPath operation.operationId operation.plan.operationType) = false := by
  obtain ⟨bytes, minted⟩ := sane.minted
  rw [minted]
  exact snapshotPath_accepted

theorem Sane.recoverable {log : List Entry} {operation : StoredOperation}
    (sane : Sane runtime log operation) : Recoverable operation := by
  have present (applied : operation.stage ∈ appliedStages) : ∃ record,
      operation.snapshot = some record ∧
        record.relativePath = snapshotPath operation.operationId operation.plan.operationType := by
    rcases sane.kept with early | early | kept
    · rw [early] at applied
      exact absurd applied (by decide)
    · rw [early] at applied
      exact absurd applied (by decide)
    · exact kept
  refine ⟨sane.begun, fun applied => ?_, sane.service, fun applied kind => ?_⟩
  · obtain ⟨record, kept, path⟩ := present applied
    refine ⟨record, kept, ?_⟩
    rw [path]
    exact Sane.accepted sane
  · obtain ⟨record, kept, _⟩ := present applied
    obtain ⟨asked, _, plan, _, reread⟩ := sane.rechecked (by rw [kept]; rfl)
    rw [← plan] at kind ⊢
    simp only [Reread, kind] at reread
    obtain ⟨payload, _, planned, _⟩ := reread
    rw [planned]
    rfl

/-! ### Executing -/

theorem safe_call {α : Type} {call : Call} {view : call.Answer → Except OpsError α}
    {post : Except OpsError α → World H → Prop} (permitted : Permitted runtime world call)
    (answered : ∀ answer after, environment runtime model world call answer after →
      post (view answer) after) :
    SafeE (environment runtime model) (Permitted runtime) (perform call view) world post :=
  ⟨permitted, answered⟩

/-- Opening the ledger: it fails, or the tables are as they were. -/
theorem safe_openLedger {post : Except OpsError Unit → World H → Prop} (good : Good runtime world)
    (failed : ∀ error after recent, after.log = recent ++ world.log →
      recent.any ledgerFailed = true → post (.error error) after)
    (opened : ∀ after entry, Good runtime after → after.tables = world.tables →
      after.focus = world.focus → after.log = entry :: world.log →
      (∀ operationId, observedFor operationId entry = none) → ledgerFailed entry = false →
      post (.ok ()) after) :
    SafeE (environment runtime model) (Permitted runtime) openLedger world post := by
  refine SafeE.onError (safe_call trivial fun answer after stepped => ?_)
  have goodAfter : Good runtime after :=
    @Good.step H runtime model world after good (.ledger .openLedger) trivial answer stepped
  obtain ⟨session, rfl, changed⟩ := ledger_stepped stepped
  cases answer with
  | ok _ =>
    refine opened _ _ goodAfter (changed.resolve_right ?_) rfl rfl (fun _ => rfl) rfl
    rintro ⟨_, writes, _⟩
    cases writes
  | error error =>
    dsimp only [id]
    split
    · refine SafeE.bind (safe_call nofun ?_)
      rintro _ _ ⟨_, host, _, rfl⟩
      exact failed error _ [_, _] rfl rfl
    · exact failed error _ [_] rfl rfl

theorem safe_mark {α : Type} {operationId : String} {next : Ops α}
    {post : Except OpsError α → World H → Prop}
    (rest : SafeE (environment runtime model) (Permitted runtime) next
      (world.focusOn (some operationId)) post) :
    SafeE (environment runtime model) (Permitted runtime) (mark operationId >>= fun _ => next)
      world post := by
  refine SafeE.bind ⟨trivial, ?_⟩
  rintro _ _ rfl
  exact rest

/-- How `execute_operation` leaves an operation that it found approved, if the ledger works. -/
def Executed (runtime : Runtime) (actor : Subject) (operationId : String) (nowMs : Int)
    (world after : World H) : Prop :=
  ∃ recent, after.log = recent ++ world.log ∧ (recent.any ledgerFailed = false →
    ∀ operation, loadOperationFrom world.tables operationId = .ok operation →
      operation.stage = .approved →
      ∃ reached, loadOperationFrom after.tables operationId = .ok reached ∧
        (reached.stage.isTerminal = true ↔ operation.plan.actor = actor ∧
          executable runtime operation.plan nowMs = true ∧
          Unblocked runtime (seenFor operationId recent)))

theorem executed_of_failed {actor : Subject} {operationId : String} {nowMs : Int}
    {after : World H} (recent : List Entry) (log : after.log = recent ++ world.log)
    (failed : recent.any ledgerFailed = true) :
    Executed runtime actor operationId nowMs world after := by
  refine ⟨recent, log, fun none => ?_⟩
  rw [failed] at none
  cases none

/-- Calls of the ledger are not observations of the host. -/
theorem seenFor_append_ledger {operationId : String} {recent older : List Entry}
    (ledgerOnly : ∀ entry ∈ older, observedFor operationId entry = none) :
    seenFor operationId (recent ++ older) = seenFor operationId recent := by
  rw [seenFor, List.filterMap_append, List.filterMap_eq_nil_iff.mpr ledgerOnly, List.append_nil]
  rfl

theorem running_start {operation : StoredOperation} :
    Running runtime operation ⟨operation, true, false, []⟩ :=
  ⟨rfl, rfl, fun _ member => absurd member List.not_mem_nil⟩

theorem safe_executeMarked {actor : Subject} {operationId : String} {operation : StoredOperation}
    {nowMs : Int} (good : Good runtime world) {base : World H} {older : List Entry}
    (log : world.log = older ++ base.log)
    (ledgerOnly : ∀ entry ∈ older, observedFor operationId entry = none)
    (before : loadOperationFrom base.tables operationId = .ok operation)
    (stored : loadOperationFrom world.tables operationId = .ok operation)
    (approved : operation.stage = .approved) (same : operation.plan.actor = actor) :
    SafeE (environment runtime model) (Permitted runtime)
      (mark operation.operationId >>= fun _ => executeApproved runtime operation nowMs) world
      fun _ after => Executed runtime actor operationId nowMs base after := by
  have id := loadOperationFrom_id stored
  subst id
  refine safe_mark ?_
  have sane := good.sane _ _ stored
  have safe := @safe_executeApproved runtime operation _ nowMs running_start approved
    (Sane.accepted sane)
  refine (permits_tracked (related_start good.keyed stored) safe).mono ?_
  rintro _ after ⟨last, related, finished⟩
  obtain ⟨recent, grown, fault, seen⟩ := related.log
  refine ⟨recent ++ older, ?_, fun faultless found foundIs _ => ?_⟩
  · rw [grown, log, List.append_assoc]
  obtain rfl := Except.ok.inj (before.symm.trans foundIs)
  rw [List.any_append, Bool.or_eq_false_iff] at faultless
  have quiet : last.fault = false := fault.trans faultless.1
  have known := related.faultless quiet
  refine ⟨last.operation, related.stored known, ?_⟩
  rw [seenFor_append_ledger ledgerOnly, ← seen known, finished quiet]
  exact (and_iff_right same).symm

theorem safe_executeOperation (good : Good runtime world) {operationId : String} :
    SafeE (environment runtime model) (Permitted runtime)
      (executeOperation runtime actor operationId nowMs) world
      fun _ after => Executed runtime actor operationId nowMs world after := by
  refine SafeE.bind (safe_openLedger good (fun _ _ _ grown failed => ?_)
    fun opened entry goodOpened tables _ log hidden passed => ?_)
  · exact executed_of_failed _ grown failed
  refine SafeE.bind (safe_call trivial fun answer after stepped => ?_)
  have goodAfter : Good runtime after := @Good.step H runtime model opened after goodOpened
    (.ledger (.loadOperation operationId)) trivial answer stepped
  have kept := tables_of_read stepped rfl
  cases answer with
  | error error =>
    obtain ⟨session, rfl, _⟩ := ledger_stepped stepped
    exact executed_of_failed [_, entry] (congrArg _ log) rfl
  | ok operation =>
    have after := loaded_stored stepped
    obtain ⟨session, rfl, _⟩ := ledger_stepped stepped
    have before : loadOperationFrom world.tables operationId = .ok operation := by
      rw [← tables, ← kept]
      exact after
    have log : (opened.answered session.store opened.host
        (.ledger (.loadOperation operationId)) (.ok operation)).log =
        [⟨opened.tables, session.store.tables, opened.focus, .ledger (.loadOperation operationId),
          .ok operation⟩, entry] ++ world.log := congrArg _ log
    have same {found : StoredOperation}
        (read : loadOperationFrom world.tables operationId = .ok found) : operation = found :=
      Except.ok.inj (before.symm.trans read)
    refine SafeE.bind (SafeE.rejectIf (fun differ => ?_) fun actorIs => ?_)
    · refine ⟨_, log, fun _ found read approved => ⟨operation, after, ?_⟩⟩
      obtain rfl := same read
      rw [approved]
      exact iff_of_false nofun fun both => differ both.1
    by_cases approved : operation.stage = .approved
    · rw [if_neg (not_not.mpr approved)]
      refine safe_executeMarked goodAfter log (fun other member => ?_) before after approved
        (not_not.mp actorIs)
      rcases List.mem_cons.mp member with rfl | last
      · rfl
      · obtain rfl := List.mem_singleton.mp last
        exact hidden operationId
    · rw [if_pos approved]
      refine safe_call trivial ?_
      rintro answer _ ⟨_, _, _, _, rfl⟩
      refine ⟨_ :: _, congrArg _ log, fun _ found read standing => ?_⟩
      obtain rfl := same read
      exact absurd standing approved

/-! ### Requests -/

theorem answered_harmless {α : Type} {program : Ops α} (calls : IssuesE Harmless program) :
    IssuesE Harmless (answered program) :=
  IssuesE.bind calls fun _ => IssuesE.ret _

/-- Harmless calls respect the guard and keep the invariant. -/
structure Serves (runtime : Runtime) (model : HostModel H) (guard : World H → Call → Prop)
    (invariant : World H → Prop) : Prop where
  permits : ∀ world call, Harmless call → guard world call
  keeps : ∀ {world after : World H} {call : Call} {answer : call.Answer}, invariant world →
    Harmless call → environment runtime model world call answer after → invariant after

namespace Serves

variable {guard : World H → Call → Prop} {invariant : World H → Prop} {nowMs : Int}
  (serves : Serves runtime model guard invariant)
include serves

theorem harmless {α : Type} {program : Ops α} (holds : invariant world)
    (calls : IssuesE Harmless program) :
    SafeE (environment runtime model) guard program world fun _ after => invariant after := by
  refine Safe.of_issues calls holds (fun world call _ => serves.permits world call) ?_
  intro reached call answer after holds harmless stepped
  exact serves.keeps holds harmless stepped

/-- An execution is guarded if it is from the mark on. -/
theorem safe_execution {actor : Subject} {operationId : String} (holds : invariant world)
    (executes : ∀ {reached : World H} (operation : StoredOperation), invariant reached →
      loadOperationFrom reached.tables operation.operationId = .ok operation →
      operation.stage = .approved → SafeE (environment runtime model) guard
        (mark operation.operationId >>= fun _ => executeApproved runtime operation nowMs) reached
        fun _ _ => True) :
    SafeE (environment runtime model) guard (executeOperation runtime actor operationId nowMs) world
      fun _ _ => True := by
  refine SafeE.bind ((serves.harmless holds openLedger_harmless).mono fun result opened holds => ?_)
  cases result with
  | error error => trivial
  | ok _ =>
  have loads : Harmless (.ledger (.loadOperation operationId)) := trivial
  refine SafeE.bind ⟨serves.permits _ _ loads, fun answer after stepped => ?_⟩
  have holdsAfter : invariant after := serves.keeps holds loads stepped
  cases answer with
  | error error => trivial
  | ok operation =>
  have stored := loaded_stored stepped
  rw [← loadOperationFrom_id stored] at stored
  refine SafeE.bind (SafeE.rejectIf (fun _ => trivial) fun _ => ?_)
  by_cases approved : operation.stage = .approved
  · rw [if_neg (not_not.mpr approved)]
    exact executes operation holdsAfter stored approved
  · rw [if_pos approved]
    exact ⟨serves.permits _ _ trivial, fun _ _ _ => trivial⟩

/-- All requests but executions make harmless calls only. -/
theorem safe_body (holds : invariant world)
    (executes : ∀ {reached : World H} (actor : Subject) (operationId : String), invariant reached →
      SafeE (environment runtime model) guard (executeOperation runtime actor operationId nowMs)
        reached fun _ _ => True)
    (request : Request) :
    SafeE (environment runtime model) guard (handleBody runtime request nowMs) world
      fun _ _ => True := by
  have answers {program : Ops Unit} {reached : World H} (holds : invariant reached)
      (calls : IssuesE Harmless program) :
      SafeE (environment runtime model) guard program reached fun _ _ => True :=
    (serves.harmless holds calls).mono fun _ _ _ => trivial
  have available : IssuesE Harmless requireWriteAvailable :=
    IssuesE.bind (issues_perform rfl) fun _ => IssuesE.rejectIf _ _
  refine SafeE.bind ((serves.harmless holds available).mono fun result after holds => ?_)
  cases result with
  | error error => trivial
  | ok _ =>
    refine SafeE.bind (SafeE.rejectIf (fun _ => trivial) fun _ => ?_)
    cases request with
    | storePlan actor plan =>
      exact answers holds (answered_harmless
        (IssuesE.bind openLedger_harmless fun _ => issues_perform trivial))
    | planManagedConfig actor body =>
      exact answers holds (answered_harmless planManagedConfig_harmless)
    | planManagedConfigRestore actor body =>
      exact answers holds (answered_harmless planManagedConfigRestore_harmless)
    | planCertbotIssue actor input =>
      exact answers holds (answered_harmless planCertbotIssue_harmless)
    | approve actor kind body => exact answers holds (answered_harmless approve_harmless)
    | execute actor operationId =>
      refine SafeE.bind ((executes actor operationId holds).mono ?_)
      intro result _ _
      cases result <;> trivial

end Serves

theorem serves_permitted :
    Serves runtime model (Permitted runtime) (Good runtime) where
  permits _ _ harmless := harmless.permitted
  keeps good harmless stepped := good.step harmless.permitted stepped

/-- Whatever is asked, only permitted calls are made. -/
theorem safe_handleBody (good : Good runtime world) (request : Request) (nowMs : Int) :
    SafeE (environment runtime model) (Permitted runtime) (handleBody runtime request nowMs) world
      fun _ _ => True :=
  serves_permitted.safe_body good (fun _ _ good =>
    (safe_executeOperation good).mono fun _ _ _ => trivial) request

end JwOps.Lifecycle.Serving
