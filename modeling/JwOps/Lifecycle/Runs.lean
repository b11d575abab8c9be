/- module: Lifecycle/Runs
   source: crates/jw-opsd/src/{main,engine,ledger}.rs, docs/40-contracts/operation-lifecycle.md
   digest: What holds along every run of the daemon, however often it is stopped. -/
import JwOps.Lifecycle.Starting

set_option autoImplicit false

namespace JwOps.Lifecycle.Runs

open Contracts Ledger Engine Foundation Operation Digest Schema Writes Commits Locks Interface
open ServiceControl Recovery Requests History Tracking Dispatch Lifecycle.System Simulation Safety
open Serving Starting Keyed Program

variable {H : Type} {runtime : Runtime} {model : HostModel H}

/-! ### The invariant -/

theorem good_empty {host : H} : Good runtime ⟨emptyLedger, host, none, []⟩ := by
  have ledger := @ledger_invariant runtime.toCodec []
    fun _ member => absurd member List.not_mem_nil
  refine ⟨ledger.1, ledger.2, ⟨?_, ?_, ?_⟩, ?_, trivial⟩
  · exact fun _ member => absurd member List.not_mem_nil
  · exact fun _ member => absurd member List.not_mem_nil
  · exact fun _ _ stored => by cases stored
  · exact fun _ _ stored => by cases stored

theorem good_step {machine next : Machine H} (good : Good runtime machine.world)
    (step : MachineStep runtime model machine next) : Good runtime next.world := by
  have start := good.focusOn none
  refine step.keeps (fun _ _ _ _ good permitted stepped => good.step permitted stepped) start
    (fun nowMs => ?_) (safe_handleBody start)
    fun _ _ => ⟨good.keyed, good.locks, good.events, good.sane, good.guarded⟩
  exact (safe_initializeService nowMs start).mono fun _ _ _ => trivial

theorem reachable_good {machine : Machine H} (reachable : Reachable runtime model machine) :
    Good runtime machine.world := by
  obtain ⟨host, path⟩ := reachable
  induction path with
  | refl => exact good_empty
  | tail _ step ih => exact good_step ih step

/-! ### A concrete daemon -/

theorem reachable_next {machine after : Machine H} (reachable : Reachable runtime model machine)
    (step : MachineStep runtime model machine after) : Reachable runtime model after := by
  obtain ⟨host, path⟩ := reachable
  exact ⟨host, path.tail step⟩

/-- The calls of a run that led from one world to another. -/
def callsBetween (world after : World H) : List Entry :=
  after.log.take (after.log.length - world.log.length)

theorem completes_log {α : Type} {program : Prog Call Call.Answer α} {world after : World H}
    {value : α} (run : Completes (environment runtime model) program world value after) :
    after.log = callsBetween world after ++ world.log := by
  have grown : ∃ recent, after.log = recent ++ world.log := by
    induction run with
    | ret value world => exact ⟨[], rfl⟩
    | @call op next world middle last answer value step _ ih =>
      obtain ⟨recent, log⟩ := ih
      cases op with
      | mark operationId =>
        obtain rfl := step
        exact ⟨recent, log⟩
      | host call =>
        obtain ⟨_, host, _, rfl⟩ := step
        exact ⟨recent ++ [_], by rw [log, List.append_assoc]; rfl⟩
      | ledger call =>
        obtain ⟨_, _, _, _, rfl⟩ := step
        exact ⟨recent ++ [_], by rw [log, List.append_assoc]; rfl⟩
  obtain ⟨recent, log⟩ := grown
  rw [callsBetween, log, List.length_append, Nat.add_sub_cancel, List.take_left]

/-- Any host: every answer is possible. -/
def anyHost : HostModel Unit := ⟨fun _ _ _ _ => True, fun _ _ => False⟩

/-- Answers every call: the ledger under a schedule of faults, the host by a table. -/
def answering (faults : LedgerCall → List Bool) (answers : (call : HostCall) → call.Answer)
    (world : World Unit) : (call : Call) → call.Answer × World Unit
  | .mark operationId => ((), world.focusOn (some operationId))
  | .host call => (answers call, world.answered world.ledger () (.host call) (answers call))
  | .ledger call =>
    let ran := runLedger sampleCodec sqlError call ⟨world.ledger, faults call⟩
    (ran.1, world.answered ran.2.store () (.ledger call) ran.1)

theorem completes_answering {α : Type} {faults : LedgerCall → List Bool}
    {answers : (call : HostCall) → call.Answer} (produced : ∀ call, Produced call (answers call))
    (program : Ops α) {world : World Unit} :
    Completes (environment sampleRuntime anyHost) program.run world
      (runWith (answering faults answers) program.run world).1
      (runWith (answering faults answers) program.run world).2 := by
  refine completes_runWith (fun world call => ?_) _ _
  cases call with
  | mark operationId => rfl
  | host call => exact ⟨produced call, (), trivial, rfl⟩
  | ledger call => exact ⟨sqlError, faults call, _, rfl, rfl⟩

/-- The world after a request. -/
def serve (faults : LedgerCall → List Bool) (answers : (call : HostCall) → call.Answer)
    (request : Request) (world : World Unit) : World Unit :=
  (runWith (answering faults answers) (handleBody sampleRuntime request 5).run
    (world.focusOn none)).2

theorem reachable_serve {faults : LedgerCall → List Bool}
    {answers : (call : HostCall) → call.Answer} {world : World Unit}
    (reachable : Reachable sampleRuntime anyHost ⟨.serving, world⟩)
    (produced : ∀ call, Produced call (answers call)) (request : Request) :
    Reachable sampleRuntime anyHost ⟨.serving, serve faults answers request world⟩ :=
  reachable_next reachable (.served (completes_answering produced _))

/-- A host on which nothing works. -/
def failing : (call : HostCall) → call.Answer
  | .run _ | .runUfw _ | .managementEdgeReady | .certbot _ _ | .discoverSite _ | .readEnabled _
  | .readAvailableContent _ | .discoverManagedConfig _ | .discoverProtectedConfig _
  | .discoverCertificates | .randomSuffix | .storeSnapshotFile _ _ _ | .readSnapshotFile _ _
  | .readProposalFile _ | .validateAcmeWebroot | .storeProposalFile _ _ | .removeProposalFile _
  | .createLink _ | .removeLink _ | .createNew _ | .setFileMode _ _ | .setFileOwner _ _ _
  | .writeAll _ _ | .rename _ _ | .removeFile _ | .syncDirectory _ =>
    .error (.filesystem "unavailable")
  | .cleanupInternalTemporaries => .ok ()
  | .randomBytes => .ok [0]
  | .certbotInstalled | .ufwMissing | .forensicLockdown => false
  | .setForensicLockdown => ()

theorem failing_produced (call : HostCall) : Produced call (failing call) := by
  cases call <;> trivial

/-- A host with one disabled site whose link cannot be made. -/
def siteHost : (call : HostCall) → call.Answer
  | .discoverSite _ => .ok ⟨"ngs_0", "site", "available", "disabled", .disabled, false⟩
  | .readEnabled _ => .ok false
  | .storeSnapshotFile _ _ bytes => .ok bytes
  | call => failing call

theorem siteHost_produced (call : HostCall) : Produced call (siteHost call) := by
  cases call <;> trivial

def noFaults : LedgerCall → List Bool := fun _ => []

def operator : Subject := ⟨1000, "operator", .operator⟩

def started : World Unit :=
  (runWith (answering noFaults failing) (initializeService sampleRuntime 5).run
    ⟨emptyLedger, (), none, []⟩).2

theorem reachable_started : Reachable sampleRuntime anyHost ⟨.serving, started⟩ := by
  have run := @completes_answering Unit noFaults failing failing_produced
    (initializeService sampleRuntime 5) ⟨emptyLedger, (), none, []⟩
  have succeeds : (runWith (answering noFaults failing) (initializeService sampleRuntime 5).run
      ⟨emptyLedger, (), none, []⟩).1 = .ok () := by
    decide +kernel
  rw [succeeds] at run
  exact reachable_next ⟨(), .refl⟩ (.started run)

/-- One site operation is approved. -/
def approvedSite : World Unit :=
  serve noFaults siteHost (.approve operator .nginx ⟨"plan_0", "hash_0", "key_0"⟩)
    (serve noFaults siteHost (.storePlan operator samplePlan) started)

theorem reachable_approvedSite : Reachable sampleRuntime anyHost ⟨.serving, approvedSite⟩ :=
  reachable_serve (reachable_serve reachable_started siteHost_produced _) siteHost_produced _

/-! ### Recorded stages -/

/-- Along every run the events of an operation are a path of the lifecycle. -/
theorem lifecycle_path_of_reachable (runtime : Runtime) (model : HostModel H)
    (machine : Machine H) (reachable : Reachable runtime model machine) :
    (∀ row ∈ machine.world.tables.operations,
      (stagesOf machine.world.tables row.operationId).head? = some .approved ∧
      (stagesOf machine.world.tables row.operationId).IsChain
        (fun stage next => follows stage next = true) ∧
      (∀ before terminal after,
        stagesOf machine.world.tables row.operationId = before ++ terminal :: after →
        terminal.isTerminal = true → after = []) ∧
      (stagesOf machine.world.tables row.operationId).getLast? = some row.stage ∧
      (∀ before stage after,
        stagesOf machine.world.tables row.operationId = before ++ stage :: .rolledBack :: after →
        stage = .rollingBack)) ∧
    (machine.world.tables.operations.map OperationRow.planId).Nodup := by
  have good := reachable_good reachable
  refine ⟨fun row member => ?_, good.keyed.oncePerPlan⟩
  obtain ⟨operation, stored, stage⟩ := loadOperationFrom_row good.keyed member
  have recorded := good.events.recorded _ _ stored
  refine ⟨recorded.first, recorded.path.imp fun _ _ edge => edge.1,
    fun _ _ _ split isTerminal => recorded.ends split isTerminal, ?_, fun _ _ _ split => ?_⟩
  · rw [← stage]
    exact recorded.last
  · have path := recorded.path
    rw [split] at path
    exact (List.isChain_append_cons_cons.mp path).2.1.2 rfl

theorem lifecycle_path_of_approvedSite :
    approvedSite.tables.operations.length = 1 ∧
    ∀ row ∈ approvedSite.tables.operations,
      (stagesOf approvedSite.tables row.operationId).getLast? = some row.stage :=
  ⟨by decide +kernel, fun row member =>
    ((lifecycle_path_of_reachable sampleRuntime anyHost ⟨.serving, approvedSite⟩
      reachable_approvedSite).1 row member).2.2.2.1⟩

/-! ### Changes of the host -/

theorem Guarded.split {later earlier : List Entry} {entry : Entry}
    (guarded : Guarded runtime (later ++ entry :: earlier)) : Justified runtime entry earlier := by
  induction later with
  | nil => exact guarded.1
  | cons _ _ ih => exact ih guarded.2

/-- Every change of the host was recorded, approved and checked beforehand. -/
theorem effect_justified_of_reachable (runtime : Runtime) (model : HostModel H)
    (machine : Machine H) (reachable : Reachable runtime model machine)
    (later earlier : List Entry) (entry : Entry) (call : HostCall)
    (log : machine.world.log = later ++ entry :: earlier)
    (called : entry.call = .host call) (effect : isEffect call = true) :
    ∃ operationId operation, entry.focus = some operationId ∧
      loadOperationFrom entry.before operationId = .ok operation ∧
      operation.stage ∈ [.applying, .validating, .reloading, .rollingBack] ∧
      operation.snapshot.isSome = true ∧
      (∃ begin_ ∈ earlier, Begins runtime operation begin_) ∧
      Rechecked runtime operation earlier := by
  have guarded := (reachable_good reachable).guarded
  rw [log] at guarded
  exact Guarded.split guarded call called effect

def isHostEffect (entry : Entry) : Bool :=
  match entry.call with
  | .host call => isEffect call
  | _ => false

theorem isHostEffect_iff {entry : Entry} (effect : isHostEffect entry = true) :
    ∃ call, entry.call = .host call ∧ isEffect call = true := by
  obtain ⟨before, after, focus, call, answer⟩ := entry
  cases call with
  | host call => exact ⟨call, rfl, effect⟩
  | ledger call => cases effect
  | mark operationId => cases effect

def executedSite : World Unit :=
  serve noFaults siteHost (.execute operator "op_00") approvedSite

theorem effect_justified_of_executedSite :
    ∃ later earlier entry, executedSite.log = later ++ entry :: earlier ∧
      isHostEffect entry = true ∧
      ∃ operationId operation, entry.focus = some operationId ∧
        loadOperationFrom entry.before operationId = .ok operation ∧
        operation.stage ∈ [.applying, .validating, .reloading, .rollingBack] ∧
        operation.snapshot.isSome = true ∧
        (∃ begin_ ∈ earlier, Begins sampleRuntime operation begin_) ∧
        Rechecked sampleRuntime operation earlier := by
  have changed : executedSite.log.any isHostEffect = true := by decide +kernel
  obtain ⟨entry, member, effect⟩ := List.any_eq_true.mp changed
  obtain ⟨later, earlier, log⟩ := List.append_of_mem member
  obtain ⟨call, called, effective⟩ := isHostEffect_iff effect
  exact ⟨later, earlier, entry, log, effect, effect_justified_of_reachable sampleRuntime anyHost
    ⟨.serving, executedSite⟩ (reachable_serve reachable_approvedSite siteHost_produced _)
    later earlier entry call log called effective⟩

def beginSucceeded : Entry → Bool
  | ⟨_, _, _, .ledger (.beginOperation _), answer⟩ => answer.toBool
  | _ => false

/-- The read that follows the commit of an approval fails. -/
def faultAfterCommit : LedgerCall → List Bool
  | .beginOperation _ => List.replicate 10 false ++ [true]
  | _ => []

/-- The approval of a site operation reports an error, and the operation is executed all the
same: a link is made although no `begin_operation` succeeded. -/
def executedUnconfirmed : World Unit :=
  serve noFaults siteHost (.execute operator "op_00")
    (serve faultAfterCommit siteHost (.approve operator .nginx ⟨"plan_0", "hash_0", "key_0"⟩)
      (serve noFaults siteHost (.storePlan operator samplePlan) started))

theorem effect_without_successful_begin :
    Reachable sampleRuntime anyHost ⟨.serving, executedUnconfirmed⟩ ∧
      executedUnconfirmed.log.any isHostEffect = true ∧
      executedUnconfirmed.log.any beginSucceeded = false :=
  ⟨reachable_serve (reachable_serve (reachable_serve reachable_started siteHost_produced _)
    siteHost_produced _) siteHost_produced _, by decide +kernel⟩

/-! ### Executions -/

theorem locksOf_eq_nil_iff {tables : Tables} (locks : LocksFollowStages tables)
    {operationId : String} {operation : StoredOperation}
    (stored : loadOperationFrom tables operationId = .ok operation) :
    tables.locksOf operationId = [] ↔ operation.stage.isTerminal = true := by
  obtain ⟨row, plan, found, planned, rfl⟩ := loadOperationFrom_ok_iff.mp stored
  have held := locks.exact row (lookup_mem found) plan planned
  rw [lookup_key found] at held
  rw [← List.map_eq_nil_iff, held, heldKeys]
  cases row.stage.isTerminal <;> simp [lockKeys]

/-- An approved operation is terminal and without locks after its execution exactly if it is
executed by its own user, its plan can be executed, and no answer of the host blocks it. -/
theorem execution_terminal_iff (runtime : Runtime) (model : HostModel H) (machine : Machine H)
    (reachable : Reachable runtime model machine) (actor : Subject) (operationId : String)
    (nowMs : Int) (operation : StoredOperation)
    (stored : loadOperationFrom machine.world.tables operationId = .ok operation)
    (approved : operation.stage = .approved)
    (result : Except OpsError Ledger.Reads.OperationReceiptView) (after : World H)
    (run : Completes (environment runtime model)
      (executeOperation runtime actor operationId nowMs).run (machine.world.focusOn none)
      result after)
    (recent : List Entry) (log : after.log = recent ++ machine.world.log)
    (ledgerWorks : recent.any ledgerFailed = false) :
    ∃ reached, loadOperationFrom after.tables operationId = .ok reached ∧
      ((reached.stage.isTerminal = true ∧ after.tables.locksOf operationId = []) ↔
        operation.plan.actor = actor ∧ executable runtime operation.plan nowMs = true ∧
          Unblocked runtime (seenFor operationId recent)) := by
  have good := (reachable_good reachable).focusOn none
  obtain ⟨goodAfter, executed⟩ :=
    (good.along (safe_executeOperation good)).completes run
  obtain ⟨calls, grown, settled⟩ := executed
  obtain rfl : calls = recent := List.append_cancel_right (grown.symm.trans log)
  obtain ⟨reached, read, terminal⟩ := settled ledgerWorks operation stored approved
  refine ⟨reached, read, ?_⟩
  rw [locksOf_eq_nil_iff goodAfter.locks read, and_self_iff]
  exact terminal

def executeSite : Except OpsError Ledger.Reads.OperationReceiptView × World Unit :=
  runWith (answering noFaults siteHost) (executeOperation sampleRuntime operator "op_00" 5).run
    (approvedSite.focusOn none)

theorem executeSite_terminal_iff :
    ∃ operation, loadOperationFrom approvedSite.tables "op_00" = .ok operation ∧
      operation.stage = .approved ∧
      ∃ reached, loadOperationFrom executeSite.2.tables "op_00" = .ok reached ∧
        ((reached.stage.isTerminal = true ∧ executeSite.2.tables.locksOf "op_00" = []) ↔
          operation.plan.actor = operator ∧
            executable sampleRuntime operation.plan 5 = true ∧
            Unblocked sampleRuntime
              (seenFor "op_00" (callsBetween approvedSite executeSite.2))) := by
  have approved : (loadOperationFrom approvedSite.tables "op_00").toOption.map
      StoredOperation.stage = some .approved := by decide +kernel
  have faultless : (callsBetween approvedSite executeSite.2).any ledgerFailed = false := by
    decide +kernel
  have run := @completes_answering _ noFaults siteHost siteHost_produced
    (executeOperation sampleRuntime operator "op_00" 5) (approvedSite.focusOn none)
  cases stored : loadOperationFrom approvedSite.tables "op_00" with
  | error error =>
    rw [stored] at approved
    cases approved
  | ok operation =>
    rw [stored] at approved
    have stage : operation.stage = .approved := Option.some.inj approved
    exact ⟨operation, rfl, stage, execution_terminal_iff sampleRuntime anyHost
      ⟨.serving, approvedSite⟩ reachable_approvedSite operator "op_00" 5 operation stored stage
      executeSite.1 executeSite.2 run _ (completes_log run) faultless⟩

def servicePlan : StoredPlan :=
  { samplePlan with
    operationType := .serviceControl
    siteId := serviceId sampleCodec "nginx.service"
    availableDigest := serviceActionDigest sampleCodec .start
    enabledStateDigest := serviceStateDigest sampleCodec "nginx.service" false }

/-- The start of a service is approved. -/
def approvedService : World Unit :=
  serve noFaults failing (.approve operator (.serviceControl true) ⟨"plan_0", "hash_0", "key_0"⟩)
    (serve noFaults failing (.storePlan operator servicePlan) started)

theorem reachable_approvedService :
    Reachable sampleRuntime anyHost ⟨.serving, approvedService⟩ :=
  reachable_serve (reachable_serve reachable_started failing_produced _) failing_produced _

def executeService : Except OpsError Ledger.Reads.OperationReceiptView × World Unit :=
  runWith (answering noFaults failing) (executeOperation sampleRuntime operator "op_00" 5).run
    (approvedService.focusOn none)

def stageOf (tables : Tables) (operationId : String) : Option OperationStage :=
  (loadOperationFrom tables operationId).toOption.map StoredOperation.stage

/-- The runner cannot tell whether the service is active: the operation stays approved and keeps
its locks although the ledger works. -/
theorem executeService_not_terminal :
    Reachable sampleRuntime anyHost ⟨.serving, approvedService⟩ ∧
    stageOf approvedService.tables "op_00" = some .approved ∧
    Completes (environment sampleRuntime anyHost)
      (executeOperation sampleRuntime operator "op_00" 5).run (approvedService.focusOn none)
      executeService.1 executeService.2 ∧
    (callsBetween approvedService executeService.2).any ledgerFailed = false ∧
    stageOf executeService.2.tables "op_00" = some .approved ∧
    (executeService.2.tables.locksOf "op_00").map LockRow.resourceKey =
      ["nginx/site/ngs_0", "nginx/reload"] := by
  have facts : stageOf approvedService.tables "op_00" = some .approved ∧
      (callsBetween approvedService executeService.2).any ledgerFailed = false ∧
      stageOf executeService.2.tables "op_00" = some .approved ∧
      (executeService.2.tables.locksOf "op_00").map LockRow.resourceKey =
        ["nginx/site/ngs_0", "nginx/reload"] := by
    decide +kernel
  exact ⟨reachable_approvedService, facts.1, completes_answering failing_produced _, facts.2⟩

/-! ### Starts -/

/-- A start succeeds and leaves every incomplete operation terminal exactly if the sweep of
temporaries succeeded and every incomplete operation can be restored from its snapshot file. -/
theorem start_recovers_iff (runtime : Runtime) (model : HostModel H) (machine : Machine H)
    (reachable : Reachable runtime model machine) (nowMs : Int) (result : Except OpsError Unit)
    (after : World H)
    (run : Completes (environment runtime model) (initializeService runtime nowMs).run
      (machine.world.focusOn none) result after)
    (recent : List Entry) (log : after.log = recent ++ machine.world.log)
    (ledgerWorks : recent.any ledgerFailed = false)
    (files : String → Nat → Except OpsError Bytes) (unchanged : FilesRead files recent) :
    (result.toBool = true ∧ ∀ operation, Incomplete machine.world.tables operation →
      ∃ reached, loadOperationFrom after.tables operation.operationId = .ok reached ∧
        reached.stage.isTerminal = true ∧
        (Damaged runtime files operation → reached.stage = .recoveryRequired)) ↔
      Swept recent ∧ ∀ operation, Incomplete machine.world.tables operation →
        Restorable runtime files operation := by
  have good := (reachable_good reachable).focusOn none
  obtain ⟨calls, grown, started⟩ := (safe_initializeService nowMs good).completes run
  obtain rfl : calls = recent := List.append_cancel_right (grown.symm.trans log)
  exact started files unchanged ledgerWorks

def restart (world : World Unit) : Except OpsError Unit × World Unit :=
  runWith (answering noFaults failing) (initializeService sampleRuntime 5).run
    (world.focusOn none)

/-- Every snapshot file is gone. -/
def noFiles (_path : String) (_maxBytes : Nat) : Except OpsError Bytes :=
  .error (.filesystem "unavailable")

def isSnapshotRead (entry : Entry) : Bool :=
  match entry.call with
  | .host (.readSnapshotFile _ _) => true
  | _ => false

theorem filesRead_of_no_read {files : String → Nat → Except OpsError Bytes} {log : List Entry}
    (none : log.any isSnapshotRead = false) : FilesRead files log := by
  intro before after focus path maxBytes answer member
  have clear := List.any_eq_false.mp none _ member
  exact absurd rfl clear

theorem restart_recovers_approvedSite_iff :
    ((restart approvedSite).1.toBool = true ∧
      ∀ operation, Incomplete approvedSite.tables operation →
        ∃ reached, loadOperationFrom (restart approvedSite).2.tables operation.operationId =
            .ok reached ∧
          reached.stage.isTerminal = true ∧
          (Damaged sampleRuntime noFiles operation → reached.stage = .recoveryRequired)) ↔
      Swept (callsBetween approvedSite (restart approvedSite).2) ∧
        ∀ operation, Incomplete approvedSite.tables operation →
          Restorable sampleRuntime noFiles operation := by
  have run := @completes_answering _ noFaults failing failing_produced
    (initializeService sampleRuntime 5) (approvedSite.focusOn none)
  have facts : (callsBetween approvedSite (restart approvedSite).2).any ledgerFailed = false ∧
      (callsBetween approvedSite (restart approvedSite).2).any isSnapshotRead = false := by
    decide +kernel
  exact start_recovers_iff sampleRuntime anyHost ⟨.serving, approvedSite⟩ reachable_approvedSite 5
    _ _ run _ (completes_log run) facts.1 noFiles (filesRead_of_no_read facts.2)

def renewPlan : StoredPlan :=
  { samplePlan with
    operationType := .certbotRenewTest
    planId := "plan_1"
    planHash := "hash_1"
    idempotencyKey := "key_1"
    resourceKey := "certbot/renew" }

/-- A host with a stopped service that cannot be started. -/
def serviceHost : (call : HostCall) → call.Answer
  | .run .nginxActive => .ok {
      class_ := .nginxActive
      success := false
      exitCode := some 3
      timedOut := false
      stdout := ⟨sha256Digest sampleCodec [], [], false⟩
      stderr := ⟨sha256Digest sampleCodec [], [], false⟩ }
  | .storeSnapshotFile _ _ bytes => .ok bytes
  | .randomBytes => .ok [1]
  | call => failing call

theorem serviceHost_produced (call : HostCall) : Produced call (serviceHost call) := by
  cases call with
  | run command =>
    cases command with
    | nginxActive =>
      exact ⟨nofun, validateDigest_sha256Digest _ _, validateDigest_sha256Digest _ _⟩
    | _ => trivial
  | _ => trivial

/-- The transition into `ROLLING_BACK` fails, which leaves the operation in `APPLYING`. -/
def faultAtRollback : LedgerCall → List Bool
  | .transition _ change _ _ => if change.next = .rollingBack then [true] else []
  | _ => []

/-- The start of a service was interrupted while it was applied, and a renewal test is approved. -/
def twoIncomplete : World Unit :=
  serve noFaults serviceHost
    (.approve operator (.certbotRenewTest true) ⟨"plan_1", "hash_1", "key_1"⟩)
    (serve noFaults serviceHost (.storePlan operator renewPlan)
      (serve faultAtRollback serviceHost (.execute operator "op_00") approvedService))

theorem reachable_twoIncomplete :
    Reachable sampleRuntime anyHost ⟨.stopped, twoIncomplete.focusOn none⟩ :=
  reachable_next (reachable_serve (reachable_serve (reachable_serve reachable_approvedService
      serviceHost_produced _) serviceHost_produced _) serviceHost_produced _)
    (@MachineStep.crashed sampleRuntime Unit anyHost _ _ (.execute operator "op_00") 5 (.here _ _))

/-- The snapshot file of the service operation is gone: the daemon does not start, and neither
operation is recovered although the ledger works. -/
theorem restart_not_total :
    Reachable sampleRuntime anyHost ⟨.stopped, twoIncomplete.focusOn none⟩ ∧
    stageOf twoIncomplete.tables "op_00" = some .applying ∧
    stageOf twoIncomplete.tables "op_01" = some .approved ∧
    Completes (environment sampleRuntime anyHost) (initializeService sampleRuntime 5).run
      (twoIncomplete.focusOn none) (restart twoIncomplete).1 (restart twoIncomplete).2 ∧
    (callsBetween twoIncomplete (restart twoIncomplete).2).any ledgerFailed = false ∧
    (restart twoIncomplete).1.toBool = false ∧
    stageOf (restart twoIncomplete).2.tables "op_00" = some .rollingBack ∧
    stageOf (restart twoIncomplete).2.tables "op_01" = some .approved := by
  have facts : stageOf twoIncomplete.tables "op_00" = some .applying ∧
      stageOf twoIncomplete.tables "op_01" = some .approved ∧
      (callsBetween twoIncomplete (restart twoIncomplete).2).any ledgerFailed = false ∧
      (restart twoIncomplete).1.toBool = false ∧
      stageOf (restart twoIncomplete).2.tables "op_00" = some .rollingBack ∧
      stageOf (restart twoIncomplete).2.tables "op_01" = some .approved := by
    decide +kernel
  exact ⟨reachable_twoIncomplete, facts.1, facts.2.1, completes_answering failing_produced _,
    facts.2.2⟩

end JwOps.Lifecycle.Runs
