/- module: Lifecycle/Restoring
   source: crates/jw-opsd/src/engine/managed_config_plan.rs,
     crates/jw-opsd/src/php_fpm_diagnostic.rs
   digest: Which succeeded configuration changes can be taken back on request. -/
import JwOps.Files.Discovery
import JwOps.Lifecycle.Retrying

set_option autoImplicit false

namespace JwOps.Lifecycle.Restoring

open Contracts Ledger Operation Digest Config Text Schema Writes
open Ledger.Commits (planned planEvent Appended)
open Ledger.Checkpoints (Sound sound_runCuts sound_emptyLedger sound_createOrReusePlan
  createOrReusePlan_quiet Cut runCuts)
open Ledger.Idempotency Engine.Interface Engine.ManagedConfig Engine.PhpFpm Engine.Requests
open Lifecycle.System Lifecycle.Steady Files.Sites Files.Discovery Foundation.Keyed
open Foundation.Program

/-! ### Candidates of the daemon -/

/-- The daemon with the checks of `php_fpm_diagnostic.rs` on texts that `decode` reads. -/
def phpRuntime (decode : Bytes → String) (base : Runtime) : Runtime :=
  { base with
    validatePhpIniCandidate := fun current proposed =>
      (Engine.PhpFpm.validatePhpIniCandidate (decode current) (decode proposed)).mapError .rejected
    validatePhpFpmCandidate := fun current proposed =>
      (Engine.PhpFpm.validatePhpFpmCandidate (decode current)
        (decode proposed)).mapError .rejected }

/-- The names that a PHP file may set; the other adapters do not look at names. -/
def keysOf : ManagedConfigAdapter → Option (List Char → Bool)
  | .phpFpm83Ini => some validIniKey
  | .phpFpm83Global | .phpFpm83PoolWww | .phpFpm83Pool => some validFpmKey
  | _ => none

/-- `snapshot` sets nothing but names that `current` sets or has on a comment line. -/
def Covers (validKey : List Char → Bool) (current snapshot : String) : Prop :=
  (trim snapshot.toList).isEmpty = false ∧
    (directiveInventory validKey current).isEmpty = false ∧
    ∀ line ∈ lines snapshot.toList, isPassedOver (trim line) = true ∨
      ∃ key, keyOf (trim line) = some key ∧ validKey key = true ∧
        key ∈ directiveInventory validKey current

def Restorable (decode : Bytes → String) (adapter : ManagedConfigAdapter)
    (current snapshot : Bytes) : Prop :=
  ∀ validKey, keysOf adapter = some validKey → Covers validKey (decode current) (decode snapshot)

variable {base : Runtime} {decode : Bytes → String}

theorem mapError_ok {ε : Type} {change : ε → OpsError} {result : Except ε Unit} :
    result.mapError change = .ok () ↔ result = .ok () := by
  cases result with
  | error _ | ok _ => simp [Except.mapError]

variable {adapter : ManagedConfigAdapter} {plan : StoredPlan} {record : SnapshotRecord}

theorem validateManagedConfigCandidate_ok {current snapshot : Bytes} :
    validateManagedConfigCandidate (phpRuntime decode base) adapter current snapshot = .ok () ↔
      Restorable decode adapter current snapshot := by
  have named (validKey : List Char → Bool) :
      (validateIniCandidate validKey (decode current) (decode snapshot)).mapError
        OpsError.rejected = .ok () ↔ Covers validKey (decode current) (decode snapshot) :=
    mapError_ok.trans validateIniCandidate_ok
  have of_keys {validKey : List Char → Bool} (keys : keysOf adapter = some validKey) :
      Covers validKey (decode current) (decode snapshot) ↔
        Restorable decode adapter current snapshot := by
    simp [Restorable, keys]
  cases adapter with
  | phpFpm83Ini => exact (named validIniKey).trans (of_keys rfl)
  | phpFpm83Global | phpFpm83PoolWww | phpFpm83Pool => exact (named validFpmKey).trans (of_keys rfl)
  | _ => simp [Restorable, keysOf, validateManagedConfigCandidate]

/-! ### The plan of a restore -/

variable {runtime : Runtime} {answers : Answers} {world : World Unit} {actor : Subject}
  {request : ManagedConfigRestorePlanRequest} {snapshot : ManagedConfigSnapshot}
  {resource : ManagedConfigResource} {nowMs : Int}

/-- The request in which the snapshot is the proposed content. -/
def restoreRequest (request : ManagedConfigRestorePlanRequest) (snapshot : ManagedConfigSnapshot) :
    ManagedConfigPlanRequest where
  schemaVersion := request.schemaVersion
  operationType := .managedConfig
  resourceId := snapshot.resourceId
  expectedContentDigest := request.expectedContentDigest
  expectedMetadataDigest := request.expectedMetadataDigest
  proposedContent := snapshot.content
  serviceAction := .reload
  idempotencyKey := request.idempotencyKey

def restorePlan (runtime : Runtime) (actor : Subject) (request : ManagedConfigRestorePlanRequest)
    (snapshot : ManagedConfigSnapshot) (resource : ManagedConfigResource) (planId : String)
    (nowMs : Int) : StoredPlan :=
  let plan := managedConfigPlan runtime actor (restoreRequest request snapshot) resource
    ⟨planId, ⟨planId ++ "/content", sha256Digest runtime.toCodec snapshot.content⟩,
      .managedConfigRestore, canonicalDigest runtime.toCodec "jw-agent/operation-request/v1"
        (runtime.managedRestoreRequestJson actor request)⟩ nowMs
  { plan with
    planHash := canonicalDigest runtime.toCodec "jw-agent/operation-plan/v1"
      (runtime.managedPlanJson plan) }

/-- What the host still has: the snapshot file as it was written, of a content that was found at
some time, and the resource. -/
structure Kept (runtime : Runtime) (answers : Answers) (record : SnapshotRecord)
    (snapshot : ManagedConfigSnapshot) (resource : ManagedConfigResource) : Prop where
  path : relativePathRejected record.relativePath = false
  intact : ∃ bytes, answers (.readSnapshotFile record.relativePath
      SnapshotKind.managedConfig.maxBytes) = .ok bytes ∧
    sha256Digest runtime.toCodec bytes = record.digest ∧
    runtime.parseSnapshot .managedConfig bytes = some snapshot
  taken : ∃ tree found, Files.Managed.discoverManagedConfig runtime.toCodec runtime.paths tree
    snapshot.resourceId = .ok found ∧ snapshot.content = found.content
  discovered : ∃ tree, Files.Managed.discoverManagedConfig runtime.toCodec runtime.paths tree
    snapshot.resourceId = .ok resource
  answered : answers (.discoverManagedConfig snapshot.resourceId) = .ok resource

/-- The request has the right form and names the resource as it is. -/
structure Current (request : ManagedConfigRestorePlanRequest) (resource : ManagedConfigResource) :
    Prop where
  valid : request.validate = .ok ()
  content : resource.contentDigest = request.expectedContentDigest
  metadata : resource.metadataDigest = request.expectedMetadataDigest

/-- A plan can be made: the host has random bytes and room for the proposal, the times have texts,
and neither the key, nor the identifier, nor a digest is in use. -/
structure Fresh (runtime : Runtime) (answers : Answers) (tables : Tables) (content : Bytes)
    (bytes : Bytes) (plan : StoredPlan) : Prop where
  random : answers .randomBytes = .ok bytes
  stores : answers (.storeProposalFile (idOf "plan" bytes) content) = .ok ()
  lifetime : (runtime.planTtlMs : Int) ≤ i64Max
  created : ∃ text, formatTime runtime.toCodec plan.createdAtMs = .ok text
  expires : ∃ text, formatTime runtime.toCodec plan.expiresAtMs = .ok text
  unused : ∀ other ∈ tables.plans, other.planId ≠ plan.planId ∧
    other.planHash ≠ plan.planHash ∧ other.idempotencyKey ≠ plan.idempotencyKey
  event : ∀ event, nextEvent runtime.toCodec tables.lastEvent (planEvent plan) = .ok event →
    ∀ other ∈ tables.ledgerEvents, other.eventDigest ≠ event.eventDigest

theorem maximumBytes_le (adapter : ManagedConfigAdapter) : adapter.maximumBytes ≤ 128 * 1024 := by
  cases adapter <;> decide

theorem managedConfigPlanView_ok {created expires : String}
    (type : plan.operationType = .managedConfigRestore)
    (payload : plan.managedConfig.isNone = false)
    (kind : managedConfigAdapter runtime.toCodec plan.siteId = .ok adapter)
    (first : formatTime runtime.toCodec plan.createdAtMs = .ok created)
    (last : formatTime runtime.toCodec plan.expiresAtMs = .ok expires) :
    managedConfigPlanView runtime plan = .ok plan := by
  unfold managedConfigPlanView
  rw [if_neg (by simp [type]), if_neg (by simp [payload]), kind, first, last]
  rfl

/-! ### The run -/

section

variable (sound : Sound runtime.toCodec world.ledger)
  (few : (world.ledger.tables.ledgerEvents.length : Int) < i64Max)
include sound few

/-- Without faults a plan that nothing stands against is stored. -/
theorem quiet_createOrReusePlan
    (unbound : world.ledger.tables.findIdempotency plan.idempotencyKey = none)
    (unused : ∀ other ∈ world.ledger.tables.plans, other.planId ≠ plan.planId ∧
      other.planHash ≠ plan.planHash ∧ other.idempotencyKey ≠ plan.idempotencyKey)
    (distinct : ∀ event, nextEvent runtime.toCodec world.ledger.tables.lastEvent (planEvent plan) =
      .ok event →
      ∀ other ∈ world.ledger.tables.ledgerEvents, other.eventDigest ≠ event.eventDigest) :
    Gives (quiet runtime answers) (ledger (.createOrReusePlan plan)) world fun result after =>
      result = .ok plan ∧ Sound runtime.toCodec after.ledger ∧
        (after.ledger.tables.ledgerEvents.length : Int) =
          world.ledger.tables.ledgerEvents.length + 1 := by
  obtain ⟨event, computed⟩ := sound.vouched.next (planEvent plan)
  have appended := sound.vouched.admits few computed (distinct event computed)
  obtain ⟨checkpoint, ran⟩ := createOrReusePlan_quiet sound unbound unused appended
  have kept := sound_createOrReusePlan sound plan []
  rw [ran] at kept
  refine quiet_ledger ran fun after same => ⟨rfl, ?_, ?_⟩
  · rw [same]
    exact kept
  · rw [same]
    simp [planned]

theorem quiet_storeManagedConfigPlan {storage : ManagedPlanStorage}
    {internal : ManagedConfigPlanRequest} (lifetime : (runtime.planTtlMs : Int) ≤ i64Max)
    (small : resource.content.length ≤ 128 * 1024)
    (fits : internal.proposedContent.length ≤ 128 * 1024)
    (kind : managedConfigAdapter runtime.toCodec resource.resourceId = .ok adapter)
    (made : plan =
      { managedConfigPlan runtime actor internal resource storage nowMs with
        planHash := canonicalDigest runtime.toCodec "jw-agent/operation-plan/v1"
          (runtime.managedPlanJson
            (managedConfigPlan runtime actor internal resource storage nowMs)) })
    (unbound : world.ledger.tables.findIdempotency plan.idempotencyKey = none)
    (unused : ∀ other ∈ world.ledger.tables.plans, other.planId ≠ plan.planId ∧
      other.planHash ≠ plan.planHash ∧ other.idempotencyKey ≠ plan.idempotencyKey)
    (distinct : ∀ event, nextEvent runtime.toCodec world.ledger.tables.lastEvent (planEvent plan) =
      .ok event →
      ∀ other ∈ world.ledger.tables.ledgerEvents, other.eventDigest ≠ event.eventDigest) :
    Gives (quiet runtime answers) (storeManagedConfigPlan runtime actor internal resource storage
      nowMs) world fun result after =>
      result = .ok plan ∧ Sound runtime.toCodec after.ledger ∧
        (after.ledger.tables.ledgerEvents.length : Int) =
          world.ledger.tables.ledgerEvents.length + 1 := by
  refine SafeE.bind (SafeE.rejectIf (fun long => absurd lifetime (not_le.mpr long)) fun _ => ?_)
  refine SafeE.bind (SafeE.rejectIf (fun large => ?_) fun _ => ?_)
  · omega
  have hashed : managedConfigPlanHash runtime
      (managedConfigPlan runtime actor internal resource storage nowMs) = .ok plan.planHash := by
    unfold managedConfigPlanHash
    rw [show (managedConfigPlan runtime actor internal resource storage nowMs).siteId =
      resource.resourceId from rfl, kind, made]
    rfl
  refine SafeE.bind (SafeE.lift _ ?_)
  rw [hashed]
  dsimp only
  refine SafeE.bind ((quiet_openLedger sound few).mono ?_)
  rintro _ opened ⟨rfl, held⟩
  rw [← held.tables] at few unbound unused distinct ⊢
  have same : { managedConfigPlan runtime actor internal resource storage nowMs with
      planHash := plan.planHash } = plan := by
    rw [made]
  rw [same]
  exact quiet_createOrReusePlan held.sound few unbound unused distinct

end

/-- A snapshot file that is as it was written can be read. -/
theorem gives_readSnapshot (kept : Kept runtime answers record snapshot resource) :
    Gives (quiet runtime answers) (readSnapshot runtime .managedConfig record) world
      fun result after => result = .ok snapshot ∧ after.ledger = world.ledger := by
  obtain ⟨bytes, read, digest, parsed⟩ := kept.intact
  refine SafeE.bind (SafeE.rejectIf (fun bad => ?_) fun _ => ?_)
  · rw [kept.path] at bad
    cases bad
  refine SafeE.bind (gives_host steady_quiet fun after same => ?_)
  rw [show id (answers (.readSnapshotFile record.relativePath
    SnapshotKind.managedConfig.maxBytes)) = .ok bytes from read]
  refine SafeE.lift _ ⟨?_, same⟩
  unfold decodeSnapshot
  rw [if_neg (not_not_intro digest), parsed]

/-- The proposal is written, and the plan that names it is stored and answered. -/
theorem gives_proposed {bytes : Bytes} (sound : Sound runtime.toCodec world.ledger)
    (few : (world.ledger.tables.ledgerEvents.length : Int) + 1 < i64Max)
    (keyed : KeysBound world.ledger.tables)
    (kept : Kept runtime answers record snapshot resource)
    (fresh : Fresh runtime answers world.ledger.tables snapshot.content bytes
      (restorePlan runtime actor request snapshot resource (idOf "plan" bytes) nowMs)) :
    Gives (quiet runtime answers) (do
      let planId ← randomId "plan"
      let proposal ← writeProposal runtime planId snapshot.content
      let requestDigest := canonicalDigest runtime.toCodec "jw-agent/operation-request/v1"
        (runtime.managedRestoreRequestJson actor request)
      let result ← attempt (storeManagedConfigPlan runtime actor (restoreRequest request snapshot)
        resource ⟨planId, proposal, .managedConfigRestore, requestDigest⟩ nowMs)
      keepOrDropProposal runtime proposal planId result) world fun result _ =>
        result = .ok (restorePlan runtime actor request snapshot resource (idOf "plan" bytes)
          nowMs) := by
  obtain ⟨_, taken, foundThen, same⟩ := kept.taken
  obtain ⟨_, now⟩ := kept.discovered
  obtain ⟨_, before⟩ := found_of_discovered foundThen
  obtain ⟨kind, found⟩ := found_of_discovered now
  have limit := maximumBytes_le resource.adapter
  have small : resource.content.length ≤ 128 * 1024 := found.size.trans limit
  have fits : snapshot.content.length ≤ 128 * 1024 := by
    rw [same]
    exact before.size.trans (maximumBytes_le taken.adapter)
  have text : managedConfigBytesSupported runtime.toCodec snapshot.content = true := by
    rw [same]
    exact before.text
  rw [← found.id] at kind
  obtain ⟨plan, made⟩ : ∃ plan, plan = restorePlan runtime actor request snapshot resource
    (idOf "plan" bytes) nowMs := ⟨_, rfl⟩
  rw [← made] at fresh ⊢
  refine SafeE.bind (SafeE.bind (gives_host steady_quiet fun drawn sameDrawn => ?_))
  rw [fresh.random]
  refine SafeE.bind (SafeE.bind (SafeE.rejectIf (fun large => absurd fits (not_le.mpr large))
    fun _ => ?_))
  refine SafeE.bind (SafeE.rejectIf (fun bad => ?_) fun _ => ?_)
  · rw [text] at bad
    cases bad
  refine SafeE.bind (gives_host steady_quiet fun written sameWritten => ?_)
  have ledger : written.ledger = world.ledger := sameWritten.trans sameDrawn
  rw [show id (answers (.storeProposalFile (idOf "plan" bytes) snapshot.content)) = .ok ()
    from fresh.stores]
  dsimp only
  rw [← ledger] at sound few keyed fresh
  -- a key without a plan has no row either
  have unbound : written.ledger.tables.findIdempotency plan.idempotencyKey = none := by
    refine lookup_eq_none.mpr fun row member bound => ?_
    obtain ⟨plan, listed, _, key, _⟩ := keyed.bound row member
    exact (fresh.unused plan listed).2.2 (key.trans bound)
  refine SafeE.bind (SafeE.attempt ((quiet_storeManagedConfigPlan sound (by omega) fresh.lifetime
    small fits kind made unbound fresh.unused fresh.event).mono ?_))
  rintro _ stored ⟨rfl, sound, count⟩
  unfold keepOrDropProposal
  dsimp only
  rw [if_neg (by rw [made]; exact not_not_intro rfl)]
  refine SafeE.bind ((quiet_openLedger sound (by omega)).mono ?_)
  rintro _ last ⟨rfl, _⟩
  obtain ⟨created, first⟩ := fresh.created
  obtain ⟨expires, final⟩ := fresh.expires
  refine SafeE.lift _ (managedConfigPlanView_ok ?_ ?_ (?_ : _ = Except.ok resource.adapter)
    first final)
  · rw [made]
    rfl
  · rw [made]
    rfl
  · rw [made]
    exact kind

/-- A succeeded change of a configuration whose snapshot file and resource the host still has is
accepted for a restore, with the snapshot as the proposed content, just if it is asked for by the
user who made it and, for the files of PHP, the snapshot sets no name that the present content does
not know. -/
theorem restore_planned_iff (base runtime : Runtime) (decode : Bytes → String)
    (daemon : runtime = phpRuntime decode base) (answers : Answers) (cuts : List Cut)
    (world : World Unit) (history : world.ledger = runCuts runtime.toCodec emptyLedger cuts)
    (few : (world.ledger.tables.ledgerEvents.length : Int) + 1 < 2 ^ 63 - 1)
    (actor : Subject) (request : ManagedConfigRestorePlanRequest) (nowMs : Int)
    (operation : StoredOperation)
    (stored : loadOperationFrom world.ledger.tables request.sourceOperationId = .ok operation)
    (managed : operation.plan.operationType = .managedConfig ∨
      operation.plan.operationType = .managedConfigRestore)
    (succeeded : operation.stage = .succeeded) (record : SnapshotRecord)
    (attached : operation.snapshot = some record) (snapshot : ManagedConfigSnapshot)
    (resource : ManagedConfigResource)
    (kept : Kept runtime answers record snapshot resource)
    (current : Current request resource) (bytes : Bytes)
    (fresh : Fresh runtime answers world.ledger.tables snapshot.content bytes
      (restorePlan runtime actor request snapshot resource (idOf "plan" bytes) nowMs)) :
    ((runWith (quietly runtime answers)
        (planManagedConfigRestore runtime actor request nowMs).run world).1 =
        .ok (restorePlan runtime actor request snapshot resource (idOf "plan" bytes) nowMs) ↔
      operation.plan.actor.uid = actor.uid ∧
        Restorable decode resource.adapter resource.content snapshot.content) ∧
    (restorePlan runtime actor request snapshot resource
      (idOf "plan" bytes) nowMs).managedConfig.map
      ManagedConfigPlanPayload.proposedContentDigest =
        some (sha256Digest runtime.toCodec snapshot.content) := by
  refine ⟨?_, rfl⟩
  have sound : Sound runtime.toCodec world.ledger := history ▸ sound_runCuts sound_emptyLedger cuts
  have keyed : KeysBound world.ledger.tables := by
    rw [history]
    exact (keyed_committed committed_runCuts).1
  have gives : Gives (quiet runtime answers)
      (planManagedConfigRestore runtime actor request nowMs) world
      fun result _ =>
        result = .ok
          (restorePlan runtime actor request snapshot resource (idOf "plan" bytes) nowMs) ↔
          operation.plan.actor.uid = actor.uid ∧
            Restorable decode resource.adapter resource.content snapshot.content := by
    refine SafeE.bind (SafeE.lift _ ?_)
    rw [current.valid]
    refine SafeE.bind ((quiet_openLedger sound (by unfold i64Max; omega)).mono ?_)
    rintro _ opened ⟨rfl, held⟩
    refine SafeE.bind ((@quiet_read runtime answers opened
      (.loadOperation request.sourceOperationId)
      (fun tables => loadOperationFrom tables request.sourceOperationId) rfl).mono ?_)
    rintro _ loaded ⟨rfl, same⟩
    rw [held.tables, stored]
    have held := held.same same
    refine SafeE.bind (SafeE.lift _ ?_)
    by_cases own : operation.plan.actor.uid = actor.uid
    · have source : restoreSource actor operation = .ok record := by
        unfold restoreSource
        rw [if_neg, attached]
        rintro (other | other | other)
        · exact other own
        · exact managed.elim other.1 other.2
        · exact other succeeded
      rw [source]
      refine SafeE.bind ((gives_readSnapshot kept).mono ?_)
      rintro _ read ⟨rfl, same⟩
      have held := held.same same
      refine SafeE.bind (gives_host steady_quiet fun found same => ?_)
      have held := held.same same
      rw [show id (answers (.discoverManagedConfig snapshot.resourceId)) = .ok resource
        from kept.answered]
      refine SafeE.bind (SafeE.rejectIf (fun stale => ?_) fun _ => ?_)
      · rcases stale with stale | stale
        · exact absurd current.content stale
        · exact absurd current.metadata stale
      refine SafeE.bind (SafeE.lift _ ?_)
      have accepted : validateManagedConfigCandidate runtime resource.adapter resource.content
          snapshot.content = .ok () ↔ _ :=
        daemon ▸ validateManagedConfigCandidate_ok
      cases checked : validateManagedConfigCandidate runtime resource.adapter
          resource.content snapshot.content with
      | error error =>
        rw [checked] at accepted
        simp only [reduceCtorEq, false_iff] at accepted
        simp [accepted]
      | ok _ =>
        have restorable := accepted.mp checked
        have count := held.tables
        refine (gives_proposed held.sound (by rw [count]; unfold i64Max; omega)
          (count ▸ keyed) kept (count ▸ fresh)).mono ?_
        rintro _ last rfl
        exact iff_of_true rfl ⟨own, restorable⟩
    · have refused : restoreSource actor operation =
          .error (.rejected "restore_source_unavailable") := by
        unfold restoreSource
        rw [if_pos (Or.inl own)]
      rw [refused]
      simp [own]
  exact gives.result

/-! ### Samples -/

def asciiText (bytes : Bytes) : String :=
  String.ofList (bytes.map fun byte => Char.ofNat byte.toNat)

def iniId : String := phpFpmConfigResourceId sampleCodec ManagedConfigAdapter.phpFpm83Ini.adapterId

/-- A snapshot file that holds the content and nothing else. -/
def iniSnapshot (content : Bytes) : ManagedConfigSnapshot :=
  ⟨1, iniId, "php.ini", content, sha256Digest sampleCodec content, "", 0o644, 0, 0⟩

def iniBase : Runtime :=
  { sampleRuntime with
    parseSnapshot := fun kind bytes =>
      match kind with
      | .managedConfig => some (iniSnapshot bytes)
      | .nginxLink | .certificateInventory | .serviceState | .ufwRules => none
    managedPlanJson := fun _ => [0]
    planTtlMs := 1000 }

def iniRuntime : Runtime := phpRuntime asciiText iniBase

def iniRoot : Path := OpsPaths.default.phpFpmIni.dropLast

def iniTree (content : Bytes) : Tree :=
  (Foundation.Files.FileTree.empty.put iniRoot (.directory ⟨0o755, 0, 0, 2⟩)).put
    OpsPaths.default.phpFpmIni (.file ⟨0o644, 0, 0, 1⟩ content)

def iniResource (content : Bytes) : ManagedConfigResource :=
  Files.Managed.resourceOf sampleCodec .phpFpm83Ini iniRoot "php.ini" "PHP 8.3 FPM · php.ini" iniId
    ⟨0o644, 0, 0, 1⟩ content

/-- A host on which `php.ini` and the snapshot of its earlier content can be read. -/
def iniHost (earlier now : Bytes) : Answers
  | .readSnapshotFile _ _ => .ok earlier
  | .discoverManagedConfig _ => .ok (iniResource now)
  | .randomBytes => .ok [1]
  | .storeProposalFile _ _ => .ok ()
  | call => Runs.failing call

/-- Transitions from one stage of a list to the next. -/
def stages : List OperationStage → List Cut
  | current :: next :: rest =>
    ⟨.transition "op_0" ⟨[current], next, "", "", none, none, 7⟩, []⟩ :: stages (next :: rest)
  | _ => []

/-- A change with a snapshot of the earlier content that goes through the stages. -/
def changed (earlier : Bytes) (passed : List OperationStage) : List Cut :=
  [⟨.createOrReusePlan { Ledger.Locks.samplePlan with operationType := .managedConfig }, []⟩,
    ⟨.beginOperation Ledger.Locks.sampleApproval, []⟩,
    ⟨.attachSnapshot "op_0" ⟨"op_0/managed-config.json", sha256Digest sampleCodec earlier⟩ 6, []⟩]
    ++ stages passed

def changedWorld (earlier : Bytes) (passed : List OperationStage) : World Unit :=
  ⟨runCuts iniRuntime.toCodec emptyLedger (changed earlier passed), (), none, []⟩

def takeBack (now : Bytes) : ManagedConfigRestorePlanRequest :=
  ⟨operationSchemaVersion, .managedConfigRestore, "op_0", (iniResource now).contentDigest,
    (iniResource now).metadataDigest, "0123456789abcdef"⟩

def askBack (earlier now : Bytes) (passed : List OperationStage) : Except OpsError StoredPlan :=
  (runWith (quietly iniRuntime (iniHost earlier now)) (planManagedConfigRestore iniRuntime
    ⟨1000, "operator", .operator⟩ (takeBack now) 20).run (changedWorld earlier passed)).1

def lowLimit : Bytes := utf8Bytes "memory_limit = 128M\n"

def highLimit : Bytes := utf8Bytes "memory_limit = 256M\n"

/-- An earlier value comes back. -/
theorem restore_planned_of_value : ∃ plan,
    askBack lowLimit highLimit [.snapshotted, .succeeded] = .ok plan := by
  have request : (takeBack highLimit).validate = .ok () := by decide +kernel
  have files : Files.Managed.discoverManagedConfig sampleCodec .default (iniTree lowLimit) iniId =
        .ok (iniResource lowLimit) ∧
      Files.Managed.discoverManagedConfig sampleCodec .default (iniTree highLimit) iniId =
        .ok (iniResource highLimit) ∧
      relativePathRejected "op_0/managed-config.json" = false ∧
      validateManagedConfigCandidate iniRuntime .phpFpm83Ini highLimit lowLimit = .ok () := by
    decide +kernel
  obtain ⟨earlier, found, accepted, candidate⟩ := files
  obtain ⟨plan, made⟩ : ∃ plan, plan = restorePlan iniRuntime ⟨1000, "operator", .operator⟩
    (takeBack highLimit) (iniSnapshot lowLimit) (iniResource highLimit) (idOf "plan" [1]) 20 :=
    ⟨_, rfl⟩
  obtain ⟨world, reached⟩ : ∃ world, world = changedWorld lowLimit [.snapshotted, .succeeded] :=
    ⟨_, rfl⟩
  have facts : ((world.ledger.tables.ledgerEvents.length : Int) + 1 < 2 ^ 63 - 1 ∧
      (loadOperationFrom world.ledger.tables "op_0").toOption.any (fun operation =>
        operation.plan.operationType = .managedConfig ∧ operation.stage = .succeeded ∧
          operation.plan.actor.uid = 1000 ∧ operation.snapshot = some
            ⟨"op_0/managed-config.json", sha256Digest sampleCodec lowLimit⟩) = true) ∧
      (formatTime sampleCodec plan.createdAtMs = .ok "" ∧
        formatTime sampleCodec plan.expiresAtMs = .ok "") ∧
      (∀ other ∈ world.ledger.tables.plans, other.planId ≠ plan.planId ∧
        other.planHash ≠ plan.planHash ∧ other.idempotencyKey ≠ plan.idempotencyKey) ∧
      (nextEvent sampleCodec world.ledger.tables.lastEvent (planEvent plan)).toOption.all
        (fun event => ∀ other ∈ world.ledger.tables.ledgerEvents,
          other.eventDigest ≠ event.eventDigest) = true := by
    rw [made, reached]
    decide +kernel
  obtain ⟨⟨few, loaded⟩, ⟨created, expires⟩, unused, numbered⟩ := facts
  rw [askBack, ← reached]
  cases stored : loadOperationFrom world.ledger.tables "op_0" with
  | error error =>
    rw [stored] at loaded
    cases loaded
  | ok operation =>
    rw [stored] at loaded
    obtain ⟨type, stage, own, snapshot⟩ := of_decide_eq_true loaded
    have fresh : Fresh iniRuntime (iniHost lowLimit highLimit) world.ledger.tables lowLimit [1]
        plan := by
      refine ⟨rfl, rfl, by decide, ⟨_, created⟩, ⟨_, expires⟩, unused, fun event computed => ?_⟩
      have computed : nextEvent sampleCodec world.ledger.tables.lastEvent (planEvent plan) =
          .ok event := computed
      rw [computed] at numbered
      exact of_decide_eq_true numbered
    have history : world.ledger = runCuts iniRuntime.toCodec emptyLedger
        (changed lowLimit [.snapshotted, .succeeded]) := by
      rw [reached, changedWorld]
    refine ⟨plan, ?_⟩
    rw [made] at fresh ⊢
    exact (restore_planned_iff iniBase iniRuntime asciiText rfl _ _ world history few _ _ 20
      operation stored (.inl type) stage _ snapshot
      (iniSnapshot lowLimit) (iniResource highLimit)
      ⟨accepted, ⟨_, rfl, rfl, rfl⟩, ⟨_, _, earlier, rfl⟩, ⟨_, found⟩, rfl⟩
      ⟨request, rfl, rfl⟩ [1] fresh).1.mpr ⟨own, validateManagedConfigCandidate_ok.mp candidate⟩

def limitAndSize : Bytes := utf8Bytes "memory_limit = 128M\npost_max_size = 8M\n"

/-- Every stage of a change with a reload. -/
def everyStage : List OperationStage :=
  [.snapshotted, .applying, .validating, .reloading, .verifying, .succeeded]

/-- A setting that was taken out cannot be put back, although taking it out was accepted. -/
theorem removed_setting_not_restored :
    validateManagedConfigCandidate iniRuntime .phpFpm83Ini limitAndSize lowLimit = .ok () ∧
      (loadOperationFrom (changedWorld limitAndSize everyStage).ledger.tables "op_0").map
        StoredOperation.stage = .ok .succeeded ∧
      Files.Managed.discoverManagedConfig sampleCodec .default (iniTree lowLimit) iniId =
        .ok (iniResource lowLimit) ∧
      askBack limitAndSize lowLimit everyStage =
        .error (.rejected "unknown_directive_line_2") := by
  decide +kernel

end JwOps.Lifecycle.Restoring
