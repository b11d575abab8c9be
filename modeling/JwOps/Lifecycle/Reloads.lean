/- module: Lifecycle/Reloads
   source: crates/jw-opsd/src/engine.rs, crates/jw-opsd/src/engine/managed_config_rollback.rs
   digest: Which reloads come after a configuration test of the files as they are. -/
import JwOps.Lifecycle.Edges
import JwOps.Lifecycle.Sessions

set_option autoImplicit false

namespace JwOps.Lifecycle.Reloads

open Contracts Ledger Engine Operation Digest Config Schema Writes Reads Locks Interface Replace
open Nginx Certbot Attach ManagedConfig Recovery Tracking Fragments Lifecycle.System Simulation
open Safety Runs Sessions Edges Foundation.Program

variable {nowMs : Int} {operationId digest : String} {snapshotted operation : StoredOperation}
  {adapter : ManagedConfigAdapter} {content : Bytes}

/-! ### Tests and changes -/

/-- The configuration test of the service that a command reloads. -/
def configTestOf : CommandClass → Option CommandClass
  | .nginxReload => some .nginxConfigTest
  | .apacheReload => some .apacheConfigTest
  | .phpFpm83Reload => some .phpFpm83ConfigTest
  | _ => none

/-- The types that change a link or a configuration file. -/
def changesFiles : OperationType → Bool
  | .nginxSiteState | .managedConfig | .managedConfigRestore | .certbotAttach => true
  | _ => false

def isFileChange : HostCall → Bool
  | .createLink _ | .removeLink _ | .createNew _ | .setFileMode _ _ | .setFileOwner _ _ _
  | .writeAll _ _ | .rename _ _ | .removeFile _ => true
  | _ => false

/-- A run of the test that succeeded. -/
def passes (test : CommandClass) : Observation → Bool
  | ⟨_, .run command, answer⟩ => command == test && succeeded answer
  | _ => false

def isTest (test : CommandClass) (observation : Observation) : Bool :=
  observation.call == .run test

/-- Newest first: the test succeeded, and no file or link was changed since. -/
def tested (test : CommandClass) : List Observation → Bool
  | [] => false
  | observation :: earlier =>
    passes test observation || (!isFileChange observation.call && tested test earlier)

/-- The last run of the test succeeded. -/
def lastPassed (test : CommandClass) (seen : List Observation) : Bool :=
  (seen.find? (isTest test)).any (passes test)

/-- A file or link was changed, and no test was run since. -/
def untested (test : CommandClass) : List Observation → Bool
  | [] => false
  | observation :: earlier =>
    isFileChange observation.call || (!isTest test observation && untested test earlier)

/-- The test was run once after the last change, and nothing was done since. -/
def fresh (test : CommandClass) : List Observation → Bool
  | [] => false
  | observation :: earlier => isTest test observation && untested test earlier

theorem isTest_of_passes {test : CommandClass} {observation : Observation}
    (passed : passes test observation = true) : isTest test observation = true := by
  obtain ⟨operation, call, answer⟩ := observation
  cases call with
  | run command =>
    simp only [passes, Bool.and_eq_true, beq_iff_eq] at passed
    simp only [isTest, passed.1, beq_self_eq_true]
  | _ => cases passed

theorem tested_append {test : CommandClass} {seen older : List Observation}
    (holds : tested test seen = true) : tested test (seen ++ older) = true := by
  induction seen with
  | nil => cases holds
  | cons observation earlier ih =>
    simp only [tested, List.cons_append, Bool.or_eq_true, Bool.and_eq_true] at holds ⊢
    exact holds.imp_right fun rest => ⟨rest.1, ih rest.2⟩

theorem tested_of_untested {test : CommandClass} {seen older : List Observation}
    (holds : untested test seen = true) : tested test (seen ++ older) = false := by
  induction seen with
  | nil => cases holds
  | cons observation earlier ih =>
    have failed : isTest test observation = false → passes test observation = false := by
      intro other
      rw [Bool.eq_false_iff]
      intro passed
      rw [isTest_of_passes passed] at other
      cases other
    simp only [untested, Bool.or_eq_true, Bool.and_eq_true, Bool.not_eq_true'] at holds
    simp only [tested, List.cons_append]
    rcases holds with change | ⟨other, rest⟩
    · have other : isTest test observation = false := by
        obtain ⟨operation, call, answer⟩ := observation
        cases call <;> first | rfl | cases change
      rw [failed other, change]
      rfl
    · rw [failed other, ih rest, Bool.and_false]
      rfl

/-- After a single test its result decides. -/
theorem tested_of_fresh {test : CommandClass} {seen older : List Observation}
    (holds : fresh test seen = true) :
    tested test (seen ++ older) = lastPassed test (seen ++ older) := by
  cases seen with
  | nil => cases holds
  | cons observation earlier =>
    obtain ⟨run, rest⟩ := (Bool.and_eq_true _ _).mp holds
    simp only [tested, lastPassed, List.cons_append, tested_of_untested rest, Bool.and_false,
      Bool.or_false, List.find?_cons, run, Option.any_some]

/-! ### Rules on reloads -/

/-- Every reload is made in a state that is ready for it. -/
def reloadsWhen (ready : CommandClass → Track → Prop) (track : Track) : Call → Prop
  | .host (.run command) => ∀ test, configTestOf command = some test → ready test track
  | _ => True

/-- The runner is asked for commands of this kind only. -/
def Commands (allowed : CommandClass → Prop) : Call → Prop
  | .host (.run command) => allowed command
  | _ => True

def NoReload (command : CommandClass) : Prop := configTestOf command = none

section Obeying

variable {ready : CommandClass → Track → Prop} {track : Track} {α β : Type}

variable {program : Ops α}

/-- The rule holds throughout the program. -/
abbrev Obeys (ready : CommandClass → Track → Prop) (program : Ops α) (track : Track) : Prop :=
  SafeE step (reloadsWhen ready) program track fun _ _ => True

theorem reloadsWhen_of_commands {call : Call} (calls : Commands NoReload call) :
    reloadsWhen ready track call := by
  cases call with
  | host call =>
    cases call with
    | run command =>
      intro test isReload
      rw [show configTestOf command = none from calls] at isReload
      cases isReload
    | _ => trivial
  | _ => trivial

/-- Where nothing is reloaded, whatever else is kept by every call. -/
theorem safe_commands {allowed : Call → Prop} {invariant : Track → Prop}
    (calls : IssuesE allowed program) (initial : invariant track)
    (quiet : ∀ call, allowed call → Commands NoReload call)
    (kept : ∀ track call answer after, invariant track → allowed call →
      step track call answer after → invariant after) :
    SafeE step (reloadsWhen ready) program track fun _ after => invariant after :=
  Safe.of_issues calls initial (fun _ call _ holds => reloadsWhen_of_commands (quiet call holds))
    kept

theorem obeys_commands (calls : IssuesE (Commands NoReload) program) :
    Obeys ready program track :=
  safe_commands calls trivial (fun _ quiet => quiet) fun _ _ _ _ _ _ _ => trivial

/-- A program that reloads nothing, and whatever follows it. -/
theorem obeys_bind {next : α → Ops β} (first : Obeys ready program track)
    (rest : ∀ value after, Obeys ready (next value) after) :
    Obeys ready (program >>= next) track := by
  refine SafeE.bind (first.mono fun result after _ => ?_)
  cases result with
  | ok value => exact rest value after
  | error error => trivial

theorem obeys_onError {handler : OpsError → Ops β} {next : α → Ops β}
    (first : Obeys ready program track)
    (failed : ∀ error after, Obeys ready (handler error) after)
    (rest : ∀ value after, Obeys ready (next value) after) :
    Obeys ready (onError program handler next) track := by
  refine SafeE.onError (first.mono fun result after _ => ?_)
  cases result with
  | ok value => exact rest value after
  | error error => exact failed error after

theorem obeys_ite {condition : Prop} [Decidable condition] {first second : Ops α}
    (holds : condition → Obeys ready first track)
    (fails : ¬condition → Obeys ready second track) :
    Obeys ready (if condition then first else second) track := by
  split
  · exact holds ‹_›
  · exact fails ‹_›

end Obeying

/-! ### Parts without a reload -/

section Parts

variable {runtime : Runtime} {ready : CommandClass → Track → Prop} {track : Track} {α : Type}
  {allowed : CommandClass → Prop}

/-- Where the services are left alone, nothing is reloaded. -/
theorem obeys_takes (edges : StageEdges) (families : List Family) {program : Ops α}
    (calls : IssuesE (Takes edges families) program) (apart : .services ∉ families) :
    Obeys ready program track := by
  refine obeys_commands (calls.mono fun call within => ?_)
  cases call with
  | host call =>
    cases call with
    | run command =>
      cases changes : changesService command with
      | true => exact absurd (within _ (if_pos changes)) apart
      | false => cases command <;> first | rfl | cases changes
    | _ => trivial
  | _ => trivial

theorem obeys_ending {change : Transition} :
    Obeys ready (do
      let terminal ← transition operationId change
      receipt terminal.operationId) track :=
  obeys_takes [(change.expected, change.next)] [] (takes_ending (.head _)) nofun

theorem obeys_recoveryRequired {reason : String} :
    Obeys ready (recoveryRequired runtime operationId reason nowMs) track :=
  obeys_takes rollbackEdges [] takes_recoveryRequired nofun

theorem obeys_readSnapshot {kind : SnapshotKind} {record : SnapshotRecord} :
    Obeys ready (readSnapshot runtime kind record) track :=
  obeys_takes [] [] (takes_idle touches_readSnapshot) nofun

theorem obeys_writeSnapshot {kind : SnapshotKind} (data : kind.Data) :
    Obeys ready (writeSnapshot runtime kind operationId data) track :=
  obeys_takes [] [_] (takes_writeSnapshot _ (.head _)) (by simp)

theorem obeys_setEnabled {site : NginxSite} {enabled : Bool} :
    Obeys ready (setEnabled runtime.paths site enabled) track :=
  obeys_takes [] [.links] (takes_of touches_setEnabled (by decide)) (by decide)

theorem commands_orRemove {temporary : Path} {action : Ops Unit}
    (calls : IssuesE (Commands allowed) action) :
    IssuesE (Commands allowed) (orRemove temporary action) := by
  refine IssuesE.onError calls (fun error => ?_) fun _ => IssuesE.ret _
  exact IssuesE.bind (IssuesE.attempt (issues_perform trivial)) fun _ => IssuesE.fail _

/-- What follows the creation of the temporary file. -/
theorem commands_filled {root temporary : Path} {basename : String} {mode uid gid : Nat} :
    IssuesE (Commands allowed) (do
      orRemove temporary (perform (.host (.setFileMode temporary (mode % 0o10000))) id)
      orRemove temporary (perform (.host (.setFileOwner temporary uid gid)) id)
      orRemove temporary (perform (.host (.writeAll temporary content)) id)
      orRemove temporary (perform (.host (.rename temporary (joinPath root basename))) id)
      perform (.host (.syncDirectory root)) id : Ops Unit) := by
  refine IssuesE.bind (commands_orRemove (issues_perform trivial)) fun _ => ?_
  refine IssuesE.bind (commands_orRemove (issues_perform trivial)) fun _ => ?_
  refine IssuesE.bind (commands_orRemove (issues_perform trivial)) fun _ => ?_
  refine IssuesE.bind (commands_orRemove (issues_perform trivial)) fun _ => ?_
  exact issues_perform trivial

end Parts

/-! ### Tests and what they leave behind -/

section Testing

variable {ready : CommandClass → Track → Prop} {track : Track} {α β : Type}

theorem obeys_run {command : CommandClass}
    (holds : ∀ test, configTestOf command = some test → ready test track) :
    Obeys ready (run command) track :=
  ⟨holds, fun _ _ _ => trivial⟩

theorem obeys_runAfter {runtime : Runtime} {previous : CommandEvidence} {command : CommandClass}
    (holds : previous.success = true → ∀ test, configTestOf command = some test →
      ready test track) : Obeys ready (runAfter runtime previous command) track := by
  unfold runAfter
  split
  · exact obeys_run (holds ‹_›)
  · trivial

/-- A test that the rest of the program looks at. -/
theorem obeys_test {test : CommandClass} {handler : OpsError → Ops β}
    {next : CommandEvidence → Ops β} (isTest : NoReload test)
    (failed : ∀ error after, Obeys ready (handler error) after)
    (done : ∀ evidence, Obeys ready (next evidence) (track.observe (.run test) (.ok evidence))) :
    Obeys ready (onError (run test) handler next) track := by
  refine SafeE.onError ⟨?_, fun answer after stepped => ?_⟩
  · intro other isReload
    rw [show configTestOf test = none from isTest] at isReload
    cases isReload
  · obtain ⟨_, rfl⟩ := stepped
    cases answer with
    | error error => exact failed error _
    | ok evidence => exact done evidence

/-- A write of the ledger, after which everything seen is still there. -/
theorem obeys_ledger {call : LedgerCall} {next : call.Value → Ops β}
    (rest : ∀ value after, after.seen = track.seen → Obeys ready (next value) after) :
    Obeys ready (ledger call >>= next) track := by
  refine SafeE.bind ⟨trivial, fun answer after stepped => ?_⟩
  have same := (step_ledger_seen stepped).1
  cases answer with
  | error error => trivial
  | ok value => exact rest value after same

theorem obeys_withCommandEvidence {codec : Codec} {operationId : String} {change : Transition}
    {command : OperationCommandEvidenceView} {next : StoredOperation → Ops β}
    (rest : ∀ value after, after.seen = track.seen → Obeys ready (next value) after) :
    Obeys ready
      (transitionWithCommandEvidence codec operationId change command >>= next) track := by
  unfold transitionWithCommandEvidence
  rw [bind_assoc]
  cases prepareCommandEvidence codec command change.evidenceDigest with
  | error error => trivial
  | ok stored => exact obeys_ledger rest

theorem tested_observe {test : CommandClass} {evidence : CommandEvidence}
    (success : evidence.success = true) :
    tested test (track.observe (.run test) (.ok evidence)).seen = true := by
  simp [Track.observe, tested, passes, succeeded, success]

theorem configTestOf_reload :
    configTestOf adapter.reload = some adapter.configTest := by
  cases adapter <;> rfl

theorem noReload_configTest : NoReload adapter.configTest := by
  cases adapter <;> rfl

theorem noReload_active : NoReload adapter.active := by
  cases adapter <;> rfl

end Testing

/-! ### Sites and managed files -/

/-- The files are as a successful test found them. -/
def Tested (test : CommandClass) (track : Track) : Prop := tested test track.seen = true

section Tested

variable {runtime : Runtime} {track : Track}

theorem obeys_rollback {cause : String} :
    Obeys Tested (rollback runtime operationId cause digest nowMs) track := by
  refine obeys_bind (obeys_takes rollbackEdges [] (takes_startRollback (by decide)) nofun)
    fun rolling _ => ?_
  cases rolling.snapshot with
  | none => exact obeys_recoveryRequired
  | some record =>
    refine obeys_onError obeys_readSnapshot
      (fun _ _ => obeys_recoveryRequired) fun _ _ => ?_
    refine obeys_onError (obeys_commands (issues_perform trivial))
      (fun _ _ => obeys_recoveryRequired) fun _ _ => ?_
    refine obeys_onError obeys_setEnabled
      (fun _ _ => obeys_recoveryRequired) fun _ _ => ?_
    refine obeys_test rfl (fun _ _ => obeys_recoveryRequired) fun config => ?_
    refine obeys_onError (obeys_runAfter fun success test isReload => ?_)
      (fun _ _ => obeys_recoveryRequired) fun _ _ => ?_
    · obtain rfl := Option.some.inj isReload
      exact tested_observe success
    refine obeys_onError (obeys_runAfter fun _ _ isReload => ?_)
      (fun _ _ => obeys_recoveryRequired) fun _ _ => ?_
    · cases isReload
    refine obeys_bind (obeys_commands (IssuesE.attempt (issues_perform trivial)))
      fun _ _ => obeys_ite (fun _ => obeys_recoveryRequired) fun _ => ?_
    exact obeys_takes rollbackEdges [] (takes_closing (by decide)) nofun

theorem obeys_reloadAndVerify (holds : Tested .nginxConfigTest track) :
    Obeys Tested (reloadAndVerify runtime snapshotted nowMs) track := by
  refine obeys_onError (obeys_run fun test isReload => ?_) (fun _ _ => obeys_rollback)
    fun _ _ => obeys_ite (fun _ => obeys_rollback) fun _ => ?_
  · obtain rfl := Option.some.inj isReload
    exact holds
  refine obeys_ledger fun _ _ _ => ?_
  refine obeys_onError (obeys_commands (issues_perform trivial))
    (fun _ _ => obeys_rollback) fun _ _ => ?_
  refine obeys_test rfl (fun _ _ => obeys_rollback) fun _ => ?_
  exact obeys_ite (fun _ => obeys_rollback)
    fun _ => obeys_ending

theorem obeys_applySiteState {preflight : NginxSite} : Obeys Tested (applySiteState runtime preflight snapshotted nowMs) track := by
  refine obeys_ledger fun _ _ _ => ?_
  refine obeys_onError obeys_setEnabled
    (fun _ _ => obeys_rollback) fun _ _ => ?_
  refine obeys_ledger fun _ _ _ => ?_
  refine obeys_test rfl (fun _ _ => obeys_rollback) fun configTest => ?_
  refine obeys_ite (fun _ => obeys_rollback) fun passed => ?_
  refine obeys_ledger fun _ _ same => obeys_reloadAndVerify ?_
  unfold Tested
  rw [same]
  exact tested_observe (by simpa using passed)

theorem obeys_executeNginxSiteState :
    Obeys Tested (executeNginxSiteState runtime operation nowMs) track := by
  have cancel (code digest : String) {reached : Track} :
      Obeys Tested (cancelApproved operation code digest nowMs) reached :=
    obeys_ending
  have precondition : IssuesE (Commands NoReload) (validatePrecondition operation) :=
    IssuesE.bind (issues_perform trivial) fun _ => IssuesE.checked <|
      IssuesE.checked (IssuesE.ret _)
  refine obeys_onError (obeys_commands precondition) (fun _ _ => cancel _ _) fun _ _ => ?_
  refine obeys_onError (obeys_writeSnapshot _) (fun _ _ => cancel _ _)
    fun _ _ => ?_
  refine obeys_ledger fun snapshotted _ _ => ?_
  -- an operation that changes nothing tests, but it does not reload
  exact obeys_ite (fun _ => obeys_takes noopEdges [] takes_finishNoop nofun)
    fun _ => obeys_applySiteState

theorem success_of_tested {adapter : ManagedConfigAdapter} {evidence : CommandEvidence}
    (passed : managedConfigTestSucceeded runtime adapter evidence = true) :
    evidence.success = true := by
  unfold managedConfigTestSucceeded at passed
  split at passed
  · exact passed
  · exact passed
  · exact ((Bool.and_eq_true _ _).mp passed).1

/-- A reload of the adapter's service, in a state that its test has passed. -/
theorem obeys_reload {adapter : ManagedConfigAdapter} (holds : Tested adapter.configTest track) :
    Obeys Tested (run adapter.reload) track := by
  refine obeys_run fun test isReload => ?_
  rw [configTestOf_reload] at isReload
  obtain rfl := Option.some.inj isReload
  exact holds

theorem obeys_verifyManagedRollback {rolling : StoredOperation}
    {snapshot : ManagedConfigSnapshot} {restored : ManagedConfigResource} :
    Obeys Tested (verifyManagedRollback runtime rolling operationId snapshot restored nowMs)
      track := by
  have finish (evidence : CommandEvidence) {reached : Track} : Obeys Tested
      (finishManagedRollback runtime operationId snapshot evidence nowMs) reached :=
    obeys_takes rollbackEdges [] takes_finishManagedRollback nofun
  refine obeys_test noReload_configTest (fun _ _ => obeys_recoveryRequired)
    fun config => ?_
  refine obeys_ite (fun _ => obeys_recoveryRequired) fun passed => ?_
  refine obeys_ite (fun _ => obeys_ite (fun _ => obeys_recoveryRequired)
    fun _ => finish _) fun _ => ?_
  refine obeys_onError (obeys_reload (tested_observe (success_of_tested (by simpa using passed))))
    (fun _ _ => obeys_recoveryRequired) fun _ _ => ?_
  refine obeys_ite (fun _ => obeys_recoveryRequired) fun _ => ?_
  refine obeys_test noReload_active (fun _ _ => obeys_recoveryRequired) fun _ => ?_
  refine obeys_ite (fun _ => obeys_recoveryRequired) fun _ => ?_
  exact obeys_ite (fun _ => obeys_recoveryRequired) fun _ => finish _

theorem obeys_rollbackManaged {evidence : ManagedConfigRollbackEvidence} : Obeys Tested
      (rollbackManagedConfigWithEvidence runtime operationId evidence nowMs) track := by
  refine obeys_bind (obeys_takes rollbackEdges [] takes_startManagedRollback nofun)
    fun rolling _ => ?_
  cases rolling.snapshot with
  | none => exact obeys_recoveryRequired
  | some record =>
    refine obeys_onError obeys_readSnapshot
      (fun _ _ => obeys_recoveryRequired) fun _ _ => ?_
    exact obeys_onError (obeys_takes [] [.files]
        (takes_of touches_restoreManagedConfig (by decide)) (by decide))
      (fun _ _ => obeys_recoveryRequired) fun _ _ => obeys_verifyManagedRollback

theorem obeys_verifyManagedConfig {payload : ManagedConfigPlanPayload}
    {proposal : ProposalRecord} {config : CommandEvidence} :
    Obeys Tested
      (verifyManagedConfig runtime snapshotted payload proposal adapter config digest nowMs)
      track := by
  refine obeys_bind (obeys_commands (IssuesE.attempt (issues_perform trivial))) fun _ _ => ?_
  refine obeys_bind (obeys_takes [] [] takes_runActive nofun) fun active _ => ?_
  refine obeys_ite (fun _ => ?_) fun _ => ?_
  · split <;> exact obeys_rollbackManaged
  · refine obeys_takes [([.verifying], .succeeded)] [] (IssuesE.bind (IssuesE.lift _) fun _ => ?_)
      nofun
    refine IssuesE.bind (takes_transitionWithCommandEvidence (.head _)) fun _ => ?_
    refine IssuesE.bind takes_receipt fun _ => ?_
    exact IssuesE.bind takes_cleanupProposal fun _ => IssuesE.ret _

theorem obeys_applyManagedConfig {payload : ManagedConfigPlanPayload} {proposal : ProposalRecord}
    {preflight : ManagedConfigResource} {proposed : Bytes} :
    Obeys Tested
      (applyManagedConfig runtime snapshotted payload proposal preflight proposed nowMs)
      track := by
  refine obeys_ledger fun _ _ _ => ?_
  refine obeys_onError (obeys_takes [] [.files]
      (takes_of touches_replaceManagedConfig (by decide)) (by decide))
    (fun _ _ => obeys_rollbackManaged) fun _ _ => ?_
  refine obeys_ledger fun _ _ _ => ?_
  refine obeys_test noReload_configTest (fun _ _ => obeys_rollbackManaged)
    fun configTest => ?_
  refine obeys_ite (fun _ => obeys_rollbackManaged) fun passed => ?_
  have success := success_of_tested (by simpa using passed)
  refine obeys_withCommandEvidence fun _ _ same => obeys_ite (fun _ => ?_)
    fun _ => obeys_verifyManagedConfig
  refine obeys_onError (obeys_reload ?_) (fun _ _ => obeys_rollbackManaged) fun _ _ => ?_
  · unfold Tested
    rw [same]
    exact tested_observe success
  refine obeys_ite (fun _ => obeys_rollbackManaged) fun _ => ?_
  exact obeys_withCommandEvidence fun _ _ _ => obeys_verifyManagedConfig

theorem obeys_executeManagedConfig :
    Obeys Tested (executeManagedConfig runtime operation nowMs) track := by
  have cancel (code : String) {reached : Track} : Obeys Tested
      (cancelManagedBeforeApply runtime operation code nowMs) reached :=
    obeys_takes cancelEdges [] takes_cancelManagedBeforeApply nofun
  unfold executeManagedConfig
  cases operation.plan.managedConfig with
  | none => trivial
  | some payload =>
    refine obeys_onError (obeys_commands (issues_perform trivial)) (fun _ _ => cancel _)
      fun preflight _ => obeys_ite (fun _ => cancel _) fun _ => ?_
    refine obeys_bind (obeys_commands ?_) fun _ _ => obeys_ite (fun _ => cancel _) fun _ => ?_
    · refine iteInduction (fun _ => ?_) fun _ => IssuesE.ret _
      refine IssuesE.bind (IssuesE.attempt (issues_perform noReload_active)) fun _ => ?_
      exact IssuesE.ret _
    refine obeys_onError (obeys_takes [] [] (takes_idle touches_readProposal) nofun) (fun _ _ =>
      cancel _)
      fun _ _ => obeys_ite (fun _ => cancel _) fun _ => ?_
    refine obeys_onError (obeys_commands (IssuesE.lift _)) (fun _ _ => cancel _) fun _ _ => ?_
    refine obeys_onError (obeys_writeSnapshot _) (fun _ _ => cancel _)
      fun _ _ => ?_
    refine obeys_ledger fun _ _ _ => obeys_ite (fun _ => ?_)
      fun _ => obeys_applyManagedConfig
    exact obeys_takes noopEdges [] takes_finishManagedNoop nofun

end Tested

/-! ### Attached certificates -/

/-- The files were tested once since they were changed, and unless a rollback is under way the test
succeeded. -/
def Attachable (test : CommandClass) (track : Track) : Prop :=
  fresh test track.seen = true ∧ (track.operation.stage ≠ .rollingBack → Tested test track)

section Attached

variable {runtime : Runtime} {track : Track} {test : CommandClass}

theorem untested_step {call : Call} {answer : call.Answer} {after : Track}
    (holds : untested test track.seen = true) (calls : Commands (fun _ => False) call)
    (stepped : step track call answer after) : untested test after.seen = true := by
  cases call with
  | mark operationId =>
    obtain rfl := stepped
    exact holds
  | ledger call =>
    rw [(step_ledger_seen stepped).1]
    exact holds
  | host call =>
    obtain ⟨_, rfl⟩ := stepped
    have other : isTest test ⟨track.operation, call, answer⟩ = false := by
      cases call <;> first | rfl | exact calls.elim
    simp only [Track.observe, untested, other, holds, Bool.not_false, Bool.and_self,
      Bool.or_true]

theorem safe_untested {α : Type} {program : Ops α}
    {ready : CommandClass → Track → Prop}
    (calls : IssuesE (Commands fun _ => False) program) (holds : untested test track.seen = true) :
    SafeE step (reloadsWhen ready) program track fun _ after =>
      untested test after.seen = true := by
  refine safe_commands calls holds (fun call silent => ?_) fun _ _ _ _ => untested_step
  cases call with
  | host call => cases call <;> trivial
  | _ => trivial

/-- A replacement that succeeds leaves the files changed and not yet tested. -/
theorem safe_atomicReplace {ready : CommandClass → Track → Prop} (test : CommandClass)
    {root : Path} {basename : String} {mode uid gid : Nat} :
    SafeE step (reloadsWhen ready) (atomicReplace root basename content mode uid gid) track
      fun result after => result.toBool = true → untested test after.seen = true := by
  refine SafeE.bind ⟨trivial, fun answer after _ => ?_⟩
  cases answer with
  | error error => exact nofun
  | ok suffix =>
    refine SafeE.bind ⟨trivial, fun answer after stepped => ?_⟩
    obtain ⟨_, rfl⟩ := stepped
    cases answer with
    | error error => exact nofun
    | ok _ =>
      exact (safe_untested commands_filled rfl).mono fun _ _ holds _ => holds

theorem safe_replaceProtectedConfig {ready : CommandClass → Track → Prop} (test : CommandClass)
    {expected : ManagedConfigResource} :
    SafeE step (reloadsWhen ready) (replaceProtectedConfig runtime.toCodec expected content) track
      fun result after => result.toBool = true → untested test after.seen = true := by
  refine SafeE.bind ⟨trivial, fun answer _ _ => ?_⟩
  cases answer with
  | error error => exact nofun
  | ok current =>
    refine SafeE.bind (SafeE.rejectIf (fun _ => nofun) fun _ => ?_)
    refine SafeE.bind (SafeE.rejectIf (fun _ => nofun) fun _ => ?_)
    refine SafeE.bind ((safe_atomicReplace test).mono fun result after changed => ?_)
    cases result with
    | error error => exact nofun
    | ok _ =>
      have read : IssuesE (Commands fun _ => False)
          (discoverProtectedConfig expected.resourceId) := issues_perform trivial
      exact (safe_untested read (changed rfl)).mono fun _ _ holds _ => holds

theorem safe_restoreProtectedConfig {ready : CommandClass → Track → Prop} (test : CommandClass)
    {siteId basename : String} {content : Bytes} {mode uid gid : Nat} :
    SafeE step (reloadsWhen ready) (restoreProtectedConfig siteId basename content mode uid gid)
      track fun result after => result.toBool = true → untested test after.seen = true := by
  refine SafeE.bind ⟨trivial, fun answer _ _ => ?_⟩
  cases answer with
  | error error => exact nofun
  | ok current =>
    refine SafeE.bind (SafeE.rejectIf (fun _ => nofun) fun _ => ?_)
    refine SafeE.bind ((safe_atomicReplace test).mono fun result after changed => ?_)
    cases result with
    | error error => exact nofun
    | ok _ =>
      refine (safe_untested ?_ (changed rfl)).mono fun _ _ holds _ => holds
      exact IssuesE.bind (issues_perform trivial) fun _ =>
        IssuesE.checked (IssuesE.ret _)

theorem step_hostSide_operation {call : Call} {answer : call.Answer} {after : Track}
    (hostSide : HostSide call) (stepped : step track call answer after) :
    after.operation = track.operation := by
  cases call with
  | mark operationId => exact hostSide.elim
  | host call =>
    obtain ⟨_, rfl⟩ := stepped
    rfl
  | ledger call =>
    cases answer with
    | error error =>
      obtain rfl : after = track.failed call := by cases call <;> exact stepped
      rfl
    | ok value =>
      cases call <;> first | (obtain rfl := stepped; rfl) | cases hostSide

/-- The host is worked on, and the operation stays as it is committed. -/
theorem safe_operation {α : Type} {program : Ops α} {avoided : HostCall → Bool}
    {families : List Family} (calls : IssuesE (Touches avoided families) program) :
    SafeE step (fun _ _ => True) program track fun _ after =>
      after.operation = track.operation := by
  refine Safe.of_issues calls rfl (fun _ _ _ _ => trivial) ?_
  intro _ _ _ _ same touches stepped
  exact (step_hostSide_operation touches.hostSide stepped).trans same

theorem safe_startRollback {ready : CommandClass → Track → Prop} (operationId : String)
    (expected : List OperationStage) (cause digest : String) (nowMs : Int) :
    SafeE step (reloadsWhen ready) (startRollback operationId expected cause digest nowMs) track
      fun result after => result.toBool = true → after.operation.stage = .rollingBack := by
  refine SafeE.bind ⟨trivial, fun answer after stepped => ?_⟩
  cases answer with
  | error error => exact nofun
  | ok operation =>
    obtain ⟨rfl, rfl⟩ := stepped
    change SafeE step _ (if after.operation.stage = .rollingBack then _ else _) _ _
    split
    · rename_i rolling
      exact fun _ => rolling
    · refine ⟨trivial, fun answer last stepped => ?_⟩
      cases answer with
      | error error => exact nofun
      | ok moved =>
        obtain ⟨rfl, rfl⟩ := stepped
        exact fun _ => rfl

theorem fresh_observe {answer : Except OpsError CommandEvidence}
    (holds : untested test track.seen = true) :
    fresh test (track.observe (.run test) answer).seen = true := by
  simp [Track.observe, fresh, isTest, holds]

/-- The reload of the rollback does not wait for the result of the test before it. -/
theorem obeys_rollbackCertbotAttach {cause : String} :
    Obeys Attachable (rollbackCertbotAttach runtime operationId cause digest nowMs) track := by
  refine SafeE.bind ((safe_startRollback _ _ _ _ _).mono fun result started rolling => ?_)
  cases result with
  | error error => trivial
  | ok operation =>
  dsimp only
  cases operation.snapshot with
  | none => exact obeys_recoveryRequired
  | some record =>
  have read : Obeys Attachable (readSnapshot runtime .managedConfig record) started :=
    obeys_readSnapshot
  refine SafeE.onError ((read.and (safe_operation touches_readSnapshot)).mono
    fun result found kept => ?_)
  cases result with
  | error error => exact obeys_recoveryRequired
  | ok snapshot =>
  have restored := (@safe_restoreProtectedConfig found Attachable .nginxConfigTest
    snapshot.resourceId snapshot.basename snapshot.content snapshot.mode snapshot.uid
    snapshot.gid).and (safe_operation touches_restoreProtectedConfig)
  refine SafeE.onError (restored.mono fun result changed facts => ?_)
  cases result with
  | error error => exact obeys_recoveryRequired
  | ok resource =>
  have stage : changed.operation.stage = .rollingBack := by
    rw [facts.2, kept.2]
    exact rolling rfl
  -- the test, whatever it answers
  refine SafeE.bind (SafeE.attempt ⟨nofun, fun answer after stepped => ?_⟩)
  obtain ⟨_, rfl⟩ := stepped
  refine SafeE.bind (SafeE.attempt ⟨fun test isReload => ?_, fun _ _ _ => ?_⟩)
  · obtain rfl := Option.some.inj isReload
    exact ⟨fresh_observe (facts.1 rfl), fun running => absurd stage running⟩
  refine obeys_bind (obeys_commands (IssuesE.attempt (issues_perform rfl))) fun _ _ => ?_
  refine obeys_ite (fun _ => obeys_recoveryRequired) fun _ => ?_
  exact obeys_bind (obeys_commands (IssuesE.lift _)) fun _ _ => obeys_ending

theorem obeys_verifyCertbotAttach {payload : CertbotAttachPlanPayload} :
    Obeys Attachable (verifyCertbotAttach runtime operation payload nowMs) track := by
  refine obeys_bind (obeys_commands (IssuesE.attempt (issues_perform trivial))) fun _ _ => ?_
  refine obeys_bind (obeys_commands (IssuesE.attempt (issues_perform rfl))) fun _ _ => ?_
  refine obeys_bind
    (obeys_takes [] [] (IssuesE.attempt (takes_idle touches_certificateInventory)) nofun)
    fun _ _ => ?_
  refine obeys_bind (obeys_commands (IssuesE.attempt (issues_perform trivial))) fun _ _ => ?_
  refine obeys_ite (fun _ => obeys_rollbackCertbotAttach) fun _ => ?_
  exact obeys_bind (obeys_commands (IssuesE.lift _)) fun _ _ => obeys_ending

theorem obeys_replaceAndReload {payload : CertbotAttachPlanPayload}
    {attachment : TlsAttachmentResource} {record : SnapshotRecord} :
    Obeys Attachable (replaceAndReload runtime snapshotted payload attachment record nowMs)
      track := by
  have back (cause digest : String) {reached : Track} : Obeys Attachable
      (rollbackCertbotAttach runtime snapshotted.operationId cause digest nowMs) reached :=
    obeys_rollbackCertbotAttach
  refine obeys_ledger fun _ _ _ => ?_
  refine SafeE.onError ((safe_replaceProtectedConfig .nginxConfigTest).mono
    fun result changed facts => ?_)
  cases result with
  | error error => exact back _ _
  | ok applied =>
  refine obeys_ite (fun _ => back _ _) fun _ => ?_
  refine obeys_ledger fun _ moved same => ?_
  have untouched := facts rfl
  rw [← same] at untouched
  refine obeys_test rfl (fun _ _ => back _ _) fun configTest => ?_
  refine obeys_ite (fun _ => back _ _) fun passed => ?_
  have success : configTest.success = true := by simpa using passed
  refine obeys_ledger fun _ reloading seen => ?_
  refine obeys_onError (obeys_run fun test isReload => ?_) (fun _ _ => back _ _) fun _ _ => ?_
  · obtain rfl := Option.some.inj isReload
    refine ⟨?_, fun _ => ?_⟩
    · rw [seen]
      exact fresh_observe untouched
    · unfold Tested
      rw [seen]
      exact tested_observe success
  refine obeys_ite (fun _ => back _ _) fun _ => ?_
  exact obeys_ledger fun _ _ _ => obeys_verifyCertbotAttach

theorem obeys_executeCertbotAttach :
    Obeys Attachable (executeCertbotAttach runtime operation nowMs) track := by
  have cancel (reason : String) {reached : Track} : Obeys Attachable
      (cancelCertbotBeforeApply runtime operation reason nowMs) reached :=
    obeys_takes cancelEdges [] takes_cancelCertbotBeforeApply nofun
  unfold executeCertbotAttach
  cases operation.plan.certbotAttach with
  | none => trivial
  | some payload =>
    refine obeys_onError (obeys_takes [] [] (takes_idle touches_certificateInventory) nofun)
      (fun _ _ => cancel _) fun _ _ => obeys_ite (fun _ => cancel _) fun _ => ?_
    refine obeys_onError (obeys_commands ?_) (fun _ _ => cancel _)
      fun attachment _ => obeys_ite (fun _ => cancel _) fun _ => ?_
    · refine IssuesE.bind (IssuesE.lift _) fun _ => ?_
      refine IssuesE.bind (issues_perform trivial) fun _ => ?_
      refine IssuesE.checked ?_
      refine IssuesE.checked ?_
      exact IssuesE.bind (IssuesE.lift _) fun _ => IssuesE.ret _
    refine obeys_onError (obeys_writeSnapshot _) (fun _ _ => cancel _)
      fun _ _ => ?_
    refine obeys_ledger fun _ _ _ => obeys_ite (fun _ => ?_)
      fun _ => obeys_replaceAndReload
    exact obeys_ledger fun _ _ _ => obeys_verifyCertbotAttach

end Attached

/-! ### Every session -/

/-- What a reload waits for, by the type of the operation it is made for. -/
def Ready (test : CommandClass) (track : Track) : Prop :=
  changesFiles track.operation.plan.operationType = true →
    (track.operation.plan.operationType = .certbotAttach → fresh test track.seen = true) ∧
    ((track.operation.plan.operationType = .certbotAttach →
      track.operation.stage ≠ .rollingBack) → Tested test track)

section Sessions

variable {runtime : Runtime} {α : Type}

variable {operation : StoredOperation}

theorem safe_ready {ready : CommandClass → Track → Prop} {program : Ops α}
    (obeys : Obeys ready program (startTrack operation))
    (stronger : ∀ test track, track.operation.plan = operation.plan → ready test track →
      Ready test track) :
    SafeE step (reloadsWhen Ready) program (startTrack operation) fun _ _ => True := by
  refine safe_planned obeys fun track call same holds => ?_
  cases call with
  | host call =>
    cases call with
    | run command => exact fun test isReload => stronger test track same (holds test isReload)
    | _ => trivial
  | _ => trivial

theorem ready_of_tested (kind : operation.plan.operationType ≠ .certbotAttach)
    (test : CommandClass) {track : Track} (same : track.operation.plan = operation.plan)
    (holds : Tested test track) :
    Ready test track := by
  intro _
  rw [same]
  exact ⟨fun attach => absurd attach kind, fun _ => holds⟩

theorem ready_of_attachable (kind : operation.plan.operationType = .certbotAttach)
    (test : CommandClass) {track : Track} (same : track.operation.plan = operation.plan)
    (holds : Attachable test track) :
    Ready test track := by
  intro _
  rw [same]
  exact ⟨fun _ => holds.1, fun running => holds.2 (running kind)⟩

theorem keeps_reloads {runtime : Runtime} : Keeps runtime (reloadsWhen Ready) := by
  have receiptless {program : Ops OperationReceiptView} {ready : CommandClass → Track → Prop}
      {track : Track} (obeys : Obeys ready program track) :
      Obeys ready (dropReceipt program) track :=
    obeys_bind obeys fun _ _ => trivial
  refine @keeps_of runtime _ changesFiles (fun track call exempt => ?_)
    (fun operation nowMs concerned => ?_) (fun operation nowMs _ _ => ?_)
    fun operation nowMs concerned => ?_
  · cases call with
    | host call =>
      cases call with
      | run command =>
        intro test _ changes
        rw [exempt] at changes
        cases changes
      | _ => trivial
    | _ => trivial
  · unfold executeApproved
    cases kind : operation.plan.operationType with
    | nginxSiteState =>
      exact safe_ready obeys_executeNginxSiteState (ready_of_tested (by rw [kind]; nofun))
    | managedConfig | managedConfigRestore =>
      exact safe_ready obeys_executeManagedConfig (ready_of_tested (by rw [kind]; nofun))
    | certbotAttach =>
      exact safe_ready obeys_executeCertbotAttach (ready_of_attachable kind)
    | _ => rw [kind] at concerned; cases concerned
  · exact obeys_takes _ [] takes_recoverBeforeApply nofun
  · unfold recoverApplied
    cases kind : operation.plan.operationType with
    | nginxSiteState =>
      exact safe_ready (receiptless obeys_rollback)
        (ready_of_tested (by rw [kind]; nofun))
    | managedConfig | managedConfigRestore =>
      exact safe_ready (receiptless obeys_rollbackManaged)
        (ready_of_tested (by rw [kind]; nofun))
    | certbotAttach =>
      exact safe_ready (receiptless obeys_rollbackCertbotAttach)
        (ready_of_attachable kind)
    | _ => rw [kind] at concerned; cases concerned

end Sessions

/-! ### Runs -/

section Runs

variable {H : Type} {runtime : Runtime} {model : HostModel H}

/-- What is known of a reload that an operation made: its configuration was tested, except that the
rollback of an attached certificate reloads whatever its test answered. -/
def ReloadTested (entry : Entry) (earlier : List Entry) : Prop :=
  ∀ operationId operation command test, entry.focus = some operationId →
    loadOperationFrom entry.before operationId = .ok operation →
    entry.call = .host (.run command) → configTestOf command = some test →
    changesFiles operation.plan.operationType = true →
    (tested test (seenFor operationId earlier) = true ↔
      (operation.plan.operationType = .certbotAttach → operation.stage = .rollingBack →
        lastPassed test (seenFor operationId earlier) = true))

theorem changesService_of_reload {command test : CommandClass}
    (isReload : configTestOf command = some test) : changesService command = true := by
  cases command <;> first | rfl | cases isReload

theorem inductive_reloads {runtime : Runtime} {model : HostModel H} :
    Inductive runtime model (fun _ _ => reloadsWhen Ready)
      fun world : World H => Along ReloadTested world.log := by
  refine inductive_along ?_ ?_
  · rintro before after focus call answer earlier quiet operationId operation command test _ _ rfl
      isReload _
    have reads : changesService command = false := isEffect_of_isQuiet quiet
    rw [changesService_of_reload isReload] at reads
    cases reads
  · rintro base operationId world track call answer after good followed allowed ready other
      operation
      command test focused stored rfl isReload changes
    have related := followed.toRelated
    obtain rfl : operationId = other := Option.some.inj (related.focus.symm.trans focused)
    obtain ⟨known, _⟩ := allowed (changesService_of_reload isReload)
    obtain rfl : track.operation = operation :=
      Except.ok.inj ((related.stored known).symm.trans stored)
    obtain ⟨recent, log, _, seen⟩ := related.log
    have whole : seenFor operationId world.log = track.seen ++ seenFor operationId base.log := by
      rw [log, seen known, seenFor, List.filterMap_append]
      rfl
    obtain ⟨once, passed⟩ := ready test isReload changes
    rw [whole]
    by_cases attach : track.operation.plan.operationType = .certbotAttach ∧
        track.operation.stage = .rollingBack
    · rw [tested_of_fresh (once attach.1)]
      exact ⟨fun holds _ _ => holds, fun holds => holds attach.1 attach.2⟩
    · have running : track.operation.plan.operationType = .certbotAttach →
          track.operation.stage ≠ .rollingBack := fun kind rolling => attach ⟨kind, rolling⟩
      exact ⟨fun _ kind rolling => absurd rolling (running kind),
        fun _ => tested_append (passed running)⟩

/-- Every reload that an operation makes for its own files or links comes after a successful test of
them, except in the rollback of an attached certificate, where the last test decides. -/
theorem reload_tested_iff (runtime : Runtime) (model : HostModel H) (machine : Machine H)
    (reachable : Reachable runtime model machine) (later earlier : List Entry) (entry : Entry)
    (split : machine.world.log = later ++ entry :: earlier) (operationId : String)
    (operation : StoredOperation) (command test : CommandClass)
    (focused : entry.focus = some operationId)
    (stored : loadOperationFrom entry.before operationId = .ok operation)
    (called : entry.call = .host (.run command)) (isReload : configTestOf command = some test)
    (changes : changesFiles operation.plan.operationType = true) :
    tested test (seenFor operationId earlier) = true ↔
      (operation.plan.operationType = .certbotAttach → operation.stage = .rollingBack →
        lastPassed test (seenFor operationId earlier) = true) := by
  have along := inductive_reloads.reachable keeps_reloads
    (fun _ => trivial) reachable
  rw [split] at along
  exact along.split operationId operation command test focused stored called isReload changes

end Runs

/-! ### A rollback that reloads what it could not validate -/

/-- One protected file and the temporary file beside it. -/
structure ProtectedFile where
  content : Bytes
  temporary : Bytes

def managementSite : Bytes := utf8Bytes "jw-agent:protected-management-v1"

def protectedResource (content : Bytes) : ManagedConfigResource where
  adapter := .nginx
  resourceId := "ngs_0"
  basename := "edge"
  displayName := "edge"
  root := OpsPaths.default.nginxAvailable
  content := content
  contentDigest := sha256Digest sampleCodec content
  metadataDigest := "metadata"
  mode := 0o644
  uid := 0
  gid := 0

/-- The new certificate path makes the file one byte longer. -/
def attachRuntime : Runtime :=
  { sampleRuntime with
    parseSnapshot := fun kind _ =>
      match kind with
      | .managedConfig => some (snapshotOf (protectedResource managementSite))
      | _ => none
    replaceTlsDirectives := fun content _ => .ok (content ++ [10], "") }

def attachedCertificate : CertificateSummaryView :=
  ⟨"a.test", ["a.test"], "later", "fingerprint", "path", true, true, true⟩

def attachPlan : StoredPlan :=
  { samplePlan with
    operationType := .certbotAttach
    certbotAttach := some {
      primaryDomain := "a.test"
      siteId := "ngs_0"
      siteDigest := sha256Digest sampleCodec managementSite
      metadataDigest := "metadata"
      inventoryDigest := sha256Digest sampleCodec []
      certificateFingerprint := "fingerprint"
      sans := ["a.test"]
      notAfter := "later"
      currentCertificatePath := ""
      targetCertificatePath := ""
      proposedContentDigest := sha256Digest sampleCodec (managementSite ++ [10])
      timerEnabled := true
      timerActive := true } }

/-- Files can be written, but nginx does not accept its configuration. -/
def brokenNginx (file : ProtectedFile) : (call : HostCall) → call.Answer × ProtectedFile
  | .run .certbotTimerEnabled => (.ok (sampleEvidence .certbotTimerEnabled true), file)
  | .run .certbotTimerActive => (.ok (sampleEvidence .certbotTimerActive true), file)
  | .run command => (.ok (sampleEvidence command false), file)
  | .certbotInstalled => (true, file)
  | .discoverCertificates => (.ok ([attachedCertificate], []), file)
  | .discoverProtectedConfig _ => (.ok (protectedResource file.content), file)
  | .storeSnapshotFile _ _ bytes => (.ok bytes, file)
  | .readSnapshotFile _ _ => (.ok [], file)
  | .randomSuffix => (.ok 0, file)
  | .createNew _ => (.ok (), { file with temporary := [] })
  | .writeAll _ content => (.ok (), { file with temporary := content })
  | .rename _ _ => (.ok (), { file with content := file.temporary })
  | .setFileMode _ _ => (.ok (), file)
  | .setFileOwner _ _ _ => (.ok (), file)
  | .syncDirectory _ => (.ok (), file)
  | call => (failing call, file)

theorem brokenNginx_plays : Plays brokenNginx unconstrained := by
  intro file call
  refine ⟨?_, trivial⟩
  cases call with
  | run command => cases command <;> exact sampleEvidence_produced _ _
  | discoverCertificates => exact Nat.one_lt_two_pow (by decide)
  | _ => trivial

def attachStarted : Except OpsError Unit × World ProtectedFile :=
  playStart attachRuntime brokenNginx noFaults 5 ⟨emptyLedger, ⟨managementSite, []⟩, none, []⟩

/-- The certificate is attached, the test fails, and so does the test in the rollback. -/
def attachRolledBack : World ProtectedFile :=
  playRequest attachRuntime brokenNginx noFaults 5 (.execute operator "op_00")
    (playRequest attachRuntime brokenNginx noFaults 5
      (.approve operator (.certbotAttach true true) ⟨"plan_0", "hash_0", "key_0"⟩)
      (playRequest attachRuntime brokenNginx noFaults 5 (.storePlan operator attachPlan)
        attachStarted.2))

theorem reachable_attachRolledBack :
    Reachable attachRuntime unconstrained ⟨.serving, attachRolledBack⟩ := by
  have plays := brokenNginx_plays
  have started : attachStarted.1 = .ok () := by decide +kernel
  refine reachable_playRequest plays (reachable_playRequest plays (reachable_playRequest plays ?_ _)
    _) _
  exact reachable_playStart plays ⟨_, .refl⟩ started

def isReload (entry : Entry) : Bool :=
  match entry.call with
  | .host (.run command) => (configTestOf command).isSome
  | _ => false

/-- The last reload of nginx was made for the operation while it was rolled back. -/
def reloadsInRollback (log : List Entry) : Bool :=
  match log.dropWhile fun entry => !isReload entry with
  | [] => false
  | entry :: earlier =>
    entry.focus == some "op_00" && entry.call == .host (.run .nginxReload) &&
      (match loadOperationFrom entry.before "op_00" with
        | .ok operation => operation.plan.operationType == .certbotAttach &&
            operation.stage == .rollingBack
        | .error _ => false) &&
      !tested .nginxConfigTest (seenFor "op_00" earlier)

theorem reloadsInRollback_split {log : List Entry} (reloads : reloadsInRollback log = true) :
    ∃ later entry earlier operation, log = later ++ entry :: earlier ∧
      entry.focus = some "op_00" ∧ entry.call = .host (.run .nginxReload) ∧
      loadOperationFrom entry.before "op_00" = .ok operation ∧
      operation.plan.operationType = .certbotAttach ∧ operation.stage = .rollingBack ∧
      tested .nginxConfigTest (seenFor "op_00" earlier) = false := by
  have whole := @List.takeWhile_append_dropWhile _ (fun entry => !isReload entry) log
  unfold reloadsInRollback at reloads
  cases rest : log.dropWhile fun entry => !isReload entry with
  | nil =>
    rw [rest] at reloads
    cases reloads
  | cons entry earlier =>
    rw [rest] at reloads whole
    cases stored : loadOperationFrom entry.before "op_00" with
    | error error => simp [stored] at reloads
    | ok operation =>
      simp only [stored, Bool.and_eq_true, beq_iff_eq, Bool.not_eq_true'] at reloads
      obtain ⟨⟨⟨focused, called⟩, kind, stage⟩, untested⟩ := reloads
      exact ⟨_, entry, earlier, operation, whole.symm, focused, called, stored, kind, stage,
        untested⟩

theorem attachRolledBack_reloads : reloadsInRollback attachRolledBack.log = true := by
  decide +kernel

theorem reload_tested_iff_of_attach : ∃ later entry earlier operation,
    attachRolledBack.log = later ++ entry :: earlier ∧
      loadOperationFrom entry.before "op_00" = .ok operation ∧
      (tested .nginxConfigTest (seenFor "op_00" earlier) = true ↔
        (operation.plan.operationType = .certbotAttach → operation.stage = .rollingBack →
          lastPassed .nginxConfigTest (seenFor "op_00" earlier) = true)) := by
  obtain ⟨later, entry, earlier, operation, split, focused, called, stored, kind, stage, _⟩ :=
    reloadsInRollback_split attachRolledBack_reloads
  refine ⟨later, entry, earlier, operation, split, stored, ?_⟩
  exact reload_tested_iff attachRuntime unconstrained ⟨.serving, attachRolledBack⟩
    reachable_attachRolledBack later earlier entry split "op_00" operation .nginxReload
    .nginxConfigTest focused stored called rfl (by rw [kind]; rfl)

/-- nginx is reloaded although its configuration test has just failed. -/
theorem attach_rollback_reloads_untested :
    Reachable attachRuntime unconstrained ⟨.serving, attachRolledBack⟩ ∧
    ∃ later entry earlier operation, attachRolledBack.log = later ++ entry :: earlier ∧
      entry.focus = some "op_00" ∧ entry.call = .host (.run .nginxReload) ∧
      loadOperationFrom entry.before "op_00" = .ok operation ∧
      operation.plan.operationType = .certbotAttach ∧ operation.stage = .rollingBack ∧
      tested .nginxConfigTest (seenFor "op_00" earlier) = false :=
  ⟨reachable_attachRolledBack, reloadsInRollback_split attachRolledBack_reloads⟩

end JwOps.Lifecycle.Reloads
