/- module: Lifecycle/Retrying
   source: crates/jw-opsd/src/engine.rs, crates/jw-agentd/src/api.rs
   digest: What becomes of a request for a certificate that the browser sends again. -/
import JwOps.Engine.Issuance
import JwOps.Lifecycle.Steady

set_option autoImplicit false

namespace JwOps.Lifecycle.Retrying

open Contracts Ledger Operation Digest Config Certificate Schema Writes
open Ledger.Reads (expiredUnexecutedProposalPlansFrom hasRecentStagingEvidenceFrom)
open Ledger.Checkpoints (Sound sound_createOrReusePlan sound_runCuts sound_emptyLedger Cut
  runCuts)
open Ledger.Idempotency Engine.Interface Engine.Certbot
open Engine.Replace (discoverSite)
open Engine.Requests Engine.Issuance Lifecycle.System
open Fragments (issues_perform)
open Sessions (Plays playing completes_playing sampleEvidence
  sampleEvidence_produced)
open Runs (failing operator)
open Lifecycle.Steady Foundation.Chain Foundation.Program
open Foundation.Transaction (Outcome)

variable {runtime : Runtime} {answers later : Answers} {world : World Unit}
  {input : CertbotIssuePlanInput} {nowMs : Int}

/-! ### Questions to the host -/

theorem asking_host {α : Type} {call : HostCall} {view : call.Answer → Except OpsError α}
    (other : call ≠ .randomBytes) : IssuesE Asking (perform (.host call) view) :=
  issues_perform other

theorem asking_validateIssueSite {siteId digest : String} {domains : List String} :
    IssuesE Asking (validateIssueSite runtime siteId digest domains) := by
  refine IssuesE.bind (asking_host nofun) fun _ => ?_
  refine IssuesE.checked ?_
  refine IssuesE.checked ?_
  refine IssuesE.bind (asking_host nofun) fun _ => ?_
  refine IssuesE.checked ?_
  exact IssuesE.bind (IssuesE.mapError (asking_host nofun)) fun _ => IssuesE.ret _

theorem asking_readInventory {nowMs : Int} : IssuesE Asking (readInventory runtime nowMs) := by
  refine IssuesE.bind (asking_host nofun) fun _ => ?_
  refine IssuesE.bind (IssuesE.attempt (asking_host nofun)) fun _ => ?_
  refine IssuesE.bind (IssuesE.attempt (asking_host nofun)) fun _ => ?_
  refine IssuesE.bind (asking_host nofun) fun _ => ?_
  exact IssuesE.bind (IssuesE.lift _) fun _ => IssuesE.ret _

/-- The site found is the one with the expected digest. -/
theorem validateIssueSite_digest {siteId digest : String} {domains : List String}
    {site : NginxSite}
    (served : steadily answers (validateIssueSite runtime siteId digest domains) = .ok site) :
    site.availableDigest = digest := by
  unfold validateIssueSite discoverSite at served
  simp only [steadily_bind, steadily_host, steadily_rejectIf, steadily_mapError, steadily_pure,
    bind_ok] at served
  obtain ⟨found, _, _, _, _, fresh, _, _, _, _, _, _, same⟩ := served
  obtain rfl := Except.ok.inj same
  split at fresh
  · cases fresh
  · rename_i expected
    exact not_not.mp expected

/-- The inventory says nothing about the time but when it was taken. -/
theorem readInventory_later {inventory : CertificateInventoryView} {laterMs : Int} {text : String}
    (read : steadily answers (readInventory runtime nowMs) = .ok inventory)
    (formatted : formatTime runtime.toCodec laterMs = .ok text) :
    steadily answers (readInventory runtime laterMs) =
      .ok { inventory with observedAt := text } := by
  unfold readInventory run at read ⊢
  simp only [steadily_bind, steadily_host, steadily_attempt, steadily_lift, steadily_pure, bind_ok,
    Except.ok.injEq, exists_eq_left'] at read ⊢
  obtain ⟨found, listed, _, _, rfl⟩ := read
  exact ⟨found, listed, text, formatted, rfl⟩

/-! ### The checks before a plan is proposed -/

/-- What the host answers to a request that it can serve. -/
structure Served (runtime : Runtime) (answers : Answers) (request : CertbotIssuePlanRequest)
    (nowMs : Int) : Prop where
  site : ∃ site, steadily answers (validateIssueSite runtime request.siteId
    request.expectedSiteDigest request.domains) = .ok site
  inventory : ∃ inventory, steadily answers (readInventory runtime nowMs) = .ok inventory ∧
    inventory.certbotInstalled = true ∧
    inventory.inventoryDigest = request.expectedInventoryDigest
  tested : ∃ evidence, answers (.run .nginxConfigTest) = .ok evidence ∧ evidence.success = true
  active : ∃ evidence, answers (.run .nginxActive) = .ok evidence ∧ evidence.success = true
  lifetime : (runtime.planTtlMs : Int) ≤ i64Max
  size : (utf8Bytes request.accountEmail).length ≤ 128 * 1024
  text : managedConfigBytesSupported runtime.toCodec (utf8Bytes request.accountEmail) = true

/-- A host that keeps its answers serves the request later as well. -/
theorem Served.again {request : CertbotIssuePlanRequest} {laterMs : Int} {text : String}
    (served : Served runtime answers request nowMs)
    (same : ∀ call, call ≠ .randomBytes → later call = answers call)
    (formatted : formatTime runtime.toCodec laterMs = .ok text) :
    Served runtime later request laterMs := by
  obtain ⟨inventory, read, installed, digest⟩ := served.inventory
  constructor
  · rw [steadily_congr same asking_validateIssueSite]
    exact served.site
  · refine ⟨{ inventory with observedAt := text }, ?_, installed, digest⟩
    rw [steadily_congr same asking_readInventory]
    exact readInventory_later read formatted
  · rw [same (.run .nginxConfigTest) nofun]
    exact served.tested
  · rw [same (.run .nginxActive) nofun]
    exact served.active
  · exact served.lifetime
  · exact served.size
  · exact served.text

section Inventory

variable {env : Environment Call Call.Answer (World Unit)}

theorem gives_certificateInventory (lasting : Lasting runtime env answers)
    (sound : Sound runtime.toCodec world.ledger) :
    Gives env (certificateInventory runtime nowMs) world fun result after =>
      result = steadily answers (readInventory runtime nowMs) ∧ Held runtime world after := by
  refine SafeE.bind ((gives_steadily lasting.host asking_readInventory).mono ?_)
  rintro result after ⟨given, same⟩
  have held := (Held.refl sound).same same
  cases result with
  | error error => exact ⟨given, held⟩
  | ok inventory =>
    refine SafeE.bind (gives_host lasting.host fun middle kept => ?_)
    have held := held.same kept
    dsimp only
    split
    · refine SafeE.bind (SafeE.attempt ((lasting.opens middle held.sound).mono ?_))
      intro _ last opened
      exact ⟨given, held.trans opened⟩
    · exact ⟨given, held⟩

theorem gives_validateIssuePreconditions (lasting : Lasting runtime env answers)
    (sound : Sound runtime.toCodec world.ledger) :
    Gives env (validateIssuePreconditions runtime input nowMs) world fun result after =>
      (result = ((input.validate runtime.parseIpAddr nowMs).mapError .rejected >>= fun _ =>
        steadily answers (validateIssueSite runtime input.request.siteId
          input.request.expectedSiteDigest input.request.domains))) ∧ Held runtime world after := by
  refine SafeE.bind (SafeE.lift _ ?_)
  cases (input.validate runtime.parseIpAddr nowMs).mapError OpsError.rejected with
  | error error => exact ⟨rfl, Held.refl sound⟩
  | ok _ =>
    refine (gives_steadily lasting.host asking_validateIssueSite).mono ?_
    rintro result after ⟨given, same⟩
    exact ⟨given, (Held.refl sound).same same⟩

end Inventory

/-! ### The first request -/

variable {actor : Subject} {site : NginxSite} {inventory : CertificateInventoryView} {valid : Bool}

/-- What is known once a plan is answered: it stands under the key of the request. -/
def Planned (runtime : Runtime) (actor : Subject) (input : CertbotIssuePlanInput)
    (stored : StoredPlan) (after : World Unit) : Prop :=
  Filed after.ledger.tables input.request.idempotencyKey
      (certbotIssueRequestDigest runtime actor input) stored ∧
    certbotIssuePlanView runtime stored = .ok stored

theorem certbotIssuePlanView_ok {plan shown : StoredPlan}
    (view : certbotIssuePlanView runtime plan = .ok shown) : shown = plan := by
  unfold certbotIssuePlanView at view
  split at view
  · cases view
  split at view
  · cases view
  obtain ⟨_, _, view⟩ := bind_ok.mp view
  obtain ⟨_, _, view⟩ := bind_ok.mp view
  exact (Except.ok.inj view).symm

/-- An error promises nothing. -/
theorem of_error {α : Type} {error : OpsError} {holds : α → Prop} (value : α)
    (same : (Except.error error : Except OpsError α) = .ok value) : holds value := by
  cases same

theorem first_stored {plan : StoredPlan}
    (key : plan.idempotencyKey = input.request.idempotencyKey)
    (digest : plan.requestDigest = certbotIssueRequestDigest runtime actor input)
    (sound : Sound runtime.toCodec world.ledger) :
    Gives (environment runtime (steadyHost answers)) (storeCertbotIssuePlan runtime plan) world
      fun result after => Sound runtime.toCodec after.ledger ∧
        ∀ stored, result = .ok stored → Planned runtime actor input stored after := by
  refine SafeE.bind ((held_openLedger lasting_environment sound).mono fun result after held => ?_)
  cases result with
  | error error => exact ⟨held.sound, of_error⟩
  | ok _ =>
    refine SafeE.bind (gives_ledger fun failure => ?_)
    refine (createOrReusePlan_filed.and (sound_createOrReusePlan held.sound plan)).mono ?_
    rintro result reached ⟨filed, sound⟩ last rfl
    cases result with
    | error error => exact ⟨sound, of_error⟩
    | ok stored =>
      refine SafeE.lift _ ⟨sound, fun shown view => ?_⟩
      obtain rfl := certbotIssuePlanView_ok view
      exact ⟨key ▸ digest ▸ filed shown rfl, view⟩

/-- Whatever becomes of the plan, what is done about its proposal leaves the ledger alone. -/
theorem gives_keepOrDrop {env : Environment Call Call.Answer (World Unit)}
    (steady : KeepsTo env answers) {proposal : ProposalRecord} {planId : String}
    {result : Except OpsError StoredPlan} :
    Gives env (match result with
      | .ok stored =>
        if stored.planId ≠ planId then do
          cleanupProposal proposal
          pure stored
        else pure stored
      | .error error => do
        cleanupProposal proposal
        throw error) world fun given after =>
      given = result ∧ after.ledger = world.ledger := by
  have cleaned : Gives env (cleanupProposal proposal) world fun given after =>
      given = .ok () ∧ after.ledger = world.ledger :=
    gives_succeeds steady (asking_cleanupProposal proposal) (succeeds_cleanupProposal proposal)
  cases result with
  | error error =>
    refine SafeE.bind (cleaned.mono ?_)
    rintro given after ⟨rfl, same⟩
    exact ⟨rfl, same⟩
  | ok stored =>
    dsimp only
    split
    · refine SafeE.bind (cleaned.mono ?_)
      rintro given after ⟨rfl, same⟩
      exact ⟨rfl, same⟩
    · exact ⟨rfl, rfl⟩

theorem first_proposed (sound : Sound runtime.toCodec world.ledger) :
    Gives (environment runtime (steadyHost answers))
      (proposeCertbotIssue runtime actor input site inventory valid nowMs) world
      fun result after => Sound runtime.toCodec after.ledger ∧ ∀ stored, result = .ok stored →
        ((runtime.planTtlMs : Int) ≤ i64Max ∧
          (utf8Bytes input.request.accountEmail).length ≤ 128 * 1024 ∧
          managedConfigBytesSupported runtime.toCodec (utf8Bytes input.request.accountEmail) =
            true) ∧ Planned runtime actor input stored after := by
  refine SafeE.bind (SafeE.rejectIf (fun _ => ⟨sound, of_error⟩) fun lifetime => ?_)
  refine SafeE.bind (SafeE.bind (gives_host steady_environment fun after same => ?_))
  rw [← same] at sound
  cases answers .randomBytes with
  | error error => exact ⟨sound, of_error⟩
  | ok bytes =>
  refine SafeE.bind (SafeE.bind (SafeE.rejectIf (fun _ => ⟨sound, of_error⟩) fun size => ?_))
  refine SafeE.bind (SafeE.rejectIf (fun _ => ⟨sound, of_error⟩) fun text => ?_)
  refine SafeE.bind (gives_host steady_environment fun stored kept => ?_)
  rw [← kept] at sound
  generalize id (answers _) = written
  cases written with
  | error error => exact ⟨sound, of_error⟩
  | ok _ =>
  refine SafeE.bind (SafeE.attempt ((first_stored rfl rfl sound).mono ?_))
  rintro result filed ⟨sound, planned⟩
  refine (gives_keepOrDrop steady_environment).mono ?_
  rintro given last ⟨rfl, held⟩
  refine ⟨held ▸ sound, fun plan answered => ?_⟩
  refine ⟨⟨not_lt.mp lifetime, not_lt.mp size, by simpa using text⟩, ?_⟩
  obtain ⟨found, view⟩ := planned plan answered
  exact ⟨held ▸ found, view⟩

/-- A request that is answered with a plan was served by the host, and the plan is kept. -/
theorem first_planned (sound : Sound runtime.toCodec world.ledger) :
    Gives (environment runtime (steadyHost answers)) (planCertbotIssue runtime actor input nowMs)
      world fun result after => Sound runtime.toCodec after.ledger ∧
        ∀ stored, result = .ok stored → Served runtime answers input.request nowMs ∧
          Planned runtime actor input stored after := by
  refine SafeE.bind ((held_openLedger lasting_environment sound).mono fun result opened held => ?_)
  cases result with
  | error error => exact ⟨held.sound, of_error⟩
  | ok _ =>
  refine SafeE.bind
    ((held_removeExpiredProposals held.sound).mono fun result swept held => ?_)
  cases result with
  | error error => exact ⟨held.sound, of_error⟩
  | ok _ =>
  refine SafeE.bind ((gives_validateIssuePreconditions lasting_environment held.sound).mono ?_)
  rintro result checked ⟨given, held⟩
  cases result with
  | error error => exact ⟨held.sound, of_error⟩
  | ok site =>
  obtain ⟨_, _, found⟩ := bind_ok.mp given.symm
  refine SafeE.bind ((gives_certificateInventory lasting_environment held.sound).mono ?_)
  rintro result listed ⟨read, held⟩
  cases result with
  | error error => exact ⟨held.sound, of_error⟩
  | ok inventory =>
  refine SafeE.bind (SafeE.rejectIf (fun _ => ⟨held.sound, of_error⟩) fun installed => ?_)
  refine SafeE.bind (SafeE.rejectIf (fun _ => ⟨held.sound, of_error⟩) fun digest => ?_)
  refine SafeE.bind (gives_host steady_environment fun tested same => ?_)
  have sound := same ▸ held.sound
  cases test : answers (.run .nginxConfigTest) with
  | error error => exact ⟨sound, of_error⟩
  | ok nginxTest =>
  refine SafeE.bind (gives_host steady_environment fun looked same => ?_)
  have sound := same ▸ sound
  cases active : answers (.run .nginxActive) with
  | error error => exact ⟨sound, of_error⟩
  | ok nginxActive =>
  refine SafeE.bind (SafeE.rejectIf (fun _ => ⟨sound, of_error⟩) fun passed => ?_)
  refine SafeE.bind ((held_openLedger lasting_environment sound).mono fun result opened held => ?_)
  cases result with
  | error error => exact ⟨held.sound, of_error⟩
  | ok _ =>
  refine SafeE.bind ((@held_read runtime answers opened (.hasRecentStagingEvidence _ _)
    (fun tables => .ok (hasRecentStagingEvidenceFrom tables _ _)) fun _ => rfl).mono ?_)
  rintro result seen ⟨same, _⟩
  have sound := same ▸ held.sound
  cases result with
  | error error => exact ⟨sound, of_error⟩
  | ok recent =>
  refine SafeE.bind (SafeE.rejectIf (fun _ => ⟨sound, of_error⟩) fun _ => ?_)
  refine (first_proposed sound).mono ?_
  rintro result after ⟨sound, proposed⟩
  refine ⟨sound, fun stored answered => ?_⟩
  obtain ⟨⟨lifetime, size, text⟩, planned⟩ := proposed stored answered
  obtain ⟨works, runs⟩ := not_or.mp passed
  refine ⟨⟨⟨site, found⟩, ⟨inventory, read.symm, ?_, not_not.mp digest⟩, ?_, ?_, lifetime, size,
    text⟩, planned⟩
  · simpa using installed
  · exact ⟨nginxTest, test, by simpa using works⟩
  · exact ⟨nginxActive, active, by simpa using runs⟩

/-! ### The request again -/

/-- Staging evidence for the request is recent in the ledger. -/
def recentEvidence (runtime : Runtime) (input : CertbotIssuePlanInput) (tables : Tables)
    (nowMs : Int) : Bool :=
  hasRecentStagingEvidenceFrom tables (stagingEvidenceKey runtime input.request.domains
    input.request.expectedSiteDigest input.preflight.resolvedAddresses)
    (saturatingSub nowMs stagingEvidenceTtlMs)

/-- A request for production that staging evidence does not support. -/
def Unsupported (runtime : Runtime) (input : CertbotIssuePlanInput) (tables : Tables)
    (nowMs : Int) : Prop :=
  input.request.environment = .production ∧ recentEvidence runtime input tables nowMs = false

instance (runtime : Runtime) (input : CertbotIssuePlanInput) (tables : Tables) (nowMs : Int) :
    Decidable (Unsupported runtime input tables nowMs) :=
  inferInstanceAs (Decidable (_ ∧ _))

section Again

variable {stored : StoredPlan} {bytes : Bytes} {digest : String}

/-- The answer to a request whose key is in use. -/
def answerTo (stored : StoredPlan) (same : Prop) [Decidable same] : Except OpsError StoredPlan :=
  if same then .ok stored else .error (.rejected "idempotency_conflict")

section

variable (sound : Sound runtime.toCodec world.ledger)
  (few : (world.ledger.tables.ledgerEvents.length : Int) < i64Max)
include sound few

theorem again_stored {plan : StoredPlan}
    (filed : Filed world.ledger.tables plan.idempotencyKey digest stored)
    (view : certbotIssuePlanView runtime stored = .ok stored) :
    Gives (quiet runtime answers) (storeCertbotIssuePlan runtime plan) world fun result _ =>
      result = answerTo stored (plan.requestDigest = digest) := by
  refine SafeE.bind ((quiet_openLedger sound few).mono ?_)
  rintro _ after ⟨rfl, held⟩
  rw [← held.tables] at filed
  by_cases same : plan.requestDigest = digest
  · have reused : Filed after.ledger.tables plan.idempotencyKey plan.requestDigest stored :=
      same.symm ▸ filed
    refine SafeE.bind (quiet_ledger (createOrReusePlan_reuse_quiet reused) fun last _ => ?_)
    refine SafeE.lift _ ?_
    rw [view, answerTo, if_pos same]
  · obtain ⟨row, found, other, _⟩ := filed
    have conflict := @createOrReusePlan_conflict_quiet runtime.toCodec after.ledger plan row found
      (other ▸ Ne.symm same)
    have ran : runLedger runtime.toCodec sqlError (.createOrReusePlan plan) ⟨after.ledger, []⟩ =
        (.error (.rejected "idempotency_conflict"),
          (createOrReusePlan runtime.toCodec plan ⟨after.ledger, []⟩).2) := Prod.ext conflict rfl
    refine SafeE.bind (quiet_ledger ran fun last _ => ?_)
    rw [answerTo, if_neg same]

theorem again_proposed (served : Served runtime answers input.request nowMs)
    (random : answers .randomBytes = .ok bytes)
    (stores : answers
      (.storeProposalFile (idOf "plan" bytes) (utf8Bytes input.request.accountEmail)) = .ok ())
    (filed : Filed world.ledger.tables input.request.idempotencyKey digest stored)
    (view : certbotIssuePlanView runtime stored = .ok stored) :
    Gives (quiet runtime answers)
      (proposeCertbotIssue runtime actor input site inventory valid nowMs) world
      fun result _ => result =
        answerTo stored (certbotIssueRequestDigest runtime actor input = digest) := by
  refine SafeE.bind (SafeE.rejectIf (fun long => absurd served.lifetime (not_le.mpr long))
    fun _ => ?_)
  refine SafeE.bind (SafeE.bind (gives_host steady_quiet fun after same => ?_))
  rw [random]
  refine SafeE.bind (SafeE.bind (SafeE.rejectIf
    (fun large => absurd served.size (not_le.mpr large)) fun _ => ?_))
  refine SafeE.bind (SafeE.rejectIf (fun bad => ?_) fun _ => ?_)
  · rw [served.text] at bad
    cases bad
  refine SafeE.bind (gives_host steady_quiet fun written kept => ?_)
  have ledger : written.ledger = world.ledger := kept.trans same
  rw [show id (answers (.storeProposalFile (idOf "plan" bytes)
    (utf8Bytes input.request.accountEmail))) = .ok () from stores]
  refine SafeE.bind (SafeE.attempt ((again_stored (ledger ▸ sound) (ledger ▸ few)
    (ledger ▸ filed) view).mono ?_))
  rintro result last rfl
  refine (gives_keepOrDrop steady_quiet).mono ?_
  rintro given final ⟨rfl, _⟩
  rfl

/-- What a host that serves the request, with a ledger in which its key is in use, gives. -/
theorem again_planned (timely : input.validate runtime.parseIpAddr nowMs = .ok ())
    (served : Served runtime answers input.request nowMs)
    (random : answers .randomBytes = .ok bytes)
    (stores : answers
      (.storeProposalFile (idOf "plan" bytes) (utf8Bytes input.request.accountEmail)) = .ok ())
    (filed : Filed world.ledger.tables input.request.idempotencyKey digest stored)
    (view : certbotIssuePlanView runtime stored = .ok stored) :
    Gives (quiet runtime answers) (planCertbotIssue runtime actor input nowMs) world
      fun result _ => result =
        if Unsupported runtime input world.ledger.tables nowMs then
          .error (.rejected "staging_required")
        else answerTo stored (certbotIssueRequestDigest runtime actor input = digest) := by
  obtain ⟨site, found⟩ := served.site
  obtain ⟨inventory, read, installed, expected⟩ := served.inventory
  obtain ⟨nginxTest, test, works⟩ := served.tested
  obtain ⟨nginxActive, active, runs⟩ := served.active
  refine SafeE.bind ((quiet_openLedger sound few).mono ?_)
  rintro _ opened ⟨rfl, held⟩
  refine SafeE.bind (quiet_removeExpiredProposals.mono ?_)
  rintro _ swept ⟨rfl, same⟩
  have held := held.same same
  refine SafeE.bind ((gives_validateIssuePreconditions lasting_quiet held.sound).mono ?_)
  rintro result checked ⟨given, kept⟩
  rw [timely] at given
  obtain rfl := given.trans found
  have held := held.trans kept
  refine SafeE.bind ((gives_certificateInventory lasting_quiet held.sound).mono ?_)
  rintro result listed ⟨given, kept⟩
  obtain rfl := given.trans read
  have held := held.trans kept
  refine SafeE.bind (SafeE.rejectIf (fun missing => ?_) fun _ => ?_)
  · rw [installed] at missing
    cases missing
  refine SafeE.bind (SafeE.rejectIf (fun stale => absurd expected stale) fun _ => ?_)
  refine SafeE.bind (gives_host steady_quiet fun tested same => ?_)
  have held := held.same same
  rw [show id (answers (.run .nginxConfigTest)) = .ok nginxTest from test]
  refine SafeE.bind (gives_host steady_quiet fun looked same => ?_)
  have held := held.same same
  rw [show id (answers (.run .nginxActive)) = .ok nginxActive from active]
  refine SafeE.bind (SafeE.rejectIf (fun failed => ?_) fun _ => ?_)
  · rw [works, runs] at failed
    simp at failed
  refine SafeE.bind ((quiet_openLedger held.sound (held.tables ▸ few)).mono ?_)
  rintro _ again ⟨rfl, kept⟩
  have held := held.trans kept
  refine SafeE.bind ((@quiet_read runtime answers again (.hasRecentStagingEvidence _ _)
    (fun tables => .ok (hasRecentStagingEvidenceFrom tables _ _)) rfl).mono ?_)
  rintro _ seen ⟨rfl, same⟩
  have held' := held.same same
  rw [held.tables, validateIssueSite_digest found]
  refine SafeE.bind (SafeE.rejectIf (fun unsupported => ?_) fun supported => ?_)
  · exact (if_pos unsupported).symm
  · refine (again_proposed held'.sound (held'.tables ▸ few) served random stores
      (held'.tables ▸ filed) view).mono ?_
    rintro result last rfl
    exact (if_neg supported).symm

end

end Again

/-! ### The browser -/

/-- The digest of what the web daemon sends tells the times of two observations apart, unless
digests collide. -/
theorem digest_eq_iff {facts : PreflightFacts} {request : CertbotIssuePlanRequest}
    {firstMs laterMs : Int} {again : CertbotIssuePlanInput}
    (first : certbotIssuePlanInput facts request firstMs = .ok input)
    (second : certbotIssuePlanInput facts request laterMs = .ok again)
    (distinct : certbotIssueRequestDigest runtime actor again =
      certbotIssueRequestDigest runtime actor input → again = input) :
    certbotIssueRequestDigest runtime actor again =
      certbotIssueRequestDigest runtime actor input ↔ laterMs = firstMs := by
  have here := certbotIssuePlanInput_ok first
  have there := certbotIssuePlanInput_ok second
  constructor
  · intro same
    have inputs := distinct same
    rw [here, there] at inputs
    simpa using inputs
  · intro same
    rw [here, there, same]

/-- A browser that repeats a request for which a plan was made, on a host that answers as before
and with a ledger in which anything may have been written since, is answered with that plan just if
the web daemon observes the preflight in the same millisecond. At any other time the answer is a
conflict. Either way a production request needs staging evidence that is still recent. -/
theorem issue_retry_iff (runtime : Runtime) (actor : Subject) (facts : PreflightFacts)
    (request : CertbotIssuePlanRequest) (firstMs laterMs firstNow laterNow : Int)
    (input again : CertbotIssuePlanInput)
    (first : certbotIssuePlanInput facts request firstMs = .ok input)
    (second : certbotIssuePlanInput facts request laterMs = .ok again)
    (distinct : certbotIssueRequestDigest runtime actor again =
      certbotIssueRequestDigest runtime actor input → again = input)
    (answers later : Answers) (unchanged : ∀ call, call ≠ .randomBytes → later call = answers call)
    (earlier between : List Cut) (world planning retrying : World Unit)
    (start : world.ledger = runCuts runtime.toCodec emptyLedger earlier) (stored : StoredPlan)
    (planned : Completes (environment runtime (steadyHost answers))
      (planCertbotIssue runtime actor input firstNow).run world (.ok stored) planning)
    (since : retrying.ledger = runCuts runtime.toCodec planning.ledger between)
    (few : (retrying.ledger.tables.ledgerEvents.length : Int) < 2 ^ 63 - 1)
    (timely : again.validate runtime.parseIpAddr laterNow = .ok ())
    (clock : ∃ text, formatTime runtime.toCodec laterNow = .ok text)
    (bytes : Bytes) (random : later .randomBytes = .ok bytes)
    (stores : later (.storeProposalFile (idOf "plan" bytes)
      (utf8Bytes request.accountEmail)) = .ok ()) :
    ((runWith (quietly runtime later)
        (planCertbotIssue runtime actor again laterNow).run retrying).1 = .ok stored ↔
      laterMs = firstMs ∧ ¬Unsupported runtime again retrying.ledger.tables laterNow) ∧
    ((runWith (quietly runtime later)
        (planCertbotIssue runtime actor again laterNow).run retrying).1 =
          .error (.rejected "idempotency_conflict") ↔
      laterMs ≠ firstMs ∧ ¬Unsupported runtime again retrying.ledger.tables laterNow) := by
  have sound : Sound runtime.toCodec world.ledger := start ▸ sound_runCuts sound_emptyLedger earlier
  obtain ⟨sound, made⟩ := (first_planned sound).completes planned
  obtain ⟨served, filed, view⟩ := made stored rfl
  obtain ⟨text, formatted⟩ := clock
  have named : input.request = request := by rw [certbotIssuePlanInput_ok first]
  have renamed : again.request = request := by rw [certbotIssuePlanInput_ok second]
  have grows : Grows planning.ledger.tables retrying.ledger.tables := by
    rw [since]
    exact Grows.committed committed_runCuts
  rw [named] at served filed
  have gives : Gives (quiet runtime later) (planCertbotIssue runtime actor again laterNow) retrying
      _ :=
    again_planned (since ▸ sound_runCuts sound between) few timely
      (renamed.symm ▸ served.again unchanged formatted) random (renamed.symm ▸ stores)
      (renamed.symm ▸ filed.grows grows) view
  rw [gives.result]
  have when := digest_eq_iff first second distinct
  by_cases unsupported : Unsupported runtime again retrying.ledger.tables laterNow
  · simp [unsupported]
  · by_cases same : laterMs = firstMs
    · simp [unsupported, answerTo, when.mpr same, same]
    · simp [unsupported, answerTo, mt when.mp same, same]

/-! ### Samples -/

/-- A daemon that parses every address and tells requests apart by their time. -/
def issueRuntime : Runtime :=
  { sampleRuntime with
    parseIpAddr := fun _ => some (.v4 0)
    issueRequestJson := fun _ input => List.replicate input.preflight.observedAtUnixMs.toNat 0
    planTtlMs := 1000 }

def stagingRequest : CertbotIssuePlanRequest :=
  { sampleRequest "example.com" "www.example.com" with
    environment := .staging
    expectedInventoryDigest := sha256Digest sampleCodec [] }

def stagingFacts : PreflightFacts where
  publicHost := some "example.com"
  publicAddresses := [.v4 0]
  lookupHost _ := some [.v4 0]
  localPort80Reachable := true
  localPort443Reachable := true
  display _ := "203.0.113.1"

def stagingInput (observedMs : Int) : CertbotIssuePlanInput :=
  ⟨stagingRequest, observedMs, ["203.0.113.1"], ["203.0.113.1"], true, true⟩

/-- A host on which the site answers the challenge. -/
def challengeHost (bytes : Bytes) : Answers
  | .run command => .ok (sampleEvidence command true)
  | .discoverSite siteId =>
    .ok ⟨siteId, "site", stagingRequest.expectedSiteDigest, "", .enabled, true⟩
  | .readAvailableContent _ =>
    .ok (utf8Bytes "include /usr/share/jw-agent/nginx/acme-challenge.conf;")
  | .validateAcmeWebroot => .ok ()
  | .certbotInstalled => true
  | .discoverCertificates => .ok ([], [])
  | .randomBytes => .ok bytes
  | .storeProposalFile _ _ => .ok ()
  | call => failing call

theorem challengeHost_unchanged (bytes other : Bytes) (call : HostCall)
    (asked : call ≠ .randomBytes) : challengeHost bytes call = challengeHost other call := by
  cases call with
  | randomBytes => exact absurd rfl asked
  | _ => rfl

theorem challengeHost_plays {bytes : Bytes} :
    Plays (fun _ call => (challengeHost bytes call, ())) (steadyHost (challengeHost bytes)) := by
  intro host call
  refine ⟨?_, rfl⟩
  cases call with
  | run command => exact sampleEvidence_produced command true
  | discoverCertificates => exact Nat.two_pow_pos 32
  | _ => trivial

/-- The browser's request, served at a time in milliseconds. -/
def askFor (observedMs : Int) (bytes : Bytes) (world : World Unit) :
    Except OpsError StoredPlan × World Unit :=
  runWith (quietly issueRuntime (challengeHost bytes))
    (planCertbotIssue issueRuntime operator (stagingInput observedMs) observedMs).run world

def firstAsked : Except OpsError StoredPlan × World Unit :=
  askFor 1 [1] ⟨emptyLedger, (), none, []⟩

theorem stagingInput_sent (observedMs : Int) :
    certbotIssuePlanInput stagingFacts stagingRequest observedMs =
      .ok (stagingInput observedMs) := by
  have valid : stagingRequest.validate = .ok () := by decide +kernel
  unfold certbotIssuePlanInput
  rw [valid]
  rfl

/-- The plan is made, is kept for a while and is one that is answered. -/
theorem firstAsked_ok : ∃ plan, firstAsked.1 = .ok plan ∧ 2 < plan.expiresAtMs := by
  have made : (firstAsked.1.toOption.any fun plan => decide (2 < plan.expiresAtMs)) = true := by
    decide +kernel
  cases answer : firstAsked.1 with
  | error error =>
    rw [answer] at made
    cases made
  | ok plan =>
    rw [answer] at made
    exact ⟨plan, rfl, of_decide_eq_true made⟩

/-- A browser that is quick enough gets its plan again. -/
theorem issue_retry_at_once : ∃ plan, firstAsked.1 = .ok plan ∧
    (askFor 1 [2] firstAsked.2).1 = .ok plan := by
  obtain ⟨plan, made, _⟩ := firstAsked_ok
  refine ⟨plan, made, ?_⟩
  have ran := @completes_playing Unit issueRuntime (steadyHost (challengeHost [1])) _
    (fun _ => []) challengeHost_plays StoredPlan
    (planCertbotIssue issueRuntime operator (stagingInput 1) 1) ⟨emptyLedger, (), none, []⟩
  have made : (runWith (quietly issueRuntime (challengeHost [1]))
      (planCertbotIssue issueRuntime operator (stagingInput 1) 1).run
      ⟨emptyLedger, (), none, []⟩).1 = .ok plan := made
  have few : (firstAsked.2.ledger.tables.ledgerEvents.length : Int) < 2 ^ 63 - 1 := by
    decide +kernel
  have timely : (stagingInput 1).validate issueRuntime.parseIpAddr 1 = .ok () := by decide +kernel
  have clock : formatTime issueRuntime.toCodec 1 = .ok "" := by decide +kernel
  unfold firstAsked askFor at few ⊢
  unfold quietly at made few ⊢
  rw [made] at ran
  generalize (runWith (playing _ _ _) _ _).2 = planning at ran few ⊢
  refine (issue_retry_iff issueRuntime operator stagingFacts stagingRequest 1 1 1 1 (stagingInput 1)
    (stagingInput 1) (stagingInput_sent 1) (stagingInput_sent 1) (fun _ => rfl) (challengeHost [1])
    (challengeHost [2]) (challengeHost_unchanged [2] [1]) [] [] _ planning planning rfl plan ran rfl
    few timely ⟨"", clock⟩ [2] rfl rfl).1.mpr ⟨rfl, ?_⟩
  rintro ⟨production, _⟩
  cases production

/-- A millisecond later the request is a conflict, although the plan is still good and the host
is as it was. -/
theorem later_retry_conflicts :
    (∃ plan, firstAsked.1 = .ok plan ∧ 2 < plan.expiresAtMs) ∧
    (∀ observedMs, certbotIssuePlanInput stagingFacts stagingRequest observedMs =
      .ok (stagingInput observedMs)) ∧
    (∀ call, call ≠ .randomBytes → challengeHost [2] call = challengeHost [1] call) ∧
    (askFor 2 [2] firstAsked.2).1 = .error (.rejected "idempotency_conflict") := by
  have refused : (askFor 2 [2] firstAsked.2).1 =
      .error (.rejected "idempotency_conflict") := by
    decide +kernel
  exact ⟨firstAsked_ok, stagingInput_sent, challengeHost_unchanged [2] [1], refused⟩

end JwOps.Lifecycle.Retrying
