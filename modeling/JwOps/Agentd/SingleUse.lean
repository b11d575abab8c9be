/- module: Agentd/SingleUse
   source: crates/jw-agentd/src/session.rs, crates/jw-agentd/src/totp.rs
   digest: Claims are consumed once, for what they were issued for, and together. -/
import JwOps.Agentd.Expiry
import Mathlib.Data.List.Induction

set_option autoImplicit false

namespace JwOps.Agentd.SingleUse

open Contracts Foundation Operation Digest Tables Sessions Totp Claims Outcomes Calls Keyed
open Transaction

variable {attempts : List Attempt}

variable {call : Call} {attempts : List Attempt} {authorization : OperationAuthorization}
  {claim : String}

/-! ### What a call uses -/

def Call.uses (codec : AgentCodec) : Call → Option ClaimUse
  | .updateAdditionalAuthPolicy sessionToken subject target (some token) _ =>
    some (claimUse codec sessionToken subject.uid .securityPolicyChange target.asStorageValue token)
  | .consumeOperationClaims authorization =>
    some (claimUse codec authorization.sessionToken authorization.subject.uid .operation
      authorization.planHash authorization.reauthToken)
  | .beginEnrollment sessionToken subject _ reauthToken _ _ =>
    some (claimUse codec sessionToken subject.uid .totpEnrollment "totp/v1" reauthToken)
  | .recoveryReset sessionToken subject _ reauthToken _ =>
    some (claimUse codec sessionToken subject.uid .totpRecoveryReset "totp/v1" reauthToken)
  | _ => none

/-- The additional claim that a call consumes as well, with the call's authorization. -/
def Call.additional : Call → Option (OperationAuthorization × String)
  | .consumeOperationClaims authorization =>
    if authorization.additionalAuthRequired then
      authorization.additionalAuthClaim.map fun claim => (authorization, claim)
    else none
  | _ => none

/-- The two tables that claims live in. -/
def claimTables (store : Store) : List ReauthClaimRow × List AdditionalClaimRow :=
  (store.reauthClaims, store.additionalClaims)

/-- The end of an enrollment that is begun at that time can be written out. -/
def EndWritten (codec : AgentCodec) (now : Int) : Prop :=
  (codec.rfc3339 (saturatingAdd now enrollmentTtlMs)).isSome = true

variable {codec : AgentCodec}

/-! ### The inversion -/

/-- All that an attempt can do to the claims. -/
inductive ClaimEffect (codec : AgentCodec) (now : Int) (store : Store) (call : Call)
    (result : Except AgentError Answer) (after : Store) : Prop
  | kept (same : claimTables after = claimTables store)
      (failed : Call.uses codec call ≠ none → ∃ error, result = .error error)
  | issued (sessionToken : String) (subject : Subject) (purpose : ReauthPurpose) (token : String)
      (asked : call = .issueReauthClaim sessionToken subject purpose (some token))
      (fresh : ∀ other ∈ store.reauthClaims, other.tokenDigest ≠ claimDigest codec token)
      (tables : claimTables after = (store.reauthClaims ++
        [issuedClaim codec sessionToken subject purpose token now], store.additionalClaims))
  | steppedUp (sessionToken : String) (subject : Subject) (reauthToken planHash code : String)
      (opened : EnrollmentRow → Option Bytes) (token : String)
      (asked : call = .issueOperationClaim sessionToken subject reauthToken planHash code opened
        (some token))
      (fresh : ∀ other ∈ store.additionalClaims,
        other.tokenDigest ≠ additionalClaimDigest codec token)
      (tables : claimTables after = (store.reauthClaims, store.additionalClaims ++
        [steppedUpClaim codec sessionToken subject reauthToken planHash token now]))
  | consumed (use : ClaimUse) (keep : AdditionalClaimRow → Bool)
      (uses : Call.uses codec call = some use) (alone : Call.additional call = none)
      (one : store.reauthClaims.countP (use.meets now) = 1)
      (tables : claimTables after =
        (consumedRows use now store.reauthClaims, store.additionalClaims.filter keep))
      (answered : (∃ answer, result = .ok answer) ∨ ¬EndWritten codec now)
  | consumedBoth (use : ClaimUse) (authorization : OperationAuthorization) (claim : String)
      (uses : Call.uses codec call = some use)
      (both : Call.additional call = some (authorization, claim))
      (one : store.reauthClaims.countP (use.meets now) = 1)
      (other : store.additionalClaims.countP
        (meetsAdditional codec { authorization with now := now } claim) = 1)
      (tables : claimTables after = (consumedRows use now store.reauthClaims,
        consumedAdditional codec { authorization with now := now } claim store.additionalClaims))
      (answered : ∃ answer, result = .ok answer)
  | cleaned (keep : AdditionalClaimRow → Bool) (unused : Call.uses codec call = none)
      (tables : claimTables after =
        (store.reauthClaims, store.additionalClaims.filter keep))

/-- A call that uses no claim and leaves both tables alone. -/
theorem claims_of_leaves {store : Store} {now : Int} (unused : Call.uses codec call = none)
    (leaves : Leaves claimTables (perform codec now call)) :
    Outcome (perform codec now call) store (ClaimEffect codec now store call) := by
  refine (leaves store).mono ?_
  intro result after same
  exact .kept same fun used => absurd unused used

theorem claims_of_sessionsOnly {store : Store} {now : Int}
    (unused : Call.uses codec call = none) (only : Call.sessionsOnly call = true) :
    Outcome (perform codec now call) store (ClaimEffect codec now store call) :=
  claims_of_leaves unused (leaves_of_sessionsOnly (fun _ _ _ => rfl) only)

theorem claims_perform {store : Store} {now : Int} {call : Call} :
    Outcome (perform codec now call) store (ClaimEffect codec now store call) := by
  cases call with
  | issueReauthClaim sessionToken subject purpose random =>
    refine outcome_map (issueReauthClaim_spec.mono ?_)
    rintro result after (rfl | ⟨token, rfl, fresh, rfl⟩)
    · exact .kept rfl fun used => absurd rfl used
    · exact .issued sessionToken subject purpose token rfl fresh rfl
  | updateAdditionalAuthPolicy sessionToken subject target reauthToken opened =>
    refine outcome_map (updateAdditionalAuthPolicy_spec.mono ?_)
    rintro result after (⟨rfl, error, rfl⟩ | ⟨token, rfl, rfl, -, one, rfl⟩)
    · exact .kept rfl fun _ => ⟨error, rfl⟩
    · refine .consumed _ (fun _ => true) rfl rfl one ?_ (.inl ⟨_, rfl⟩)
      rw [List.filter_true]
      rfl
  | consumeOperationClaims authorization =>
    refine outcome_map (consumeOperationClaims_spec.mono ?_)
    rintro result after (⟨rfl, error, rfl⟩ | ⟨rfl, one, ⟨required, claimed, rfl⟩ |
      ⟨claim, required, claimed, other, rfl⟩⟩)
    · exact .kept rfl fun _ => ⟨error, rfl⟩
    · refine .consumed _ (fun _ => true) rfl ?_ one ?_ (.inl ⟨_, rfl⟩)
      · simp only [Call.additional]
        rw [if_neg (by simpa using required)]
      · rw [List.filter_true]
        rfl
    · refine .consumedBoth _ authorization claim rfl ?_ one other rfl ⟨_, rfl⟩
      simp only [Call.additional]
      rw [if_pos required, show authorization.additionalAuthClaim = some claim from claimed]
      rfl
  | beginEnrollment sessionToken subject ingress reauthToken serverLabel material =>
    refine outcome_map (beginEnrollment_spec.mono ?_)
    rintro result after (⟨rfl, error, rfl⟩ | ⟨drawn, rfl, -, one, rfl, answered⟩)
    · exact .kept rfl fun _ => ⟨error, rfl⟩
    · refine .consumed _ (fun _ => true) rfl rfl one ?_ ?_
      · rw [List.filter_true]
        rfl
      · by_cases written : EndWritten codec now
        · obtain ⟨view, rfl⟩ := answered.mpr written
          exact .inl ⟨_, rfl⟩
        · exact .inr written
  | confirmEnrollment subject ingress enrollmentId code opened =>
    refine outcome_map (confirmEnrollment_spec.mono ?_)
    rintro result after (⟨rfl, -⟩ | ⟨row, step, -, -, -, rfl⟩) <;>
      exact .kept rfl fun used => absurd rfl used
  | issueOperationClaim sessionToken subject reauthToken planHash code opened random =>
    refine outcome_map (issueOperationClaim_spec.mono ?_)
    rintro result after (⟨rfl, -⟩ | ⟨row, step, token, -, -, -, rfl, fresh, rfl, -⟩)
    · exact .kept rfl fun used => absurd rfl used
    · exact .steppedUp sessionToken subject reauthToken planHash code opened token rfl fresh rfl
  | verifyDirectContext subject contextDigest code opened =>
    refine outcome_map (verifyDirectContext_spec.mono ?_)
    rintro result after (⟨rfl, -⟩ | ⟨row, step, -, -, -, rfl⟩) <;>
      exact .kept rfl fun used => absurd rfl used
  | recoveryReset sessionToken subject ingress reauthToken recoveryCode =>
    refine outcome_map (recoveryReset_spec.mono ?_)
    rintro result after (⟨rfl, error, rfl⟩ | ⟨rfl, one, -, rfl⟩)
    · exact .kept rfl fun _ => ⟨error, rfl⟩
    · exact .consumed _ _ rfl rfl one rfl (.inl ⟨_, rfl⟩)
  | migrate =>
    refine outcome_map (migrate_spec.mono ?_)
    rintro result after (rfl | rfl)
    · exact .kept rfl fun used => absurd rfl used
    · exact .cleaned _ rfl rfl
  | _ => exact claims_of_sessionsOnly rfl rfl

theorem claims_attempt {store : Store} {attempt : Attempt} :
    ClaimEffect codec attempt.now store attempt.call (resultOf codec store attempt)
      (storeAfter codec store attempt) :=
  claims_perform attempt.faults

/-! ### Runs -/

/-- A row of the run was issued in it, and only its consumption has changed since. -/
def IssuedIn (codec : AgentCodec) (attempts : List Attempt) (row : ReauthClaimRow) : Prop :=
  ∃ issue ∈ attempts, ∃ sessionToken subject purpose token,
    issue.call = .issueReauthClaim sessionToken subject purpose (some token) ∧
    { row with consumedAt := none } =
      issuedClaim codec sessionToken subject purpose token issue.now

def SteppedUpIn (codec : AgentCodec) (attempts : List Attempt) (row : AdditionalClaimRow) : Prop :=
  ∃ issue ∈ attempts, ∃ sessionToken subject reauthToken planHash code opened token,
    issue.call = .issueOperationClaim sessionToken subject reauthToken planHash code opened
      (some token) ∧
    { row with consumedAt := none } =
      steppedUpClaim codec sessionToken subject reauthToken planHash token issue.now

/-- Tokens are keys of both tables, and every row was issued in the run. -/
structure Backed (codec : AgentCodec) (attempts : List Attempt) (store : Store) : Prop where
  unique : (store.reauthClaims.map ReauthClaimRow.tokenDigest).Nodup
  uniqueAdditional : (store.additionalClaims.map AdditionalClaimRow.tokenDigest).Nodup
  issued : ∀ row ∈ store.reauthClaims, IssuedIn codec attempts row
  steppedUp : ∀ row ∈ store.additionalClaims, SteppedUpIn codec attempts row

theorem IssuedIn.more {row : ReauthClaimRow} (attempt : Attempt)
    (issued : IssuedIn codec attempts row) : IssuedIn codec (attempts ++ [attempt]) row := by
  obtain ⟨issue, member, rest⟩ := issued
  exact ⟨issue, List.mem_append_left _ member, rest⟩

theorem SteppedUpIn.more {row : AdditionalClaimRow} (attempt : Attempt)
    (issued : SteppedUpIn codec attempts row) : SteppedUpIn codec (attempts ++ [attempt]) row := by
  obtain ⟨issue, member, rest⟩ := issued
  exact ⟨issue, List.mem_append_left _ member, rest⟩

theorem digests_consumedRows (use : ClaimUse) (now : Int) (rows : List ReauthClaimRow) :
    (consumedRows use now rows).map ReauthClaimRow.tokenDigest =
      rows.map ReauthClaimRow.tokenDigest := by
  unfold consumedRows
  rw [List.map_map]
  refine List.map_congr_left fun row _ => ?_
  simp only [Function.comp_apply]
  split <;> rfl

theorem digests_consumedAdditional (authorization : OperationAuthorization) (claim : String)
    (rows : List AdditionalClaimRow) :
    (consumedAdditional codec authorization claim rows).map AdditionalClaimRow.tokenDigest =
      rows.map AdditionalClaimRow.tokenDigest := by
  unfold consumedAdditional
  rw [List.map_map]
  refine List.map_congr_left fun row _ => ?_
  simp only [Function.comp_apply]
  split <;> rfl

/-- A consumed row is the row before it but for the consumption. -/
theorem issued_consumedRows {use : ClaimUse} {now : Int} {rows : List ReauthClaimRow}
    (issued : ∀ row ∈ rows, IssuedIn codec attempts row) :
    ∀ row ∈ consumedRows use now rows, IssuedIn codec attempts row := by
  intro row member
  obtain ⟨old, before, rfl⟩ := List.mem_map.mp member
  obtain ⟨issue, inRun, sessionToken, subject, purpose, token, asked, same⟩ := issued old before
  refine ⟨issue, inRun, sessionToken, subject, purpose, token, asked, ?_⟩
  split
  · exact same
  · exact same

theorem steppedUp_consumedAdditional {rows : List AdditionalClaimRow}
    (issued : ∀ row ∈ rows, SteppedUpIn codec attempts row) :
    ∀ row ∈ consumedAdditional codec authorization claim rows, SteppedUpIn codec attempts row := by
  intro row member
  obtain ⟨old, before, rfl⟩ := List.mem_map.mp member
  obtain ⟨issue, inRun, sessionToken, subject, reauthToken, planHash, code, opened, token, asked,
    same⟩ := issued old before
  refine ⟨issue, inRun, sessionToken, subject, reauthToken, planHash, code, opened, token, asked,
    ?_⟩
  split
  · exact same
  · exact same

theorem nodup_filter_column {rows : List AdditionalClaimRow} (keep : AdditionalClaimRow → Bool)
    (unique : (rows.map AdditionalClaimRow.tokenDigest).Nodup) :
    ((rows.filter keep).map AdditionalClaimRow.tokenDigest).Nodup :=
  unique.sublist ((List.filter_sublist).map _)

theorem Backed.step {attempts : List Attempt} {store : Store} (attempt : Attempt)
    (backed : Backed codec attempts store) :
    Backed codec (attempts ++ [attempt]) (storeAfter codec store attempt) := by
  have issued : ∀ row ∈ store.reauthClaims, IssuedIn codec (attempts ++ [attempt]) row :=
    fun row member => (backed.issued row member).more attempt
  have steppedUp : ∀ row ∈ store.additionalClaims,
      SteppedUpIn codec (attempts ++ [attempt]) row :=
    fun row member => (backed.steppedUp row member).more attempt
  have last : attempt ∈ attempts ++ [attempt] :=
    List.mem_append_right _ (List.mem_singleton_self _)
  have effect := @claims_attempt codec store attempt
  generalize storeAfter codec store attempt = after at effect ⊢
  cases effect with
  | kept same failed =>
    obtain ⟨reauth, additional⟩ := Prod.mk.inj same
    constructor <;> simp only [reauth, additional]
    · exact backed.unique
    · exact backed.uniqueAdditional
    · exact issued
    · exact steppedUp
  | issued sessionToken subject purpose token asked fresh tables =>
    obtain ⟨reauth, additional⟩ := Prod.mk.inj tables
    constructor <;> simp only [reauth, additional]
    · exact nodup_concat backed.unique fresh
    · exact backed.uniqueAdditional
    · intro row member
      rcases List.mem_append.mp member with old | new
      · exact issued row old
      · rw [List.mem_singleton.mp new]
        exact ⟨attempt, last, sessionToken, subject, purpose, token, asked, rfl⟩
    · exact steppedUp
  | steppedUp sessionToken subject reauthToken planHash code opened token asked fresh tables =>
    obtain ⟨reauth, additional⟩ := Prod.mk.inj tables
    constructor <;> simp only [reauth, additional]
    · exact backed.unique
    · exact nodup_concat backed.uniqueAdditional fresh
    · exact issued
    · intro row member
      rcases List.mem_append.mp member with old | new
      · exact steppedUp row old
      · rw [List.mem_singleton.mp new]
        exact ⟨attempt, last, sessionToken, subject, reauthToken, planHash, code, opened, token,
          asked, rfl⟩
  | consumed use keep uses alone one tables answered =>
    obtain ⟨reauth, additional⟩ := Prod.mk.inj tables
    constructor <;> simp only [reauth, additional]
    · rw [digests_consumedRows]
      exact backed.unique
    · exact nodup_filter_column keep backed.uniqueAdditional
    · exact issued_consumedRows issued
    · exact fun row member => steppedUp row (List.mem_filter.mp member).1
  | consumedBoth use authorization claim uses both one other tables answered =>
    obtain ⟨reauth, additional⟩ := Prod.mk.inj tables
    constructor <;> simp only [reauth, additional]
    · rw [digests_consumedRows]
      exact backed.unique
    · rw [digests_consumedAdditional]
      exact backed.uniqueAdditional
    · exact issued_consumedRows issued
    · exact steppedUp_consumedAdditional steppedUp
  | cleaned keep unused tables =>
    obtain ⟨reauth, additional⟩ := Prod.mk.inj tables
    constructor <;> simp only [reauth, additional]
    · exact backed.unique
    · exact nodup_filter_column keep backed.uniqueAdditional
    · exact issued
    · exact fun row member => steppedUp row (List.mem_filter.mp member).1

theorem backed_run (attempts : List Attempt) :
    Backed codec attempts (run codec emptyStore attempts) := by
  induction attempts using List.reverseRecOn with
  | nil =>
    constructor
    · exact List.nodup_nil
    · exact List.nodup_nil
    · intro row member
      cases member
    · intro row member
      cases member
  | append_singleton earlier attempt ih =>
    rw [run_append]
    exact ih.step attempt

/-! ### One consumption -/

/-- The attempt answers without an error after those before it. -/
def Succeeds (codec : AgentCodec) (earlier : List Attempt) (attempt : Attempt) : Prop :=
  ∃ answer, resultOf codec (run codec emptyStore earlier) attempt = .ok answer

/-- There is a consumed row under the digest. -/
def Spent (digest : Bytes) (store : Store) : Prop :=
  ∃ row ∈ store.reauthClaims, row.tokenDigest = digest ∧ row.consumedAt ≠ none

/-- No row under the digest is left to be consumed. -/
def NoneOpen (digest : Bytes) (store : Store) : Prop :=
  ∀ row ∈ store.additionalClaims, row.tokenDigest = digest → row.consumedAt ≠ none

theorem ClaimUse.met {use : ClaimUse} {now : Int} {row : ReauthClaimRow}
    (meets : use.meets now row = true) :
    row.tokenDigest = use.digest ∧ row.sessionDigest = use.session ∧
      row.subjectUid = use.subjectUid ∧ row.purpose = use.purpose ∧
      row.contextDigest = use.context ∧ now < row.expiresAt ∧ row.consumedAt = none := by
  simp only [ClaimUse.meets, meetsClaim, Bool.and_eq_true, beq_iff_eq, decide_eq_true_eq,
    Option.isNone_iff_eq_none] at meets
  obtain ⟨⟨⟨⟨⟨⟨digest, session⟩, uid⟩, purpose⟩, context⟩, expiry⟩, unconsumed⟩ := meets
  exact ⟨digest, session, uid, purpose, context, expiry, unconsumed⟩

theorem meetsAdditional_met {row : AdditionalClaimRow}
    (meets : meetsAdditional codec authorization claim row = true) :
    row.tokenDigest = additionalClaimDigest codec claim ∧
      row.reauthDigest = claimDigest codec authorization.reauthToken ∧
      row.sessionDigest = sessionDigest codec authorization.sessionToken ∧
      row.subjectUid = authorization.subject.uid ∧
      row.contextDigest = authorization.planHash ∧ authorization.now < row.expiresAt ∧
      row.consumedAt = none := by
  simp only [meetsAdditional, Bool.and_eq_true, beq_iff_eq, decide_eq_true_eq,
    Option.isNone_iff_eq_none] at meets
  obtain ⟨⟨⟨⟨⟨⟨digest, reauth⟩, session⟩, uid⟩, context⟩, expiry⟩, unconsumed⟩ := meets
  exact ⟨digest, reauth, session, uid, context, expiry, unconsumed⟩

theorem exists_of_countP_one {Row : Type} {meets : Row → Bool} {rows : List Row}
    (one : rows.countP meets = 1) : ∃ row ∈ rows, meets row = true :=
  List.countP_pos_iff.mp (by omega)

/-- A call that uses a claim and succeeds has met one row and consumed it. -/
theorem consumed_of_ok {store after : Store} {now : Int} {use : ClaimUse}
    {result : Except AgentError Answer} (effect : ClaimEffect codec now store call result after)
    (uses : Call.uses codec call = some use) (ok : ∃ answer, result = .ok answer) :
    store.reauthClaims.countP (use.meets now) = 1 ∧
      after.reauthClaims = consumedRows use now store.reauthClaims := by
  cases effect with
  | kept same failed =>
    obtain ⟨answer, rfl⟩ := ok
    obtain ⟨error, impossible⟩ := failed (by simp [uses])
    cases impossible
  | issued _ _ _ _ asked _ _ | steppedUp _ _ _ _ _ _ _ asked _ _ =>
    rw [asked] at uses
    cases uses
  | consumed _ _ named _ one tables _ | consumedBoth _ _ _ named _ one _ tables _ =>
    rw [uses] at named
    cases named
    exact ⟨one, (Prod.mk.inj tables).1⟩
  | cleaned keep unused tables =>
    rw [unused] at uses
    cases uses

theorem spent_consumedRows {use : ClaimUse} {now : Int} {store after : Store}
    (one : store.reauthClaims.countP (use.meets now) = 1)
    (reauth : after.reauthClaims = consumedRows use now store.reauthClaims) :
    Spent use.digest after := by
  obtain ⟨row, member, meets⟩ := exists_of_countP_one one
  refine ⟨{ row with consumedAt := some now }, ?_, (ClaimUse.met meets).1, by simp⟩
  rw [reauth]
  exact List.mem_map.mpr ⟨row, member, by rw [if_pos meets]⟩

/-- A consumed claim stays in the table, consumed. -/
theorem Spent.step {digest : Bytes} (store : Store) (attempt : Attempt)
    (spent : Spent digest store) : Spent digest (storeAfter codec store attempt) := by
  obtain ⟨row, member, named, consumed⟩ := spent
  have mapped (use : ClaimUse) (now : Int) (after : Store)
      (reauth : after.reauthClaims = consumedRows use now store.reauthClaims) :
      Spent digest after := by
    refine ⟨row, ?_, named, consumed⟩
    rw [reauth]
    refine List.mem_map.mpr ⟨row, member, if_neg ?_⟩
    intro meets
    exact consumed (ClaimUse.met meets).2.2.2.2.2.2
  have effect := @claims_attempt codec store attempt
  generalize storeAfter codec store attempt = after at effect ⊢
  cases effect with
  | kept same failed =>
    refine ⟨row, ?_, named, consumed⟩
    rw [(Prod.mk.inj same).1]
    exact member
  | issued sessionToken subject purpose token asked fresh tables =>
    refine ⟨row, ?_, named, consumed⟩
    rw [(Prod.mk.inj tables).1]
    exact List.mem_append_left _ member
  | steppedUp _ _ _ _ _ _ _ _ _ tables | cleaned _ _ tables =>
    refine ⟨row, ?_, named, consumed⟩
    rw [(Prod.mk.inj tables).1]
    exact member
  | consumed use _ _ _ _ tables _ | consumedBoth use _ _ _ _ _ _ tables _ =>
    exact mapped use _ after (Prod.mk.inj tables).1

/-- A call with an additional claim that succeeds has met one row and consumed it. -/
theorem consumedAdditional_of_ok {store after : Store} {now : Int}
    {result : Except AgentError Answer} (effect : ClaimEffect codec now store call result after)
    (asked : Call.additional call = some (authorization, claim))
    (ok : ∃ answer, result = .ok answer) :
    store.additionalClaims.countP
        (meetsAdditional codec { authorization with now := now } claim) = 1 ∧
      after.additionalClaims = consumedAdditional codec { authorization with now := now } claim
        store.additionalClaims := by
  obtain ⟨use, uses⟩ : ∃ use, Call.uses codec call = some use := by
    cases call <;> first | exact ⟨_, rfl⟩ | cases asked
  cases effect with
  | kept same failed =>
    obtain ⟨answer, rfl⟩ := ok
    obtain ⟨error, impossible⟩ := failed (by simp [uses])
    cases impossible
  | issued _ _ _ _ named _ _ | steppedUp _ _ _ _ _ _ _ named _ _ =>
    rw [named] at uses
    cases uses
  | consumed other keep named alone one tables answered =>
    rw [asked] at alone
    cases alone
  | consumedBoth other named token used both one additional tables answered =>
    rw [asked] at both
    cases both
    exact ⟨additional, (Prod.mk.inj tables).2⟩
  | cleaned keep unused tables =>
    rw [unused] at uses
    cases uses

/-- The call issues an additional claim under the digest. -/
def StepsUp (codec : AgentCodec) (digest : Bytes) (call : Call) : Prop :=
  ∃ sessionToken subject reauthToken planHash code opened token,
    call = .issueOperationClaim sessionToken subject reauthToken planHash code opened
      (some token) ∧ additionalClaimDigest codec token = digest

theorem noneOpen_consumedAdditional {store after : Store}
    (unique : (store.additionalClaims.map AdditionalClaimRow.tokenDigest).Nodup)
    (one : store.additionalClaims.countP (meetsAdditional codec authorization claim) = 1)
    (additional : after.additionalClaims =
      consumedAdditional codec authorization claim store.additionalClaims) :
    NoneOpen (additionalClaimDigest codec claim) after := by
  obtain ⟨met, present, meets⟩ := exists_of_countP_one one
  intro row member named
  rw [additional] at member
  obtain ⟨old, before, rfl⟩ := List.mem_map.mp member
  -- The row that was met is the only one under its digest.
  have same : old = met := by
    refine eq_of_column_eq unique before present ?_
    rw [(meetsAdditional_met meets).1]
    split at named <;> exact named
  subst same
  rw [if_pos meets]
  simp

/-- Only another issue under the digest opens it again. -/
theorem NoneOpen.step {digest : Bytes} {store : Store} {attempt : Attempt}
    (closed : NoneOpen digest store) (other : ¬StepsUp codec digest attempt.call) :
    NoneOpen digest (storeAfter codec store attempt) := by
  have effect := @claims_attempt codec store attempt
  generalize storeAfter codec store attempt = after at effect ⊢
  intro row member named
  cases effect with
  | kept same failed =>
    rw [(Prod.mk.inj same).2] at member
    exact closed row member named
  | issued sessionToken subject purpose token asked fresh tables =>
    rw [(Prod.mk.inj tables).2] at member
    exact closed row member named
  | steppedUp sessionToken subject reauthToken planHash code opened token asked fresh tables =>
    rw [(Prod.mk.inj tables).2] at member
    rcases List.mem_append.mp member with old | new
    · exact closed row old named
    · rw [List.mem_singleton.mp new] at named
      exact absurd ⟨sessionToken, subject, reauthToken, planHash, code, opened, token, asked,
        named⟩ other
  | consumed _ _ _ _ _ tables _ | cleaned _ _ tables =>
    rw [(Prod.mk.inj tables).2] at member
    exact closed row (List.mem_filter.mp member).1 named
  | consumedBoth use authorization claim uses both one met tables answered =>
    rw [(Prod.mk.inj tables).2] at member
    obtain ⟨old, before, rfl⟩ := List.mem_map.mp member
    split
    · simp
    · rename_i unmet
      rw [if_neg unmet] at named
      exact closed old before named

theorem noneOpen_run {digest : Bytes} {store : Store} (closed : NoneOpen digest store)
    (others : ∀ attempt ∈ attempts, ¬StepsUp codec digest attempt.call) :
    NoneOpen digest (run codec store attempts) := by
  induction attempts generalizing store with
  | nil => exact closed
  | cons attempt rest ih =>
    exact ih (closed.step (others attempt (List.mem_cons_self ..)))
      fun later member => others later (List.mem_cons_of_mem _ member)

/-! ### The law of claims -/

/-- What is required of a run: a reauthentication claim is consumed once, for what it was issued
for and before its end; so is an additional claim; where one is required both are consumed or
none; and a call that uses a claim and fails leaves the claims as they were. -/
structure SingleUseHolds (codec : AgentCodec) (attempts : List Attempt) : Prop where
  once : ∀ earlier first middle second later use other,
    attempts = earlier ++ first :: (middle ++ second :: later) →
    Call.uses codec first.call = some use → Call.uses codec second.call = some other →
    use.digest = other.digest → Succeeds codec earlier first →
    ¬Succeeds codec (earlier ++ first :: middle) second
  bound : ∀ earlier attempt later use, attempts = earlier ++ attempt :: later →
    Call.uses codec attempt.call = some use → Succeeds codec earlier attempt →
    ∃ issue ∈ earlier, ∃ sessionToken subject purpose token,
      issue.call = .issueReauthClaim sessionToken subject purpose (some token) ∧
      use = claimUse codec sessionToken subject.uid (reauthContext purpose).1
        (reauthContext purpose).2 token ∧
      attempt.now < issue.now + reauthClaimMs
  onceAdditional : ∀ earlier first middle second later use claim other again,
    attempts = earlier ++ first :: (middle ++ second :: later) →
    Call.additional first.call = some (use, claim) →
    Call.additional second.call = some (other, again) →
    additionalClaimDigest codec claim = additionalClaimDigest codec again →
    Succeeds codec earlier first → Succeeds codec (earlier ++ first :: middle) second →
    ∃ issue ∈ middle, StepsUp codec (additionalClaimDigest codec claim) issue.call
  boundAdditional : ∀ earlier attempt later use claim, attempts = earlier ++ attempt :: later →
    Call.additional attempt.call = some (use, claim) → Succeeds codec earlier attempt →
    ∃ issue ∈ earlier, ∃ sessionToken subject reauthToken planHash code opened token,
      issue.call = .issueOperationClaim sessionToken subject reauthToken planHash code opened
        (some token) ∧
      additionalClaimDigest codec claim = additionalClaimDigest codec token ∧
      claimDigest codec use.reauthToken = claimDigest codec reauthToken ∧
      sessionDigest codec use.sessionToken = sessionDigest codec sessionToken ∧
      use.subject.uid = subject.uid ∧ use.planHash = planHash ∧
      attempt.now < issue.now + claimTtlMs
  together : ∀ earlier attempt later authorization, attempts = earlier ++ attempt :: later →
    attempt.call = .consumeOperationClaims authorization →
    authorization.additionalAuthRequired = true →
    claimTables (run codec emptyStore (earlier ++ [attempt])) =
        claimTables (run codec emptyStore earlier) ∨
      ∃ use claim, Call.uses codec attempt.call = some use ∧
        authorization.additionalAuthClaim = some claim ∧
        (run codec emptyStore earlier).reauthClaims.countP (use.meets attempt.now) = 1 ∧
        (run codec emptyStore earlier).additionalClaims.countP
          (meetsAdditional codec { authorization with now := attempt.now } claim) = 1 ∧
        claimTables (run codec emptyStore (earlier ++ [attempt])) =
          (consumedRows use attempt.now (run codec emptyStore earlier).reauthClaims,
            consumedAdditional codec { authorization with now := attempt.now } claim
              (run codec emptyStore earlier).additionalClaims)
  failure : ∀ earlier attempt later use error, attempts = earlier ++ attempt :: later →
    Call.uses codec attempt.call = some use →
    resultOf codec (run codec emptyStore earlier) attempt = .error error →
    claimTables (run codec emptyStore (earlier ++ [attempt])) =
      claimTables (run codec emptyStore earlier)

theorem run_snoc (earlier : List Attempt) (attempt : Attempt) :
    run codec emptyStore (earlier ++ [attempt]) =
      storeAfter codec (run codec emptyStore earlier) attempt := by
  rw [run_append]
  rfl

theorem saturatingAdd_le (value amount : Int) : saturatingAdd value amount ≤ value + amount := by
  unfold saturatingAdd
  omega

/-- A call that uses a claim and fails leaves the claims, if the end of an enrollment that is begun
at its time can be written out. -/
theorem claims_failure {store : Store} {attempt : Attempt} {use : ClaimUse} {error : AgentError}
    (uses : Call.uses codec attempt.call = some use)
    (failed : resultOf codec store attempt = .error error)
    (written : attempt.now < 2 ^ 63 - 1 → EndWritten codec attempt.now)
    (bounded : ∀ row ∈ store.reauthClaims, row.expiresAt ≤ 2 ^ 63 - 1) :
    claimTables (storeAfter codec store attempt) = claimTables store := by
  have effect := @claims_attempt codec store attempt
  rw [failed] at effect
  generalize storeAfter codec store attempt = after at effect ⊢
  cases effect with
  | kept same _ => exact same
  | issued _ _ _ _ asked _ _ | steppedUp _ _ _ _ _ _ _ asked _ _ =>
    rw [asked] at uses
    cases uses
  | consumed other keep named alone one tables answered =>
    rcases answered with ⟨answer, impossible⟩ | unwritten
    · cases impossible
    · -- The claim that was met ends after the call, so the clock is not at its very end.
      obtain ⟨row, member, meets⟩ := exists_of_countP_one one
      have expiry := (ClaimUse.met meets).2.2.2.2.2.1
      have latest := bounded row member
      exact absurd (written (by omega)) unwritten
  | consumedBoth other authorization claim named both one met tables answered =>
    obtain ⟨answer, impossible⟩ := answered
    cases impossible
  | cleaned keep unused tables =>
    rw [unused] at uses
    cases uses

theorem expiries_bounded :
    ∀ row ∈ (run codec emptyStore attempts).reauthClaims, row.expiresAt ≤ 2 ^ 63 - 1 := by
  intro row member
  obtain ⟨issue, -, sessionToken, subject, purpose, token, -, same⟩ :=
    (backed_run attempts).issued row member
  have expiry : row.expiresAt = saturatingAdd issue.now reauthClaimMs := by
    simp only [issuedClaim, ReauthClaimRow.mk.injEq] at same
    exact same.2.2.2.2.2.1
  rw [expiry]
  unfold saturatingAdd
  omega

/-- Where an additional claim is required, both claims are consumed or none. -/
theorem consumed_together {store : Store} {now : Int}
    (required : authorization.additionalAuthRequired = true) :
    Outcome (perform codec now (.consumeOperationClaims authorization)) store fun _ after =>
      claimTables after = claimTables store ∨
        ∃ use claim, Call.uses codec (.consumeOperationClaims authorization) = some use ∧
          authorization.additionalAuthClaim = some claim ∧
          store.reauthClaims.countP (use.meets now) = 1 ∧
          store.additionalClaims.countP
            (meetsAdditional codec { authorization with now := now } claim) = 1 ∧
          claimTables after = (consumedRows use now store.reauthClaims,
            consumedAdditional codec { authorization with now := now } claim
              store.additionalClaims) := by
  refine outcome_map (consumeOperationClaims_spec.mono ?_)
  rintro result after (⟨rfl, -⟩ | ⟨-, one, ⟨absent, -⟩ | ⟨claim, -, claimed, other, rfl⟩⟩)
  · exact .inl rfl
  · rw [show authorization.additionalAuthRequired = false from absent] at required
    cases required
  · exact .inr ⟨_, claim, rfl, claimed, one, other, rfl⟩

/-- The law holds of a run if the end of an enrollment can be written out at its times. -/
theorem singleUse_of_written
    (written : ∀ attempt ∈ attempts, attempt.now < 2 ^ 63 - 1 → EndWritten codec attempt.now) :
    SingleUseHolds codec attempts where
  once := by
    intro earlier first middle second later use other parts uses again same ok repeated
    obtain ⟨one, reauth⟩ := consumed_of_ok claims_attempt uses ok
    have spent := spent_consumedRows one reauth
    have still : Spent use.digest (run codec emptyStore (earlier ++ first :: middle)) := by
      rw [run_append, run_cons]
      exact @run_induction codec (Spent use.digest) (fun store attempt => Spent.step store attempt)
        _ middle spent
    obtain ⟨row, member, named, consumed⟩ := still
    obtain ⟨met, -⟩ := consumed_of_ok claims_attempt again repeated
    obtain ⟨fresh, present, meets⟩ := exists_of_countP_one met
    have facts := ClaimUse.met meets
    have equal := eq_of_column_eq (backed_run (earlier ++ first :: middle)).unique member present
      (named.trans (same.trans facts.1.symm))
    rw [equal] at consumed
    exact consumed facts.2.2.2.2.2.2
  bound := by
    intro earlier attempt later use parts uses ok
    obtain ⟨one, -⟩ := consumed_of_ok claims_attempt uses ok
    obtain ⟨row, member, meets⟩ := exists_of_countP_one one
    obtain ⟨issue, inRun, sessionToken, subject, purpose, token, asked, same⟩ :=
      (backed_run earlier).issued row member
    obtain ⟨digest, session, uid, kind, context, expiry, -⟩ := ClaimUse.met meets
    simp only [issuedClaim, ReauthClaimRow.mk.injEq] at same
    obtain ⟨digest', session', uid', kind', context', expiry', -⟩ := same
    refine ⟨issue, inRun, sessionToken, subject, purpose, token, asked, ?_, ?_⟩
    · obtain ⟨useDigest, useSession, useUid, usePurpose, useContext⟩ := use
      simp only [claimUse, ClaimUse.mk.injEq]
      exact ⟨digest.symm.trans digest', session.symm.trans session', uid.symm.trans uid',
        kind.symm.trans kind', context.symm.trans context'⟩
    · have latest := saturatingAdd_le issue.now reauthClaimMs
      omega
  onceAdditional := by
    intro earlier first middle second later use claim other again parts asked askedAgain same ok
      repeated
    by_contra unissued
    have others : ∀ attempt ∈ middle,
        ¬StepsUp codec (additionalClaimDigest codec claim) attempt.call :=
      fun attempt member steps => unissued ⟨attempt, member, steps⟩
    obtain ⟨one, additional⟩ := consumedAdditional_of_ok claims_attempt asked ok
    have closed :=
      noneOpen_consumedAdditional (backed_run earlier).uniqueAdditional one additional
    have still : NoneOpen (additionalClaimDigest codec claim)
        (run codec emptyStore (earlier ++ first :: middle)) := by
      rw [run_append, run_cons]
      exact noneOpen_run closed others
    obtain ⟨met, -⟩ := consumedAdditional_of_ok claims_attempt askedAgain repeated
    obtain ⟨row, member, meets⟩ := exists_of_countP_one met
    have facts := meetsAdditional_met meets
    exact still row member (facts.1.trans same.symm) facts.2.2.2.2.2.2
  boundAdditional := by
    intro earlier attempt later use claim parts asked ok
    obtain ⟨one, -⟩ := consumedAdditional_of_ok claims_attempt asked ok
    obtain ⟨row, member, meets⟩ := exists_of_countP_one one
    obtain ⟨issue, inRun, sessionToken, subject, reauthToken, planHash, code, opened, token, named,
      same⟩ := (backed_run earlier).steppedUp row member
    obtain ⟨digest, reauth, session, uid, context, expiry, -⟩ := meetsAdditional_met meets
    simp only [steppedUpClaim, AdditionalClaimRow.mk.injEq] at same
    obtain ⟨digest', reauth', session', uid', context', expiry', -⟩ := same
    refine ⟨issue, inRun, sessionToken, subject, reauthToken, planHash, code, opened, token, named,
      digest.symm.trans digest', reauth.symm.trans reauth', session.symm.trans session',
      uid.symm.trans uid', context.symm.trans context', ?_⟩
    have latest := saturatingAdd_le issue.now claimTtlMs
    dsimp only at expiry
    omega
  together := by
    rintro earlier ⟨call, now, faults⟩ later authorization parts rfl required
    rw [run_snoc]
    exact consumed_together required faults
  failure := by
    intro earlier attempt later use error parts uses failed
    rw [run_snoc]
    exact claims_failure uses failed (written attempt (by simp [parts])) expiries_bounded

/-! ### An enrollment whose end cannot be written out -/

theorem length_flatMap_hexByte (bytes : Bytes) :
    (bytes.flatMap hexByte).length = 2 * bytes.length := by
  induction bytes with
  | nil => rfl
  | cons byte rest ih =>
    rw [List.flatMap_cons, List.length_append, ih]
    simp only [hexByte, List.length_cons, List.length_nil]
    omega

theorem length_randomHexIdentifier {random : Bytes} (bytes : random.length = 16) :
    (randomHexIdentifier random).length = 32 := by
  unfold randomHexIdentifier
  rw [String.length_ofList, length_flatMap_hexByte, bytes]

/-- Codes with distinct digests are all stored. -/
theorem insertRecoveryCodes_quiet {uid : UInt32} (named : uid ≠ 0) {codes : List String} :
    ∀ store : Store, (store.enrollments.any fun row => row.subjectUid == uid) = true →
      (codes.map (recoveryDigest codec uid)).Nodup →
      (∀ code ∈ codes, ∀ row ∈ store.recoveryCodes,
        row.codeDigest ≠ recoveryDigest codec uid code) →
      ∃ rows, Yields (insertRecoveryCodes codec uid codes) store (.ok ())
        { store with recoveryCodes := rows } := by
  induction codes with
  | nil =>
    intro store enrolled unique fresh
    exact ⟨store.recoveryCodes, Yields.ret _⟩
  | cons code rest ih =>
    intro store enrolled unique fresh
    obtain ⟨first, unique⟩ := List.nodup_cons.mp unique
    have digestLength : (recoveryDigest codec uid code).length = 32 := by
      unfold recoveryDigest
      exact (codec.sha256 _).2
    have inserted : Yields (insertRecoveryCode ⟨uid, recoveryDigest codec uid code, none⟩) store
        (.ok ()) { store with
          recoveryCodes := store.recoveryCodes ++
            [⟨uid, recoveryDigest codec uid code, none⟩] } := by
      refine Yields.insert ?_
      simp only [Bool.and_eq_true, bne_iff_ne, ne_eq, beq_iff_eq, Bool.not_eq_true',
        List.any_eq_false, not_and]
      refine ⟨⟨⟨named, digestLength⟩, enrolled⟩, ?_⟩
      intro row member owner
      exact fresh code (List.mem_cons_self ..) row member
    obtain ⟨rows, stored⟩ := ih { store with recoveryCodes := store.recoveryCodes ++
      [⟨uid, recoveryDigest codec uid code, none⟩] } enrolled unique (by
        intro other member row present
        rcases List.mem_append.mp present with old | new
        · exact fresh other (List.mem_cons_of_mem _ member) row old
        · rw [List.mem_singleton.mp new]
          intro same
          exact first (List.mem_map.mpr ⟨other, member, same.symm⟩))
    exact ⟨rows, inserted.bind stored⟩

/-- The digests of the codes differ. -/
def Distinct (codec : AgentCodec) (material : EnrollmentMaterial) : Prop :=
  ((material.recovery.map recoveryCode).map (recoveryDigest codec Expiry.sampleAdmin.uid)).Nodup

/-- A session and a claim for an enrollment, at one time. -/
def enrollmentAttempts (now : Int) : List Attempt :=
  [⟨.issueSession Expiry.sampleAdmin .recovery (some Expiry.sampleToken), now, []⟩,
    ⟨.issueReauthClaim Expiry.sampleToken Expiry.sampleAdmin .totpEnrollment
      (some Expiry.sampleNextToken), now, []⟩]

def enrollmentAttempt (now : Int) (material : EnrollmentMaterial) : Attempt :=
  ⟨.beginEnrollment Expiry.sampleToken Expiry.sampleAdmin .recovery Expiry.sampleNextToken "host"
    (some material), now, []⟩

/-- The store that the enrollment starts on. -/
def enrollmentStore (codec : AgentCodec) (now : Int) : Store :=
  { emptyStore with
    sessions := [newSession (sessionDigest codec Expiry.sampleToken) Expiry.sampleAdmin .recovery
      now]
    reauthClaims := [issuedClaim codec Expiry.sampleToken Expiry.sampleAdmin .totpEnrollment
      Expiry.sampleNextToken now] }

/-- The session of the attempts. -/
def enrollmentSession (codec : AgentCodec) (now : Int) : SessionRow :=
  newSession (sessionDigest codec Expiry.sampleToken) Expiry.sampleAdmin .recovery now

theorem yields_issueSession {now : Int} :
    ∃ result, Yields (perform codec now
      (.issueSession Expiry.sampleAdmin .recovery (some Expiry.sampleToken))) emptyStore result
      { emptyStore with sessions := [enrollmentSession codec now] } := by
  have ordered : saturatingAdd now 600000 ≤ saturatingAdd now 7200000 := by
    unfold saturatingAdd
    omega
  have named : decide (1 ≤ Expiry.sampleAdmin.username.length) = true := by decide
  have short : decide (Expiry.sampleAdmin.username.length ≤ 64) = true := by decide
  have inserted : Yields (insertSession (enrollmentSession codec now)) emptyStore (.ok ())
      { emptyStore with sessions := [enrollmentSession codec now] } := by
    refine Yields.insert ?_
    simp only [Bool.and_eq_true]
    exact ⟨⟨⟨⟨rfl, named⟩, short⟩, decide_eq_true ordered⟩, rfl⟩
  have stored : Yields (storeSession (sessionDigest codec Expiry.sampleToken) Expiry.sampleAdmin
      .recovery now none false) emptyStore (.ok (.committed ()))
      { emptyStore with sessions := [enrollmentSession codec now] } :=
    Yields.transaction (inserted.bind (Yields.bind (Yields.ret ()) (Yields.ret _)))
  have unprivileged : ¬Expiry.sampleAdmin.uid = 0 := by decide
  obtain ⟨result, last⟩ := @Yields.last _ _
    { emptyStore with sessions := [enrollmentSession codec now] } _
    (IssuedSession.mk Expiry.sampleToken)
  exact ⟨_, Yields.map _ ((Yields.passes unprivileged).bind ((Yields.select _).bind
    ((Yields.check (drawn (some Expiry.sampleToken))).bind (stored.bind last))))⟩

theorem yields_issueReauthClaim {now : Int} :
    ∃ result, Yields (perform codec now (.issueReauthClaim Expiry.sampleToken Expiry.sampleAdmin
      .totpEnrollment (some Expiry.sampleNextToken)))
      { emptyStore with sessions := [enrollmentSession codec now] } result
      (enrollmentStore codec now) := by
  have inserted : Yields (insertReauthClaim (issuedClaim codec Expiry.sampleToken
      Expiry.sampleAdmin .totpEnrollment Expiry.sampleNextToken now))
      { emptyStore with sessions := [enrollmentSession codec now] } (.ok ())
      (enrollmentStore codec now) := by
    refine Yields.insert ?_
    simp [issuedClaim, enrollmentSession, newSession, Expiry.sampleAdmin, emptyStore]
  obtain ⟨result, last⟩ := @Yields.last _ _ (enrollmentStore codec now) _
    (ReauthClaim.mk Expiry.sampleNextToken)
  exact ⟨_, Yields.map _ ((Yields.check (drawn (some Expiry.sampleNextToken))).bind
    (inserted.bind last))⟩

theorem run_enrollmentAttempts (now : Int) :
    run codec emptyStore (enrollmentAttempts now) = enrollmentStore codec now := by
  obtain ⟨first, issued⟩ := @yields_issueSession codec now
  obtain ⟨second, claimed⟩ := @yields_issueReauthClaim codec now
  unfold Yields at issued claimed
  unfold enrollmentAttempts
  rw [run_cons, run_cons, run_nil]
  unfold storeAfter
  rw [issued, claimed]

/-- The claim of the attempts, for the enrollment. -/
def enrollmentUse (codec : AgentCodec) : ClaimUse :=
  claimUse codec Expiry.sampleToken Expiry.sampleAdmin.uid .totpEnrollment "totp/v1"
    Expiry.sampleNextToken

theorem enrollmentUse_meets {now : Int} (early : now < 2 ^ 63 - 1) :
    (enrollmentUse codec).meets now (issuedClaim codec Expiry.sampleToken Expiry.sampleAdmin
      .totpEnrollment Expiry.sampleNextToken now) = true := by
  have lasting : now < saturatingAdd now reauthClaimMs := by
    unfold saturatingAdd reauthClaimMs
    omega
  simp [enrollmentUse, claimUse, ClaimUse.meets, meetsClaim, issuedClaim, reauthContext, lasting]

/-- The claim is consumed, and then the end cannot be written out. -/
theorem yields_beginEnrollment {now : Int} {material : EnrollmentMaterial}
    (early : now < 2 ^ 63 - 1) (unwritten : ¬EndWritten codec now)
    (distinct : Distinct codec material) :
    ∃ after, Yields (beginEnrollment codec Expiry.sampleToken Expiry.sampleAdmin .recovery
        Expiry.sampleNextToken "host" now (some material)) (enrollmentStore codec now)
        (.error .storage) after ∧
      after.reauthClaims = consumedRows (enrollmentUse codec) now
        (enrollmentStore codec now).reauthClaims := by
  have met := @enrollmentUse_meets codec now early
  have consumed : Yields (consumeReauthClaim codec Expiry.sampleToken Expiry.sampleAdmin.uid
      .totpEnrollment "totp/v1" Expiry.sampleNextToken now) (enrollmentStore codec now) (.ok ())
      { enrollmentStore codec now with
        reauthClaims := consumedRows (enrollmentUse codec) now
          (enrollmentStore codec now).reauthClaims } := by
    refine Yields.bind Yields.update (Yields.passes ?_)
    intro other
    apply other
    exact (List.countP_singleton ..).trans (if_pos met)
  let paid : Store := { enrollmentStore codec now with
    reauthClaims := consumedRows (enrollmentUse codec) now
      (enrollmentStore codec now).reauthClaims }
  let row := pendingEnrollment Expiry.sampleAdmin.uid material now
  have inserted : Yields (insertEnrollment row) paid (.ok ())
      { paid with enrollments := [row] } := by
    refine Yields.insert ?_
    have identifier := length_randomHexIdentifier material.identifierBytes
    simp [row, paid, pendingEnrollment, identifier, material.nonceBytes, material.ciphertextBytes,
      enrollmentStore, emptyStore, Expiry.sampleAdmin]
  obtain ⟨rows, coded⟩ := @insertRecoveryCodes_quiet codec Expiry.sampleAdmin.uid (by decide)
    (material.recovery.map recoveryCode) { paid with enrollments := [row] }
    (by simp [row, pendingEnrollment]) distinct (by simp [paid, enrollmentStore, emptyStore])
  have allowed : ¬(IngressChannel.recovery ≠ .recovery ∨ Expiry.sampleAdmin.role ≠ .admin ∨
      Expiry.sampleAdmin.uid = 0) := by decide
  have failed : (formatRfc3339 codec (saturatingAdd now enrollmentTtlMs)).mapError
      (fun _ => AgentError.storage) = .error .storage := by
    unfold formatRfc3339
    rw [Option.not_isSome_iff_eq_none.mp unwritten]
    rfl
  let enrolled : Store := { paid with enrollments := [row], recoveryCodes := rows }
  refine ⟨enrolled, ?_, rfl⟩
  refine (Yields.passes allowed).bind ?_
  refine @Yields.bind _ _ _ enrolled _ _ _ (.committed ()) _ (Yields.transaction ?_)
    (Yields.failed ?_)
  · refine (Yields.select _).bind ?_
    refine (Yields.passes Bool.false_ne_true).bind (consumed.bind ?_)
    exact Yields.execute.bind (inserted.bind (coded.bind (Yields.audit.bind (Yields.ret _))))
  · rw [failed]
    exact Yields.check _

/-- The call of the enrollment fails after the claim was consumed. -/
theorem enrollment_fails {now : Int} {material : EnrollmentMaterial}
    (early : now < 2 ^ 63 - 1) (unwritten : ¬EndWritten codec now)
    (distinct : Distinct codec material) :
    resultOf codec (run codec emptyStore (enrollmentAttempts now))
        (enrollmentAttempt now material) = .error .storage ∧
      claimTables (run codec emptyStore (enrollmentAttempts now ++
        [enrollmentAttempt now material])) ≠
          claimTables (run codec emptyStore (enrollmentAttempts now)) := by
  obtain ⟨after, begun, rows⟩ := yields_beginEnrollment early unwritten distinct
  have ended := Yields.map Answer.enrolling begun
  have result : resultOf codec (enrollmentStore codec now) (enrollmentAttempt now material) =
      .error .storage := congrArg Prod.fst ended
  have stored : storeAfter codec (enrollmentStore codec now) (enrollmentAttempt now material) =
      after := congrArg (fun outcome => outcome.2.store) ended
  rw [run_snoc, run_enrollmentAttempts, stored]
  refine ⟨result, fun same => ?_⟩
  have unchanged := (Prod.mk.inj same).1
  rw [rows] at unchanged
  have consumed := (List.cons.inj unchanged).1
  beta_reduce at consumed
  rw [if_pos (enrollmentUse_meets early)] at consumed
  simp [issuedClaim] at consumed

/-! ### Claims are single-use and bound -/

/-- Ten codes that differ in their last byte. -/
def sampleMaterial : EnrollmentMaterial where
  secret := List.replicate 20 0
  secretNonce := List.replicate 12 0
  secretCiphertext := List.replicate 36 0
  identifier := List.replicate 16 0
  recovery := (List.range 10).map fun index => List.replicate 9 0 ++ [UInt8.ofNat index]
  nonceBytes := rfl
  ciphertextBytes := rfl
  identifierBytes := rfl
  recoveryCount := rfl

theorem distinct_sampleMaterial : Distinct sampleAgentCodec sampleMaterial := by
  unfold Distinct
  decide +kernel

end JwOps.Agentd.SingleUse
