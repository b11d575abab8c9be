/- module: Engine/Ufw
   source: crates/jw-opsd/src/ufw.rs, crates/jw-opsd/src/engine/ufw_operation.rs
   digest: Adding and deleting a firewall rule of the product, and undoing it. -/
import JwOps.Engine.Nginx

set_option autoImplicit false

namespace JwOps.Engine.Ufw

open Contracts Ledger Operation Digest Config Schema Writes Reads Interface Nginx Foundation.Program

/-! ### The firewall as observed -/

def ufwRuleMaxEntries : Nat := 256

section Status

variable (runtime : Runtime)

def parseUfwStatus (evidence : CommandEvidence) (observedAt : String) : UfwView :=
  let status := runtime.ufwStatusOf evidence.stdout.captured
  let rules := runtime.ufwRulesOf evidence.stdout.captured
  let truncated := ufwRuleMaxEntries < rules.length || evidence.stdout.truncated
  { observedAt := observedAt
    status := status
    rules := rules.take ufwRuleMaxEntries
    stateDigest := sha256Digest runtime.toCodec evidence.stdout.captured
    truncated := truncated
    mutationAvailable := status == .active && evidence.success && !truncated }

def ufwNotInstalled (observedAt : String) : UfwView where
  observedAt := observedAt
  status := .notInstalled
  rules := []
  stateDigest := sha256Digest runtime.toCodec (utf8Bytes "jw-agent/ufw/not-installed/v1")
  truncated := false
  mutationAvailable := false

def ufwInventory (nowMs : Int) : Ops UfwView := do
  let observedAt ← lift (formatTime runtime.toCodec nowMs)
  let missing ← perform (.host .ufwMissing) .ok
  if missing then pure (ufwNotInstalled runtime observedAt)
  else do
  let evidence ← runUfw .status
  pure (parseUfwStatus runtime evidence observedAt)

end Status

def asciiLower (value : String) : String :=
  String.ofList (value.toList.map fun c => if isAsciiUppercase c then Char.ofNat (c.toNat + 32)
    else c)

def normalizedSource (value : String) : String :=
  if startsWith value "Anywhere" ∨ value = "any" then "any"
  else if " (v6)".toList.reverse.isPrefixOf value.toList.reverse then
    String.ofList (value.toList.take (value.toList.length - 5))
  else value

def ruleMatchesSpec (rule : UfwRuleView) (spec : UfwRuleSpec) : Bool :=
  rule.owned && rule.ruleId == some spec.ruleId && rule.protocol == some spec.protocol &&
    rule.port == some spec.port &&
    normalizedSource rule.source == normalizedSource spec.source &&
    asciiLower rule.action == asciiLower spec.mutation.asStr

def matchingOwnedRule (view : UfwView) (ruleId : String) : Option UfwRuleView :=
  view.rules.find? fun rule => rule.owned && rule.ruleId == some ruleId

/-- The rules that carry an identifier of the product. -/
def rulesOf (rules : List UfwRuleView) (ruleId : String) : List UfwRuleView :=
  rules.filter fun rule => rule.ruleId == some ruleId

def validateResolvedRule (payload : UfwPlanPayload) (inventory : UfwView) :
    Except OpsError Unit :=
  match payload.requestedMutation with
  | .allow | .deny =>
    if (matchingOwnedRule inventory payload.rule.ruleId).isSome then
      .error (.rejected "rule_exists")
    else .ok ()
  | .delete =>
    let current := rulesOf inventory.rules payload.rule.ruleId
    if current.length ≠ payload.deleteSequences.length ∨
        current.any (fun rule => !ruleMatchesSpec rule payload.rule || rule.isProtected) then
      .error (.rejected "precondition_changed")
    else .ok ()

def effectVerified (payload : UfwPlanPayload) (inventory : UfwView) : Bool :=
  let found := rulesOf inventory.rules payload.rule.ruleId
  match payload.requestedMutation with
  | .allow | .deny => !found.isEmpty && found.all fun rule => ruleMatchesSpec rule payload.rule
  | .delete => found.isEmpty

def rollbackVerified (payload : UfwPlanPayload) (inventory : UfwView)
    (original : List UfwRuleView) : Bool :=
  let current := rulesOf inventory.rules payload.rule.ruleId
  if original.isEmpty then current.isEmpty
  else current.length == original.length && current.all fun rule =>
    ruleMatchesSpec rule payload.rule

variable (runtime : Runtime)

/-! ### Changing rules -/

def deleteEach : List UInt16 → Ops (List String)
  | [] => pure []
  | sequence :: rest => do
    let evidence ← runUfw (.delete sequence)
    rejectIf (evidence.success = false) (.rejected "rule_apply_failed")
    let digests ← deleteEach rest
    pure (digestOf runtime evidence :: digests)

def deleteSequences (sequences : List UInt16) : Ops String := do
  let digests ← deleteEach runtime sequences
  pure (canonicalDigest runtime.toCodec "jw-agent/ufw-command-evidence/v1"
    (runtime.digestsJson digests))

def applyPayload (payload : UfwPlanPayload) : Ops String :=
  match payload.requestedMutation with
  | .allow | .deny => do
    let evidence ← runUfw (.add payload.rule)
    rejectIf (evidence.success = false) (.rejected "rule_apply_failed")
    pure (digestOf runtime evidence)
  | .delete => deleteSequences runtime payload.deleteSequences

/-- Sequences in descending order, so that a deletion does not renumber the rest. -/
def descending (sequences : List UInt16) : List UInt16 :=
  sequences.insertionSort (· ≥ ·)

def deleteExisting (sequences : List UInt16) : Ops Unit :=
  if sequences.isEmpty then pure ()
  else do
    let _ ← deleteSequences runtime sequences

def addOriginal (payload : UfwPlanPayload) (original : List UfwRuleView) : Ops Unit :=
  if original.isEmpty then pure ()
  else do
    let evidence ← runUfw (.add payload.rule)
    rejectIf (evidence.success = false) (.rejected "rule_rollback_failed")

def restoreProductEffect (payload : UfwPlanPayload) (original : List UfwRuleView) :
    Ops Unit := do
  let currentEvidence ← runUfw .status
  let current := parseUfwStatus runtime currentEvidence ""
  let sequences := descending
    ((rulesOf current.rules payload.rule.ruleId).map UfwRuleView.sequence)
  deleteExisting runtime sequences
  addOriginal payload original

/-! ### Rolling back -/

/-- From the snapshot's rules on. -/
def restoreRule (operationId : String) (payload : UfwPlanPayload) (original : List UfwRuleView)
    (nowMs : Int) : Ops OperationReceiptView := do
  let restoredView ← attempt (do
    restoreProductEffect runtime payload original
    ufwInventory runtime nowMs)
  let restored := match restoredView with
    | .ok view => rollbackVerified payload view original
    | .error _ => false
  let afterView ← attempt (ufwInventory runtime nowMs)
  let after := match afterView with
    | .ok view => view.stateDigest
    | .error _ => codeDigest runtime "ufw_read_back_failed"
  let terminal ← transition operationId {
    expected := [.rollingBack]
    next := if restored then .rolledBack else .recoveryRequired
    resultCode := if restored then "ufw_rule_restored" else "rule_rollback_failed"
    evidenceDigest := after
    afterDigest := some after
    rollbackResult := some (if restored then "restored" else "manual_recovery_required")
    nowMs := nowMs }
  receipt terminal.operationId

def rollbackUfwRule (operationId failureCode failureDigest : String) (nowMs : Int) :
    Ops OperationReceiptView := do
  let rolling ← startRollback operationId [.applying, .verifying, .validating, .reloading]
    failureCode failureDigest nowMs
  match rolling.plan.ufwRule, rolling.snapshot with
  | none, _ => throw .forensicLockdown
  | some _, none => throw .forensicLockdown
  | some payload, some record => do
  -- an unusable snapshot leaves the operation in `ROLLING_BACK`
  let snapshot ← readSnapshot runtime .ufwRules record
  restoreRule runtime operationId payload (rulesOf snapshot.rules payload.rule.ruleId) nowMs

/-! ### Executing -/

/-- From the firewall command on. -/
def applyRule (operation : StoredOperation) (payload : UfwPlanPayload) (record : SnapshotRecord)
    (nowMs : Int) : Ops OperationReceiptView := do
  let _ ← transition operation.operationId (advance [.snapshotted] .applying
    "ufw_rule_apply_started" record.digest nowMs)
  onError (applyPayload runtime payload)
    (fun error => rollbackUfwRule runtime operation.operationId error.code
      (codeDigest runtime error.code) nowMs) fun applyDigest => do
  let _ ← transition operation.operationId (advance [.applying] .verifying
    "ufw_rule_applied" applyDigest nowMs)
  let after ← ufwInventory runtime nowMs
  if !effectVerified payload after then
    rollbackUfwRule runtime operation.operationId "rule_verify_failed" after.stateDigest nowMs
  else do
  let succeeded ← transition operation.operationId {
    expected := [.verifying]
    next := .succeeded
    resultCode := "ufw_rule_verified"
    evidenceDigest := after.stateDigest
    afterDigest := some after.stateDigest
    rollbackResult := none
    nowMs := nowMs }
  receipt succeeded.operationId

def executeUfwRule (operation : StoredOperation) (nowMs : Int) : Ops OperationReceiptView := do
  match operation.plan.ufwRule with
  | none => throw .forensicLockdown
  | some payload => do
  let before ← ufwInventory runtime nowMs
  if before.status ≠ .active ∨ before.stateDigest ≠ operation.plan.enabledStateDigest then
    cancelApproved operation "precondition_changed" before.stateDigest nowMs
  else do
  lift (validateResolvedRule payload before)
  onError (writeSnapshot runtime .ufwRules operation.operationId
      ⟨1, before.stateDigest, before.rules⟩)
    (fun error => cancelApproved operation error.code (codeDigest runtime error.code) nowMs)
    fun record => do
  let _ ← attachSnapshot operation.operationId record nowMs
  applyRule runtime operation payload record nowMs

end JwOps.Engine.Ufw
