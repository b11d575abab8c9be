/- module: Engine/ServiceControl
   source: crates/jw-opsd/src/service_control.rs, crates/jw-opsd/src/engine/service_operation.rs
   digest: Starting, stopping, restarting and reloading a registered service. -/
import JwOps.Engine.Nginx

set_option autoImplicit false

namespace JwOps.Engine.ServiceControl

open Contracts Ledger Operation Digest Config Schema Writes Reads Interface Nginx Foundation.Program

inductive RegisteredService where
  | nginx | apache | phpFpm83
  deriving DecidableEq, Repr

namespace RegisteredService

def unitName : RegisteredService → String
  | nginx => "nginx.service"
  | apache => "apache2.service"
  | phpFpm83 => "php8.3-fpm.service"

def activeCommand : RegisteredService → CommandClass
  | nginx => .nginxActive
  | apache => .apacheActive
  | phpFpm83 => .phpFpm83Active

def actionCommand : RegisteredService → ManagedServiceAction → CommandClass
  | nginx, .start => .nginxStart
  | nginx, .stop => .nginxStop
  | nginx, .restart => .nginxRestart
  | nginx, .reload => .nginxReload
  | apache, .start => .apacheStart
  | apache, .stop => .apacheStop
  | apache, .restart => .apacheRestart
  | apache, .reload => .apacheReload
  | phpFpm83, .start => .phpFpm83Start
  | phpFpm83, .stop => .phpFpm83Stop
  | phpFpm83, .restart => .phpFpm83Restart
  | phpFpm83, .reload => .phpFpm83Reload

def restoreCommand : RegisteredService → Bool → CommandClass
  | nginx, true => .nginxStart
  | nginx, false => .nginxStop
  | apache, true => .apacheStart
  | apache, false => .apacheStop
  | phpFpm83, true => .phpFpm83Start
  | phpFpm83, false => .phpFpm83Stop

end RegisteredService

section Identities

variable (codec : Codec)

/-- `svc_` followed by the digits of the unit name's digest. -/
def serviceId (unitName : String) : String :=
  "svc_" ++ String.ofList ((codec.sha256 (utf8Bytes unitName)).1.flatMap hexByte)

def serviceStateDigest (unitName : String) (active : Bool) : String :=
  sha256Digest codec (utf8Bytes unitName ++ [0, if active then 1 else 0])

def serviceActionDigest (action : ManagedServiceAction) : String :=
  sha256Digest codec (utf8Bytes action.asStorageValue)

def registeredService (identifier : String) : Except OpsError RegisteredService :=
  match [RegisteredService.nginx, .apache, .phpFpm83].find? fun service =>
    serviceId codec service.unitName == identifier with
  | some service => .ok service
  | none => .error (.rejected "service_not_managed")

def serviceActionFromDigest (value : String) : Except OpsError ManagedServiceAction :=
  match [ManagedServiceAction.start, .stop, .restart, .reload].find? fun action =>
    serviceActionDigest codec action == value with
  | some action => .ok action
  | none => .error .forensicLockdown

def expectedActive (action : ManagedServiceAction) : Bool := action != .stop

/-- The service that a snapshot names, if the snapshot is consistent with it. -/
def snapshotService (snapshot : ServiceStateSnapshot) : Except OpsError RegisteredService := do
  let service ← registeredService codec snapshot.serviceId
  if snapshot.unitName = service.unitName ∧
      snapshot.stateDigest = serviceStateDigest codec service.unitName snapshot.active then
    pure service
  else throw .forensicLockdown

end Identities

variable (runtime : Runtime)

/-! ### Rolling back -/

/-- From the restoring command on. -/
def restoreService (operationId : String) (service : RegisteredService)
    (snapshot : ServiceStateSnapshot) (nowMs : Int) : Ops OperationReceiptView := do
  let restore ← attempt (run (service.restoreCommand snapshot.active))
  let verified ← if succeeded restore then do
      let active ← attempt (run service.activeCommand)
      pure (match active with
        | .ok evidence => evidence.success == snapshot.active
        | .error _ => false)
    else pure false
  let afterDigest := serviceStateDigest runtime.toCodec service.unitName snapshot.active
  let terminal ← transition operationId {
    expected := [.rollingBack]
    next := if verified then .rolledBack else .recoveryRequired
    resultCode := if verified then "service_state_restored" else "service_restore_failed"
    evidenceDigest := afterDigest
    afterDigest := some afterDigest
    rollbackResult := some (if verified then "restored" else "manual_recovery_required")
    nowMs := nowMs }
  receipt terminal.operationId

def rollbackServiceControl (operationId failureCode failureDigest : String) (nowMs : Int) :
    Ops OperationReceiptView := do
  let rolling ← startRollback operationId [.applying, .verifying] failureCode failureDigest nowMs
  match rolling.snapshot with
  | none => throw .forensicLockdown
  | some record => do
  -- an unusable snapshot leaves the operation in `ROLLING_BACK`
  let snapshot ← readSnapshot runtime .serviceState record
  let service ← lift (snapshotService runtime.toCodec snapshot)
  restoreService runtime operationId service snapshot nowMs

/-! ### Executing -/

/-- From the service action on. -/
def actAndVerify (snapshotted : StoredOperation) (service : RegisteredService)
    (action : ManagedServiceAction) (nowMs : Int) : Ops OperationReceiptView := do
  let back (cause evidence : String) :=
    rollbackServiceControl runtime snapshotted.operationId cause evidence nowMs
  let _ ← transition snapshotted.operationId (advance [.snapshotted] .applying
    "service_action_started" (serviceActionDigest runtime.toCodec action) nowMs)
  onError (run (service.actionCommand action))
    (fun error => back error.code (codeDigest runtime error.code)) fun actionEvidence => do
  if !actionEvidence.success then back "service_action_failed" (digestOf runtime actionEvidence)
  else do
  let _ ← transition snapshotted.operationId (advance [.applying] .verifying
    "service_action_completed" (digestOf runtime actionEvidence) nowMs)
  let activeEvidence ← run service.activeCommand
  let afterDigest := serviceStateDigest runtime.toCodec service.unitName activeEvidence.success
  if activeEvidence.success ≠ expectedActive action then
    back "service_state_verification_failed" (digestOf runtime activeEvidence)
  else do
  let succeeded ← transition snapshotted.operationId {
    expected := [.verifying]
    next := .succeeded
    resultCode := "service_state_verified"
    evidenceDigest := digestOf runtime activeEvidence
    afterDigest := some afterDigest
    rollbackResult := none
    nowMs := nowMs }
  receipt succeeded.operationId

/-- Stopping nginx needs the independent management edge. -/
def stopBlocked (service : RegisteredService) (action : ManagedServiceAction) : Ops Bool :=
  if service = .nginx ∧ action = .stop then do
    let ready ← perform (.host .managementEdgeReady) id
    pure !ready
  else pure false

def executeServiceControl (operation : StoredOperation) (nowMs : Int) :
    Ops OperationReceiptView := do
  let service ← lift (registeredService runtime.toCodec operation.plan.siteId)
  let action ← lift (serviceActionFromDigest runtime.toCodec operation.plan.availableDigest)
  let blocked ← stopBlocked service action
  if blocked then
    cancelApproved operation "management_ingress_dependency"
      (codeDigest runtime "management_ingress_dependency") nowMs
  else do
  let before ← run service.activeCommand
  let beforeDigest := serviceStateDigest runtime.toCodec service.unitName before.success
  if beforeDigest ≠ operation.plan.enabledStateDigest ∨
      before.success ≠ (operation.plan.currentState == .enabled) then
    cancelApproved operation "precondition_changed" beforeDigest nowMs
  else do
  let snapshot : ServiceStateSnapshot := {
    schemaVersion := 1
    serviceId := operation.plan.siteId
    unitName := service.unitName
    active := before.success
    stateDigest := beforeDigest }
  onError (writeSnapshot runtime .serviceState operation.operationId snapshot)
    (fun error => cancelApproved operation error.code (codeDigest runtime error.code) nowMs)
    fun record => do
  let snapshotted ← attachSnapshot operation.operationId record nowMs
  actAndVerify runtime snapshotted service action nowMs

end JwOps.Engine.ServiceControl
