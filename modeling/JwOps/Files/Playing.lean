/- module: Files/Playing
   source: crates/jw-opsd/src/{managed_config,nginx,snapshot}.rs
   digest: A host that answers every call from its tree, and snapshots that read back. -/
import JwOps.Files.Server
import JwOps.Foundation.Wire

set_option autoImplicit false

namespace JwOps.Files.Playing

open Contracts Lifecycle Operation Digest Config Engine.Interface Sites Managed Server Foundation
open Foundation.Files Runs Sessions

/-! ### Snapshots -/

def protocolWire : Wire UfwProtocol :=
  Wire.bool.along (· == .tcp) (fun tcp => if tcp then .tcp else .udp) fun value => by
    cases value <;> rfl

def word16 : Wire UInt16 :=
  (Wire.byte.pair Wire.byte).along (fun value => (.ofNat (value.toNat / 256), .ofNat value.toNat))
    (fun digits => .ofNat (digits.1.toNat * 256 + digits.2.toNat)) fun value => by
      have small := value.toNat_lt
      have digits : value.toNat / 256 % 256 * 256 + value.toNat % 256 = value.toNat := by omega
      simp only [UInt8.toNat_ofNat', Nat.reducePow]
      rw [digits, UInt16.ofNat_toNat]

def word32 : Wire UInt32 :=
  Wire.nat.along UInt32.toNat UInt32.ofNat fun _ => UInt32.ofNat_toNat

def ruleWire : Wire UfwRuleView :=
  (word16.pair ((Wire.option Wire.string).pair (Wire.string.pair ((Wire.option protocolWire).pair
    ((Wire.option word16).pair (Wire.string.pair (Wire.string.pair (Wire.bool.pair
      (Wire.bool.pair (Wire.bool.pair Wire.string)))))))))).along
    (fun rule => (rule.sequence, rule.ruleId, rule.action, rule.protocol, rule.port, rule.source,
      rule.destination, rule.ipv6, rule.owned, rule.isProtected, rule.summary))
    (fun (sequence, ruleId, action, protocol, port, source, destination, ipv6, owned, isProtected,
      summary) => ⟨sequence, ruleId, action, protocol, port, source, destination, ipv6, owned,
        isProtected, summary⟩)
    fun _ => rfl

/-- An encoding of the snapshots, in place of their JSON. -/
def snapshotWire : (kind : SnapshotKind) → Wire kind.Data
  | .nginxLink =>
    (Wire.nat.pair (Wire.string.pair (Wire.string.pair (Wire.bool.pair
      (Wire.string.pair Wire.string))))).along
      (fun (snapshot : NginxLinkSnapshot) => (snapshot.schemaVersion, snapshot.siteId,
        snapshot.basename, snapshot.enabled, snapshot.availableDigest,
        snapshot.enabledStateDigest))
      (fun (schemaVersion, siteId, basename, enabled, availableDigest, enabledStateDigest) =>
        ⟨schemaVersion, siteId, basename, enabled, availableDigest, enabledStateDigest⟩)
      fun _ => rfl
  | .managedConfig =>
    (Wire.nat.pair (Wire.string.pair (Wire.string.pair ((Wire.list Wire.byte).pair
      (Wire.string.pair (Wire.string.pair (Wire.nat.pair (Wire.nat.pair Wire.nat)))))))).along
      (fun (snapshot : ManagedConfigSnapshot) => (snapshot.schemaVersion, snapshot.resourceId,
        snapshot.basename, snapshot.content, snapshot.contentDigest, snapshot.metadataDigest,
        snapshot.mode, snapshot.uid, snapshot.gid))
      (fun (schemaVersion, resourceId, basename, content, contentDigest, metadataDigest, mode, uid,
        gid) => ⟨schemaVersion, resourceId, basename, content, contentDigest, metadataDigest, mode,
          uid, gid⟩)
      fun _ => rfl
  | .certificateInventory =>
    (Wire.nat.pair (Wire.string.pair (Wire.bool.pair (Wire.bool.pair word32)))).along
      (fun (snapshot : CertificateInventorySnapshot) => (snapshot.schemaVersion,
        snapshot.inventoryDigest, snapshot.timerEnabled, snapshot.timerActive,
        snapshot.certificateCount))
      (fun (schemaVersion, inventoryDigest, timerEnabled, timerActive, certificateCount) =>
        ⟨schemaVersion, inventoryDigest, timerEnabled, timerActive, certificateCount⟩)
      fun _ => rfl
  | .serviceState =>
    (Wire.nat.pair (Wire.string.pair (Wire.string.pair (Wire.bool.pair Wire.string)))).along
      (fun (snapshot : ServiceStateSnapshot) => (snapshot.schemaVersion, snapshot.serviceId,
        snapshot.unitName, snapshot.active, snapshot.stateDigest))
      (fun (schemaVersion, serviceId, unitName, active, stateDigest) =>
        ⟨schemaVersion, serviceId, unitName, active, stateDigest⟩)
      fun _ => rfl
  | .ufwRules =>
    (Wire.nat.pair (Wire.string.pair (Wire.list ruleWire))).along
      (fun (snapshot : UfwSnapshot) => (snapshot.schemaVersion, snapshot.stateDigest,
        snapshot.rules))
      (fun (schemaVersion, stateDigest, rules) => ⟨schemaVersion, stateDigest, rules⟩)
      fun _ => rfl

/-- The sample daemon with snapshots that can be read. -/
def wireRuntime : Runtime :=
  { sampleRuntime with
    snapshotJson := fun kind => (snapshotWire kind).write
    parseSnapshot := fun kind => (snapshotWire kind).decode }

theorem wireRuntime_readable (kind : SnapshotKind) (snapshot : kind.Data) :
    wireRuntime.parseSnapshot kind (wireRuntime.snapshotJson kind snapshot) = some snapshot :=
  (snapshotWire kind).decode_write snapshot

/-! ### Answering from the tree -/

def store (host : Host) (file : PrivateFile) (bytes : Option Bytes) : Host :=
  { host with vault := Function.update host.vault file bytes }

def put (host : Host) (path : Path) : Option (Node OsName) → Host
  | some node => { host with tree := host.tree.put path node }
  | none => { host with tree := host.tree.erase path }

theorem stores_store {host : Host} {file : PrivateFile} {bytes : Option Bytes} :
    Stores host (store host file bytes) file bytes :=
  ⟨rfl, rfl⟩

theorem puts_put (host : Host) (path : Path) (node : Option (Node OsName)) :
    Puts host (put host path node) path node := by
  cases node with
  | none =>
    refine ⟨funext fun other => ?_, rfl⟩
    rw [Function.update_apply]
    exact FileTree.lookup_erase other
  | some node =>
    refine ⟨funext fun other => ?_, rfl⟩
    rw [Function.update_apply]
    exact FileTree.lookup_put other

def found (bytes : Option Bytes) : Except OpsError Bytes :=
  match bytes with
  | some bytes => .ok bytes
  | none => .error ioError

section Play

variable (runtime : Runtime) (outcome : Host → CommandClass → Bool)

/-- Every call succeeds if it can; what a command reports is given. -/
def playTree (host : Host) : (call : HostCall) → call.Answer × Host
  | .run command => (.ok (sampleEvidence command (outcome host command)), host)
  | .discoverSite siteId => (discoverSite runtime.toCodec runtime.paths host.tree siteId, host)
  | .readEnabled basename => (readEnabled runtime.paths host.tree basename, host)
  | .readAvailableContent basename =>
    ((readAvailableContent runtime.paths host.tree basename).map Prod.fst, host)
  | .discoverManagedConfig resourceId =>
    (discoverManagedConfig runtime.toCodec runtime.paths host.tree resourceId, host)
  | .discoverProtectedConfig siteId =>
    (discoverProtectedConfig runtime.toCodec runtime.paths host.tree siteId, host)
  | .storeSnapshotFile operationId fileName bytes =>
    (.ok bytes, store host (.snapshot (operationId ++ "/" ++ fileName)) (some bytes))
  | .readSnapshotFile relativePath _ => (found (host.vault (.snapshot relativePath)), host)
  | .storeProposalFile planId content =>
    (.ok (), store host (.proposal (planId ++ "/content")) (some content))
  | .readProposalFile relativePath => (found (host.vault (.proposal relativePath)), host)
  | .removeProposalFile relativePath => (.ok (), store host (.proposal relativePath) none)
  | .cleanupInternalTemporaries =>
    let swept := cleanupInternalTemporaries runtime.paths host.tree
    (swept.1, { host with tree := swept.2 })
  | .createLink basename =>
    let path := joinPath runtime.paths.nginxEnabled basename
    match host.tree.lookup path with
    | none => (.ok (), put host path (some (.symlink (enabledLink basename))))
    | some _ => (.error ioError, host)
  | .removeLink basename =>
    let path := joinPath runtime.paths.nginxEnabled basename
    match host.tree.lookup path with
    | none => (.error ioError, host)
    | some _ => (.ok (), put host path none)
  | .createNew path =>
    match host.tree.lookup path with
    | none => (.ok (), put host path (some (.file ⟨0o600, 0, 0, 1⟩ [])))
    | some _ => (.error ioError, host)
  | .setFileMode path mode =>
    match host.tree.lookup path with
    | some (.file attributes content) =>
      (.ok (), put host path (some (.file { attributes with mode := mode } content)))
    | _ => (.error ioError, host)
  | .setFileOwner path uid gid =>
    match host.tree.lookup path with
    | some (.file attributes content) =>
      (.ok (), put host path (some (.file { attributes with uid := uid, gid := gid } content)))
    | _ => (.error ioError, host)
  | .writeAll path content =>
    match host.tree.lookup path with
    | some (.file attributes _) => (.ok (), put host path (some (.file attributes content)))
    | _ => (.error ioError, host)
  | .rename source destination =>
    match host.tree.lookup source with
    | some node => (.ok (), put (put host source none) destination (some node))
    | none => (.error ioError, host)
  | .removeFile path => (.ok (), put host path none)
  | .syncDirectory _ => (.ok (), host)
  | call => (failing call, host)

end Play

section Plays

variable {runtime : Runtime} {outcome : Host → CommandClass → Bool}

theorem same_self {host : Host} : Same host host := ⟨rfl, rfl⟩

theorem found_ok {bytes : Option Bytes} {value : Bytes} (ok : found bytes = .ok value) :
    bytes = some value := by
  cases bytes with
  | none => cases ok
  | some bytes => exact congrArg some (Except.ok.inj ok)

/-- A host that answers from its tree is one of the hosts that the model allows. -/
theorem playTree_plays (drift : Host → Host → Prop) :
    Plays (playTree runtime outcome) (treeModel runtime drift) := by
  intro host call
  have reads {α : Type} (answer : Except OpsError α) : Reads answer answer ∧ Same host host :=
    ⟨.inl rfl, same_self⟩
  cases call with
  | run command => exact ⟨sampleEvidence_produced _ _, same_self⟩
  | discoverSite _ | readEnabled _ | readAvailableContent _ | discoverManagedConfig _
  | discoverProtectedConfig _ => exact ⟨trivial, reads _⟩
  | storeSnapshotFile operationId fileName bytes =>
    exact ⟨trivial, rfl, stores_store⟩
  | readSnapshotFile _ _ | readProposalFile _ => exact ⟨trivial, fun _ => found_ok, same_self⟩
  | storeProposalFile _ _ | removeProposalFile _ => exact ⟨trivial, stores_store⟩
  | cleanupInternalTemporaries =>
    refine ⟨trivial, rfl, ?_⟩
    have swept := onlySwept_cleanup runtime.paths host.tree
    simp only [playTree]
    cases result : (cleanupInternalTemporaries runtime.paths host.tree).1 with
    | ok _ => simp
    | error error => exact swept
  | createLink basename =>
    refine ⟨trivial, ?_⟩
    simp only [playTree, treeModel, treeAnswer]
    cases present : host.tree.lookup (joinPath runtime.paths.nginxEnabled basename) with
    | none => exact ⟨rfl, puts_put _ _ _⟩
    | some node => exact same_self
  | removeLink basename =>
    refine ⟨trivial, ?_⟩
    simp only [playTree, treeModel, treeAnswer]
    cases present : host.tree.lookup (joinPath runtime.paths.nginxEnabled basename) with
    | none => exact same_self
    | some node => exact ⟨rfl, puts_put _ _ _⟩
  | createNew path =>
    refine ⟨trivial, ?_⟩
    simp only [playTree, treeModel, treeAnswer]
    cases present : host.tree.lookup path with
    | none => exact ⟨rfl, _, rfl, puts_put _ _ _⟩
    | some node => exact same_self
  | setFileMode _ _ | setFileOwner _ _ _ =>
    refine ⟨trivial, ?_⟩
    simp only [playTree, treeModel, treeAnswer]
    split
    · rename_i attributes content present
      exact ⟨attributes, content, present, puts_put _ _ _⟩
    · exact same_self
  | writeAll path content =>
    refine ⟨trivial, ?_⟩
    simp only [playTree, treeModel, treeAnswer]
    rcases present : host.tree.lookup path with _ | (_ | ⟨attributes, before⟩ | _ | _)
    case some.file => exact ⟨attributes, before, rfl, puts_put _ _ _⟩
    all_goals exact .inl same_self
  | rename source destination =>
    refine ⟨trivial, ?_⟩
    simp only [playTree, treeModel, treeAnswer]
    cases present : host.tree.lookup source with
    | none => exact same_self
    | some node =>
      obtain ⟨removed, _⟩ := puts_put host source none
      obtain ⟨placed, vault⟩ := puts_put (put host source none) destination (some node)
      rw [removed] at placed
      exact ⟨node, rfl, placed, vault⟩
  | removeFile path => exact ⟨trivial, puts_put _ _ _⟩
  | _ => exact ⟨trivial, same_self⟩

end Plays

end JwOps.Files.Playing
