/- module: Files/Server
   source: crates/jw-opsd/src/{managed_config,nginx,snapshot}.rs,
     crates/jw-opsd/src/managed_config/{cleanup,proposal}.rs
   digest: A host that is a file tree: what every call of the engine reads from it and does to
   it. -/
import JwOps.Files.Managed
import JwOps.Lifecycle.Lives

set_option autoImplicit false

namespace JwOps.Files.Server

open Contracts Lifecycle Operation Digest Config Engine.Interface Sites Managed Foundation.Files
open System Fragments

/-! ### Temporary files -/

/-- Where a temporary file of an atomic replacement may stand. -/
def IsTemporary (path : Path) : Prop :=
  ∃ root basename, path = joinPath root basename ∧ nginxInternalTemporaryName basename = true

/-- The loop over one directory. -/
def sweepEntries (enforceRootOwnership : Bool) (root : Path) :
    List OsName → Tree → Except OpsError Unit × Tree
  | [], tree => (.ok (), tree)
  | .raw _ :: rest, tree => sweepEntries enforceRootOwnership root rest tree
  | .text basename :: rest, tree =>
    if nginxInternalTemporaryName basename = false then
      sweepEntries enforceRootOwnership root rest tree
    else
      match tree.lookup (joinPath root basename) with
      | none => (.error ioError, tree)
      | some (.file attributes _) =>
        if attributes.links ≠ 1 ∨ (enforceRootOwnership && attributes.uid != 0) then
          (.error .forensicLockdown, tree)
        else sweepEntries enforceRootOwnership root rest (tree.erase (joinPath root basename))
      | some _ => (.error .forensicLockdown, tree)

def cleanupTemporariesInRoot (enforceRootOwnership : Bool) (root : Path) (tree : Tree) :
    Except OpsError Unit × Tree :=
  if (tree.canonicalize root).isNone then (.ok (), tree)
  else
    match validateRoot tree root enforceRootOwnership with
    | .error error => (.error error, tree)
    | .ok _ => sweepEntries enforceRootOwnership root (tree.listing root) tree

/-- The directories that are swept, in order; a configured file without a parent ends the sweep. -/
def sweptRoots (paths : OpsPaths) : List (Except OpsError Path) :=
  [.ok paths.nginxAvailable, .ok paths.nginxConfD, parentOf paths.nginxMain,
    parentOf paths.apacheMain, parentOf paths.apachePorts, .ok paths.apacheConfAvailable,
    .ok paths.apacheSitesAvailable] ++
  (parentPath paths.phpFpmIni).toList.map .ok ++ [.ok paths.phpFpmPoolDir]

def sweepRoots (enforceRootOwnership : Bool) :
    List (Except OpsError Path) → Tree → Except OpsError Unit × Tree
  | [], tree => (.ok (), tree)
  | .error error :: _, tree => (.error error, tree)
  | .ok root :: rest, tree =>
    match cleanupTemporariesInRoot enforceRootOwnership root tree with
    | (.error error, swept) => (.error error, swept)
    | (.ok _, swept) => sweepRoots enforceRootOwnership rest swept

def cleanupInternalTemporaries (paths : OpsPaths) (tree : Tree) : Except OpsError Unit × Tree :=
  sweepRoots paths.enforceRootOwnership (sweptRoots paths) tree

/-- Nothing but temporary files went. -/
def OnlySwept (tree after : Tree) : Prop :=
  ∀ path, after.lookup path = tree.lookup path ∨ IsTemporary path ∧ after.lookup path = none

theorem OnlySwept.trans {tree middle after : Tree} (first : OnlySwept tree middle)
    (second : OnlySwept middle after) : OnlySwept tree after := by
  intro path
  rcases second path with same | gone
  · rcases first path with earlier | gone
    · exact .inl (same.trans earlier)
    · exact .inr ⟨gone.1, same.trans gone.2⟩
  · exact .inr gone

theorem onlySwept_erase {tree : Tree} {root : Path} {basename : String}
    (temporary : nginxInternalTemporaryName basename = true) :
    OnlySwept tree (tree.erase (joinPath root basename)) := by
  intro path
  rw [FileTree.lookup_erase]
  by_cases same : path = joinPath root basename
  · exact .inr ⟨⟨root, basename, same, temporary⟩, if_pos same⟩
  · exact .inl (if_neg same)

theorem onlySwept_sweepEntries {enforce : Bool} {root : Path} {entries : List OsName}
    {tree : Tree} : OnlySwept tree (sweepEntries enforce root entries tree).2 := by
  induction entries generalizing tree with
  | nil => exact fun _ => .inl rfl
  | cons entry rest ih =>
    cases entry with
    | raw bytes => exact ih
    | text basename =>
      rw [sweepEntries]
      split
      · exact ih
      · rename_i temporary
        split
        · exact fun _ => .inl rfl
        · split
          · exact fun _ => .inl rfl
          · exact (onlySwept_erase (Bool.eq_true_of_not_eq_false temporary)).trans ih
        · exact fun _ => .inl rfl

theorem onlySwept_cleanup (paths : OpsPaths) (tree : Tree) :
    OnlySwept tree (cleanupInternalTemporaries paths tree).2 := by
  unfold cleanupInternalTemporaries
  generalize sweptRoots paths = roots
  induction roots generalizing tree with
  | nil => exact fun _ => .inl rfl
  | cons root rest ih =>
    cases root with
    | error error => exact fun _ => .inl rfl
    | ok root =>
      have here : OnlySwept tree
          (cleanupTemporariesInRoot paths.enforceRootOwnership root tree).2 := by
        unfold cleanupTemporariesInRoot
        split
        · exact fun _ => .inl rfl
        · split
          · exact fun _ => .inl rfl
          · exact onlySwept_sweepEntries
      rw [sweepRoots]
      split
      · rename_i swept
        rw [swept] at here
        exact here
      · rename_i swept
        rw [swept] at here
        exact here.trans (ih _)

/-! ### Hosts -/

/-- A file of the daemon's own, by its path below the snapshots or the proposals. -/
inductive PrivateFile where
  | snapshot (relativePath : String)
  | proposal (relativePath : String)
  deriving DecidableEq, Repr

structure Host where
  tree : Tree
  vault : PrivateFile → Option Bytes

/-- Nothing happened, except that directories may list their entries in another order. -/
def Same (host after : Host) : Prop :=
  after.tree.lookup = host.tree.lookup ∧ after.vault = host.vault

/-- One path of the tree holds a new node, or none. -/
def Puts (host after : Host) (path : Path) (node : Option (Node OsName)) : Prop :=
  after.tree.lookup = Function.update host.tree.lookup path node ∧ after.vault = host.vault

/-- One private file holds new bytes, or is gone. -/
def Stores (host after : Host) (file : PrivateFile) (bytes : Option Bytes) : Prop :=
  after.tree.lookup = host.tree.lookup ∧ after.vault = Function.update host.vault file bytes

/-- A read gives what the tree says, or fails. -/
def Reads {α : Type} (computed answer : Except OpsError α) : Prop :=
  answer = computed ∨ ∃ error, answer = .error error

/-- A change that fails leaves everything as it was. -/
def Attempted (host after : Host) (done : Prop) : Except OpsError Unit → Prop
  | .ok _ => done
  | .error _ => Same host after

/-- A private file that cannot be written or removed is in any state. -/
def Kept (host after : Host) (file : PrivateFile) (bytes : Option Bytes) :
    Except OpsError Unit → Prop
  | .ok _ => Stores host after file bytes
  | .error _ => ∃ other, Stores host after file other

section Model

variable (runtime : Runtime)

/-- Whether a call succeeds is open; what it then reads or does is not. Commands, certificates and
the firewall leave the tree alone. -/
def treeAnswer (host : Host) : (call : HostCall) → call.Answer → Host → Prop
  | .discoverSite siteId, answer, after =>
    Reads (discoverSite runtime.toCodec runtime.paths host.tree siteId) answer ∧ Same host after
  | .readEnabled basename, answer, after =>
    Reads (readEnabled runtime.paths host.tree basename) answer ∧ Same host after
  | .readAvailableContent basename, answer, after =>
    Reads ((readAvailableContent runtime.paths host.tree basename).map Prod.fst) answer ∧
      Same host after
  | .discoverManagedConfig resourceId, answer, after =>
    Reads (discoverManagedConfig runtime.toCodec runtime.paths host.tree resourceId) answer ∧
      Same host after
  | .discoverProtectedConfig siteId, answer, after =>
    Reads (discoverProtectedConfig runtime.toCodec runtime.paths host.tree siteId) answer ∧
      Same host after
  | .storeSnapshotFile operationId fileName bytes, answer, after =>
    let file := PrivateFile.snapshot (operationId ++ "/" ++ fileName)
    match answer with
    | .ok readBack => readBack = bytes ∧ Stores host after file (some bytes)
    | .error _ => ∃ other, Stores host after file other
  | .readSnapshotFile relativePath _, answer, after =>
    (∀ bytes, answer = .ok bytes → host.vault (.snapshot relativePath) = some bytes) ∧
      Same host after
  | .storeProposalFile planId content, answer, after =>
    Kept host after (.proposal (planId ++ "/content")) (some content) answer
  | .readProposalFile relativePath, answer, after =>
    (∀ bytes, answer = .ok bytes → host.vault (.proposal relativePath) = some bytes) ∧
      Same host after
  | .removeProposalFile relativePath, answer, after =>
    Kept host after (.proposal relativePath) none answer
  | .cleanupInternalTemporaries, answer, after =>
    after.vault = host.vault ∧
    match answer with
    | .ok _ => (cleanupInternalTemporaries runtime.paths host.tree).1 = .ok () ∧
        after.tree.lookup = (cleanupInternalTemporaries runtime.paths host.tree).2.lookup
    | .error _ => OnlySwept host.tree after.tree
  | .createLink basename, answer, after =>
    let path := joinPath runtime.paths.nginxEnabled basename
    Attempted host after (host.tree.lookup path = none ∧
      Puts host after path (some (.symlink (enabledLink basename)))) answer
  | .removeLink basename, answer, after =>
    let path := joinPath runtime.paths.nginxEnabled basename
    Attempted host after ((host.tree.lookup path).isSome ∧ Puts host after path none) answer
  | .createNew path, answer, after =>
    Attempted host after (host.tree.lookup path = none ∧ ∃ attributes : Attributes,
      attributes.links = 1 ∧ Puts host after path (some (.file attributes []))) answer
  | .setFileMode path mode, answer, after =>
    Attempted host after (∃ attributes content,
      host.tree.lookup path = some (.file attributes content) ∧
        Puts host after path (some (.file { attributes with mode := mode } content))) answer
  | .setFileOwner path uid gid, answer, after =>
    Attempted host after (∃ attributes content,
      host.tree.lookup path = some (.file attributes content) ∧
        Puts host after path (some (.file { attributes with uid := uid, gid := gid } content)))
      answer
  | .writeAll path content, answer, after =>
    match answer with
    | .ok _ => ∃ attributes before, host.tree.lookup path = some (.file attributes before) ∧
        Puts host after path (some (.file attributes content))
    -- a write that fails may have written a part
    | .error _ => Same host after ∨ ∃ attributes before written, written <+: content ∧
        host.tree.lookup path = some (.file attributes before) ∧
        Puts host after path (some (.file attributes written))
  | .rename source destination, answer, after =>
    Attempted host after (∃ node, host.tree.lookup source = some node ∧
      after.tree.lookup = Function.update (Function.update host.tree.lookup source none)
        destination (some node) ∧ after.vault = host.vault) answer
  | .removeFile path, answer, after => Attempted host after (Puts host after path none) answer
  | _, _, after => Same host after

/-- `drift` is what others do to the host. -/
def treeModel (drift : Host → Host → Prop) : HostModel Host := ⟨treeAnswer runtime, drift⟩

end Model

/-! ### What calls leave alone -/

theorem OnlySwept.of_eq {tree after : Tree} (same : after.lookup = tree.lookup) :
    OnlySwept tree after := fun path => .inl (congrFun same path)

section Alone

variable {runtime : Runtime} {host after : Host} {call : HostCall} {answer : call.Answer}

/-- Calls that leave the tree and the private files as they are. -/
def leavesFiles : HostCall → Bool
  | .storeSnapshotFile _ _ _ | .storeProposalFile _ _ | .removeProposalFile _
  | .cleanupInternalTemporaries | .createLink _ | .removeLink _ | .createNew _ | .setFileMode _ _
  | .setFileOwner _ _ _ | .writeAll _ _ | .rename _ _ | .removeFile _ => false
  | _ => true

theorem answered_leaves (leaves : leavesFiles call = true)
    (answered : treeAnswer runtime host call answer after) : Same host after := by
  cases call <;> first | exact answered.2 | exact answered | cases leaves

/-- A call that belongs to nobody removes temporary files at most, and touches no snapshot. -/
theorem answered_quiet (free : family call = none)
    (answered : treeAnswer runtime host call answer after) :
    OnlySwept host.tree after.tree ∧
      ∀ path, after.vault (.snapshot path) = host.vault (.snapshot path) := by
  have stored {file : String} {bytes : Option Bytes}
      (stores : Stores host after (.proposal file) bytes) :
      OnlySwept host.tree after.tree ∧
        ∀ path, after.vault (.snapshot path) = host.vault (.snapshot path) := by
    refine ⟨OnlySwept.of_eq stores.1, fun path => ?_⟩
    have apart : PrivateFile.snapshot path ≠ .proposal file := by simp
    rw [stores.2, Function.update_of_ne apart]
  have kept {file : String} {bytes : Option Bytes} {result : Except OpsError Unit}
      (keeps : Kept host after (.proposal file) bytes result) :
      OnlySwept host.tree after.tree ∧
        ∀ path, after.vault (.snapshot path) = host.vault (.snapshot path) := by
    cases result with
    | ok _ => exact stored keeps
    | error error =>
      obtain ⟨other, stores⟩ := keeps
      exact stored stores
  cases call with
  | storeProposalFile _ _ | removeProposalFile _ => exact kept answered
  | cleanupInternalTemporaries =>
    obtain ⟨vault, swept⟩ := answered
    refine ⟨?_, fun path => congrFun vault _⟩
    cases answer with
    | ok _ =>
      have cleaned := onlySwept_cleanup runtime.paths host.tree
      intro path
      rw [swept.2]
      exact cleaned path
    | error error => exact swept
  | storeSnapshotFile _ _ _ | createLink _ | removeLink _ | createNew _ | setFileMode _ _
  | setFileOwner _ _ _ | writeAll _ _ | rename _ _ | removeFile _ => cases free
  | _ =>
    have same := answered_leaves rfl answered
    exact ⟨OnlySwept.of_eq same.1, fun path => congrFun same.2 _⟩

theorem fileName_slash {kind : SnapshotKind} : '/' ∉ kind.fileName.toList := by
  cases kind <;> decide

/-- The directory of a snapshot is that of its operation. -/
theorem snapshotPath_inj {first second : String} {firstKind secondKind : SnapshotKind}
    (same : first ++ "/" ++ firstKind.fileName = second ++ "/" ++ secondKind.fileName) :
    first = second := by
  have front (start : String) (kind : SnapshotKind) :
      ((start ++ "/" ++ kind.fileName).toList.reverse.dropWhile (· != '/')) =
        '/' :: start.toList.reverse := by
    have plain : ∀ c ∈ kind.fileName.toList.reverse, (c != '/') = true := by
      intro c member
      rw [bne_iff_ne]
      rintro rfl
      exact fileName_slash (List.mem_reverse.mp member)
    simp only [String.toList_append, List.reverse_append, List.dropWhile_append_of_pos plain]
    rfl
  have cut := (front first firstKind).symm.trans (same ▸ front second secondKind)
  exact String.toList_injective (by simpa using cut)

/-- A call for another operation that runs beside it leaves tree and snapshots alone. -/
theorem answered_aside {operationId : String} {kind : Family} (owned : family call = some kind)
    (aside : kind = .certificates ∨ ∃ other, other ≠ operationId ∧
      ∃ data : SnapshotKind, kind = .snapshot other data.fileName)
    (answered : treeAnswer runtime host call answer after) :
    after.tree.lookup = host.tree.lookup ∧ ∀ data : SnapshotKind,
      after.vault (.snapshot (operationId ++ "/" ++ data.fileName)) =
        host.vault (.snapshot (operationId ++ "/" ++ data.fileName)) := by
  rcases aside with rfl | ⟨other, differ, data, rfl⟩
  · have same : Same host after := by
      cases call with
      | certbot command nowMs => exact answered_leaves rfl answered
      | run command => cases family_run owned
      | runUfw command => cases command <;> cases owned
      | _ => cases owned
    exact ⟨same.1, fun data => congrFun same.2 _⟩
  · cases call with
    | storeSnapshotFile identifier fileName bytes =>
      obtain ⟨rfl, rfl⟩ := Family.snapshot.inj (Option.some.inj owned)
      have stored {content : Option Bytes}
          (stores : Stores host after (.snapshot (identifier ++ "/" ++ data.fileName)) content) :
          after.tree.lookup = host.tree.lookup ∧ ∀ data : SnapshotKind,
            after.vault (.snapshot (operationId ++ "/" ++ data.fileName)) =
              host.vault (.snapshot (operationId ++ "/" ++ data.fileName)) := by
        refine ⟨stores.1, fun mine => ?_⟩
        rw [stores.2, Function.update_of_ne]
        intro same
        exact differ (snapshotPath_inj (PrivateFile.snapshot.inj same)).symm
      cases answer with
      | ok readBack => exact stored answered.2
      | error error =>
        obtain ⟨content, stores⟩ := answered
        exact stored stores
    | run command => cases family_run owned
    | runUfw command | certbot command _ => cases command <;> cases owned
    | _ => cases owned

end Alone

end JwOps.Files.Server
