/- module: Files/Sites
   source: crates/jw-opsd/src/nginx.rs, crates/jw-contracts/src/operation.rs
   digest: The nginx sites found on a file tree: available files and their enabled links. -/
import JwOps.Contracts.Config
import JwOps.Foundation.Chain
import JwOps.Foundation.Files

set_option autoImplicit false

namespace JwOps.Files.Sites

open Contracts Operation Digest Config Foundation.Files
open Foundation.Chain (bind_ok)

abbrev Tree := FileTree OsName

/-- A failing system call; its text is the operating system's. -/
def ioError : OpsError := .filesystem "i/o error"

/-! ### Names -/

def safeBasename : OsName → Except OpsError String
  | .raw _ => .error (.rejected "site_name_not_utf8")
  | .text value =>
    if value.toList.isEmpty || 255 < value.utf8ByteSize || value == "." || value == ".." ||
        value.toList.elem '/' || value.toList.elem (Char.ofNat 0) then
      .error (.rejected "site_name_rejected")
    else .ok value

def isAsciiHexdigit (c : Char) : Bool :=
  isAsciiDigit c || ('a' ≤ c && c ≤ 'f') || ('A' ≤ c && c ≤ 'F')

def nginxInternalTemporaryName (value : String) : Bool :=
  match stripStart value ".jw-agent-" with
  | none => false
  | some name => name.length == 20 && name.drop 16 == ".tmp".toList &&
      (name.take 16).all isAsciiHexdigit

/-- The loop over a directory: an unusable name ends it, the first match decides it. -/
def searchEntries {α : Type} (wanted : String → Bool) (visit : String → Except OpsError α)
    (missing : String) : List OsName → Except OpsError α
  | [] => .error (.rejected missing)
  | entry :: rest => do
    let basename ← safeBasename entry
    if wanted basename then visit basename else searchEntries wanted visit missing rest

/-! ### Checks on metadata -/

def validateRoot (tree : Tree) (root : Path) (enforceRootOwnership : Bool) :
    Except OpsError Unit :=
  match tree.lookup root with
  | none => .error (.rejected "unsupported_nginx_layout")
  | some (.directory attributes) =>
    if enforceRootOwnership && attributes.uid != 0 then .error (.rejected "path_owner_violation")
    else .ok ()
  | some _ => .error (.rejected "path_policy_violation")

/-- The part of `validate_available_metadata` that follows the check for a regular file. -/
def validateAvailableMetadata (attributes : Attributes) (enforceRootOwnership : Bool) :
    Except OpsError Unit :=
  if attributes.links ≠ 1 then .error (.rejected "available_hardlink_rejected")
  else if enforceRootOwnership && attributes.uid != 0 then
    .error (.rejected "path_owner_violation")
  else .ok ()

/-! ### Sites -/

def availableFileMaxBytes : Nat := 1024 * 1024

def managementSite : String := "jw-agent-management.conf"

section Discovery

variable (codec : Codec) (paths : OpsPaths) (tree : Tree)

def readAvailableContent (basename : String) : Except OpsError (Bytes × Attributes × Bool) :=
  match tree.lookup (joinPath paths.nginxAvailable basename) with
  | none | some (.symlink _) => .error (.rejected "path_policy_violation")
  | some (.file attributes content) =>
    if availableFileMaxBytes < content.length then .error (.rejected "available_file_too_large")
    else .ok (content, attributes, nginxManagementConfig content)
  -- a directory can be opened and not be read
  | some _ => .error ioError

def readEnabled (basename : String) : Except OpsError Bool :=
  match tree.lookup (joinPath paths.nginxEnabled basename) with
  | none => .ok false
  | some (.symlink _) =>
    match tree.canonicalize (joinPath paths.nginxEnabled basename),
      tree.canonicalize (joinPath paths.nginxAvailable basename) with
    | none, _ => .error (.rejected "enabled_link_unresolvable")
    | some _, none => .error (.rejected "available_unresolvable")
    | some resolvedLink, some resolvedAvailable =>
      if resolvedLink = resolvedAvailable then .ok true
      else .error (.rejected "enabled_link_outside_source")
  | some _ => .error (.rejected "enabled_entry_not_symlink")

def siteAt (basename : String) : Except OpsError NginxSite := do
  let (bytes, attributes, managementConfig) ← readAvailableContent paths tree basename
  validateAvailableMetadata attributes paths.enforceRootOwnership
  let enabled ← readEnabled paths tree basename
  pure {
    siteId := nginxSiteId codec nginxLayoutId basename
    basename := basename
    availableDigest := sha256Digest codec bytes
    enabledStateDigest := nginxEnabledStateDigest codec enabled
    state := if enabled then .enabled else .disabled
    isProtected := basename == managementSite || managementConfig }

def discoverSite (requestedSiteId : String) : Except OpsError NginxSite := do
  validateRoot tree paths.nginxAvailable paths.enforceRootOwnership
  validateRoot tree paths.nginxEnabled paths.enforceRootOwnership
  searchEntries
    (fun basename => !nginxInternalTemporaryName basename &&
      nginxSiteId codec nginxLayoutId basename == requestedSiteId)
    (siteAt codec paths tree) "site_missing" (tree.listing paths.nginxAvailable)

end Discovery

/-- The text of the links that `set_enabled` makes. -/
def enabledLink (basename : String) : LinkText OsName :=
  ⟨false, [.up, .name (.text "sites-available"), .name (.text basename)]⟩

/-! ### What the searches find -/

section Facts

variable {α : Type} {wanted : String → Bool} {visit : String → Except OpsError α}
  {missing : String} {entries : List OsName} {value : α} {codec : Codec} {paths : OpsPaths}
  {tree : Tree} {basename siteId : String} {site : NginxSite}

theorem safeBasename_ok {entry : OsName} (safe : safeBasename entry = .ok basename) :
    entry = .text basename := by
  cases entry with
  | raw bytes => cases safe
  | text name =>
    rw [safeBasename] at safe
    split at safe
    · cases safe
    · rw [Except.ok.inj safe]

/-- What a search finds is a wanted entry of the directory. -/
theorem searchEntries_ok (found : searchEntries wanted visit missing entries = .ok value) :
    ∃ basename, .text basename ∈ entries ∧ wanted basename = true ∧ visit basename = .ok value := by
  induction entries with
  | nil => cases found
  | cons entry rest ih =>
    obtain ⟨basename, safe, found⟩ := bind_ok.mp found
    cases hit : wanted basename with
    | true =>
      rw [hit, if_pos rfl] at found
      rw [safeBasename_ok safe]
      exact ⟨basename, List.mem_cons_self, hit, found⟩
    | false =>
      rw [hit, if_neg Bool.false_ne_true] at found
      obtain ⟨other, member, facts⟩ := ih found
      exact ⟨other, List.mem_cons_of_mem _ member, facts⟩

theorem readEnabled_ok {enabled : Bool} (read : readEnabled paths tree basename = .ok enabled) :
    if enabled then ∃ text resolved,
        tree.lookup (joinPath paths.nginxEnabled basename) = some (.symlink text) ∧
          tree.canonicalize (joinPath paths.nginxEnabled basename) = some resolved ∧
          tree.canonicalize (joinPath paths.nginxAvailable basename) = some resolved
    else tree.lookup (joinPath paths.nginxEnabled basename) = none := by
  unfold readEnabled at read
  cases entry : tree.lookup (joinPath paths.nginxEnabled basename) with
  | none =>
    rw [entry] at read
    obtain rfl := Except.ok.inj read
    rfl
  | some node =>
    rw [entry] at read
    cases node with
    | symlink text =>
      dsimp only at read
      split at read
      · cases read
      · cases read
      · rename_i link available linked resolved
        split at read
        · rename_i same
          obtain rfl := Except.ok.inj read
          rw [if_pos rfl, linked, resolved, same]
          exact ⟨text, available, rfl, rfl, rfl⟩
        · cases read
    | directory _ | file _ _ | special => cases read

/-- Whether a site is enabled depends on the nodes only, not on the order of the entries. -/
theorem readEnabled_congr {other : Tree} (same : tree.lookup = other.lookup) :
    readEnabled paths tree basename = readEnabled paths other basename := by
  unfold readEnabled
  rw [same, FileTree.canonicalize_congr same, FileTree.canonicalize_congr same]

theorem siteAt_ok (found : siteAt codec paths tree basename = .ok site) :
    ∃ enabled, readEnabled paths tree basename = .ok enabled ∧
      site.siteId = nginxSiteId codec nginxLayoutId basename ∧ site.basename = basename ∧
      site.state = (if enabled then .enabled else .disabled) ∧
      site.enabledStateDigest = nginxEnabledStateDigest codec enabled := by
  obtain ⟨⟨bytes, attributes, managementConfig⟩, _, found⟩ := bind_ok.mp found
  obtain ⟨_, _, found⟩ := bind_ok.mp found
  obtain ⟨enabled, read, found⟩ := bind_ok.mp found
  obtain rfl := Except.ok.inj found
  exact ⟨enabled, read, rfl, rfl, rfl, rfl⟩

/-- The available file of a site is a regular one. -/
theorem siteAt_file (found : siteAt codec paths tree basename = .ok site) :
    ∃ attributes content,
      tree.lookup (joinPath paths.nginxAvailable basename) = some (.file attributes content) := by
  obtain ⟨⟨bytes, attributes, managementConfig⟩, read, _⟩ := bind_ok.mp found
  unfold readAvailableContent at read
  cases entry : tree.lookup (joinPath paths.nginxAvailable basename) with
  | none =>
    rw [entry] at read
    cases read
  | some node =>
    rw [entry] at read
    cases node with
    | file attributes content => exact ⟨attributes, content, rfl⟩
    | symlink _ | directory _ | special => cases read

/-- A discovered site is an entry of the available directory, found under its own identifier. -/
theorem discoverSite_ok (found : discoverSite codec paths tree siteId = .ok site) :
    .text site.basename ∈ tree.listing paths.nginxAvailable ∧
      nginxInternalTemporaryName site.basename = false ∧
      nginxSiteId codec nginxLayoutId site.basename = siteId ∧
      siteAt codec paths tree site.basename = .ok site := by
  obtain ⟨_, _, found⟩ := bind_ok.mp found
  obtain ⟨_, _, found⟩ := bind_ok.mp found
  obtain ⟨basename, member, wanted, visited⟩ := searchEntries_ok found
  obtain ⟨_, _, _, named, _⟩ := siteAt_ok visited
  rw [Bool.and_eq_true, Bool.not_eq_true', beq_iff_eq] at wanted
  rw [named]
  exact ⟨member, wanted.1, wanted.2, visited⟩

end Facts

end JwOps.Files.Sites
