/- module: Engine/Replace
   source: crates/jw-opsd/src/managed_config.rs, crates/jw-opsd/src/nginx.rs
   digest: Changes of the administered files: enabled links and atomic replacement. -/
import JwOps.Engine.Interface

set_option autoImplicit false

namespace JwOps.Engine.Replace

open Contracts Operation Digest Config Interface Foundation.Program

def readEnabled (basename : String) : Ops Bool := perform (.host (.readEnabled basename)) id

def discoverSite (siteId : String) : Ops NginxSite := perform (.host (.discoverSite siteId)) id

def discoverManagedConfig (resourceId : String) : Ops ManagedConfigResource :=
  perform (.host (.discoverManagedConfig resourceId)) id

def discoverProtectedConfig (siteId : String) : Ops ManagedConfigResource :=
  perform (.host (.discoverProtectedConfig siteId)) id

/-! ### Enabled links -/

def setEnabledLinux (basename : String) (enabled : Bool) : Ops Unit :=
  if enabled then perform (.host (.createLink basename)) id
  else perform (.host (.removeLink basename)) id

def setEnabled (paths : OpsPaths) (site : NginxSite) (enabled : Bool) : Ops Unit := do
  let currentlyEnabled ← readEnabled site.basename
  if currentlyEnabled = enabled then pure ()
  else do
  setEnabledLinux site.basename enabled
  perform (.host (.syncDirectory paths.nginxEnabled)) id
  let after ← readEnabled site.basename
  rejectIf (after ≠ enabled) (.rejected "read_back_failed")

/-! ### Atomic replacement -/

/-- `{:016x}`. -/
def hex16 (value : UInt64) : String :=
  String.ofList ((List.range 16).map fun place => hexDigit (value.toNat / 16 ^ (15 - place) % 16))

def temporaryName (suffix : UInt64) : String := ".jw-agent-" ++ hex16 suffix ++ ".tmp"

/-- A step on the temporary file; its failure removes the file, whatever becomes of that. -/
def orRemove (temporary : Path) (step : Ops Unit) : Ops Unit :=
  onError step
    (fun error => do
      let _ ← attempt (perform (.host (.removeFile temporary)) id : Ops Unit)
      throw error)
    pure

def atomicReplace (root : Path) (basename : String) (content : Bytes) (mode uid gid : Nat) :
    Ops Unit := do
  let suffix ← perform (.host .randomSuffix) id
  let temporary := joinPath root (temporaryName suffix)
  perform (.host (.createNew temporary)) id
  orRemove temporary (perform (.host (.setFileMode temporary (mode % 0o10000))) id)
  orRemove temporary (perform (.host (.setFileOwner temporary uid gid)) id)
  orRemove temporary (perform (.host (.writeAll temporary content)) id)
  orRemove temporary (perform (.host (.rename temporary (joinPath root basename))) id)
  perform (.host (.syncDirectory root)) id

section Configs

variable (codec : Codec)

def replaceManagedConfig (expected : ManagedConfigResource) (content : Bytes) :
    Ops ManagedConfigResource := do
  let current ← discoverManagedConfig expected.resourceId
  rejectIf (current.contentDigest ≠ expected.contentDigest ∨
    current.metadataDigest ≠ expected.metadataDigest) (.rejected "stale_resource")
  rejectIf (expected.adapter.maximumBytes < content.length) (.rejected "size_limit")
  rejectIf (managedConfigBytesSupported codec content = false) (.rejected "invalid_encoding")
  atomicReplace expected.root expected.basename content expected.mode expected.uid expected.gid
  discoverManagedConfig expected.resourceId

def restoreManagedConfig (resourceId basename : String) (content : Bytes) (mode uid gid : Nat) :
    Ops ManagedConfigResource := do
  let current ← discoverManagedConfig resourceId
  rejectIf (current.basename ≠ basename ∨ current.adapter.maximumBytes < content.length)
    (.rejected "resource_identity_mismatch")
  atomicReplace current.root basename content mode uid gid
  discoverManagedConfig resourceId

def replaceProtectedConfig (expected : ManagedConfigResource) (content : Bytes) :
    Ops ManagedConfigResource := do
  let current ← discoverProtectedConfig expected.resourceId
  rejectIf (current.basename ≠ expected.basename ∨
    current.contentDigest ≠ expected.contentDigest ∨
    current.metadataDigest ≠ expected.metadataDigest) (.rejected "stale_resource")
  rejectIf (ManagedConfigAdapter.nginx.maximumBytes < content.length ∨
    managedConfigBytesSupported codec content = false ∨ nginxManagementConfig content = false)
    (.rejected "protected_config_invalid")
  atomicReplace expected.root expected.basename content expected.mode expected.uid expected.gid
  discoverProtectedConfig expected.resourceId

def restoreProtectedConfig (siteId basename : String) (content : Bytes) (mode uid gid : Nat) :
    Ops ManagedConfigResource := do
  let current ← discoverProtectedConfig siteId
  rejectIf (current.basename ≠ basename ∨ nginxManagementConfig content = false)
    (.rejected "resource_identity_mismatch")
  atomicReplace current.root basename content mode uid gid
  let restored ← discoverProtectedConfig siteId
  rejectIf (restored.mode ≠ mode ∨ restored.uid ≠ uid ∨ restored.gid ≠ gid)
    (.rejected "metadata_read_back_failed")
  pure restored

end Configs

end JwOps.Engine.Replace
