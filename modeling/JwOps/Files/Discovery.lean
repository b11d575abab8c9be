/- module: Files/Discovery
   source: crates/jw-opsd/src/managed_config.rs, crates/jw-opsd/src/managed_config/tree.rs
   digest: What every adapter has checked about a configuration file that it finds. -/
import JwOps.Files.Managed

set_option autoImplicit false

namespace JwOps.Files.Discovery

open Contracts Digest Config Foundation.Chain Sites Managed

/-- A resource as it is found for an identifier: named by it, with a text that its adapter takes. -/
structure Found (codec : Codec) (adapter : ManagedConfigAdapter) (resourceId : String)
    (resource : ManagedConfigResource) : Prop where
  kind : resource.adapter = adapter
  id : resource.resourceId = resourceId
  size : resource.content.length ≤ adapter.maximumBytes
  text : managedConfigBytesSupported codec resource.content = true
  digest : resource.contentDigest = sha256Digest codec resource.content

section Discovery

variable {codec : Codec} {paths : OpsPaths} {tree : Tree} {adapter : ManagedConfigAdapter}
  {resource : ManagedConfigResource} {path root : Path} {basename displayName resourceId : String}

variable {α : Type} {entries : List OsName} {value : α} {depth : Nat}

theorem found_readManaged
    (read : readManaged codec paths tree adapter path root basename displayName
    resourceId = .ok resource) : Found codec adapter resourceId resource := by
  unfold readManaged at read
  split at read
  · cases read
  · obtain ⟨_, read⟩ := check_ok.mp read
    obtain ⟨_, read⟩ := check_ok.mp read
    split at read
    · cases read
    next size =>
    split at read
    · cases read
    next text =>
    obtain rfl := Except.ok.inj read
    exact ⟨rfl, rfl, not_lt.mp size, (Bool.not_eq_false _).mp text, rfl⟩
  · cases read

theorem found_readRegular (read : readRegularManagedConfig codec paths tree adapter root basename
    displayName resourceId = .ok resource) : Found codec adapter resourceId resource :=
  found_readManaged (check_ok.mp read).2

/-! ### Directories -/

/-- The search ends with a wanted entry. -/
theorem searchEntries_ok {wanted : String → Bool} {visit : String → Except OpsError α}
    {missing : String} (searched : searchEntries wanted visit missing entries = .ok value) :
    ∃ name, wanted name = true ∧ visit name = .ok value := by
  induction entries with
  | nil => cases searched
  | cons entry rest ih =>
    obtain ⟨name, _, searched⟩ := bind_ok.mp searched
    split at searched
    next wants => exact ⟨name, wants, searched⟩
    · exact ih searched

theorem found_discoverConfFile {enabledRoot : Option Path} {idOf display : String → String}
    (searched : discoverConfFile codec paths tree adapter root enabledRoot idOf display resourceId =
      .ok resource) : Found codec adapter resourceId resource := by
  obtain ⟨_, searched⟩ := check_ok.mp searched
  obtain ⟨name, wanted, visited⟩ := searchEntries_ok searched
  simp only [Bool.and_eq_true, beq_iff_eq] at wanted
  obtain ⟨_, rfl⟩ := wanted
  cases enabledRoot with
  | none => exact found_readRegular visited
  | some enabled => exact found_readRegular (check_ok.mp visited).2

theorem found_discoverNginx
    (searched : discoverNginxManagedConfig codec paths tree resourceId = .ok resource) :
    Found codec .nginx resourceId resource := by
  obtain ⟨_, searched⟩ := check_ok.mp searched
  obtain ⟨name, wanted, visited⟩ := searchEntries_ok searched
  simp only [Bool.and_eq_true, beq_iff_eq] at wanted
  obtain ⟨_, rfl⟩ := wanted
  obtain ⟨⟨bytes, attributes, isProtected⟩, _, visited⟩ := bind_ok.mp visited
  dsimp only at visited
  split at visited
  · cases visited
  obtain ⟨site, _, visited⟩ := bind_ok.mp visited
  split at visited
  · cases visited
  split at visited
  · cases visited
  next size =>
  split at visited
  · cases visited
  next text =>
  obtain rfl := Except.ok.inj visited
  exact ⟨rfl, rfl, not_lt.mp size, (Bool.not_eq_false _).mp text, rfl⟩

/-! ### Trees -/

variable {family : String}

theorem found_treeResourceAt {relativePath : String}
    (read : treeResourceAt codec paths tree adapter path relativePath resourceId = .ok resource) :
    Found codec adapter resourceId resource := by
  unfold treeResourceAt at read
  split at read
  · cases read
  split at read
  · obtain ⟨regular, readRegular, read⟩ := bind_ok.mp read
    split at read
    · cases read
    · obtain rfl := Except.ok.inj read
      exact found_readRegular readRegular
  · cases read

theorem found_visitEntry {directory : Path} {entry : OsName} {walk : Walk}
    (visited : visitEntry codec paths tree adapter root resourceId family directory depth entry
      walk = .ok (.inl resource)) : Found codec adapter resourceId resource := by
  unfold visitEntry at visited
  dsimp only at visited
  split at visited
  · cases visited
  split at visited
  · cases visited
  · cases visited
  · cases visited
  · cases visited
  · obtain ⟨relativePath, _, visited⟩ := bind_ok.mp visited
    split at visited
    · cases visited
    next same =>
    obtain ⟨found, read, visited⟩ := bind_ok.mp visited
    obtain rfl := Sum.inl.inj (Except.ok.inj visited)
    rw [not_not.mp same] at read
    exact found_treeResourceAt read

theorem found_visitEntries {directory : Path} {walk : Walk}
    (visited : visitEntries codec paths tree adapter root resourceId family directory depth entries
      walk = .ok (.inl resource)) : Found codec adapter resourceId resource := by
  induction entries generalizing walk with
  | nil => cases visited
  | cons entry rest ih =>
    obtain ⟨reached, step, visited⟩ := bind_ok.mp visited
    cases reached with
    | inl found =>
      obtain rfl := Sum.inl.inj (Except.ok.inj visited)
      exact found_visitEntry step
    | inr walk => exact ih visited

theorem found_walkTree {turns : Nat} {walk : Walk}
    (walked : walkTree codec paths tree adapter root resourceId family turns walk = .ok resource) :
    Found codec adapter resourceId resource := by
  induction turns generalizing walk with
  | zero => cases walked
  | succ turns ih =>
    unfold walkTree at walked
    split at walked
    · cases walked
    split at walked
    · exact ih walked
    · obtain ⟨_, walked⟩ := check_ok.mp walked
      obtain ⟨reached, visited, walked⟩ := bind_ok.mp walked
      cases reached with
      | inl found =>
        obtain rfl := Except.ok.inj walked
        exact found_visitEntries visited
      | inr walk => exact ih walked

theorem found_discoverTree
    (walked : discoverTreeManagedConfig codec paths tree adapter root resourceId family =
      .ok resource) : Found codec adapter resourceId resource :=
  found_walkTree (check_ok.mp walked).2

/-! ### All adapters -/

theorem found_discoverExact {wanted : String}
    (read : discoverExactManagedConfig codec paths tree adapter path basename displayName wanted
      family = .ok resource) : Found codec adapter wanted resource := by
  unfold discoverExactManagedConfig at read
  split at read
  · cases read
  · obtain ⟨root, _, read⟩ := bind_ok.mp read
    exact found_readRegular read

theorem found_discoverPhpFpm
    (read : discoverPhpFpmManagedConfig codec paths tree adapter path basename displayName =
      .ok resource) :
    Found codec adapter (phpFpmConfigResourceId codec adapter.adapterId) resource := by
  obtain ⟨root, _, read⟩ := bind_ok.mp read
  exact found_readManaged (check_ok.mp read).2

theorem choice_ok {ε : Type} {condition : Prop} [Decidable condition] {chosen : α}
    {others : Except ε α} (choice : (if condition then .ok value else others) = .ok chosen) :
    (condition ∧ value = chosen) ∨ others = .ok chosen := by
  by_cases holds : condition
  · rw [if_pos holds] at choice
    exact .inl ⟨holds, Except.ok.inj choice⟩
  · rw [if_neg holds] at choice
    exact .inr choice

/-- The three fixed files of PHP are chosen by their identifiers. -/
theorem managedConfigAdapter_php (chosen : managedConfigAdapter codec resourceId = .ok adapter)
    (fixed : adapter ∈ [.phpFpm83Ini, .phpFpm83Global, .phpFpm83PoolWww]) :
    phpFpmConfigResourceId codec adapter.adapterId = resourceId := by
  iterate 9
    rcases choice_ok chosen with ⟨_, rfl⟩ | chosen
    · exact absurd fixed (by decide)
  iterate 3
    rcases choice_ok chosen with ⟨same, rfl⟩ | chosen
    · exact same.symm
  rcases choice_ok chosen with ⟨_, rfl⟩ | chosen
  · exact absurd fixed (by decide)
  · cases chosen

theorem found_of_discovered
    (discovered : discoverManagedConfig codec paths tree resourceId = .ok resource) :
    managedConfigAdapter codec resourceId = .ok resource.adapter ∧
      Found codec resource.adapter resourceId resource := by
  obtain ⟨adapter, chosen, discovered⟩ := bind_ok.mp discovered
  have found : Found codec adapter resourceId resource := by
    cases adapter with
    | nginx => exact found_discoverNginx discovered
    | nginxTree | apacheTree =>
      obtain ⟨root, _, discovered⟩ := bind_ok.mp discovered
      exact found_discoverTree discovered
    | nginxMain | apacheMain | apachePorts => exact found_discoverExact discovered
    | nginxConfD | apacheConf | apacheSite | phpFpm83Pool => exact found_discoverConfFile discovered
    | phpFpm83Ini | phpFpm83Global | phpFpm83PoolWww =>
      exact managedConfigAdapter_php chosen (by decide) ▸ found_discoverPhpFpm discovered
  obtain rfl := found.kind
  exact ⟨chosen, found⟩

end Discovery

end JwOps.Files.Discovery
