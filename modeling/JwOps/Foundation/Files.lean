/- module: Foundation/Files
   digest: A file tree whose directories list their entries in any order; links and their texts. -/
import JwOps.Foundation.Keyed
import Mathlib.Logic.Function.Basic

set_option autoImplicit false

namespace JwOps.Foundation.Files

open Keyed

/-! ### Nodes -/

/-- What stands between two slashes of a link's text. -/
inductive Part (Name : Type) where
  | blank | here | up
  | name (value : Name)
  deriving DecidableEq, Repr

/-- The text of a symbolic link, cut at its slashes. -/
structure LinkText (Name : Type) where
  absolute : Bool
  parts : List (Part Name)
  deriving DecidableEq, Repr

structure Attributes where
  mode : Nat
  uid : Nat
  gid : Nat
  links : Nat
  deriving DecidableEq, Repr

inductive Node (Name : Type) where
  | directory (attributes : Attributes)
  | file (attributes : Attributes) (content : List UInt8)
  | symlink (text : LinkText Name)
  | special
  deriving DecidableEq, Repr

/-- A path by its components, outermost first. -/
abbrev Location (Name : Type) := List Name

/-- The nodes below the file-system root. The order of the list is the order in which a directory
lists its entries, and says nothing else. -/
structure FileTree (Name : Type) where
  nodes : List (Location Name × Node Name)
  distinct : (nodes.map Prod.fst).Nodup

namespace FileTree

variable {Name : Type} [DecidableEq Name]

def lookup (tree : FileTree Name) (path : Location Name) : Option (Node Name) :=
  (Keyed.lookup Prod.fst path tree.nodes).map Prod.snd

/-- The name under which a directory lists a path. -/
def entryOf (directory path : Location Name) : Option Name :=
  if path.dropLast = directory then path.getLast? else none

/-- `read_dir`. -/
def listing (tree : FileTree Name) (directory : Location Name) : List Name :=
  tree.nodes.filterMap fun row => entryOf directory row.1

def erase (tree : FileTree Name) (path : Location Name) : FileTree Name where
  nodes := tree.nodes.filter fun row => row.1 ≠ path
  distinct := tree.distinct.sublist (List.filter_sublist.map _)

theorem not_mem_erase (tree : FileTree Name) (path : Location Name) :
    ∀ row ∈ (tree.erase path).nodes, row.1 ≠ path := by
  intro row member
  simpa using (List.mem_filter.mp member).2

/-- Puts a node at a path, in place of whatever is there. -/
def put (tree : FileTree Name) (path : Location Name) (node : Node Name) : FileTree Name where
  nodes := (tree.erase path).nodes ++ [(path, node)]
  distinct := nodup_concat (tree.erase path).distinct (tree.not_mem_erase path)

def empty : FileTree Name := ⟨[], List.nodup_nil⟩

/-! ### Looking up -/

variable {tree other : FileTree Name} {path directory : Location Name} {node : Node Name}
  {name : Name}

theorem lookup_eq_some : tree.lookup path = some node ↔ (path, node) ∈ tree.nodes := by
  constructor
  · intro found
    obtain ⟨row, at_, rfl⟩ := Option.map_eq_some_iff.mp found
    obtain rfl := lookup_key at_
    exact lookup_mem at_
  · intro member
    have found := lookup_of_mem tree.distinct member
    rw [lookup, found]
    rfl

theorem lookup_erase (wanted : Location Name) :
    (tree.erase path).lookup wanted = if wanted = path then none else tree.lookup wanted := by
  refine Option.ext fun node => ?_
  rw [lookup_eq_some]
  by_cases same : wanted = path
  · subst same
    simp [erase]
  · rw [if_neg same, lookup_eq_some]
    simp [erase, same]

theorem lookup_put (wanted : Location Name) :
    (tree.put path node).lookup wanted =
      if wanted = path then some node else tree.lookup wanted := by
  refine Option.ext fun found => ?_
  rw [lookup_eq_some]
  by_cases same : wanted = path
  · subst same
    simp [put, erase, eq_comm]
  · rw [if_neg same, lookup_eq_some]
    simp [put, erase, same]

/-! ### Listing -/

theorem entryOf_eq_some : entryOf directory path = some name ↔ path = directory ++ [name] := by
  unfold entryOf
  constructor
  · intro entry
    split at entry
    case isTrue same =>
      obtain ⟨front, rfl⟩ := List.getLast?_eq_some_iff.mp entry
      rw [List.dropLast_concat] at same
      rw [same]
    case isFalse => cases entry
  · rintro rfl
    rw [List.dropLast_concat, if_pos rfl, List.getLast?_concat]

/-- A directory lists what is below it. -/
theorem mem_listing : name ∈ tree.listing directory ↔
    (tree.lookup (directory ++ [name])).isSome := by
  rw [Option.isSome_iff_exists]
  constructor
  · intro member
    obtain ⟨⟨path, node⟩, present, entry⟩ := List.mem_filterMap.mp member
    obtain rfl := entryOf_eq_some.mp entry
    exact ⟨node, lookup_eq_some.mpr present⟩
  · rintro ⟨node, found⟩
    exact List.mem_filterMap.mpr ⟨_, lookup_eq_some.mp found, entryOf_eq_some.mpr rfl⟩

/-! ### Resolving links -/

/-- Walks down a text, with `follow` for the links met on the way. -/
def walk (tree : FileTree Name)
    (follow : Location Name → List (Part Name) → Option (Location Name)) :
    Location Name → List (Part Name) → Option (Location Name)
  | reached, [] => some reached
  | reached, .blank :: rest => walk tree follow reached rest
  | reached, .here :: rest => walk tree follow reached rest
  | reached, .up :: rest => walk tree follow reached.dropLast rest
  | reached, .name name :: rest =>
    match tree.lookup (reached ++ [name]) with
    | none => none
    | some (.symlink text) => follow (if text.absolute then [] else reached) (text.parts ++ rest)
    | some (.directory _) => walk tree follow (reached ++ [name]) rest
    -- below anything else there is nothing
    | some _ => if rest = [] then some (reached ++ [name]) else none

/-- Resolves a text below a directory; at most `links` links are followed. -/
def resolve (tree : FileTree Name) : (links : Nat) → Location Name → List (Part Name) →
    Option (Location Name)
  | 0 => walk tree fun _ _ => none
  | links + 1 => walk tree (resolve tree links)

/-- `canonicalize`: forty links are the most that Linux follows. -/
def canonicalize (tree : FileTree Name) (path : Location Name) : Option (Location Name) :=
  tree.resolve 40 [] (path.map .name)

/-! What a text resolves to depends on the nodes only. -/

theorem walk_congr (same : tree.lookup = other.lookup)
    (follow : Location Name → List (Part Name) → Option (Location Name))
    (reached : Location Name) (parts : List (Part Name)) :
    walk tree follow reached parts = walk other follow reached parts := by
  induction parts generalizing reached with
  | nil => rfl
  | cons part rest ih => cases part <;> simp only [walk, ih, same]

theorem resolve_congr (same : tree.lookup = other.lookup) (links : Nat) :
    tree.resolve links = other.resolve links := by
  induction links with
  | zero =>
    funext reached parts
    exact walk_congr same _ _ _
  | succ links ih =>
    funext reached parts
    rw [resolve, resolve, ih]
    exact walk_congr same _ _ _

theorem canonicalize_congr (same : tree.lookup = other.lookup) (path : Location Name) :
    tree.canonicalize path = other.canonicalize path := by
  rw [canonicalize, resolve_congr same, canonicalize]

end FileTree

end JwOps.Foundation.Files
