/- module: Foundation/Maps
   digest: Maps from keys to values in which no key occurs twice. -/
import JwOps.Foundation.Keyed

set_option autoImplicit false

namespace JwOps.Foundation.Maps

open Keyed

structure Dict (κ α : Type) where
  entries : List (κ × α)
  unique : (entries.map Prod.fst).Nodup
  deriving DecidableEq

namespace Dict

variable {κ α : Type}

def empty : Dict κ α := ⟨[], List.nodup_nil⟩

def size (map : Dict κ α) : Nat := map.entries.length

def values (map : Dict κ α) : List α := map.entries.map Prod.snd

def retain (keep : κ → α → Bool) (map : Dict κ α) : Dict κ α :=
  ⟨map.entries.filter fun entry => keep entry.1 entry.2,
    map.unique.sublist (List.filter_sublist.map Prod.fst)⟩

variable [DecidableEq κ]

def get (map : Dict κ α) (key : κ) : Option α :=
  (lookup Prod.fst key map.entries).map Prod.snd

def erase (map : Dict κ α) (key : κ) : Dict κ α := map.retain fun other _ => decide (other ≠ key)

theorem get_none {map : Dict κ α} {key : κ} (absent : map.get key = none) :
    ∀ entry ∈ map.entries, entry.1 ≠ key :=
  lookup_eq_none.mp (Option.map_eq_none_iff.mp absent)

def withValue (value : α) (entry : κ × α) : κ × α := (entry.1, value)

variable {map : Dict κ α} {key other : κ} {keep : κ → α → Bool} {value : α}

omit [DecidableEq κ] in
theorem withValue_key (entry : κ × α) : (withValue value entry).1 = entry.1 := rfl

theorem unique_updateAt {entries : List (κ × α)} (unique : (entries.map Prod.fst).Nodup) :
    ((updateAt Prod.fst key (withValue value) entries).map Prod.fst).Nodup := by
  rw [map_updateAt withValue_key]
  exact unique

/-- Writes the value of a key, whether or not the map has one already. -/
def set (map : Dict κ α) (key : κ) (value : α) : Dict κ α :=
  match found : map.get key with
  | none => ⟨map.entries ++ [(key, value)], nodup_concat map.unique (get_none found)⟩
  | some _ => ⟨updateAt Prod.fst key (withValue value) map.entries, unique_updateAt map.unique⟩

@[simp]
theorem get_empty : (empty : Dict κ α).get key = none := rfl

theorem get_set_self : (map.set key value).get key = some value := by
  unfold set
  split
  · next absent =>
      have found := @lookup_concat_fresh _ _ _ Prod.fst key map.entries (key, value) rfl
        (get_none absent)
      unfold get
      rw [found]
      rfl
  · next old present =>
      obtain ⟨entry, found, _⟩ := Option.map_eq_some_iff.mp present
      unfold get
      rw [lookup_updateAt_self withValue_key, found]
      rfl

theorem get_set_other (differ : other ≠ key) : (map.set key value).get other = map.get other := by
  unfold set
  split
  · unfold get
    rw [lookup_concat, if_neg (Ne.symm differ), Option.or_none]
  · unfold get
    rw [lookup_updateAt_other withValue_key differ]

theorem get_set : (map.set key value).get other =
    if other = key then some value else map.get other := by
  by_cases same : other = key
  · rw [if_pos same, same, get_set_self]
  · rw [if_neg same, get_set_other same]

/-- What stands in a map after a write was written or stood before. -/
theorem get_set_cases {found : α} (present : (map.set key value).get other = some found) :
    (other = key ∧ found = value) ∨ map.get other = some found := by
  rw [get_set] at present
  split at present
  · next same => exact .inl ⟨same, (Option.some.inj present).symm⟩
  · exact .inr present

theorem get_retain : (map.retain keep).get key = (map.get key).filter (keep key) := by
  obtain ⟨entries, unique⟩ := map
  unfold get retain
  induction entries with
  | nil => rfl
  | cons entry rest ih =>
    obtain ⟨fresh, unique⟩ := List.nodup_cons.mp unique
    have rested := ih unique
    unfold lookup at rested ⊢
    by_cases here : entry.1 = key
    · by_cases kept : keep key entry.2
      · simp [here, kept, Option.filter]
      · have gone :
            lookup Prod.fst key (rest.filter fun entry => keep entry.1 entry.2) = none := by
          refine lookup_eq_none.mpr ?_
          intro found member same
          refine fresh ?_
          rw [here, ← same]
          exact List.mem_map_of_mem (List.mem_of_mem_filter member)
        unfold lookup at gone
        simp [here, kept, gone, Option.filter]
    · by_cases kept : keep entry.1 entry.2
      · simpa [here, kept] using rested
      · simpa [here, kept] using rested

theorem get_erase_self : (map.erase key).get key = none := by
  unfold erase
  rw [get_retain]
  simp

theorem get_erase_other (differ : other ≠ key) : (map.erase key).get other = map.get other := by
  unfold erase
  rw [get_retain]
  cases map.get other <;> simp [differ]

omit [DecidableEq κ] in
theorem size_retain : (map.retain keep).size ≤ map.size := List.length_filter_le ..

theorem size_set {bound : Nat} (bounded : map.size ≤ bound)
    (room : map.size < bound ∨ (map.get key).isSome) : (map.set key value).size ≤ bound := by
  unfold set
  split
  · next absent =>
      have free : map.size < bound := by
        rw [absent] at room
        simpa using room
      unfold size at free ⊢
      rw [List.length_append]
      exact free
  · unfold size updateAt
    rw [List.length_map]
    exact bounded

theorem mem_entries : (key, value) ∈ map.entries ↔ map.get key = some value := by
  constructor
  · intro member
    have found := @lookup_of_mem _ _ _ Prod.fst map.entries (key, value) map.unique member
    unfold get
    rw [found]
    rfl
  · intro found
    obtain ⟨entry, looked, rfl⟩ := Option.map_eq_some_iff.mp found
    have named : entry.1 = key := lookup_key looked
    rw [← named]
    exact lookup_mem looked

theorem mem_values : value ∈ map.values ↔ ∃ key, map.get key = some value := by
  constructor
  · intro member
    obtain ⟨⟨key, stored⟩, inside, rfl⟩ := List.mem_map.mp member
    exact ⟨key, mem_entries.mp inside⟩
  · rintro ⟨key, found⟩
    exact List.mem_map_of_mem (mem_entries.mpr found)

/-- The second map has lost some of the entries of the first. -/
structure Fewer (before after : Dict κ α) : Prop where
  kept : ∀ key value, after.get key = some value → before.get key = some value
  size : after.size ≤ before.size

namespace Fewer

variable {first second third : Dict κ α}

theorem refl (map : Dict κ α) : Fewer map map := ⟨fun _ _ found => found, Nat.le_refl _⟩

theorem trans (early : Fewer first second) (late : Fewer second third) : Fewer first third where
  kept key value found := early.kept key value (late.kept key value found)
  size := Nat.le_trans late.size early.size

theorem retain (map : Dict κ α) (keep : κ → α → Bool) : Fewer map (map.retain keep) where
  kept key value found := by
    rw [get_retain] at found
    exact (Option.filter_eq_some_iff.mp found).1
  size := size_retain

theorem erase (map : Dict κ α) (key : κ) : Fewer map (map.erase key) := retain map _

theorem empty (map : Dict κ α) : Fewer map .empty where
  kept _ _ found := by cases found
  size := Nat.zero_le _

theorem mem_values (fewer : Fewer first second) {value : α} (member : value ∈ second.values) :
    value ∈ first.values := by
  obtain ⟨key, found⟩ := Dict.mem_values.mp member
  exact Dict.mem_values.mpr ⟨key, fewer.kept key value found⟩

end Fewer

/-- Values that would have to stand under one key are at most one. -/
theorem countP_values_le_one {meets : α → Bool}
    (same : ∀ first second one other, map.get first = some one → map.get second = some other →
      meets one = true → meets other = true → first = second) :
    map.values.countP meets ≤ 1 := by
  unfold values
  rw [List.countP_map, List.countP_eq_length_filter]
  have nodup : ((map.entries.filter (meets ∘ Prod.snd)).map Prod.fst).Nodup :=
    map.unique.sublist (List.filter_sublist.map Prod.fst)
  have equal : ∀ one ∈ map.entries.filter (meets ∘ Prod.snd),
      ∀ other ∈ map.entries.filter (meets ∘ Prod.snd), one.1 = other.1 := by
    intro one oneIn other otherIn
    obtain ⟨oneEntry, oneMeets⟩ := List.mem_filter.mp oneIn
    obtain ⟨otherEntry, otherMeets⟩ := List.mem_filter.mp otherIn
    exact same _ _ _ _ (mem_entries.mp oneEntry) (mem_entries.mp otherEntry) oneMeets otherMeets
  generalize map.entries.filter (meets ∘ Prod.snd) = chosen at nodup equal ⊢
  match chosen with
  | [] => exact Nat.zero_le _
  | [_] => exact Nat.le_refl _
  | first :: second :: rest =>
    have keys := equal first List.mem_cons_self second
      (List.mem_cons_of_mem _ List.mem_cons_self)
    simp [keys] at nodup

end Dict

end JwOps.Foundation.Maps
