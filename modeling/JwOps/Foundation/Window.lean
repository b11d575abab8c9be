/- module: Foundation/Window
   digest: Fixed-window counters, alone or one for each key, and what they bound. -/
import JwOps.Foundation.Maps

set_option autoImplicit false

namespace JwOps.Foundation.Window

open Maps

/-- What was counted since the window began. -/
structure Counter where
  started : Nat
  attempts : Nat
  deriving DecidableEq, Repr

/-- How much of its budget a counter that may be absent has used. -/
def used (slot : Option Counter) : Nat := (slot.map Counter.attempts).getD 0

def Counter.live (width now : Nat) (counter : Counter) : Bool :=
  decide (now - counter.started < width)

def Counter.next (counter : Counter) : Counter := { counter with attempts := counter.attempts + 1 }

/-- The counter in a slot, or a new one that starts now. -/
def opened (slot : Option Counter) (now : Nat) : Counter := slot.getD ⟨now, 0⟩

/-! ### One counter -/

/-- A counter accounts for the admissions of its window: there are no more of them than it counted,
and none is as late as the end of the window. -/
def Counts (width limit last : Nat) (admitted : List Nat) : Option Counter → Prop
  | none => ∀ time ∈ admitted, time < last
  | some counter => counter.started ≤ last ∧ counter.attempts ≤ limit ∧
      (admitted.countP fun time => decide (counter.started ≤ time)) ≤ counter.attempts ∧
      ∀ time ∈ admitted, time < counter.started + width

variable {width limit last now : Nat} {admitted : List Nat} {slot : Option Counter}
  {counter : Counter}

theorem counts_empty : Counts width limit last [] none := nofun

theorem Counts.expire (counts : Counts width limit last admitted slot) (later : last ≤ now) :
    Counts width limit now admitted (slot.filter (Counter.live width now)) := by
  cases slot with
  | none =>
    intro time member
    have before := counts time member
    omega
  | some counter =>
    obtain ⟨began, bounded, counted, inside⟩ := counts
    by_cases live : now - counter.started < width
    · have kept : (some counter).filter (Counter.live width now) = some counter := by
        simp [Counter.live, live]
      rw [kept]
      exact ⟨by omega, bounded, counted, inside⟩
    · have dropped : (some counter).filter (Counter.live width now) = none := by
        simp only [Option.filter_eq_none_iff, Option.some.injEq, forall_eq', Counter.live, live,
          decide_false, Bool.false_eq_true, not_false_eq_true]
      rw [dropped]
      intro time member
      have before := inside time member
      omega

theorem Counts.start (counts : Counts width limit now admitted none) :
    Counts width limit now admitted (some ⟨now, 0⟩) := by
  have none_left : (admitted.countP fun time => decide (now ≤ time)) = 0 := by
    rw [List.countP_eq_zero]
    intro time member
    have before := counts time member
    simpa using before
  refine ⟨Nat.le_refl _, Nat.zero_le _, Nat.le_of_eq none_left, ?_⟩
  intro time member
  exact Nat.lt_add_right width (counts time member)

theorem opened_attempts : (opened slot now).attempts = used slot := by
  cases slot <;> rfl

theorem opened_of_used (positive : 0 < limit) (spent : limit ≤ used slot) :
    some (opened slot now) = slot := by
  cases slot with
  | none => exact absurd spent (Nat.not_le_of_lt positive)
  | some counter => rfl

/-- What a slot holds once an attempt has looked at it. -/
theorem Counts.opened (counts : Counts width limit now admitted slot) :
    Counts width limit now admitted (some (opened slot now)) := by
  cases slot with
  | none => exact counts.start
  | some counter => exact counts

/-- An attempt that is counted, whatever becomes of it. -/
theorem Counts.charge (counts : Counts width limit now admitted (some counter))
    (room : counter.attempts < limit) :
    Counts width limit now admitted (some counter.next) := by
  obtain ⟨began, bounded, counted, inside⟩ := counts
  exact ⟨began, room, Nat.le_succ_of_le counted, inside⟩

/-- An attempt that is counted and admitted. -/
theorem Counts.grant (counts : Counts width limit now admitted (some counter))
    (room : counter.attempts < limit) (live : now < counter.started + width) :
    Counts width limit now (admitted ++ [now]) (some counter.next) := by
  obtain ⟨began, bounded, counted, inside⟩ := counts
  refine ⟨began, room, ?_, ?_⟩
  · have one : ([now].countP fun time => decide (counter.started ≤ time)) ≤ 1 :=
      List.countP_le_length
    show ((admitted ++ [now]).countP fun time => decide (counter.started ≤ time)) ≤
      counter.attempts + 1
    rw [List.countP_append]
    omega
  · intro time member
    rcases List.mem_append.mp member with earlier | here
    · exact inside time earlier
    · obtain rfl := List.mem_singleton.mp here
      exact live

theorem Counts.used_le (counts : Counts width limit last admitted slot) : used slot ≤ limit := by
  cases slot with
  | none => exact Nat.zero_le _
  | some counter => exact counts.2.1

/-- An admission that was counted names its window. -/
theorem Counts.window (counts : Counts width limit now admitted slot) (member : now ∈ admitted) :
    ∃ counter, slot = some counter ∧ counter.started ≤ now ∧ now < counter.started + width ∧
      (admitted.countP fun time => decide (counter.started ≤ time)) ≤ limit := by
  cases slot with
  | none => exact absurd (counts now member) (Nat.lt_irrefl _)
  | some counter =>
    obtain ⟨began, bounded, counted, inside⟩ := counts
    exact ⟨counter, rfl, began, inside now member, Nat.le_trans counted bounded⟩

/-- The counter an attempt meets, found or new, is one of the present window. -/
theorem opened_live (positive : 0 < width)
    (counts : Counts width limit now admitted (slot.filter (Counter.live width now))) :
    now < (opened (slot.filter (Counter.live width now)) now).started + width := by
  cases found : slot.filter (Counter.live width now) with
  | none => exact Nat.lt_add_of_pos_right positive
  | some counter =>
    have live := (Option.filter_eq_some_iff.mp found).2
    rw [found] at counts
    have began := counts.1
    unfold Counter.live at live
    rw [decide_eq_true_iff] at live
    show now < counter.started + width
    omega

/-! ### A counter for each key -/

section Keys

variable {κ : Type} [DecidableEq κ] {map : Dict κ Counter} {key : κ}

theorem live_of_retain (positive : 0 < width)
    (counts : Counts width limit now admitted
      ((map.retain fun _ => Counter.live width now).get key)) :
    now < (opened ((map.retain fun _ => Counter.live width now).get key) now).started + width := by
  rw [Dict.get_retain] at counts ⊢
  exact opened_live positive counts

/-- Writing the counter of one key, with or without an admission under that key. -/
theorem counts_set {before after : κ → List Nat}
    (counts : ∀ other, Counts width limit now (before other) (map.get other))
    (others : ∀ other, other ≠ key → after other = before other)
    (written : Counts width limit now (after key) (some counter)) (other : κ) :
    Counts width limit now (after other) ((map.set key counter).get other) := by
  by_cases same : other = key
  · rw [same, Dict.get_set_self]
    exact written
  · rw [Dict.get_set_other same, others other same]
    exact counts other

end Keys

end JwOps.Foundation.Window
