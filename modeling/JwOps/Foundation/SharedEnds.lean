/- module: Foundation/SharedEnds
   digest: What two lists have in common at both ends, and that taking it greedily is best. -/
import Mathlib.Data.List.Basic
import Mathlib.Data.List.TakeWhile

set_option autoImplicit false

namespace JwOps.Foundation

section Scanning

variable {α : Type}

theorem le_length_takeWhile (test : α → Bool) (items : List α) (count : Nat) :
    count ≤ (items.takeWhile test).length ↔
      count ≤ items.length ∧ ∀ item ∈ items.take count, test item = true := by
  induction items generalizing count with
  | nil => simp
  | cons item items ih =>
    cases count with
    | zero => simp
    | succ count =>
      cases passes : test item with
      | false => simp [passes]
      | true => simp [passes, ih]

end Scanning

section Ends

variable {α : Type} [DecidableEq α]

/-- The number of items before the first difference. -/
def commonStart (left right : List α) : Nat :=
  ((left.zip right).takeWhile fun pair => pair.1 = pair.2).length

/-- The number of equal items counted from the ends, up to a limit. -/
def commonEnd (limit : Nat) (left right : List α) : Nat :=
  ((List.range limit).takeWhile fun offset =>
    left[left.length - (1 + offset)]? = right[right.length - (1 + offset)]?).length

theorem le_commonStart {left right : List α} {count : Nat} :
    count ≤ commonStart left right ↔
      count ≤ left.length ∧ count ≤ right.length ∧ left.take count = right.take count := by
  induction left generalizing right count with
  | nil => cases count <;> simp [commonStart]
  | cons item left ih =>
    cases right with
    | nil => cases count <;> simp [commonStart]
    | cons other right =>
      cases count with
      | zero => simp
      | succ count =>
        by_cases same : item = other
        · subst same
          have tail := @ih right count
          simp only [commonStart] at tail
          simpa [commonStart] using tail
        · simp [commonStart, same]

theorem le_commonEnd {limit : Nat} {left right : List α} (left_le : limit ≤ left.length)
    (right_le : limit ≤ right.length) {count : Nat} :
    count ≤ commonEnd limit left right ↔
      count ≤ limit ∧
        left.drop (left.length - count) = right.drop (right.length - count) := by
  rw [commonEnd, le_length_takeWhile, List.length_range]
  refine and_congr_right fun count_le => ?_
  have taken : (List.range limit).take count = List.range count := by
    rw [List.take_range, Nat.min_eq_left count_le]
  simp only [taken, List.mem_range, decide_eq_true_eq]
  constructor
  · intro same
    apply List.ext_getElem?
    intro index
    rw [List.getElem?_drop, List.getElem?_drop]
    by_cases inside : index < count
    · have found := same (count - 1 - index) (by omega)
      have left_at : left.length - (1 + (count - 1 - index)) = left.length - count + index := by
        omega
      have right_at : right.length - (1 + (count - 1 - index)) =
          right.length - count + index := by
        omega
      rw [left_at, right_at] at found
      exact found
    · rw [List.getElem?_eq_none (by omega), List.getElem?_eq_none (by omega)]
  · intro same offset offset_lt
    have found := congrArg (fun items : List α => items[count - (1 + offset)]?) same
    simp only [List.getElem?_drop] at found
    have left_at : left.length - count + (count - (1 + offset)) = left.length - (1 + offset) := by
      omega
    have right_at : right.length - count + (count - (1 + offset)) =
        right.length - (1 + offset) := by
      omega
    rw [left_at, right_at] at found
    exact found

/-- What remains for the common end once the common start is taken. -/
def endLimit (left right : List α) : Nat :=
  min (left.length - commonStart left right) (right.length - commonStart left right)

/-- The lengths of the two common ends, the start taken first. -/
def commonEnds (left right : List α) : Nat × Nat :=
  (commonStart left right, commonEnd (endLimit left right) left right)

variable {left right : List α}

theorem commonStart_le_left : commonStart left right ≤ left.length :=
  (le_commonStart.mp (Nat.le_refl _)).1

theorem commonStart_le_right : commonStart left right ≤ right.length :=
  (le_commonStart.mp (Nat.le_refl _)).2.1

theorem take_commonStart :
    left.take (commonStart left right) = right.take (commonStart left right) :=
  (le_commonStart.mp (Nat.le_refl _)).2.2

theorem endLimit_le_left : endLimit left right ≤ left.length := by
  unfold endLimit
  omega

theorem endLimit_le_right : endLimit left right ≤ right.length := by
  unfold endLimit
  omega

theorem le_commonEnds_snd {count : Nat} :
    count ≤ (commonEnds left right).2 ↔
      count ≤ endLimit left right ∧
        left.drop (left.length - count) = right.drop (right.length - count) :=
  le_commonEnd endLimit_le_left endLimit_le_right

/-- The two ends do not overlap in the first list. -/
theorem commonEnds_le_left :
    (commonEnds left right).1 + (commonEnds left right).2 ≤ left.length := by
  have start_le : (commonEnds left right).1 ≤ left.length := commonStart_le_left
  have end_le := (le_commonEnds_snd.mp (Nat.le_refl (commonEnds left right).2)).1
  have limit : endLimit left right ≤ left.length - (commonEnds left right).1 :=
    Nat.min_le_left _ _
  omega

/-- The two ends do not overlap in the second list. -/
theorem commonEnds_le_right :
    (commonEnds left right).1 + (commonEnds left right).2 ≤ right.length := by
  have start_le : (commonEnds left right).1 ≤ right.length := commonStart_le_right
  have end_le := (le_commonEnds_snd.mp (Nat.le_refl (commonEnds left right).2)).1
  have limit : endLimit left right ≤ right.length - (commonEnds left right).1 :=
    Nat.min_le_right _ _
  omega

theorem drop_commonEnds :
    left.drop (left.length - (commonEnds left right).2) =
      right.drop (right.length - (commonEnds left right).2) :=
  (le_commonEnds_snd.mp (Nat.le_refl _)).2

/-- The items between the common ends of the first list. -/
def between (ends : Nat × Nat) (items : List α) : List α :=
  (items.take (items.length - ends.2)).drop ends.1

omit [DecidableEq α] in
theorem length_between (ends : Nat × Nat) (items : List α) :
    (between ends items).length = items.length - ends.2 - ends.1 := by
  rw [between, List.length_drop, List.length_take]
  omega

omit [DecidableEq α] in
theorem take_between_drop {ends : Nat × Nat} {items : List α}
    (within : ends.1 + ends.2 ≤ items.length) :
    items = items.take ends.1 ++ between ends items ++ items.drop (items.length - ends.2) := by
  have front : items.take ends.1 = (items.take (items.length - ends.2)).take ends.1 := by
    rw [List.take_take, Nat.min_eq_left (by omega)]
  rw [between, front, List.take_append_drop, List.take_append_drop]

/-! ### The greedy choice is best -/

omit [DecidableEq α] in
theorem drop_append_end (front : List α) {rest : List α} {count : Nat}
    (count_le : count ≤ rest.length) :
    (front ++ rest).drop ((front ++ rest).length - count) = rest.drop (rest.length - count) := by
  have position : (front ++ rest).length - count = front.length + (rest.length - count) := by
    rw [List.length_append]
    omega
  rw [position, List.drop_length_add_append]

/-- No other way to write the two lists with a common start and a common end leaves less. -/
theorem commonEnds_best {start first second rest : List α}
    (left_eq : left = start ++ first ++ rest) (right_eq : right = start ++ second ++ rest) :
    start.length + rest.length ≤ (commonEnds left right).1 + (commonEnds left right).2 := by
  have left_length : left.length = start.length + first.length + rest.length := by
    simp only [left_eq, List.length_append]
  have right_length : right.length = start.length + second.length + rest.length := by
    simp only [right_eq, List.length_append]
  have start_le : start.length ≤ commonStart left right := by
    refine le_commonStart.mpr ⟨by omega, by omega, ?_⟩
    rw [left_eq, right_eq, List.append_assoc, List.append_assoc, List.take_left, List.take_left]
  -- A common end has common ends of every smaller length.
  have shorter : ∀ count ≤ rest.length,
      left.drop (left.length - count) = right.drop (right.length - count) := by
    intro count count_le
    rw [left_eq, right_eq, drop_append_end _ count_le, drop_append_end _ count_le]
  have limit_eq : endLimit left right =
      min (left.length - commonStart left right) (right.length - commonStart left right) := rfl
  have left_le : commonStart left right ≤ left.length := commonStart_le_left
  have right_le : commonStart left right ≤ right.length := commonStart_le_right
  have best : ∀ {count : Nat}, _ → count ≤ (commonEnds left right).2 := le_commonEnds_snd.mpr
  have fst_eq : (commonEnds left right).1 = commonStart left right := rfl
  by_cases fits : rest.length ≤ endLimit left right
  · have end_le := best ⟨fits, shorter rest.length (Nat.le_refl _)⟩
    omega
  · have end_le := best ⟨Nat.le_refl _, shorter (endLimit left right) (by omega)⟩
    omega

/-- Two lists written with a common start and a common end. -/
structure Split (left right : List α) where
  start : List α
  removed : List α
  added : List α
  rest : List α
  left_eq : left = start ++ removed ++ rest
  right_eq : right = start ++ added ++ rest

/-- The items that are in one list only. -/
def Split.changed (split : Split left right) : Nat := split.removed.length + split.added.length

omit [DecidableEq α] in
theorem Split.changed_eq (split : Split left right) :
    split.changed + 2 * (split.start.length + split.rest.length) = left.length + right.length := by
  have left_length := congrArg List.length split.left_eq
  have right_length := congrArg List.length split.right_eq
  simp only [List.length_append] at left_length right_length
  unfold Split.changed
  omega

/-- The split at the greedily taken ends. -/
def greedySplit (left right : List α) : Split left right where
  start := left.take (commonEnds left right).1
  removed := between (commonEnds left right) left
  added := between (commonEnds left right) right
  rest := left.drop (left.length - (commonEnds left right).2)
  left_eq := take_between_drop commonEnds_le_left
  right_eq := by
    have whole := take_between_drop (@commonEnds_le_right α _ left right)
    have start_eq : left.take (commonEnds left right).1 = right.take (commonEnds left right).1 :=
      take_commonStart
    rw [start_eq, drop_commonEnds]
    exact whole

theorem length_greedySplit_start :
    (greedySplit left right).start.length = (commonEnds left right).1 := by
  rw [greedySplit, List.length_take]
  exact Nat.min_eq_left commonStart_le_left

theorem length_greedySplit_rest :
    (greedySplit left right).rest.length = (commonEnds left right).2 := by
  have within := @commonEnds_le_left α _ left right
  rw [greedySplit, List.length_drop]
  omega

theorem greedySplit_best (other : Split left right) :
    (greedySplit left right).changed ≤ other.changed := by
  have best := commonEnds_best other.left_eq other.right_eq
  have greedy_changed := (greedySplit left right).changed_eq
  have other_changed := other.changed_eq
  rw [length_greedySplit_start, length_greedySplit_rest] at greedy_changed
  omega

theorem greedySplit_start_maximal {common : List α} (in_left : common <+: left)
    (in_right : common <+: right) : common.length ≤ (greedySplit left right).start.length := by
  rw [length_greedySplit_start]
  refine le_commonStart.mpr ⟨in_left.length_le, in_right.length_le, ?_⟩
  rw [← List.prefix_iff_eq_take.mp in_left, ← List.prefix_iff_eq_take.mp in_right]

/-- No longer end is common to what follows the common start. -/
theorem greedySplit_rest_maximal {common : List α}
    (in_left : common <:+ (greedySplit left right).removed ++ (greedySplit left right).rest)
    (in_right : common <:+ (greedySplit left right).added ++ (greedySplit left right).rest) :
    common.length ≤ (greedySplit left right).rest.length := by
  obtain ⟨first, first_eq⟩ := in_left
  obtain ⟨second, second_eq⟩ := in_right
  have left_eq : left = (greedySplit left right).start ++ first ++ common := by
    rw [List.append_assoc, first_eq, ← List.append_assoc]
    exact (greedySplit left right).left_eq
  have right_eq : right = (greedySplit left right).start ++ second ++ common := by
    rw [List.append_assoc, second_eq, ← List.append_assoc]
    exact (greedySplit left right).right_eq
  have best := commonEnds_best left_eq right_eq
  rw [length_greedySplit_start] at best
  rw [length_greedySplit_rest]
  omega

end Ends

end JwOps.Foundation
