/- module: Engine/Diff
   source: jw-opsd managed_config/text.rs, the preview of a proposed configuration
   digest: The reported counts, preview and line numbers describe one best split of the lines. -/
import JwOps.Foundation.SharedEnds
import JwOps.Engine.Interface

set_option autoImplicit false

namespace JwOps.Engine.Diff

open Contracts Foundation Text Digest Operation Config Interface

/-- The largest number that `u32` holds. -/
def u32Max : Nat := 2 ^ 32 - 1

/-- `u32::try_from(..).map_or(u32::MAX, identity)`. -/
def countOf (number : Nat) : UInt32 := UInt32.ofNat (min number u32Max)

def boundedLine (value : List Char) : String :=
  String.ofList (if value.length > 160 then value.take 160 ++ ['…'] else value.take 160)

def truncationMarker : String := "… diff preview truncated"

def removedPreview (line : List Char) : String := "-" ++ boundedLine line

def addedPreview (line : List Char) : String := "+" ++ boundedLine line

def diffStats (current proposed : String) : DiffStats :=
  let before := lines current.toList
  let after := lines proposed.toList
  let ends := commonEnds before after
  let removed := between ends before
  let added := between ends after
  let summary := (removed.take 20).map removedPreview ++ (added.take 20).map addedPreview
  { addedLines := countOf added.length
    removedLines := countOf removed.length
    summary :=
      if removed.length + added.length > summary.length then summary ++ [truncationMarker]
      else summary }

/-- `u32::try_from(index + 1)`. -/
def lineNumber (index : Nat) : Option UInt32 :=
  if index + 1 ≤ u32Max then some (UInt32.ofNat (index + 1)) else none

def changedCandidateLines (current proposed : String) : List UInt32 :=
  let before := lines current.toList
  let after := lines proposed.toList
  let ends := commonEnds before after
  let changedEnd := after.length - ends.2
  -- Numbers that do not fit are dropped.
  ((List.range' ends.1 (changedEnd - ends.1)).filterMap lineNumber).take 128

theorem toNat_countOf (number : Nat) : (countOf number).toNat = min number u32Max := by
  rw [countOf, UInt32.toNat_ofNat', Nat.mod_eq_of_lt]
  have bound : min number u32Max ≤ u32Max := Nat.min_le_right _ _
  have small : u32Max < 2 ^ 32 := by decide
  omega

/-! ### The marker -/

theorem marker_ne_removedPreview (line : List Char) : truncationMarker ≠ removedPreview line := by
  intro same
  have first := congrArg (fun text : String => text.toList.head?) same
  simp [truncationMarker, removedPreview, String.toList_append] at first

theorem marker_ne_addedPreview (line : List Char) : truncationMarker ≠ addedPreview line := by
  intro same
  have first := congrArg (fun text : String => text.toList.head?) same
  simp [truncationMarker, addedPreview, String.toList_append] at first

theorem marker_mem_iff {removed added : List (List Char)} {omitted : Prop} [Decidable omitted] :
    truncationMarker ∈ (removed.map removedPreview ++ added.map addedPreview) ++
        (if omitted then [truncationMarker] else []) ↔ omitted := by
  have not_removed : truncationMarker ∉ removed.map removedPreview := by
    intro member
    obtain ⟨line, _, same⟩ := List.mem_map.mp member
    exact marker_ne_removedPreview line same.symm
  have not_added : truncationMarker ∉ added.map addedPreview := by
    intro member
    obtain ⟨line, _, same⟩ := List.mem_map.mp member
    exact marker_ne_addedPreview line same.symm
  by_cases held : omitted
  · simp [held]
  · simp [held, not_removed, not_added]

theorem preview_eq (removed added : List (List Char)) :
    (if removed.length + added.length >
        ((removed.take 20).map removedPreview ++ (added.take 20).map addedPreview).length then
      ((removed.take 20).map removedPreview ++ (added.take 20).map addedPreview) ++
        [truncationMarker]
    else (removed.take 20).map removedPreview ++ (added.take 20).map addedPreview) =
      ((removed.take 20).map removedPreview ++ (added.take 20).map addedPreview) ++
        (if 20 < removed.length ∨ 20 < added.length then [truncationMarker] else []) := by
  have omitted : removed.length + added.length >
      ((removed.take 20).map removedPreview ++ (added.take 20).map addedPreview).length ↔
        20 < removed.length ∨ 20 < added.length := by
    simp only [List.length_append, List.length_map, List.length_take]
    omega
  by_cases held : 20 < removed.length ∨ 20 < added.length
  · rw [if_pos (omitted.mpr held), if_pos held]
  · rw [if_neg fun more => held (omitted.mp more), if_neg held, List.append_nil]

/-! ### The candidate lines -/

/-- The numbers from `first` on that a `u32` holds, at most 128 of them. -/
theorem filterMap_fitting (first count : Nat) :
    (((List.range' first count).filterMap lineNumber).take 128).map UInt32.toNat =
      ((List.range' (first + 1) count).take 128).filter (· ≤ u32Max) := by
  generalize 128 = shown
  induction count generalizing first shown with
  | zero => simp
  | succ count ih =>
    cases shown with
    | zero => simp
    | succ shown =>
      rw [List.range'_succ, List.range'_succ, List.take_succ_cons]
      by_cases fits : first + 1 ≤ u32Max
      · have small : first + 1 < 2 ^ 32 := Nat.lt_of_le_of_lt fits (by decide)
        have number : lineNumber first = some (UInt32.ofNat (first + 1)) := if_pos fits
        rw [List.filterMap_cons_some number, List.take_succ_cons, List.map_cons,
          UInt32.toNat_ofNat_of_lt' small, ih (first + 1) shown]
        simp only [List.filter_cons, decide_eq_true fits, ↓reduceIte]
      · -- All later numbers are larger and dropped as well.
        have none_left : (List.range' (first + 1) count).filterMap lineNumber = [] := by
          refine List.filterMap_eq_nil_iff.mpr fun index member => if_neg ?_
          have above := (List.mem_range'_1.mp member).1
          omega
        have none_kept : ((List.range' (first + 1 + 1) count).take shown).filter (· ≤ u32Max) =
            [] := by
          refine List.filter_eq_nil_iff.mpr fun index member => ?_
          have above := (List.mem_range'_1.mp (List.mem_of_mem_take member)).1
          rw [decide_eq_true_eq]
          omega
        have number : lineNumber first = none := if_neg fits
        rw [List.filterMap_cons_none number, none_left]
        simp only [List.filter_cons, decide_eq_false fits, none_kept, Bool.false_eq_true,
          ↓reduceIte, List.take_nil, List.map_nil]

/-! ### What is reported -/

/-- The preview and the counts describe the split that takes the longest common start and then
the longest common end. It leaves the fewest changed lines. Counts stop at the largest `u32`. -/
theorem diffStats_describes_best_split (current proposed : String) :
    ∃ split : Split (lines current.toList) (lines proposed.toList),
      (∀ common, common <+: lines current.toList → common <+: lines proposed.toList →
        common.length ≤ split.start.length) ∧
      (∀ common, common <:+ split.removed ++ split.rest → common <:+ split.added ++ split.rest →
        common.length ≤ split.rest.length) ∧
      (∀ other : Split (lines current.toList) (lines proposed.toList),
        split.changed ≤ other.changed) ∧
      (diffStats current proposed).removedLines.toNat = min split.removed.length u32Max ∧
      (diffStats current proposed).addedLines.toNat = min split.added.length u32Max ∧
      (diffStats current proposed).summary =
        ((split.removed.take 20).map removedPreview ++ (split.added.take 20).map addedPreview) ++
          (if 20 < split.removed.length ∨ 20 < split.added.length then [truncationMarker]
            else []) ∧
      (truncationMarker ∈ (diffStats current proposed).summary ↔
        20 < split.removed.length ∨ 20 < split.added.length) ∧
      (changedCandidateLines current proposed).map UInt32.toNat =
        ((List.range' (split.start.length + 1) split.added.length).take 128).filter
          (· ≤ u32Max) := by
  have summary_eq : (diffStats current proposed).summary =
      (((greedySplit (lines current.toList) (lines proposed.toList)).removed.take 20).map
          removedPreview ++
        ((greedySplit (lines current.toList) (lines proposed.toList)).added.take 20).map
          addedPreview) ++
        (if 20 < (greedySplit (lines current.toList) (lines proposed.toList)).removed.length ∨
            20 < (greedySplit (lines current.toList) (lines proposed.toList)).added.length then
          [truncationMarker] else []) := by
    exact preview_eq _ _
  refine ⟨greedySplit _ _, fun _ => greedySplit_start_maximal, fun _ => greedySplit_rest_maximal,
    greedySplit_best, toNat_countOf _, toNat_countOf _, summary_eq, ?_, ?_⟩
  · rw [summary_eq]
    exact marker_mem_iff
  · have added_length := length_between
      (commonEnds (lines current.toList) (lines proposed.toList)) (lines proposed.toList)
    rw [length_greedySplit_start]
    dsimp only [changedCandidateLines, greedySplit]
    rw [added_length]
    exact filterMap_fitting _ _

/-! ### More lines than a count holds -/

theorem splitOn_replicate (count : Nat) :
    (List.replicate count '\n').splitOn '\n' = List.replicate (count + 1) [] := by
  induction count with
  | zero => rfl
  | succ count ih =>
    rw [List.replicate_succ, List.replicate_succ, ← ih]
    simp [List.splitOn, List.splitOnP_cons_eq_if_modifyHead]

theorem endLines_replicate (count : Nat) :
    endLines (List.replicate (count + 1) []) = List.replicate count [] := by
  induction count with
  | zero => rfl
  | succ count ih =>
    have step : endLines ([] :: List.replicate (count + 1) []) =
        [] :: endLines (List.replicate (count + 1) []) := by
      rw [List.replicate_succ, endLines]
      · rfl
      · exact fun equal => nomatch equal
    rw [List.replicate_succ, step, ih, List.replicate_succ]

theorem lines_replicate (count : Nat) :
    lines (List.replicate count '\n') = List.replicate count [] := by
  rw [lines, splitOn_replicate, endLines_replicate]

/-- A new file of 2^32 empty lines is reported with one line less than it adds. -/
theorem diffStats_count_saturates :
    ∃ current proposed : String, lines current.toList = [] ∧
      (lines proposed.toList).length = 2 ^ 32 ∧
      (diffStats current proposed).addedLines.toNat ≠ (lines proposed.toList).length := by
  have proposed_lines : lines (String.ofList (List.replicate (2 ^ 32) '\n')).toList =
      List.replicate (2 ^ 32) [] := by
    rw [String.toList_ofList, lines_replicate]
  have current_lines : lines ("" : String).toList = [] := by decide
  refine ⟨"", String.ofList (List.replicate (2 ^ 32) '\n'), current_lines, ?_, ?_⟩
  · rw [proposed_lines, List.length_replicate]
  · dsimp only [diffStats]
    rw [toNat_countOf, proposed_lines, current_lines, length_between, List.length_replicate]
    have capped : ∀ number, min number u32Max ≠ 2 ^ 32 := by
      intro number
      have small : u32Max < 2 ^ 32 := by decide
      omega
    exact capped _

/-! ### Empty reports -/

theorem countOf_eq_zero_iff (number : Nat) : countOf number = 0 ↔ number = 0 := by
  have zero : (0 : UInt32).toNat = 0 := rfl
  have positive : 0 < u32Max := by decide
  rw [← UInt32.toNat_inj, toNat_countOf, zero]
  omega

theorem diffStats_empty_iff (current proposed : String) :
    (diffStats current proposed).removedLines = 0 ∧ (diffStats current proposed).addedLines = 0 ↔
      lines current.toList = lines proposed.toList := by
  let split := greedySplit (lines current.toList) (lines proposed.toList)
  have counts : (diffStats current proposed).removedLines = 0 ∧
      (diffStats current proposed).addedLines = 0 ↔ split.removed = [] ∧ split.added = [] := by
    simp only [diffStats, countOf_eq_zero_iff, List.length_eq_zero_iff]
    rfl
  rw [counts]
  constructor
  · rintro ⟨removed, added⟩
    have left := split.left_eq
    rw [removed, ← added, ← split.right_eq] at left
    exact left
  · intro same
    let unchanged : Split (lines current.toList) (lines proposed.toList) :=
      ⟨lines current.toList, [], [], [], by simp, by simp [same]⟩
    have best := greedySplit_best unchanged
    simp only [Split.changed, unchanged, List.length_nil, Nat.add_zero, Nat.le_zero,
      Nat.add_eq_zero_iff,
      List.length_eq_zero_iff] at best
    exact best

/-- The report is empty for identical contents only, unless both have the same lines and differ in
the characters that end them. -/
theorem empty_diff_identical_iff (current proposed : String) :
    ((diffStats current proposed).removedLines = 0 ∧ (diffStats current proposed).addedLines = 0 ↔
      current = proposed) ↔
      (lines current.toList = lines proposed.toList → current = proposed) := by
  rw [diffStats_empty_iff]
  exact ⟨fun same => same.mp, fun same => ⟨same, fun equal => by rw [equal]⟩⟩

/-- An accepted proposal that only drops a carriage return. -/
theorem dropped_carriage_return_hidden :
    ∃ (request : ManagedConfigPlanRequest) (current proposed : String),
      request.validate sampleCodec = .ok () ∧ request.proposedContent = utf8Bytes proposed ∧
      request.expectedContentDigest = sha256Digest sampleCodec (utf8Bytes current) ∧
      managedConfigBytesSupported sampleCodec (utf8Bytes current) = true ∧
      (diffStats current proposed).removedLines = 0 ∧ (diffStats current proposed).addedLines = 0 ∧
      current ≠ proposed :=
  ⟨⟨operationSchemaVersion, .managedConfig, "ngc_abcdefghijklmnopqrstuvwx",
    sha256Digest sampleCodec (utf8Bytes "a\r\n"), sha256Digest sampleCodec [], utf8Bytes "a\n",
    .reload, "0123456789abcdef"⟩, "a\r\n", "a\n", by decide +kernel⟩

end JwOps.Engine.Diff
