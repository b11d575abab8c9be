/- module: Foundation/Keyed
   digest: Rows of a table as a list with a key column: lookup, insertion at the end, update. -/
import Mathlib.Data.List.Nodup

set_option autoImplicit false

namespace JwOps.Foundation.Keyed

variable {α κ β : Type} [DecidableEq κ] (key : α → κ)

/-- The first row under a key. -/
def lookup (wanted : κ) (rows : List α) : Option α := rows.find? fun row => key row == wanted

/-- Changes every row under a key and leaves the others alone. -/
def updateAt (wanted : κ) (change : α → α) (rows : List α) : List α :=
  rows.map fun row => if key row == wanted then change row else row

/-- Puts another row in the place of those under a key, or takes them out. -/
def replaceAt (wanted : κ) (replacement : Option α) (rows : List α) : List α :=
  rows.filterMap fun row => if key row = wanted then replacement else some row

variable {key} {wanted other : κ} {change : α → α} {rows : List α} {row : α}

theorem lookup_mem (found : lookup key wanted rows = some row) : row ∈ rows :=
  List.mem_of_find?_eq_some found

theorem lookup_key (found : lookup key wanted rows = some row) : key row = wanted := by
  simpa using List.find?_some found

theorem lookup_eq_none : lookup key wanted rows = none ↔ ∀ row ∈ rows, key row ≠ wanted := by
  simp [lookup]

theorem lookup_concat : lookup key wanted (rows ++ [row]) =
    (lookup key wanted rows).or (if key row = wanted then some row else none) := by
  by_cases same : key row = wanted <;> simp [lookup, List.find?_append, same]

theorem lookup_concat_fresh (named : key row = wanted) (fresh : ∀ old ∈ rows, key old ≠ wanted) :
    lookup key wanted (rows ++ [row]) = some row := by
  rw [lookup_concat, lookup_eq_none.mpr fresh, if_pos named]
  rfl

theorem lookup_of_mem (unique : (rows.map key).Nodup) (member : row ∈ rows) :
    lookup key (key row) rows = some row := by
  induction rows with
  | nil => cases member
  | cons first rest ih =>
    obtain ⟨fresh, unique⟩ := List.nodup_cons.mp unique
    rcases List.mem_cons.mp member with rfl | later
    · simp [lookup]
    · have differ : key first ≠ key row := by
        intro equal
        exact fresh (equal ▸ List.mem_map_of_mem later)
      simpa [lookup, differ] using ih unique later

theorem lookup_updateAt_self (keeps : ∀ row, key (change row) = key row) :
    lookup key wanted (updateAt key wanted change rows) = (lookup key wanted rows).map change := by
  induction rows with
  | nil => rfl
  | cons row rest ih =>
    unfold lookup updateAt at ih ⊢
    by_cases same : key row = wanted
    · simp [same, keeps]
    · simpa [same] using ih

theorem lookup_updateAt_other (keeps : ∀ row, key (change row) = key row)
    (differ : other ≠ wanted) :
    lookup key other (updateAt key wanted change rows) = lookup key other rows := by
  induction rows with
  | nil => rfl
  | cons row rest ih =>
    unfold lookup updateAt at ih ⊢
    by_cases same : key row = wanted
    · have skip : ¬wanted = other := fun equal => differ equal.symm
      simpa [same, keeps, skip] using ih
    · by_cases hit : key row = other
      · simp [hit, differ]
      · simpa [same, hit] using ih

/-- A lookup by another column, which the update leaves alone. -/
theorem lookup_updateAt_column {ι : Type} [DecidableEq ι] {by_ : α → ι} {at_ : ι}
    (keeps : ∀ row, key (change row) = key row) :
    lookup key wanted (updateAt by_ at_ change rows) =
      (lookup key wanted rows).map fun row => if by_ row == at_ then change row else row := by
  induction rows with
  | nil => rfl
  | cons row rest ih =>
    unfold lookup updateAt at ih ⊢
    have same : key (if by_ row == at_ then change row else row) = key row := by
      split
      · exact keeps row
      · rfl
    rw [List.map_cons, List.find?_cons, List.find?_cons, same]
    cases key row == wanted with
    | true => rfl
    | false => exact ih

theorem mem_updateAt (member : row ∈ updateAt key wanted change rows) :
    (row ∈ rows ∧ key row ≠ wanted) ∨ ∃ old ∈ rows, key old = wanted ∧ row = change old := by
  obtain ⟨old, oldMember, rfl⟩ := List.mem_map.mp member
  by_cases same : key old = wanted
  · exact .inr ⟨old, oldMember, same, by simp [same]⟩
  · exact .inl ⟨by simpa [same] using oldMember, by simp [same]⟩

theorem map_updateAt {column : α → β} (keeps : ∀ row, column (change row) = column row) :
    (updateAt key wanted change rows).map column = rows.map column := by
  unfold updateAt
  rw [List.map_map]
  refine List.map_congr_left fun row _ => ?_
  by_cases same : key row = wanted <;> simp [same, keeps]

theorem nodup_concat {column : α → β} (unique : (rows.map column).Nodup)
    (fresh : ∀ old ∈ rows, column old ≠ column row) : ((rows ++ [row]).map column).Nodup := by
  rw [List.map_append]
  refine List.Nodup.append unique (List.nodup_singleton _) ?_
  intro value member single
  obtain ⟨old, oldMember, rfl⟩ := List.mem_map.mp member
  exact fresh old oldMember (by simpa using single)

theorem eq_of_column_eq {column : α → β} (unique : (rows.map column).Nodup) {first second : α}
    (firstMember : first ∈ rows) (secondMember : second ∈ rows)
    (same : column first = column second) : first = second :=
  List.inj_on_of_nodup_map unique firstMember secondMember same

theorem lookup_replaceAt_other {replacement : Option α} (differ : other ≠ wanted)
    (named : ∀ row, replacement = some row → key row = wanted) :
    lookup key other (replaceAt key wanted replacement rows) = lookup key other rows := by
  induction rows with
  | nil => rfl
  | cons row rest ih =>
    unfold lookup replaceAt at ih ⊢
    by_cases hit : key row = wanted
    · have skip : ¬key row = other := by
        rw [hit]
        exact Ne.symm differ
      cases replacement with
      | none => simpa [hit, skip, Ne.symm differ] using ih
      | some new =>
        have placed := named new rfl
        simpa [hit, placed, Ne.symm differ] using ih
    · by_cases here : key row = other
      · simp [here, differ]
      · simpa [hit, here] using ih

theorem lookup_replaceAt_self {replacement : Option α}
    (found : lookup key wanted rows = some row)
    (named : ∀ row, replacement = some row → key row = wanted) :
    lookup key wanted (replaceAt key wanted replacement rows) = replacement := by
  cases replacement with
  | none =>
    refine lookup_eq_none.mpr fun other member same => ?_
    obtain ⟨old, _, kept⟩ := List.mem_filterMap.mp member
    split at kept
    · cases kept
    · obtain rfl := Option.some.inj kept
      contradiction
  | some new =>
    have placed := named new rfl
    induction rows with
    | nil => cases found
    | cons first rest ih =>
      unfold lookup replaceAt at ih ⊢
      by_cases hit : key first = wanted
      · simp [hit, placed]
      · unfold lookup at found
        simp only [hit, beq_iff_eq, not_false_eq_true, List.find?_cons_of_neg] at found
        simpa [hit] using ih found

omit [DecidableEq κ] in
/-- A list of reads that all succeeded: one value for each row, in order. -/
theorem mapM_ok {ε : Type} {read : α → Except ε β} {column : β → κ}
    (keyed : ∀ row value, read row = .ok value → column value = key row) {values : List β}
    (computed : rows.mapM read = .ok values) :
    values.map column = rows.map key ∧
      (∀ row ∈ rows, ∃ value ∈ values, read row = .ok value) ∧
      ∀ value ∈ values, ∃ row ∈ rows, read row = .ok value := by
  induction rows generalizing values with
  | nil =>
    obtain rfl : values = [] := (Except.ok.inj computed).symm
    exact ⟨rfl, nofun, nofun⟩
  | cons row rest ih =>
    rw [List.mapM_cons] at computed
    cases first : read row with
    | error error => rw [first] at computed; cases computed
    | ok value =>
      rw [first] at computed
      cases others : rest.mapM read with
      | error error => simp [others, bind, Except.bind] at computed
      | ok tail =>
        simp only [others, bind, Except.bind, pure, Except.pure, Except.ok.injEq] at computed
        subst computed
        obtain ⟨columns, left, right⟩ := ih others
        refine ⟨?_, List.forall_mem_cons.mpr ⟨⟨value, List.mem_cons_self, first⟩, ?_⟩,
          List.forall_mem_cons.mpr ⟨⟨row, List.mem_cons_self, first⟩, ?_⟩⟩
        · rw [List.map_cons, List.map_cons, columns, keyed row value first]
        · intro other member
          obtain ⟨found, inTail, read⟩ := left other member
          exact ⟨found, List.mem_cons_of_mem _ inTail, read⟩
        · intro other member
          obtain ⟨found, inRest, read⟩ := right other member
          exact ⟨found, List.mem_cons_of_mem _ inRest, read⟩

end JwOps.Foundation.Keyed
