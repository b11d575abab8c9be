/- module: Foundation/Chain
   source: none
   digest: Checked chains of records, and how their last state determines all of them. -/
import Mathlib.Data.List.Induction
import Mathlib.Logic.Function.Iterate

set_option autoImplicit false

namespace JwOps.Foundation.Chain

/-- No two different inputs of the list have the same image. -/
def CollisionFree {α β : Type} (f : α → β) (inputs : List α) : Prop :=
  ∀ first ∈ inputs, ∀ second ∈ inputs, f first = f second → first = second

instance {α β : Type} [DecidableEq α] [DecidableEq β] (f : α → β) (inputs : List α) :
    Decidable (CollisionFree f inputs) :=
  inferInstanceAs (Decidable (∀ first ∈ inputs, ∀ second ∈ inputs, f first = f second →
    first = second))

theorem bind_ok {ε α β : Type} {result : Except ε α} {next : α → Except ε β} {value : β} :
    result >>= next = .ok value ↔ ∃ middle, result = .ok middle ∧ next middle = .ok value := by
  cases result <;> simp [bind, Except.bind]

theorem check_ok {ε β : Type} {check : Except ε Unit} {next : Unit → Except ε β} {value : β} :
    check >>= next = .ok value ↔ check = .ok () ∧ next () = .ok value := by
  cases check <;> simp [bind, Except.bind]

theorem forM_ok {ε α : Type} {check : α → Except ε Unit} {items : List α} :
    items.forM check = .ok () ↔ ∀ item ∈ items, check item = .ok () := by
  induction items with
  | nil => simp [List.forM, pure, Except.pure]
  | cons item items ih =>
    rw [List.forall_mem_cons, ← ih]
    exact check_ok

theorem bind_error {ε α β : Type} {result : Except ε α} {next : α → Except ε β} {error : ε} :
    result >>= next = .error error ↔
      result = .error error ∨ ∃ middle, result = .ok middle ∧ next middle = .error error := by
  cases result <;> simp [bind, Except.bind]

variable {σ ρ ε : Type} {check other : σ → ρ → Except ε σ} {records : List ρ} {start last : σ}

/-- A chain that passes is checked record by record, each after the ones before it. -/
theorem foldlM_append_ok {front back : List ρ}
    (passes : (front ++ back).foldlM check start = .ok last) :
    ∃ middle, front.foldlM check start = .ok middle ∧ back.foldlM check middle = .ok last := by
  rw [List.foldlM_append] at passes
  exact bind_ok.mp passes

theorem foldlM_cons_ok {record : ρ} (passes : (record :: records).foldlM check start = .ok last) :
    ∃ next, check start record = .ok next ∧ records.foldlM check next = .ok last := by
  rw [List.foldlM_cons] at passes
  exact bind_ok.mp passes

theorem foldlM_concat_ok {record : ρ}
    (passes : (records ++ [record]).foldlM check start = .ok last) :
    ∃ middle, records.foldlM check start = .ok middle ∧ check middle record = .ok last := by
  obtain ⟨middle, front, back⟩ := foldlM_append_ok passes
  obtain ⟨next, checked, done⟩ := foldlM_cons_ok back
  obtain rfl : next = last := Except.ok.inj done
  exact ⟨middle, front, checked⟩

theorem foldlM_error {error : ε} (refused : records.foldlM check start = .error error) :
    ∃ state, ∃ record ∈ records, check state record = .error error := by
  induction records generalizing start with
  | nil => cases refused
  | cons record rest ih =>
    rw [List.foldlM_cons, bind_error] at refused
    rcases refused with here | ⟨next, _, later⟩
    · exact ⟨start, record, List.mem_cons_self, here⟩
    · obtain ⟨state, found, member, refused⟩ := ih later
      exact ⟨state, found, List.mem_cons_of_mem _ member, refused⟩

/-- What every check does to a measure of the state adds up over the chain. -/
theorem foldlM_measure {μ : Type} {measure : σ → μ} {advance : μ → μ}
    (each : ∀ before record after, check before record = .ok after →
      measure after = advance (measure before))
    (passes : records.foldlM check start = .ok last) :
    measure last = advance^[records.length] (measure start) := by
  induction records generalizing start with
  | nil =>
    obtain rfl : start = last := Except.ok.inj passes
    rfl
  | cons record rest ih =>
    obtain ⟨next, checked, passes⟩ := foldlM_cons_ok passes
    rw [ih passes, each _ _ _ checked, List.length_cons, Function.iterate_succ_apply]

/-- Two chains that end alike are alike, where the state after a check determines the record and
the state before it. -/
theorem foldlM_unique {others : List ρ} {origin : σ}
    (backward : ∀ record ∈ records, ∀ different ∈ others, ∀ before earlier after,
      check before record = .ok after → other earlier different = .ok after →
        record = different ∧ before = earlier)
    (sameLength : records.length = others.length)
    (passes : records.foldlM check start = .ok last)
    (otherPasses : others.foldlM other origin = .ok last) : records = others ∧ start = origin := by
  -- from the last records to the first ones: only the end is known to be equal
  induction records using List.reverseRecOn generalizing others last with
  | nil =>
    obtain rfl : others = [] := List.length_eq_zero_iff.mp sameLength.symm
    exact ⟨rfl, (Except.ok.inj passes).trans (Except.ok.inj otherPasses).symm⟩
  | append_singleton front record ih =>
    rcases List.eq_nil_or_concat others with rfl | ⟨otherFront, different, rfl⟩
    · simp at sameLength
    rw [List.concat_eq_append] at backward sameLength otherPasses ⊢
    obtain ⟨middle, frontPasses, checked⟩ := foldlM_concat_ok passes
    obtain ⟨otherMiddle, otherFrontPasses, otherChecked⟩ := foldlM_concat_ok otherPasses
    obtain ⟨rfl, rfl⟩ := backward record (by simp) different (by simp) _ _ _ checked otherChecked
    obtain ⟨rfl, rfl⟩ := ih
      (fun r member d otherMember => backward r (by simp [member]) d (by simp [otherMember]))
      (by simpa using sameLength) frontPasses otherFrontPasses
    exact ⟨rfl, rfl⟩

end JwOps.Foundation.Chain
