/- module: Foundation/Histories
   digest: Runs of a step function, and what happened at some point of one and nothing undid
   since. -/
import Mathlib.Data.List.Basic
import Mathlib.Data.List.Induction

set_option autoImplicit false

namespace JwOps.Foundation.Histories

variable {σ ε : Type} {step : σ → ε → σ} {start : σ}

/-- The state after a list of events. -/
def after (step : σ → ε → σ) (start : σ) (events : List ε) : σ := events.foldl step start

theorem after_snoc (earlier : List ε) (event : ε) :
    after step start (earlier ++ [event]) = step (after step start earlier) event := by
  unfold after
  rw [List.foldl_append]
  rfl

theorem holds_after {meets : σ → Prop} (initially : meets start)
    (kept : ∀ state event, meets state → meets (step state event)) (events : List ε) :
    meets (after step start events) := by
  induction events using List.reverseRecOn with
  | nil => exact initially
  | append_singleton earlier event ih =>
    rw [after_snoc]
    exact kept _ event ih

theorem snoc_eq_append_cons {middle early late : List ε} {last item : ε}
    (equal : middle ++ [last] = early ++ item :: late) :
    (late = [] ∧ early = middle ∧ item = last) ∨
      ∃ rest, late = rest ++ [last] ∧ middle = early ++ item :: rest := by
  rcases List.eq_nil_or_concat' late with rfl | ⟨rest, final, rfl⟩
  · obtain ⟨same, item⟩ := List.append_inj' equal rfl
    exact .inl ⟨rfl, same.symm, (List.singleton_inj.mp item).symm⟩
  · rw [← List.cons_append, ← List.append_assoc] at equal
    obtain ⟨same, final⟩ := List.append_inj' equal rfl
    exact .inr ⟨rest, by rw [List.singleton_inj.mp final], same⟩

/-- Some event was `made`, and no event after it `spoiled` that. Both may look at the events before
the one they are about. -/
def Since (made spoiled : List ε → ε → Prop) (events : List ε) : Prop :=
  ∃ before event middle, events = before ++ event :: middle ∧ made before event ∧
    ∀ early other late, middle = early ++ other :: late →
      ¬spoiled (before ++ event :: early) other

section Since

variable {made made' spoiled : List ε → ε → Prop} {earlier : List ε} {event : ε}

theorem Since.now (happens : made earlier event) : Since made spoiled (earlier ++ [event]) :=
  ⟨earlier, event, [], rfl, happens, fun _ _ _ empty => absurd empty (by simp)⟩

theorem Since.later (since : Since made spoiled earlier) (quiet : ¬spoiled earlier event) :
    Since made spoiled (earlier ++ [event]) := by
  obtain ⟨before, first, middle, split, happened, unspoiled⟩ := since
  refine ⟨before, first, middle ++ [event], ?_, happened, ?_⟩
  · rw [split, List.append_assoc, List.cons_append]
  · intro early other late equal
    rcases snoc_eq_append_cons equal with ⟨_, rfl, rfl⟩ | ⟨rest, _, inside⟩
    · rw [← split]
      exact quiet
    · exact unspoiled early other rest inside

theorem Since.imp (since : Since made spoiled earlier)
    (weaker : ∀ before event, made before event → made' before event) :
    Since made' spoiled earlier := by
  obtain ⟨before, first, middle, split, happened, unspoiled⟩ := since
  exact ⟨before, first, middle, split, weaker before first happened, unspoiled⟩

end Since

end JwOps.Foundation.Histories
