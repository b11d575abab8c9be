/- module: Agentd/ServiceInventory
   source: crates/jw-agentd/src/service_inventory.rs
   digest: The unit patterns of the service catalog, and the units that they match. -/
import JwOps.Contracts.Operation
import JwOps.Contracts.Text

set_option autoImplicit false

namespace JwOps.Agentd.ServiceInventory

open Contracts Operation Text

/-- `is_ascii_whitespace`, which leaves the vertical tab to the control characters. -/
def isAsciiWhitespace (c : Char) : Bool := c ∈ [' ', '\t', '\n', '\r', Char.ofNat 12]

def validatePattern (pattern : List Char) : Except String Unit :=
  let wildcardCount := pattern.count '*'
  if pattern.isEmpty || 255 < (String.ofList pattern).utf8ByteSize || 1 < wildcardCount ||
      !(".service".toList.isSuffixOf pattern || ".timer".toList.isSuffixOf pattern) ||
      pattern.any fun c => isAsciiControl c || isAsciiWhitespace c || c == '/' then
    .error "service catalog unit pattern rejected"
  else .ok ()

def unitMatches (pattern unitName : List Char) : Bool :=
  match splitOnce '*' pattern with
  | some (start, ending) => start.isPrefixOf unitName && ending.isSuffixOf unitName
  | none => pattern == unitName

theorem splitOnce_append {separator : Char} {start : List Char} (ending : List Char)
    (absent : separator ∉ start) :
    splitOnce separator (start ++ separator :: ending) = some (start, ending) := by
  induction start with
  | nil => simp [splitOnce]
  | cons item start ih =>
    simp only [List.mem_cons, not_or] at absent
    rw [List.cons_append, splitOnce, if_neg (Ne.symm absent.1), ih absent.2]
    rfl

theorem splitOnce_absent {separator : Char} {text : List Char} (absent : separator ∉ text) :
    splitOnce separator text = none := by
  induction text with
  | nil => rfl
  | cons item text ih =>
    simp only [List.mem_cons, not_or] at absent
    rw [splitOnce, if_neg (Ne.symm absent.1), ih absent.2]
    rfl

theorem count_of_accepted {pattern : List Char} (accepted : validatePattern pattern = .ok ()) :
    pattern.count '*' ≤ 1 := by
  unfold validatePattern at accepted
  dsimp only at accepted
  split at accepted
  · cases accepted
  · rename_i fine
    simp only [Bool.or_eq_true, decide_eq_true_eq, not_or, Nat.not_lt] at fine
    exact fine.1.1.2

/-- The start and the ending of a pattern may overlap in a unit name. -/
theorem unitMatches_iff {start ending : List Char} (absent : '*' ∉ start)
    (unitName : List Char) :
    unitMatches (start ++ '*' :: ending) unitName = true ↔
      (∃ middle, unitName = start ++ middle ++ ending) ∨
      ∃ before shared after, start = before ++ shared ∧ ending = shared ++ after ∧
        unitName = before ++ shared ++ after := by
  rw [unitMatches, splitOnce_append ending absent]
  simp only [Bool.and_eq_true, List.isPrefixOf_iff_prefix, List.isSuffixOf_iff_suffix]
  constructor
  · rintro ⟨⟨after, rfl⟩, before, same⟩
    rcases List.append_eq_append_iff.mp same with ⟨shared, left, right⟩ | ⟨gap, -, right⟩
    · exact .inr ⟨before, shared, after, left, right, by rw [left]⟩
    · exact .inl ⟨gap, by rw [right, List.append_assoc]⟩
  · rintro (⟨middle, rfl⟩ | ⟨before, shared, after, rfl, rfl, rfl⟩)
    · exact ⟨⟨middle ++ ending, (List.append_assoc ..).symm⟩, start ++ middle, rfl⟩
    · exact ⟨⟨after, rfl⟩, before, (List.append_assoc ..).symm⟩

/-- A pattern with a wildcard matches the names that it stands for, and no others, exactly if
nothing is both at the end of its start and at the start of its ending. -/
theorem unit_matches_decomposes_iff (pattern : List Char)
    (accepted : validatePattern pattern = .ok ()) :
    (∀ start ending, pattern = start ++ '*' :: ending →
      ((∀ unitName, unitMatches pattern unitName = true ↔
          ∃ middle, unitName = start ++ middle ++ ending) ↔
        ∀ shared, shared <:+ start → shared <+: ending → shared = [])) ∧
    ('*' ∉ pattern → ∀ unitName, unitMatches pattern unitName = true ↔ unitName = pattern) := by
  refine ⟨?_, fun absent unitName => ?_⟩
  · rintro start ending rfl
    have absent : '*' ∉ start := by
      have few := count_of_accepted accepted
      rw [List.count_append, List.count_cons_self] at few
      exact List.count_eq_zero.mp (by omega)
    constructor
    · rintro exact_ shared ⟨before, rfl⟩ ⟨after, rfl⟩
      -- The name in which both parts overlap is shorter than the two together.
      obtain ⟨middle, same⟩ := (exact_ (before ++ shared ++ after)).mp
        ((unitMatches_iff absent _).mpr (.inr ⟨before, shared, after, rfl, rfl, rfl⟩))
      have lengths := congrArg List.length same
      simp only [List.length_append] at lengths
      exact List.eq_nil_of_length_eq_zero (by omega)
    · intro apart unitName
      refine (unitMatches_iff absent unitName).trans ⟨?_, .inl⟩
      rintro (decomposed | ⟨before, shared, after, rfl, rfl, rfl⟩)
      · exact decomposed
      · have none := apart shared (List.suffix_append ..) (List.prefix_append ..)
        subst none
        exact ⟨[], by simp⟩
  · rw [unitMatches, splitOnce_absent absent, beq_iff_eq, eq_comm]

theorem phpFpm_matches_decomposed :
    validatePattern "php*-fpm.service".toList = .ok () ∧
      ((∀ unitName, unitMatches "php*-fpm.service".toList unitName = true ↔
          ∃ middle, unitName = "php".toList ++ middle ++ "-fpm.service".toList) ↔
        ∀ shared, shared <:+ "php".toList → shared <+: "-fpm.service".toList → shared = []) :=
  have accepted : validatePattern "php*-fpm.service".toList = .ok () := by decide +kernel
  ⟨accepted, (unit_matches_decomposes_iff _ accepted).1 _ _ (by decide)⟩

/-- The dot and the kind of the unit are matched twice. -/
theorem overlapping_pattern_matches :
    validatePattern "ssh.service*.service".toList = .ok () ∧
      unitMatches "ssh.service*.service".toList "ssh.service".toList = true ∧
      ¬∃ middle, "ssh.service".toList = "ssh.service".toList ++ middle ++ ".service".toList := by
  refine ⟨by decide +kernel, by decide +kernel, ?_⟩
  rintro ⟨middle, same⟩
  have lengths := congrArg List.length same
  simp at lengths

end JwOps.Agentd.ServiceInventory
