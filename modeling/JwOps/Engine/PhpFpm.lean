/- module: Engine/PhpFpm
   source: crates/jw-opsd/src/php_fpm_diagnostic.rs
   digest: Candidates for PHP configuration files and the keys that a chain of edits can set. -/
import JwOps.Contracts.Operation
import JwOps.Contracts.Text
import JwOps.Foundation.Chain
import Mathlib.Data.List.Chain

set_option autoImplicit false

namespace JwOps.Engine.PhpFpm

open Contracts Operation Text Foundation.Chain

/-! ### Candidates -/

def validIniKey (value : List Char) : Bool :=
  !value.isEmpty && value.all fun c => isAsciiAlphanumeric c || c ∈ ['_', '.', '-']

def validFpmKey (value : List Char) : Bool :=
  !value.isEmpty && value.all fun c => isAsciiAlphanumeric c || c ∈ ['_', '.', '-', '[', ']', '$']

/-- The key before the first equals sign. -/
def keyOf (text : List Char) : Option (List Char) :=
  (splitOnce '=' text).map fun parts => toAsciiLowercase (trim parts.1)

/-- Empty lines, comments and section headers, once trimmed. -/
def isPassedOver (trimmed : List Char) : Bool :=
  trimmed.isEmpty || trimmed.head? == some ';' || trimmed.head? == some '#' ||
    (trimmed.head? == some '[' && trimmed.getLast? == some ']')

/-- The key of a line, also if a semicolon turns the line into a comment. -/
def knownIniKey (validKey : List Char → Bool) (line : List Char) : Option (List Char) :=
  let trimmed := trim line
  if trimmed.isEmpty || trimmed.head? == some '#' || trimmed.head? == some '[' then none
  else
    let candidate := if trimmed.head? == some ';' then trim trimmed.tail else trimmed
    (keyOf candidate).filter validKey

def directiveInventory (validKey : List Char → Bool) (content : String) : List (List Char) :=
  (lines content.toList).filterMap (knownIniKey validKey)

/-- The check of one line; `number` counts from one. -/
def checkLine (validKey : List Char → Bool) (known : List (List Char)) (line : List Char)
    (number : Nat) : Except String Unit :=
  if isPassedOver (trim line) then .ok ()
  else
    match keyOf (trim line) with
    | none => .error ("ignored_directive_line_" ++ toString number)
    | some key =>
      if validKey key = false then .error ("invalid_directive_line_" ++ toString number)
      else if key ∉ known then .error ("unknown_directive_line_" ++ toString number)
      else .ok ()

def validateIniCandidate (validKey : List Char → Bool) (current proposed : String) :
    Except String Unit :=
  let known := directiveInventory validKey current
  if (trim proposed.toList).isEmpty then .error "empty_config"
  else if known.isEmpty then .error "directive_inventory_unavailable"
  else (lines proposed.toList).zipIdx.forM fun (line, index) =>
    checkLine validKey known line (index + 1)

def validatePhpIniCandidate : String → String → Except String Unit :=
  validateIniCandidate validIniKey

def validatePhpFpmCandidate : String → String → Except String Unit :=
  validateIniCandidate validFpmKey

/-! ### Keys of a content -/

/-- The keys set on the lines that are neither comments nor section headers. -/
def setKeys (content : String) : List (List Char) :=
  (lines content.toList).filterMap fun line =>
    if isPassedOver (trim line) then none else keyOf (trim line)

/-- The keys on the lines that a semicolon turns into comments. -/
def commentedKeys (content : String) : List (List Char) :=
  (lines content.toList).filterMap fun line =>
    if (trim line).head? = some ';' then keyOf (trim (trim line).tail) else none

section Candidates

variable {validKey : List Char → Bool} {current proposed : String}

variable {content : String} {key : List Char}

theorem checkLine_ok {known : List (List Char)} {line : List Char} {number : Nat} :
    checkLine validKey known line number = .ok () ↔
      isPassedOver (trim line) = true ∨
        ∃ key, keyOf (trim line) = some key ∧ validKey key = true ∧ key ∈ known := by
  unfold checkLine
  cases passed : isPassedOver (trim line) with
  | true => simp
  | false =>
    cases found : keyOf (trim line) with
    | none => simp
    | some key =>
      by_cases valid : validKey key = true <;> by_cases listed : key ∈ known <;>
        simp [valid, listed]

theorem validateIniCandidate_ok :
    validateIniCandidate validKey current proposed = .ok () ↔
      (trim proposed.toList).isEmpty = false ∧
        (directiveInventory validKey current).isEmpty = false ∧
        ∀ line ∈ lines proposed.toList, isPassedOver (trim line) = true ∨
          ∃ key, keyOf (trim line) = some key ∧ validKey key = true ∧
            key ∈ directiveInventory validKey current := by
  unfold validateIniCandidate
  dsimp only
  cases (trim proposed.toList).isEmpty with
  | true => simp
  | false =>
    cases (directiveInventory validKey current).isEmpty with
    | true => simp
    | false =>
      simp only [Bool.false_eq_true, ↓reduceIte, true_and, forM_ok, Prod.forall, checkLine_ok]
      constructor
      · intro checked line member
        obtain ⟨index, bound, rfl⟩ := List.mem_iff_getElem.mp member
        exact checked _ index (List.mem_zipIdx_iff_getElem?.mpr (List.getElem?_eq_getElem bound))
      · intro checked line index member
        exact checked line (List.mem_of_getElem? (List.mem_zipIdx_iff_getElem?.mp member))

theorem mem_setKeys :
    key ∈ setKeys content ↔
      ∃ line ∈ lines content.toList, isPassedOver (trim line) = false ∧
        keyOf (trim line) = some key := by
  simp [setKeys, List.mem_filterMap]

/-- An accepted candidate sets known keys only. -/
theorem mem_inventory_of_set
    (accepted : validateIniCandidate validKey current proposed = .ok ())
    (set : key ∈ setKeys proposed) :
    key ∈ directiveInventory validKey current := by
  obtain ⟨line, member, directive, found⟩ := mem_setKeys.mp set
  obtain ⟨_, _, checked⟩ := validateIniCandidate_ok.mp accepted
  rcases checked line member with passed | ⟨other, same, _, known⟩
  · rw [directive] at passed
    cases passed
  · rw [found] at same
    exact Option.some.inj same ▸ known

/-- A known key is set, or it stands on a comment line. -/
theorem set_or_commented (known : key ∈ directiveInventory validKey content) :
    key ∈ setKeys content ∨ key ∈ commentedKeys content := by
  obtain ⟨line, member, found⟩ := List.mem_filterMap.mp known
  unfold knownIniKey at found
  dsimp only at found
  split at found
  · cases found
  next directive =>
  simp only [Bool.or_eq_true, not_or, beq_iff_eq, Bool.not_eq_true] at directive
  have named := (Option.filter_eq_some_iff.mp found).1
  by_cases comment : (trim line).head? = some ';'
  · rw [if_pos (by simp [comment])] at named
    exact Or.inr (List.mem_filterMap.mpr ⟨line, member, by rw [if_pos comment, named]⟩)
  · rw [if_neg (by simp [comment])] at named
    refine Or.inl (mem_setKeys.mpr ⟨line, member, ?_, named⟩)
    simp [isPassedOver, directive, comment]

/-- A candidate that is accepted against one content is accepted against another that knows its
keys. -/
theorem accepted_of_known {earlier : String}
    (accepted : validateIniCandidate validKey current proposed = .ok ())
    (some_ : (directiveInventory validKey earlier).isEmpty = false)
    (known : ∀ key ∈ setKeys proposed, key ∈ directiveInventory validKey earlier) :
    validateIniCandidate validKey earlier proposed = .ok () := by
  obtain ⟨filled, _, checked⟩ := validateIniCandidate_ok.mp accepted
  refine validateIniCandidate_ok.mpr ⟨filled, some_, fun line member => ?_⟩
  rcases checked line member with passed | ⟨key, found, valid, _⟩
  · exact Or.inl passed
  · by_cases passed : isPassedOver (trim line) = true
    · exact Or.inl passed
    · have directive : isPassedOver (trim line) = false := by simpa using passed
      exact Or.inr ⟨key, found, valid, known key (mem_setKeys.mpr ⟨line, member, directive, found⟩)⟩

end Candidates

/-! ### Chains of edits -/

/-- No edit but the first one starts to set a key which the content before it has on a comment line
and which the initial content does not know. -/
def RevivesNothing (validKey : List Char → Bool) (initial : String) (edits : List String) : Prop :=
  edits.IsChain fun current proposed =>
    ∀ key ∈ setKeys proposed, key ∈ commentedKeys current →
      key ∈ directiveInventory validKey initial

theorem known_of_revivesNothing {validKey : List Char → Bool} {initial : String}
    {first : String} {edits : List String}
    (accepted : (first :: edits).IsChain fun current proposed =>
      validateIniCandidate validKey current proposed = .ok ())
    (revives : RevivesNothing validKey initial (first :: edits))
    (start : ∀ key ∈ setKeys first, key ∈ directiveInventory validKey initial) :
    ∀ content ∈ first :: edits, ∀ key ∈ setKeys content,
      key ∈ directiveInventory validKey initial := by
  induction edits generalizing first with
  | nil =>
    intro content member
    rw [List.mem_singleton.mp member]
    exact start
  | cons second rest ih =>
    obtain ⟨step, onward⟩ := List.isChain_cons_cons.mp accepted
    obtain ⟨revived, quiet⟩ := List.isChain_cons_cons.mp revives
    refine List.forall_mem_cons.mpr ⟨start, ih onward quiet fun key set => ?_⟩
    rcases set_or_commented (mem_inventory_of_set step set) with kept | commented
    · exact start key kept
    · exact revived key set commented

theorem accepted_against {validKey : List Char → Bool} {initial : String} {edits : List String}
    (accepted : (initial :: edits).IsChain fun current proposed =>
      validateIniCandidate validKey current proposed = .ok ()) :
    ∀ content ∈ edits, ∃ current, validateIniCandidate validKey current content = .ok () := by
  induction edits generalizing initial with
  | nil => intro content member; cases member
  | cons first rest ih =>
    obtain ⟨step, onward⟩ := List.isChain_cons_cons.mp accepted
    exact List.forall_mem_cons.mpr ⟨⟨initial, step⟩, ih onward⟩

/-- A chain of accepted edits of `php.ini` sets only keys that the initial content knows, and every
content on it would have been accepted at once, just if no edit revives a key from a comment that
an earlier edit brought in. -/
theorem inventory_closed_iff (initial : String) (edits : List String)
    (accepted : (initial :: edits).IsChain fun current proposed =>
      validatePhpIniCandidate current proposed = .ok ()) :
    ((∀ content ∈ edits, ∀ key ∈ setKeys content, key ∈ directiveInventory validIniKey initial) ↔
      RevivesNothing validIniKey initial edits) ∧
    ((∀ content ∈ edits, validatePhpIniCandidate initial content = .ok ()) ↔
      RevivesNothing validIniKey initial edits) := by
  have closed : (∀ content ∈ edits, ∀ key ∈ setKeys content,
      key ∈ directiveInventory validIniKey initial) ↔ RevivesNothing validIniKey initial edits := by
    constructor
    · intro known
      refine List.IsChain.imp_of_mem_imp (fun current proposed _ member _ key set _ => ?_)
        accepted.tail
      exact known proposed member key set
    · intro revives
      cases edits with
      | nil => intro content member; cases member
      | cons first rest =>
        obtain ⟨step, onward⟩ := List.isChain_cons_cons.mp accepted
        exact known_of_revivesNothing onward revives fun key => mem_inventory_of_set step
  refine ⟨closed, Iff.trans ?_ closed⟩
  constructor
  · intro direct content member key
    exact mem_inventory_of_set (direct content member)
  · intro known content member
    -- the first edit shows that the initial content has an inventory at all
    have filled : (directiveInventory validIniKey initial).isEmpty = false := by
      cases edits with
      | nil => cases member
      | cons first rest =>
        exact (validateIniCandidate_ok.mp (List.isChain_cons_cons.mp accepted).1).2.1
    obtain ⟨current, step⟩ := accepted_against accepted content member
    exact accepted_of_known step filled (known content member)

theorem inventory_closed_of_disabled_key :
    ["memory_limit = 128M\npost_max_size = 8M\n",
        "memory_limit = 256M\n;post_max_size = 8M\n", "memory_limit = 256M\n"].IsChain
        (fun current proposed => validatePhpIniCandidate current proposed = .ok ()) ∧
      ∀ content ∈ ["memory_limit = 256M\n;post_max_size = 8M\n", "memory_limit = 256M\n"],
        validatePhpIniCandidate "memory_limit = 128M\npost_max_size = 8M\n" content = .ok () := by
  have accepted : ["memory_limit = 128M\npost_max_size = 8M\n",
      "memory_limit = 256M\n;post_max_size = 8M\n", "memory_limit = 256M\n"].IsChain
      fun current proposed => validatePhpIniCandidate current proposed = .ok () := by
    decide +kernel
  refine ⟨accepted, (inventory_closed_iff _ _ accepted).2.mpr ?_⟩
  unfold RevivesNothing
  decide +kernel

/-- A comment brings in a key that the next edit sets. -/
theorem commented_key_revived :
    ["memory_limit = 128M\n", "memory_limit = 128M\n;open_basedir = /\n",
        "memory_limit = 128M\nopen_basedir = /\n"].IsChain
        (fun current proposed => validatePhpIniCandidate current proposed = .ok ()) ∧
      "open_basedir".toList ∈ setKeys "memory_limit = 128M\nopen_basedir = /\n" ∧
      "open_basedir".toList ∉ directiveInventory validIniKey "memory_limit = 128M\n" ∧
      validatePhpIniCandidate "memory_limit = 128M\n" "memory_limit = 128M\nopen_basedir = /\n" =
        .error "unknown_directive_line_2" := by
  decide +kernel

end JwOps.Engine.PhpFpm
