/- module: Foundation/Readers
   digest: Readers of byte strings that accept exactly the words of a relation. -/
import Mathlib.Algebra.Group.Nat.Defs
import Mathlib.Data.List.Basic
import Mathlib.Data.List.Forall2
import Mathlib.Data.List.Induction

set_option autoImplicit false

namespace JwOps.Foundation

/-! ### Big-endian numbers -/

def toBigEndian : Nat → Nat → List UInt8
  | 0, _ => []
  | width + 1, value => toBigEndian width (value / 256) ++ [UInt8.ofNat value]

def ofBigEndian (bytes : List UInt8) : Nat :=
  bytes.foldl (fun value byte => value * 256 + byte.toNat) 0

@[simp] theorem length_toBigEndian (width value : Nat) :
    (toBigEndian width value).length = width := by
  induction width generalizing value with
  | zero => rfl
  | succ width ih => rw [toBigEndian, List.length_append, ih, List.length_singleton]

theorem ofBigEndian_concat (bytes : List UInt8) (byte : UInt8) :
    ofBigEndian (bytes ++ [byte]) = ofBigEndian bytes * 256 + byte.toNat := by
  rw [ofBigEndian, List.foldl_append]
  rfl

theorem ofBigEndian_toBigEndian {width value : Nat} (fits : value < 256 ^ width) :
    ofBigEndian (toBigEndian width value) = value := by
  induction width generalizing value with
  | zero =>
    have zero : value = 0 := Nat.lt_one_iff.mp fits
    rw [zero]
    rfl
  | succ width ih =>
    have smaller : value / 256 < 256 ^ width := by
      rw [Nat.pow_succ] at fits
      omega
    rw [toBigEndian, ofBigEndian_concat, ih smaller, UInt8.toNat_ofNat']
    omega

theorem toBigEndian_ofBigEndian (bytes : List UInt8) :
    toBigEndian bytes.length (ofBigEndian bytes) = bytes := by
  induction bytes using List.reverseRecOn with
  | nil => rfl
  | append_singleton bytes byte ih =>
    have small := byte.toNat_lt
    have front : (ofBigEndian bytes * 256 + byte.toNat) / 256 = ofBigEndian bytes := by omega
    have last : UInt8.ofNat (ofBigEndian bytes * 256 + byte.toNat) = byte := by
      apply UInt8.toNat_inj.mp
      rw [UInt8.toNat_ofNat']
      omega
    rw [List.length_append, List.length_singleton, toBigEndian, ofBigEndian_concat, front, ih, last]

theorem ofBigEndian_lt (bytes : List UInt8) : ofBigEndian bytes < 256 ^ bytes.length := by
  induction bytes using List.reverseRecOn with
  | nil => decide
  | append_singleton bytes byte ih =>
    have small := byte.toNat_lt
    rw [ofBigEndian_concat, List.length_append, List.length_singleton, Nat.pow_succ]
    omega

/-! ### Readers -/

/-- A reader takes what it needs from the front and leaves the rest. -/
abbrev Reader (α : Type) := StateT (List UInt8) (Except String) α

namespace Reader

variable {α β : Type}

def fail (reason : String) : Reader α := fun _ => .error reason

/-- The given number of bytes. -/
def take (reason : String) (length : Nat) : Reader (List UInt8) := fun bytes =>
  if length ≤ bytes.length then .ok (bytes.take length, bytes.drop length) else .error reason

/-- One reader as often as counted. -/
def times (reader : Reader α) : Nat → Reader (List α)
  | 0 => pure []
  | count + 1 => do
    let first ← reader
    let rest ← times reader count
    pure (first :: rest)

/-- A field that is present or left out. -/
def optionally (present : Bool) (reader : Reader α) : Reader (Option α) :=
  if present then do
    let value ← reader
    pure (some value)
  else pure none

/-- Reads a value that has to take up all bytes. -/
def whole (reason : String) (reader : Reader α) (bytes : List UInt8) : Except String α :=
  match reader bytes with
  | .error error => .error error
  | .ok (value, []) => .ok value
  | .ok (_, _ :: _) => .error reason

/-! ### What a reader accepts -/

/-- The reader accepts exactly the words that encode a value, whatever follows them. -/
def Exact (reader : Reader α) (encodes : α → List UInt8 → Prop) : Prop :=
  ∀ bytes value rest, reader bytes = .ok (value, rest) ↔
    ∃ word, encodes value word ∧ bytes = word ++ rest

theorem Exact.congr {reader : Reader α} {first second : α → List UInt8 → Prop}
    (accepts : Exact reader first) (same : ∀ value word, first value word ↔ second value word) :
    Exact reader second := by
  intro bytes value rest
  rw [accepts bytes value rest]
  exact exists_congr fun word => and_congr_left fun _ => same value word

theorem exact_pure (value : α) :
    Exact (pure value : Reader α) fun found word => found = value ∧ word = [] := by
  intro bytes found rest
  constructor
  · intro read
    obtain ⟨rfl, rfl⟩ := Prod.mk.inj (Except.ok.inj read)
    exact ⟨[], ⟨rfl, rfl⟩, rfl⟩
  · rintro ⟨_, ⟨rfl, rfl⟩, rfl⟩
    rfl

theorem exact_fail (reason : String) :
    Exact (fail reason : Reader α) fun _ _ => False := by
  intro bytes value rest
  constructor
  · intro read
    cases read
  · rintro ⟨_, impossible, _⟩
    exact impossible.elim

variable {reader : Reader α} {first encodes : α → List UInt8 → Prop}

theorem exact_bind {next : α → Reader β} {second : α → β → List UInt8 → Prop}
    (reads : Exact reader first) (continues : ∀ value, Exact (next value) (second value)) :
    Exact (reader >>= next) fun found word => ∃ value front back,
      first value front ∧ second value found back ∧ word = front ++ back := by
  intro bytes found rest
  have unfolded : (reader >>= next) bytes = (reader bytes >>= fun read => next read.1 read.2) := rfl
  rw [unfolded]
  constructor
  · intro read
    cases middle : reader bytes with
    | error reason =>
      rw [middle] at read
      cases read
    | ok step =>
      obtain ⟨value, remaining⟩ := step
      rw [middle] at read
      obtain ⟨front, encoded, rfl⟩ := (reads bytes value remaining).mp middle
      obtain ⟨back, continued, rfl⟩ := (continues value remaining found rest).mp read
      exact ⟨front ++ back, ⟨value, front, back, encoded, continued, rfl⟩,
        (List.append_assoc _ _ _).symm⟩
  · rintro ⟨_, ⟨value, front, back, encoded, continued, rfl⟩, rfl⟩
    have step := (reads _ value (back ++ rest)).mpr ⟨front, encoded, rfl⟩
    rw [List.append_assoc, step]
    exact (continues value _ found rest).mpr ⟨back, continued, rfl⟩

theorem exact_map (reads : Exact reader first) (view : α → β) :
    Exact (do let value ← reader; pure (view value) : Reader β) fun found word =>
      ∃ value, first value word ∧ found = view value := by
  refine (exact_bind reads fun value => exact_pure (view value)).congr fun found word => ?_
  constructor
  · rintro ⟨value, front, back, encoded, ⟨rfl, rfl⟩, rfl⟩
    exact ⟨value, by rw [List.append_nil]; exact encoded, rfl⟩
  · rintro ⟨value, encoded, rfl⟩
    exact ⟨value, word, [], encoded, ⟨rfl, rfl⟩, (List.append_nil word).symm⟩

theorem exact_unless {refused : Prop} [Decidable refused] (reason : String)
    (reads : Exact reader encodes) :
    Exact (if refused then fail reason else reader) fun value word =>
      ¬refused ∧ encodes value word := by
  by_cases held : refused
  · rw [if_pos held]
    exact (exact_fail reason).congr fun value word => by simp [held]
  · rw [if_neg held]
    exact reads.congr fun value word => by simp [held]

theorem exact_take (reason : String) (length : Nat) :
    Exact (take reason length) fun value word => value = word ∧ word.length = length := by
  intro bytes value rest
  constructor
  · intro read
    unfold take at read
    split at read
    · rename_i enough
      obtain ⟨rfl, rfl⟩ := Prod.mk.inj (Except.ok.inj read)
      exact ⟨bytes.take length, ⟨rfl, List.length_take_of_le enough⟩,
        (List.take_append_drop length bytes).symm⟩
    · cases read
  · rintro ⟨_, ⟨rfl, rfl⟩, rfl⟩
    have enough : value.length ≤ (value ++ rest).length := by
      rw [List.length_append]
      exact Nat.le_add_right _ _
    rw [take, if_pos enough, List.take_left, List.drop_left]

theorem exact_optionally (present : Bool) (reads : Exact reader encodes) :
    Exact (optionally present reader) fun found word =>
      match found with
      | some value => present = true ∧ encodes value word
      | none => present = false ∧ word = [] := by
  cases present with
  | false =>
    refine (exact_pure none).congr fun found word => ?_
    cases found <;> simp
  | true =>
    refine (exact_map reads some).congr fun found word => ?_
    cases found <;> simp

/-- Words that encode the values one after the other. -/
theorem exact_times (reads : Exact reader encodes) (count : Nat) :
    Exact (times reader count) fun values word => values.length = count ∧
      ∃ words, List.Forall₂ encodes values words ∧ word = words.flatten := by
  induction count with
  | zero =>
    refine (exact_pure []).congr fun values word => ?_
    constructor
    · rintro ⟨rfl, rfl⟩
      exact ⟨rfl, [], .nil, rfl⟩
    · rintro ⟨empty, words, all, rfl⟩
      obtain rfl := List.length_eq_zero_iff.mp empty
      cases all
      exact ⟨rfl, rfl⟩
  | succ count ih =>
    refine (exact_bind reads fun first => exact_map ih (first :: ·)).congr fun values word => ?_
    constructor
    · rintro ⟨first, front, back, encoded, ⟨rest, ⟨rfl, words, all, rfl⟩, rfl⟩, rfl⟩
      exact ⟨rfl, front :: words, .cons encoded all, rfl⟩
    · rintro ⟨counted, words, all, rfl⟩
      cases all with
      | nil => cases counted
      | @cons first front rest words encoded all =>
        exact ⟨first, front, words.flatten, encoded,
          ⟨rest, ⟨Nat.succ.inj counted, words, all, rfl⟩, rfl⟩, rfl⟩

theorem whole_eq_ok_iff (reason : String) (reads : Exact reader encodes) {bytes : List UInt8}
    {value : α} :
    whole reason reader bytes = .ok value ↔ encodes value bytes := by
  have accepted : whole reason reader bytes = .ok value ↔ reader bytes = .ok (value, []) := by
    unfold whole
    split
    · rename_i error read
      rw [read]
      exact ⟨nofun, nofun⟩
    · rename_i found read
      rw [read]
      simp
    · rename_i found byte rest read
      rw [read]
      simp
  rw [accepted, reads bytes value []]
  constructor
  · rintro ⟨word, encoded, rfl⟩
    rw [List.append_nil]
    exact encoded
  · intro encoded
    exact ⟨bytes, encoded, (List.append_nil bytes).symm⟩

end Reader

end JwOps.Foundation
