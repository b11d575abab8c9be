/- module: Agentd/RecoveryCodes
   source: crates/jw-agentd/src/totp.rs
   digest: The loop of base32 is the standard one, and a code counts however it is typed. -/
import JwOps.Agentd.Totp
import JwOps.Foundation.Base32
import JwOps.Foundation.Chain

set_option autoImplicit false

namespace JwOps.Agentd.RecoveryCodes

open Contracts Operation Digest Tables Totp Foundation Base32
open Chain (CollisionFree)

/-! ### The loop -/

theorem letter_eq {five : List Bool} {value : Nat} (same : ofBits five = value % 32) :
    letter five = base32Char value := by
  rw [letter, same]
  rfl

/-- The inner loop takes the letters of the buffered bits and leaves fewer than five bits. -/
theorem lettersOf_drainBits (buffer : Nat) (rest : List Bool) : ∀ count : Nat,
    (drainBits buffer count).2 < 5 ∧ lettersOf (lowBits buffer count ++ rest) =
      (drainBits buffer count).1 ++ lettersOf (lowBits buffer (drainBits buffer count).2 ++ rest)
  | count + 5 => by
    obtain ⟨few, same⟩ := lettersOf_drainBits buffer rest count
    have first : letter (lowBits (buffer / 2 ^ count) 5) = base32Char (buffer / 2 ^ count) := by
      refine letter_eq ?_
      simp only [ofBits, lowBits, List.foldl_cons, List.foldl_nil, Nat.toNat_testBit]
      omega
    refine ⟨few, ?_⟩
    rw [Nat.add_comm, lowBits_add, List.append_assoc]
    change letter (lowBits (buffer / 2 ^ count) 5) :: lettersOf (lowBits buffer count ++ rest) = _
    rw [first, same, Nat.add_comm]
    rfl
  | 0 | 1 | 2 | 3 | 4 => ⟨Nat.le_of_ble_eq_true rfl, rfl⟩

/-- Between two bytes the pending bits are the lowest of the buffer, whatever wrapped above them. -/
theorem base32Loop_eq (input : Bytes) (buffer : Nat) {bits : Nat} (few : bits < 5) :
    base32Loop buffer bits input = lettersOf (lowBits buffer bits ++ bitsOf input) := by
  induction input generalizing buffer bits with
  | nil =>
    match bits, few with
    | 0, _ => rfl
    | 1, _ | 2, _ | 3, _ | 4, _ =>
      refine congrArg (fun last => [last]) (letter_eq ?_).symm
      simp [ofBits, lowBits, bitsOf, Nat.toNat_testBit, -Nat.testBit_zero]
      omega
  | cons byte rest ih =>
    have small := byte.toNat_lt
    have pending : lowBits ((buffer * 256 + byte.toNat) % 2 ^ 32) (bits + 8) =
        lowBits buffer bits ++ lowBits byte.toNat 8 := by
      have high : (buffer * 256 + byte.toNat) / 2 ^ 8 = buffer := by omega
      have low : (buffer * 256 + byte.toNat) % 2 ^ 8 = byte.toNat := by omega
      rw [lowBits_mod (by omega), lowBits_add, high, ← lowBits_mod (le_refl 8), low]
    obtain ⟨left, same⟩ := lettersOf_drainBits _ (bitsOf rest) (bits + 8)
    rw [base32Loop, ih _ left, ← same, pending, List.append_assoc]
    rfl

theorem toList_base32 (input : Bytes) : (base32 input).toList = encode input :=
  String.toList_ofList.trans (base32Loop_eq input 0 (by decide))

/-! ### The digest -/

/-- What `recovery_digest` hashes of a typed code. -/
def significant (text : List Char) : Bytes :=
  ((text.flatMap String.utf8EncodeChar).filter fun byte =>
    byte ≠ 45 ∧ byte ≠ 9 ∧ byte ≠ 10 ∧ byte ≠ 12 ∧ byte ≠ 13 ∧ byte ≠ 32).map fun byte =>
      if 97 ≤ byte ∧ byte ≤ 122 then byte - 32 else byte

def recoveryInput (subjectUid : UInt32) (code : String) : Bytes :=
  utf8Bytes "jw-agent/totp-recovery/v1" ++ [0] ++ toBeBytes 4 subjectUid.toNat ++
    significant code.toList

/-- The hyphen and ASCII white space. -/
def separators : List Char := ['-', ' ', '\t', '\n', '\x0c', '\r']

/-- A code typed in another way: letters of either case, and separators anywhere. -/
inductive Respelled : List Char → List Char → Prop
  | nil : Respelled [] []
  | inserted {code typed : List Char} {c : Char} (separates : c ∈ separators)
      (rest : Respelled code typed) : Respelled code (c :: typed)
  | removed {code typed : List Char} {c : Char} (separates : c ∈ separators)
      (rest : Respelled code typed) : Respelled (c :: code) typed
  | letter {code typed : List Char} {c other : Char} (same : c.toUpper = other.toUpper)
      (rest : Respelled code typed) : Respelled (c :: code) (other :: typed)

theorem significant_append (first second : List Char) :
    significant (first ++ second) = significant first ++ significant second := by
  simp only [significant, List.flatMap_append, List.filter_append, List.map_append]

theorem significant_toUpper (c : Char) : significant [c] = significant [c.toUpper] := by
  have ascii : ∀ code < 128,
      significant [Char.ofNat code] = significant [(Char.ofNat code).toUpper] := by
    decide +kernel
  by_cases small : c.toNat < 128
  · simpa using ascii c.toNat small
  · have same : c.toUpper = c := by
      unfold Char.toUpper
      refine dif_neg fun lower => small (lt_of_le_of_lt ?_ (by decide : 'z'.toNat < 128))
      exact UInt32.le_iff_toNat_le.mp lower.2
    rw [same]

theorem significant_respelled {code typed : List Char} (spelled : Respelled code typed) :
    significant typed = significant code := by
  have dropped : ∀ c ∈ separators, significant [c] = [] :=
    List.forall_iff_forall_mem.mp (by decide)
  induction spelled with
  | nil => rfl
  | inserted separates _ ih =>
    rw [← List.singleton_append, significant_append, dropped _ separates, ih, List.nil_append]
  | removed separates _ ih =>
    rw [← List.singleton_append, significant_append, dropped _ separates, ← ih, List.nil_append]
  | @letter code typed c other same _ ih =>
    rw [← List.singleton_append, ← @List.singleton_append _ c code, significant_append,
      significant_append, significant_toUpper, ← same, ← significant_toUpper, ih]

theorem significant_recoveryCode (random : Bytes) :
    significant (recoveryCode random).toList = significant (base32 random).toList := by
  have grouped (letters : List Char) (start : Nat) :
      significant ((letters.zipIdx start).flatMap fun entry =>
        if entry.2 ≠ 0 ∧ entry.2 % 5 = 0 then ['-', entry.1] else [entry.1]) =
          significant letters := by
    induction letters generalizing start with
    | nil => rfl
    | cons letter rest ih =>
      have hyphen : significant ['-', letter] = significant [letter] :=
        significant_append ['-'] [letter]
      rw [List.zipIdx_cons, List.flatMap_cons, significant_append, ih,
        ← @List.singleton_append _ letter rest, significant_append]
      split
      · rw [hyphen]
      · rfl
  rw [recoveryCode, String.toList_ofList]
  exact grouped _ 0

/-- The letters of base32 stand for themselves. -/
theorem significant_alphabet {text : List Char} (letters : text ⊆ alphabet) :
    significant text = text.flatMap String.utf8EncodeChar := by
  have each : ∀ c ∈ alphabet, significant [c] = String.utf8EncodeChar c :=
    List.forall_iff_forall_mem.mp (by decide +kernel)
  induction text with
  | nil => rfl
  | cons c rest ih =>
    obtain ⟨first, others⟩ := List.cons_subset.mp letters
    rw [← List.singleton_append, significant_append, each c first, ih others]
    rfl

theorem significant_base32 (random : Bytes) :
    significant (base32 random).toList = utf8Bytes (base32 random) :=
  significant_alphabet (toList_base32 random ▸ encode_subset random)

theorem toBeBytes_injective {first second : UInt32}
    (same : toBeBytes 4 first.toNat = toBeBytes 4 second.toNat) : first = second := by
  have bound := first.toNat_lt
  have bound' := second.toNat_lt
  have digits := congrArg (List.map UInt8.toNat) same
  simp only [toBeBytes, List.range, List.range.loop, List.reverse_cons, List.reverse_nil,
    List.nil_append, List.cons_append, List.map_cons, List.map_nil, UInt8.toNat_ofNat',
    List.cons.injEq, and_true] at digits
  exact UInt32.toNat_inj.mp (by omega)

/-- What is hashed for a code tells the subject and the bytes that the code was drawn from. -/
theorem recoveryInput_injective {uid other : UInt32} {random another : Bytes}
    (same : recoveryInput uid (recoveryCode random) = recoveryInput other (recoveryCode another)) :
    uid = other ∧ random = another := by
  obtain ⟨front, letters⟩ := List.append_inj same rfl
  rw [significant_recoveryCode, significant_recoveryCode, significant_base32, significant_base32]
    at letters
  refine ⟨toBeBytes_injective (List.append_cancel_left front), ?_⟩
  rw [← decode_encode random, ← toList_base32, utf8Bytes_injective letters, toList_base32,
    decode_encode]

theorem recoveryCodes_identify (codec : AgentCodec) :
    (∀ input : Bytes,
      (base32 input).toList = encode input ∧ decode (base32 input).toList = input) ∧
    (∀ (uid : UInt32) (random : Bytes) (typed : String),
      Respelled (recoveryCode random).toList typed.toList →
      recoveryDigest codec uid typed = recoveryDigest codec uid (recoveryCode random)) ∧
    ∀ (uid other : UInt32) (random another : Bytes),
      CollisionFree codec.sha256
        [recoveryInput uid (recoveryCode random), recoveryInput other (recoveryCode another)] →
      recoveryDigest codec uid (recoveryCode random) =
        recoveryDigest codec other (recoveryCode another) →
      uid = other ∧ random = another := by
  have hashed (uid : UInt32) (code : String) :
      recoveryDigest codec uid code = (codec.sha256 (recoveryInput uid code)).1 := rfl
  refine ⟨fun input => ?_, fun uid random typed spelled => ?_, ?_⟩
  · rw [toList_base32, decode_encode]
    exact ⟨rfl, rfl⟩
  · rw [hashed, hashed, recoveryInput, significant_respelled spelled]
    rfl
  · intro uid other random another injective same
    exact recoveryInput_injective (injective _ (by simp) _ (by simp) (Subtype.ext same))

end JwOps.Agentd.RecoveryCodes
