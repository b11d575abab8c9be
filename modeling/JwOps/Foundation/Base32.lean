/- module: Foundation/Base32
   source: none (the standard alphabet, without padding)
   digest: Base32 by bits: five of them make a letter, and the letters give the bytes back. -/
import Mathlib.Data.List.Basic
import Mathlib.Data.Nat.Bitwise

set_option autoImplicit false

namespace JwOps.Foundation.Base32

/-- The lowest bits of a number, the highest of them first. -/
def lowBits (number : Nat) : Nat → List Bool
  | 0 => []
  | count + 1 => number.testBit count :: lowBits number count

def ofBits (bits : List Bool) : Nat := bits.foldl (fun number bit => 2 * number + bit.toNat) 0

def alphabet : List Char := "ABCDEFGHIJKLMNOPQRSTUVWXYZ234567".toList

def letter (five : List Bool) : Char := alphabet.getD (ofBits five) 'A'

def bitsOf (bytes : List UInt8) : List Bool := bytes.flatMap fun byte => lowBits byte.toNat 8

/-- One letter for five bits; the last group is filled up with zeros. -/
def lettersOf : List Bool → List Char
  | a :: b :: c :: d :: e :: rest => letter [a, b, c, d, e] :: lettersOf rest
  | [] => []
  | rest => [letter (rest ++ List.replicate (5 - rest.length) false)]

def encode (bytes : List UInt8) : List Char := lettersOf (bitsOf bytes)

/-- Groups of eight bits; what is left over is dropped. -/
def octets : List Bool → List UInt8
  | a :: b :: c :: d :: e :: f :: g :: h :: rest =>
    UInt8.ofNat (ofBits [a, b, c, d, e, f, g, h]) :: octets rest
  | _ => []

def bitsOfLetters (letters : List Char) : List Bool :=
  letters.flatMap fun c => lowBits (alphabet.idxOf c) 5

def decode (letters : List Char) : List UInt8 := octets (bitsOfLetters letters)

theorem lowBits_mod {number count width : Nat} (within : count ≤ width) :
    lowBits (number % 2 ^ width) count = lowBits number count := by
  induction count with
  | zero => rfl
  | succ count ih =>
    rw [lowBits, lowBits, ih (by omega), Nat.testBit_mod_two_pow, decide_eq_true (by omega),
      Bool.true_and]

theorem lowBits_add (number high low : Nat) :
    lowBits number (high + low) = lowBits (number / 2 ^ low) high ++ lowBits number low := by
  induction high with
  | zero => rw [Nat.zero_add]; rfl
  | succ high ih =>
    rw [Nat.add_right_comm, lowBits, ih, lowBits, Nat.testBit_div_two_pow]
    rfl

theorem lowBits_letter : ∀ a b c d e : Bool,
    lowBits (alphabet.idxOf (letter [a, b, c, d, e])) 5 = [a, b, c, d, e] := by
  decide

theorem ofBits_lowBits {number : Nat} (byte : number < 256) :
    ofBits (lowBits number 8) = number := by
  have all : ∀ number < 256, ofBits (lowBits number 8) = number := by decide +kernel
  exact all number byte

/-- The letters have the bits, and fewer than five zeros after them. -/
theorem bitsOfLetters_lettersOf : ∀ bits : List Bool, ∃ fill, fill.length < 5 ∧
    bitsOfLetters (lettersOf bits) = bits ++ fill
  | a :: b :: c :: d :: e :: rest => by
    obtain ⟨fill, few, same⟩ := bitsOfLetters_lettersOf rest
    refine ⟨fill, few, ?_⟩
    change lowBits (alphabet.idxOf (letter [a, b, c, d, e])) 5 ++ bitsOfLetters _ = _
    rw [lowBits_letter, same]
    rfl
  | [] => ⟨[], by decide, rfl⟩
  | [a] => ⟨[false, false, false, false], by decide, lowBits_letter a false false false false⟩
  | [a, b] => ⟨[false, false, false], by decide, lowBits_letter a b false false false⟩
  | [a, b, c] => ⟨[false, false], by decide, lowBits_letter a b c false false⟩
  | [a, b, c, d] => ⟨[false], by decide, lowBits_letter a b c d false⟩

theorem letter_mem (five : List Bool) : letter five ∈ alphabet := by
  unfold letter
  rcases Nat.lt_or_ge (ofBits five) alphabet.length with inside | outside
  · rw [List.getD_eq_getElem _ _ inside]
    exact List.getElem_mem inside
  · rw [List.getD_eq_default _ _ outside]
    decide

theorem encode_subset (bytes : List UInt8) : encode bytes ⊆ alphabet := by
  unfold encode
  fun_induction lettersOf (bitsOf bytes) <;> simp_all [letter_mem]

theorem octets_bitsOf (bytes : List UInt8) {fill : List Bool} (few : fill.length < 5) :
    octets (bitsOf bytes ++ fill) = bytes := by
  induction bytes with
  | nil =>
    change octets fill = []
    unfold octets
    split
    · simp only [List.length_cons] at few
      omega
    · rfl
  | cons byte rest ih =>
    change UInt8.ofNat (ofBits (lowBits byte.toNat 8)) :: octets (bitsOf rest ++ fill) = _
    rw [ofBits_lowBits byte.toNat_lt, UInt8.ofNat_toNat, ih]

theorem decode_encode (bytes : List UInt8) : decode (encode bytes) = bytes := by
  obtain ⟨fill, few, same⟩ := bitsOfLetters_lettersOf (bitsOf bytes)
  rw [decode, encode, same, octets_bitsOf bytes few]

end JwOps.Foundation.Base32
