/- module: Foundation/Wire
   digest: Byte encodings that say where they end, and that they read back what was written. -/
import Mathlib.Data.List.Basic

set_option autoImplicit false

namespace JwOps.Foundation

/-- An encoding that can be followed by anything. -/
structure Wire (α : Type) where
  write : α → List UInt8
  read : List UInt8 → Option (α × List UInt8)
  read_write : ∀ value rest, read (write value ++ rest) = some (value, rest)

namespace Wire

variable {α β : Type}

/-- Reads a value that takes up all bytes. -/
def decode (wire : Wire α) (bytes : List UInt8) : Option α :=
  match wire.read bytes with
  | some (value, []) => some value
  | _ => none

theorem decode_write (wire : Wire α) (value : α) : wire.decode (wire.write value) = some value := by
  have read := wire.read_write value []
  rw [List.append_nil] at read
  rw [decode, read]

/-! ### Combining encodings -/

def byte : Wire UInt8 where
  write value := [value]
  read
    | [] => none
    | value :: rest => some (value, rest)
  read_write _ _ := rfl

def pair (first : Wire α) (second : Wire β) : Wire (α × β) where
  write value := first.write value.1 ++ second.write value.2
  read bytes := do
    let (left, rest) ← first.read bytes
    let (right, rest) ← second.read rest
    pure ((left, right), rest)
  read_write value rest := by
    rw [List.append_assoc, first.read_write]
    change (second.read (second.write value.2 ++ rest) >>= _) = _
    rw [second.read_write]
    rfl

/-- Encodes what can be recovered from an encodable value. -/
def along (wire : Wire β) (pack : α → β) (unpack : β → α)
    (unpack_pack : ∀ value, unpack (pack value) = value) : Wire α where
  write value := wire.write (pack value)
  read bytes := (wire.read bytes).map fun found => (unpack found.1, found.2)
  read_write value rest := by
    rw [wire.read_write, Option.map_some, unpack_pack]

/-! ### Lists -/

/-- Every element is announced by a one, the end by a zero. -/
def writeList (wire : Wire α) : List α → List UInt8
  | [] => [0]
  | value :: rest => 1 :: (wire.write value ++ writeList wire rest)

def readList (wire : Wire α) : Nat → List UInt8 → Option (List α × List UInt8)
  | 0, _ => none
  | _ + 1, [] => none
  | fuel + 1, announced :: rest =>
    if announced = 0 then some ([], rest)
    else do
      let (value, rest) ← wire.read rest
      let (values, rest) ← readList wire fuel rest
      pure (value :: values, rest)

theorem length_writeList (wire : Wire α) (values : List α) :
    values.length < (writeList wire values).length := by
  induction values with
  | nil => simp [writeList]
  | cons value rest ih =>
    simp only [writeList, List.length_cons, List.length_append]
    omega

theorem readList_writeList (wire : Wire α) (values : List α) (rest : List UInt8) {fuel : Nat}
    (enough : values.length < fuel) :
    readList wire fuel (writeList wire values ++ rest) = some (values, rest) := by
  induction values generalizing fuel with
  | nil =>
    obtain ⟨fuel, rfl⟩ := Nat.exists_eq_succ_of_ne_zero (Nat.ne_of_gt enough)
    rfl
  | cons value values ih =>
    obtain ⟨fuel, rfl⟩ := Nat.exists_eq_succ_of_ne_zero (Nat.ne_of_gt (Nat.zero_lt_of_lt enough))
    have fewer : values.length < fuel := by
      rw [List.length_cons] at enough
      omega
    simp only [writeList, List.cons_append, List.append_assoc, readList]
    rw [if_neg (by decide), wire.read_write]
    change (readList wire fuel (writeList wire values ++ rest) >>= _) = _
    rw [ih fewer]
    rfl

def list (wire : Wire α) : Wire (List α) where
  write := writeList wire
  read bytes := readList wire bytes.length bytes
  read_write values rest := by
    apply readList_writeList
    have longer := length_writeList wire values
    rw [List.length_append]
    omega

/-! ### Plain types -/

def option (wire : Wire α) : Wire (Option α) :=
  (list wire).along Option.toList List.head? fun value => by cases value <;> rfl

def bool : Wire Bool :=
  byte.along (fun value => if value then 1 else 0) (· == 1) (by decide)

def nat : Wire Nat :=
  (list byte).along (fun value => List.replicate value 0) List.length fun _ =>
    List.length_replicate

/-- A character by its three base-256 digits. -/
def char : Wire Char :=
  (byte.pair (byte.pair byte)).along
    (fun value => (.ofNat (value.toNat / 65536), .ofNat (value.toNat / 256), .ofNat value.toNat))
    (fun digits =>
      .ofNat (digits.1.toNat * 65536 + digits.2.1.toNat * 256 + digits.2.2.toNat))
    fun value => by
      have small : value.toNat < 1114112 := by
        have valid := value.valid
        unfold UInt32.isValidChar Nat.isValidChar at valid
        change value.val.toNat < 1114112
        omega
      have digits : value.toNat / 65536 % 256 * 65536 + value.toNat / 256 % 256 * 256 +
          value.toNat % 256 = value.toNat := by
        omega
      simp only [UInt8.toNat_ofNat', Nat.reducePow]
      rw [digits, Char.ofNat_toNat]

def string : Wire String :=
  (list char).along String.toList String.ofList fun _ => String.ofList_toList

end Wire

end JwOps.Foundation
