/- module: Contracts/Framing
   source: crates/jw-contracts/src/framing.rs
   digest: Frames read back what was written, by the streaming and by the whole-frame decoder. -/
import JwOps.Foundation.Readers

set_option autoImplicit false

namespace JwOps.Contracts.Framing

open Foundation

abbrev Bytes := List UInt8

/-- `io` stands for the end of the bytes inside `read_exact`. -/
inductive FrameError where
  | empty | tooLarge | truncated | invalidJson | io
  deriving DecidableEq, Repr

def u32Max : Nat := 2 ^ 32 - 1

/-- The length as four big-endian bytes, and the payload. -/
def frameOf (payload : Bytes) : Bytes := toBigEndian 4 payload.length ++ payload

/-- `serde_json::to_vec` and `serde_json::from_slice` for the values of a channel, and its limit. -/
structure Channel (T : Type) where
  toVec : T → Option Bytes
  fromSlice : Bytes → Option T
  maximum : Nat

namespace Channel

variable {T : Type} (channel : Channel T)

def encodeFrame (value : T) : Except FrameError Bytes :=
  match channel.toVec value with
  | none => .error .invalidJson
  | some payload =>
    if payload = [] then .error .empty
    else if channel.maximum < payload.length ∨ u32Max < payload.length then .error .tooLarge
    else .ok (frameOf payload)

def decodeFrame (frame : Bytes) : Except FrameError T :=
  let length := ofBigEndian (frame.take 4)
  if frame.length < 4 then .error .truncated
  else if length = 0 then .error .empty
  else if channel.maximum < length then .error .tooLarge
  else if (frame.drop 4).length ≠ length then .error .truncated
  else (channel.fromSlice (frame.drop 4)).elim (.error .invalidJson) .ok

/-- What one call of `read_frame` does: its result, the bytes it leaves and the buffer it makes. -/
structure Reading (T : Type) where
  result : Except FrameError T
  rest : Bytes
  allocated : Nat

/-- A failed `read_exact` has taken what was left. -/
def readFrame (bytes : Bytes) : Reading T :=
  let length := ofBigEndian (bytes.take 4)
  let rest := bytes.drop 4
  if bytes.length < 4 then ⟨.error .io, [], 0⟩
  else if length = 0 then ⟨.error .empty, rest, 0⟩
  else if channel.maximum < length then ⟨.error .tooLarge, rest, 0⟩
  else if rest.length < length then ⟨.error .io, [], length⟩
  else ⟨(channel.fromSlice (rest.take length)).elim (.error .invalidJson) .ok, rest.drop length,
    length⟩

/-- Reads until a call fails, at most as often as counted. -/
def readFrames : Nat → Bytes → List T × Option FrameError × Bytes
  | 0, bytes => ([], none, bytes)
  | count + 1, bytes =>
    match channel.readFrame bytes with
    | ⟨.error error, rest, _⟩ => ([], some error, rest)
    | ⟨.ok value, rest, _⟩ => ((value :: (readFrames count rest).1), (readFrames count rest).2)

/-- The payload is within the limits and is read as the value. -/
structure Carries (value : T) (payload : Bytes) : Prop where
  filled : payload ≠ []
  limit : payload.length ≤ channel.maximum
  fits : payload.length ≤ u32Max
  parsed : channel.fromSlice payload = some value

/-! ### What the decoders accept -/

variable {channel} {value : T} {payload rest bytes : Bytes}

theorem elim_eq_ok_iff {parsed : Option T} :
    parsed.elim (.error .invalidJson) Except.ok = (.ok value : Except FrameError T) ↔
      parsed = some value := by
  cases parsed <;> simp

theorem frameOf_of_split (long : ¬bytes.length < 4) (split : bytes.drop 4 = payload ++ rest)
    (length : payload.length = ofBigEndian (bytes.take 4)) :
    payload.length ≤ u32Max ∧ bytes = frameOf payload ++ rest := by
  have four : (bytes.take 4).length = 4 := by rw [List.length_take]; omega
  have head := toBigEndian_ofBigEndian (bytes.take 4)
  have small := ofBigEndian_lt (bytes.take 4)
  rw [four] at head small
  refine ⟨by rw [length, u32Max]; omega, ?_⟩
  rw [frameOf, length, head, List.append_assoc, ← split, List.take_append_drop]

theorem ofBigEndian_length (fits : payload.length ≤ u32Max) :
    ofBigEndian (toBigEndian 4 payload.length) = payload.length :=
  ofBigEndian_toBigEndian (Nat.lt_of_le_of_lt fits (by decide))

theorem readFrame_frameOf (carries : channel.Carries value payload) (rest : Bytes) :
    channel.readFrame (frameOf payload ++ rest) = ⟨.ok value, rest, payload.length⟩ := by
  have filled := List.length_pos_iff.mpr carries.filled
  have limit := carries.limit
  rw [frameOf, List.append_assoc, readFrame, List.take_left' (length_toBigEndian ..),
    List.drop_left' (length_toBigEndian ..), ofBigEndian_length carries.fits, List.take_left,
    List.drop_left, carries.parsed, if_neg (by simp), if_neg (by omega), if_neg (by omega),
    if_neg (by simp)]
  rfl

theorem frameOf_of_readFrame (read : (channel.readFrame bytes).result = .ok value) :
    ∃ payload, channel.Carries value payload ∧
      bytes = frameOf payload ++ (channel.readFrame bytes).rest := by
  unfold readFrame at read ⊢
  dsimp only at read ⊢
  split at read
  · cases read
  split at read
  · cases read
  split at read
  · cases read
  split at read
  · cases read
  rename_i long filled limit enough
  rw [if_neg long, if_neg filled, if_neg limit, if_neg enough]
  have length : ((bytes.drop 4).take (ofBigEndian (bytes.take 4))).length =
      ofBigEndian (bytes.take 4) := by
    rw [List.length_take]
    omega
  obtain ⟨fits, parts⟩ := frameOf_of_split long (List.take_append_drop _ _).symm length
  refine ⟨_, ⟨?_, by omega, fits, elim_eq_ok_iff.mp read⟩, parts⟩
  rw [← List.length_pos_iff]
  omega

/-- Both decoders make the same checks, but one leaves what follows the payload. -/
theorem decodeFrame_ok_iff : channel.decodeFrame bytes = .ok value ↔
    (channel.readFrame bytes).result = .ok value ∧
      (channel.readFrame bytes).rest = [] := by
  unfold decodeFrame readFrame
  dsimp only
  split
  · simp
  split
  · simp
  split
  · simp
  by_cases whole : (bytes.drop 4).length = ofBigEndian (bytes.take 4)
  · rw [if_neg (not_not.mpr whole), if_neg (by omega), ← whole, List.take_length, List.drop_length]
    simp
  · rw [if_pos whole]
    split
    · simp
    · simp only [List.drop_eq_nil_iff, reduceCtorEq, false_iff]
      omega

theorem frameOf_of_decodeFrame (decoded : channel.decodeFrame bytes = .ok value) :
    ∃ payload, channel.Carries value payload ∧ bytes = frameOf payload := by
  obtain ⟨read, none_left⟩ := decodeFrame_ok_iff.mp decoded
  obtain ⟨payload, carries, parts⟩ := frameOf_of_readFrame read
  rw [none_left, List.append_nil] at parts
  exact ⟨payload, carries, parts⟩

/-- The length in front of a frame says where it ends. -/
theorem frameOf_start {other : Bytes} (fits : payload.length ≤ u32Max)
    (otherFits : other.length ≤ u32Max) (start : frameOf payload <+: frameOf other) :
    frameOf payload = frameOf other := by
  obtain ⟨more, parts⟩ := start
  have heads := congrArg (fun bytes => ofBigEndian (bytes.take 4)) parts
  simp only [frameOf, List.append_assoc, List.take_left' (length_toBigEndian ..)] at heads
  rw [ofBigEndian_length fits, ofBigEndian_length otherFits] at heads
  refine List.IsPrefix.eq_of_length ⟨more, parts⟩ ?_
  simp only [frameOf, List.length_append, length_toBigEndian, heads]

theorem eq_of_decoded_start {frame : Bytes} {other : T} (start : bytes <+: frame)
    (first : channel.decodeFrame bytes = .ok value)
    (second : channel.decodeFrame frame = .ok other) : bytes = frame := by
  obtain ⟨payload, carries, rfl⟩ := frameOf_of_decodeFrame first
  obtain ⟨longer, carries', rfl⟩ := frameOf_of_decodeFrame second
  exact frameOf_start carries.fits carries'.fits start

/-! ### Streams of frames -/

theorem encodeFrame_ok (carries : channel.Carries value payload)
    (written : channel.toVec value = some payload) :
    channel.encodeFrame value = .ok (frameOf payload) := by
  have limit := carries.limit
  have fits := carries.fits
  rw [encodeFrame, written]
  dsimp only
  rw [if_neg carries.filled, if_neg (by omega)]

theorem readFrames_append (count : Nat) (carries : channel.Carries value payload)
    (rest : Bytes) :
    channel.readFrames (count + 1) (frameOf payload ++ rest) =
      (value :: (channel.readFrames count rest).1,
        (channel.readFrames count rest).2) := by
  rw [readFrames, readFrame_frameOf carries]

/-- The frames of values whose texts are within the limit and read back are read as these values,
and the next read finds the end of the bytes. A byte string is decoded as a whole exactly if it is
read without a rest; then it is one frame, and no proper start and no extension of it is decoded.
The buffer for a payload never exceeds the limit. -/
theorem frames_read_back (channel : Channel T) :
    (∀ values : List T, (∀ value ∈ values, ∃ payload, channel.toVec value = some payload ∧
        channel.Carries value payload) →
      ∃ frames, values.mapM channel.encodeFrame = .ok frames ∧
        channel.readFrames values.length frames.flatten = (values, none, []) ∧
        ∀ more, channel.readFrames (values.length + (more + 1)) frames.flatten =
          (values, some .io, [])) ∧
    (∀ frame value, channel.decodeFrame frame = .ok value ↔
      (channel.readFrame frame).result = .ok value ∧
        (channel.readFrame frame).rest = []) ∧
    (∀ frame value, channel.decodeFrame frame = .ok value →
      (∃ payload, channel.Carries value payload ∧ frame = frameOf payload) ∧
      (∀ short, short <+: frame → short ≠ frame →
        ∃ error, channel.decodeFrame short = .error error) ∧
      ∀ more, more ≠ [] → ∃ error, channel.decodeFrame (frame ++ more) = .error error) ∧
    ∀ bytes, (channel.readFrame bytes).allocated ≤ channel.maximum := by
  have rejected {frame : Bytes} (failed : ∀ value : T,
      channel.decodeFrame frame ≠ .ok value) :
      ∃ error, channel.decodeFrame frame = .error error := by
    cases decoded : channel.decodeFrame frame with
    | error error => exact ⟨error, rfl⟩
    | ok value => exact absurd decoded (failed value)
  refine ⟨fun values written => ?_, fun _ _ => decodeFrame_ok_iff, fun frame value decoded =>
    ⟨frameOf_of_decodeFrame decoded, fun short start other => rejected fun found read => ?_,
      fun more some_ => rejected fun found read => ?_⟩, fun bytes => ?_⟩
  · induction values with
    | nil => exact ⟨[], rfl, rfl, fun more => by rw [List.length_nil, Nat.zero_add]; rfl⟩
    | cons value values ih =>
      obtain ⟨frames, encoded, all, past⟩ :=
        ih fun other member => written other (List.mem_cons_of_mem _ member)
      obtain ⟨payload, json, carries⟩ := written value List.mem_cons_self
      refine ⟨frameOf payload :: frames, ?_, ?_, fun more => ?_⟩
      · rw [List.mapM_cons, encodeFrame_ok carries json, encoded]
        rfl
      · rw [List.flatten_cons, List.length_cons, readFrames_append _ carries, all]
      · rw [List.flatten_cons, List.length_cons, Nat.add_right_comm, readFrames_append _ carries,
          past]
  · exact other (eq_of_decoded_start start read decoded)
  · have same := eq_of_decoded_start (List.prefix_append frame more) decoded read
    exact some_ (List.self_eq_append_right.mp same)
  · unfold readFrame
    dsimp only
    split_ifs <;> simp only [Nat.zero_le] <;> omega

end Channel

end JwOps.Contracts.Framing
