/- module: Sftp/Packets
   source: jw-agentd sftp_protocol.rs, the cursor and the parsers of server packets
   digest: Each parser accepts exactly the version 3 encodings and returns what they encode. -/
import JwOps.Foundation.Readers
import JwOps.Contracts.Digest

set_option autoImplicit false

namespace JwOps.Sftp.Packets

open Contracts Foundation Operation Digest

/-! ### Numbers, byte strings and texts -/

def protocolError : String := "sftp_protocol_error"

def be32 (value : UInt32) : Bytes := toBigEndian 4 value.toNat

def be64 (value : UInt64) : Bytes := toBigEndian 8 value.toNat

namespace Cursor

def take (length : Nat) : Reader Bytes := Reader.take protocolError length

def u32 : Reader UInt32 := do
  let bytes ← take 4
  pure (UInt32.ofNat (ofBigEndian bytes))

def u64 : Reader UInt64 := do
  let bytes ← take 8
  pure (UInt64.ofNat (ofBigEndian bytes))

def bytes : Reader Bytes := do
  let length ← u32
  take length.toNat

/-- `String::from_utf8`. -/
def decodeUtf8 (bytes : Bytes) : Option String := String.fromUTF8? bytes.toByteArray

def string : Reader String := do
  let bytes ← bytes
  match decodeUtf8 bytes with
  | some text => pure text
  | none => Reader.fail "sftp_non_utf8_name"

end Cursor

/-! ### The parsers -/

structure Attrs where
  size : Option UInt64
  permissions : Option UInt32
  modified : Option UInt32
  deriving DecidableEq, Repr

structure NameEntry where
  filename : String
  attrs : Attrs
  deriving DecidableEq, Repr

def attrSize : UInt32 := 0x00000001
def attrUidgid : UInt32 := 0x00000002
def attrPermissions : UInt32 := 0x00000004
def attrAcmodtime : UInt32 := 0x00000008
def attrExtended : UInt32 := 0x80000000

def knownFlags : UInt32 :=
  attrSize ||| attrUidgid ||| attrPermissions ||| attrAcmodtime ||| attrExtended

def fileMaxListEntries : Nat := 500

def pairOf {α : Type} (reader : Reader α) : Reader (α × α) := do
  let first ← reader
  let second ← reader
  pure (first, second)

def parseExtended : Reader (List (Bytes × Bytes)) := do
  let count ← Cursor.u32
  if count.toNat > 32 then Reader.fail protocolError
  else Reader.times (pairOf Cursor.bytes) count.toNat

def parseAttrs : Reader Attrs := do
  let flags ← Cursor.u32
  if flags &&& ~~~knownFlags ≠ 0 then Reader.fail protocolError
  else do
    let size ← Reader.optionally (flags &&& attrSize != 0) Cursor.u64
    let _owner ← Reader.optionally (flags &&& attrUidgid != 0) (pairOf Cursor.u32)
    let permissions ← Reader.optionally (flags &&& attrPermissions != 0) Cursor.u32
    let times ← Reader.optionally (flags &&& attrAcmodtime != 0) (pairOf Cursor.u32)
    let _extended ← Reader.optionally (flags &&& attrExtended != 0) parseExtended
    pure ⟨size, permissions, times.map Prod.snd⟩

def parseName : Reader NameEntry := do
  let filename ← Cursor.string
  let _longname ← Cursor.bytes
  let attrs ← parseAttrs
  pure ⟨filename, attrs⟩

def parseNamesFrom : Reader (List NameEntry) := do
  let count ← Cursor.u32
  if count.toNat > fileMaxListEntries + 2 then Reader.fail "sftp_list_limit_exceeded"
  else Reader.times parseName count.toNat

def parseNames (payload : Bytes) : Except String (List NameEntry) :=
  Reader.whole protocolError parseNamesFrom payload

/-- The block of attributes as the whole payload of a reply. -/
def parseAttrsReply (payload : Bytes) : Except String Attrs :=
  Reader.whole protocolError parseAttrs payload

def parseStatusFrom : Reader UInt32 := do
  let status ← Cursor.u32
  let _texts ← pairOf Cursor.bytes
  pure status

def parseStatus (payload : Bytes) : Except String UInt32 :=
  Reader.whole protocolError parseStatusFrom payload

/-- The payload of a `SSH_FXP_HANDLE` reply in `handle_response`. -/
def parseHandle (payload : Bytes) : Except String Bytes := do
  let handle ← Reader.whole protocolError Cursor.bytes payload
  if handle.isEmpty || handle.length > 256 then throw protocolError
  pure handle

/-- The payload of a `SSH_FXP_DATA` reply in `read_handle`. -/
def parseData (payload : Bytes) : Except String Bytes :=
  Reader.whole protocolError Cursor.bytes payload

/-! ### The encoding of version 3 -/

/-- A byte string whose length fits its length field. -/
abbrev Blob := { bytes : Bytes // bytes.length < 2 ^ 32 }

def encodeBytes (value : Bytes) : Bytes := be32 (UInt32.ofNat value.length) ++ value

def encodeBlobs (pair : Blob × Blob) : Bytes := encodeBytes pair.1 ++ encodeBytes pair.2

/-- A block of attributes with everything the protocol can put into it. -/
structure AttributeBlock where
  size : Option UInt64
  owner : Option (UInt32 × UInt32)
  permissions : Option UInt32
  times : Option (UInt32 × UInt32)
  extended : Option { pairs : List (Blob × Blob) // pairs.length ≤ 32 }

def flagsWord (size owner permissions times extended : Bool) : UInt32 :=
  (if size then attrSize else 0) ||| (if owner then attrUidgid else 0) |||
    (if permissions then attrPermissions else 0) ||| (if times then attrAcmodtime else 0) |||
      (if extended then attrExtended else 0)

def encodeOptional {α : Type} (encode : α → Bytes) : Option α → Bytes
  | some value => encode value
  | none => []

def encodePair (pair : UInt32 × UInt32) : Bytes := be32 pair.1 ++ be32 pair.2

def encodeExtended (pairs : { pairs : List (Blob × Blob) // pairs.length ≤ 32 }) : Bytes :=
  be32 (UInt32.ofNat pairs.1.length) ++ (pairs.1.map encodeBlobs).flatten

namespace AttributeBlock

def flags (block : AttributeBlock) : UInt32 :=
  flagsWord block.size.isSome block.owner.isSome block.permissions.isSome block.times.isSome
    block.extended.isSome

def encode (block : AttributeBlock) : Bytes :=
  be32 block.flags ++ (encodeOptional be64 block.size ++ (encodeOptional encodePair block.owner ++
    (encodeOptional be32 block.permissions ++ (encodeOptional encodePair block.times ++
      encodeOptional encodeExtended block.extended))))

/-- What the client keeps of a block. -/
def view (block : AttributeBlock) : Attrs :=
  ⟨block.size, block.permissions, block.times.map Prod.snd⟩

end AttributeBlock

/-- An entry of a name packet. -/
structure ListedName where
  filename : { text : String // (utf8Bytes text).length < 2 ^ 32 }
  longname : Blob
  attrs : AttributeBlock

namespace ListedName

def encode (name : ListedName) : Bytes :=
  encodeBytes (utf8Bytes name.filename) ++ (encodeBytes name.longname ++ name.attrs.encode)

def view (name : ListedName) : NameEntry := ⟨name.filename, name.attrs.view⟩

end ListedName

abbrev NameList := { names : List ListedName // names.length ≤ fileMaxListEntries + 2 }

def encodeNames (names : NameList) : Bytes :=
  be32 (UInt32.ofNat names.1.length) ++ (names.1.map ListedName.encode).flatten

structure StatusMessage where
  status : UInt32
  texts : Blob × Blob

def StatusMessage.encode (message : StatusMessage) : Bytes :=
  be32 message.status ++ encodeBlobs message.texts

/-- Handles as the client takes them. -/
abbrev Handle := { bytes : Bytes // bytes ≠ [] ∧ bytes.length ≤ 256 }

/-! ### What the cursor reads -/

section Reading

variable {α β : Type} {reader : Reader α} {payload : Bytes}

open Reader

theorem exact_u32 : Exact Cursor.u32 fun value word => be32 value = word := by
  refine (exact_map (exact_take protocolError 4) _).congr fun value word => ?_
  constructor
  · rintro ⟨bytes, ⟨rfl, four⟩, rfl⟩
    have small : ofBigEndian bytes < 2 ^ 32 := by
      have bound := ofBigEndian_lt bytes
      rw [four] at bound
      exact bound
    rw [be32, UInt32.toNat_ofNat_of_lt' small, ← four, toBigEndian_ofBigEndian]
  · rintro rfl
    have fits : value.toNat < 256 ^ 4 := value.toNat_lt
    refine ⟨be32 value, ⟨rfl, length_toBigEndian 4 _⟩, ?_⟩
    rw [be32, ofBigEndian_toBigEndian fits, UInt32.ofNat_toNat]

theorem exact_u64 : Exact Cursor.u64 fun value word => be64 value = word := by
  refine (exact_map (exact_take protocolError 8) _).congr fun value word => ?_
  constructor
  · rintro ⟨bytes, ⟨rfl, eight⟩, rfl⟩
    have small : ofBigEndian bytes < 2 ^ 64 := by
      have bound := ofBigEndian_lt bytes
      rw [eight] at bound
      exact bound
    rw [be64, UInt64.toNat_ofNat_of_lt' small, ← eight, toBigEndian_ofBigEndian]
  · rintro rfl
    have fits : value.toNat < 256 ^ 8 := value.toNat_lt
    refine ⟨be64 value, ⟨rfl, length_toBigEndian 8 _⟩, ?_⟩
    rw [be64, ofBigEndian_toBigEndian fits, UInt64.ofNat_toNat]

theorem exact_bytes : Exact Cursor.bytes fun value word =>
    value.length < 2 ^ 32 ∧ encodeBytes value = word := by
  refine (exact_bind exact_u32 fun length => exact_take protocolError length.toNat).congr
    fun value word => ?_
  constructor
  · rintro ⟨length, _, _, rfl, ⟨rfl, counted⟩, rfl⟩
    have small : value.length < 2 ^ 32 := counted ▸ length.toNat_lt
    refine ⟨small, ?_⟩
    rw [encodeBytes, counted, UInt32.ofNat_toNat]
  · rintro ⟨small, rfl⟩
    refine ⟨UInt32.ofNat value.length, _, value, rfl, ⟨rfl, ?_⟩, rfl⟩
    rw [UInt32.toNat_ofNat_of_lt' small]

theorem decodeUtf8_eq_some_iff {bytes : Bytes} {text : String} :
    Cursor.decodeUtf8 bytes = some text ↔ utf8Bytes text = bytes := by
  have encoded : text.toByteArray = (utf8Bytes text).toByteArray := by
    rw [utf8Bytes]
    exact String.utf8Encode_toList.symm
  constructor
  · intro decoded
    unfold Cursor.decodeUtf8 String.fromUTF8? at decoded
    split at decoded
    · rename_i valid
      have same : text.toByteArray = bytes.toByteArray := by
        rw [← Option.some.inj decoded]
        rfl
      rw [encoded] at same
      exact List.toByteArray_inj.mp same
    · cases decoded
  · rintro rfl
    unfold Cursor.decodeUtf8 String.fromUTF8?
    rw [← encoded]
    rw [dif_pos text.isValidUTF8]
    rfl

theorem exact_string : Exact Cursor.string fun text word =>
    (utf8Bytes text).length < 2 ^ 32 ∧ encodeBytes (utf8Bytes text) = word := by
  have decodes : ∀ bytes, Exact (match Cursor.decodeUtf8 bytes with
      | some text => (pure text : Reader String)
      | none => Reader.fail "sftp_non_utf8_name") fun text word =>
        utf8Bytes text = bytes ∧ word = [] := by
    intro bytes
    cases decoded : Cursor.decodeUtf8 bytes with
    | none =>
      refine (exact_fail "sftp_non_utf8_name").congr fun text word => ⟨False.elim, ?_⟩
      rintro ⟨encoded, _⟩
      rw [decodeUtf8_eq_some_iff.mpr encoded] at decoded
      cases decoded
    | some found =>
      refine (exact_pure found).congr fun text word => and_congr_left fun _ => ?_
      rw [← decodeUtf8_eq_some_iff, decoded, Option.some.injEq, eq_comm]
  refine (exact_bind exact_bytes decodes).congr fun text word => ?_
  constructor
  · rintro ⟨_, _, _, ⟨small, rfl⟩, ⟨rfl, rfl⟩, rfl⟩
    exact ⟨small, (List.append_nil _).symm⟩
  · rintro ⟨small, rfl⟩
    exact ⟨utf8Bytes text, _, [], ⟨small, rfl⟩, ⟨rfl, rfl⟩, (List.append_nil _).symm⟩

theorem exact_pairOf {encodes : α → Bytes → Prop} (reads : Exact reader encodes) :
    Exact (pairOf reader) fun pair word => ∃ front back, encodes pair.1 front ∧
      encodes pair.2 back ∧ word = front ++ back := by
  refine (exact_bind reads fun first => exact_map reads (Prod.mk first)).congr fun pair word => ?_
  constructor
  · rintro ⟨first, front, back, encoded, ⟨second, also, rfl⟩, rfl⟩
    exact ⟨front, back, encoded, also, rfl⟩
  · rintro ⟨front, back, encoded, also, rfl⟩
    exact ⟨pair.1, front, back, encoded, ⟨pair.2, also, rfl⟩, rfl⟩

theorem exact_numbers : Exact (pairOf Cursor.u32) fun pair word => encodePair pair = word := by
  refine (exact_pairOf exact_u32).congr fun pair word => ?_
  constructor
  · rintro ⟨_, _, rfl, rfl, rfl⟩
    rfl
  · rintro rfl
    exact ⟨_, _, rfl, rfl, rfl⟩

theorem exact_blobs : Exact (pairOf Cursor.bytes) fun pair word =>
    ∃ blobs : Blob × Blob, encodeBlobs blobs = word ∧ (blobs.1.1, blobs.2.1) = pair := by
  refine (exact_pairOf exact_bytes).congr fun pair word => ?_
  constructor
  · rintro ⟨_, _, ⟨first_small, rfl⟩, ⟨second_small, rfl⟩, rfl⟩
    exact ⟨(⟨pair.1, first_small⟩, ⟨pair.2, second_small⟩), rfl, rfl⟩
  · rintro ⟨⟨first, second⟩, rfl, rfl⟩
    exact ⟨_, _, ⟨first.2, rfl⟩, ⟨second.2, rfl⟩, rfl⟩

/-- Lists of encodings, read one by one, are the encodings of lists. -/
theorem forall₂_encoded {encode : α → Bytes} {view : α → β} {values : List β}
    {words : List Bytes} :
    List.Forall₂ (fun value word => ∃ full, encode full = word ∧ view full = value) values words ↔
      ∃ full : List α, full.map encode = words ∧ full.map view = values := by
  constructor
  · intro all
    induction all with
    | nil => exact ⟨[], rfl, rfl⟩
    | cons one _ ih =>
      obtain ⟨full, rfl, rfl⟩ := one
      obtain ⟨rest, rfl, rfl⟩ := ih
      exact ⟨full :: rest, rfl, rfl⟩
  · rintro ⟨full, rfl, rfl⟩
    induction full with
    | nil => exact .nil
    | cons one rest ih => exact .cons ⟨one, rfl, rfl⟩ ih

/-- A counted list with a limit on the count. -/
theorem exact_counted {reader : Reader β} {encode : α → Bytes} {view : α → β}
    (reads : Exact reader fun value word => ∃ full, encode full = word ∧ view full = value)
    {limit : Nat} (limit_lt : limit < 2 ^ 32) {reason : String} :
    Exact (do
      let count ← Cursor.u32
      if count.toNat > limit then Reader.fail reason else Reader.times reader count.toNat)
      fun values word => ∃ full : List α, full.length ≤ limit ∧
        be32 (UInt32.ofNat full.length) ++ (full.map encode).flatten = word ∧
          full.map view = values := by
  refine (exact_bind exact_u32 fun count =>
    exact_unless reason (exact_times reads count.toNat)).congr fun values word => ?_
  constructor
  · rintro ⟨count, _, _, rfl, ⟨within, counted, words, all, rfl⟩, rfl⟩
    obtain ⟨full, rfl, rfl⟩ := forall₂_encoded.mp all
    rw [List.length_map] at counted
    refine ⟨full, by omega, ?_, rfl⟩
    rw [counted, UInt32.ofNat_toNat]
  · rintro ⟨full, within, rfl, rfl⟩
    have fits : full.length < 2 ^ 32 := Nat.lt_of_le_of_lt within limit_lt
    have counted : (UInt32.ofNat full.length).toNat = full.length :=
      UInt32.toNat_ofNat_of_lt' fits
    refine ⟨UInt32.ofNat full.length, _, _, rfl, ⟨?_, ?_, _,
      forall₂_encoded.mpr ⟨full, rfl, rfl⟩, rfl⟩, rfl⟩
    · omega
    · rw [List.length_map, counted]

theorem exact_field {present : Bool} {encode : α → Bytes}
    (reads : Exact reader fun value word => encode value = word) :
    Exact (Reader.optionally present reader) fun found word =>
      found.isSome = present ∧ encodeOptional encode found = word := by
  refine (exact_optionally present reads).congr fun found word => ?_
  cases found <;> simp [encodeOptional, eq_comm]

theorem exact_extended : Exact parseExtended fun pairs word =>
    ∃ full, encodeExtended full = word ∧
      full.1.map (fun blobs => (blobs.1.1, blobs.2.1)) = pairs := by
  refine (exact_counted exact_blobs (show 32 < 2 ^ 32 by decide)).congr
    fun pairs word => ?_
  constructor
  · rintro ⟨full, within, rfl, rfl⟩
    exact ⟨⟨full, within⟩, rfl, rfl⟩
  · rintro ⟨full, rfl, rfl⟩
    exact ⟨full.1, full.2, rfl, rfl⟩

/-! ### Flags -/

theorem select_bit (flags bit : UInt32) (position : Nat)
    (single : bit.toBitVec = BitVec.twoPow 32 position) :
    (if flags &&& bit != 0 then bit else 0) = flags &&& bit := by
  have chosen := BitVec.and_twoPow flags.toBitVec position
  rw [← single, ← UInt32.toBitVec_and] at chosen
  cases held : flags.toBitVec.getLsbD position with
  | true =>
    rw [held, if_pos rfl] at chosen
    have same := UInt32.toBitVec_inj.mp chosen
    rw [same]
    split
    · rfl
    · rename_i zero
      simp only [bne_iff_ne, ne_eq, not_not] at zero
      exact zero.symm
  | false =>
    rw [held, if_neg Bool.false_ne_true] at chosen
    have same : flags &&& bit = 0 := UInt32.toBitVec_inj.mp chosen
    rw [same]
    rfl

/-- Known flags are determined by the five tests. -/
theorem flagsWord_tests {flags : UInt32} (known : flags &&& ~~~knownFlags = 0) :
    flagsWord (flags &&& attrSize != 0) (flags &&& attrUidgid != 0)
      (flags &&& attrPermissions != 0) (flags &&& attrAcmodtime != 0)
      (flags &&& attrExtended != 0) = flags := by
  have union : ∀ first second : UInt32,
      (flags &&& first) ||| (flags &&& second) = flags &&& (first ||| second) := by
    intro first second
    apply UInt32.toBitVec_inj.mp
    simp only [UInt32.toBitVec_and, UInt32.toBitVec_or, BitVec.and_or_distrib_left]
  have all : flags &&& (knownFlags ||| ~~~knownFlags) = flags := by
    apply UInt32.toBitVec_inj.mp
    rw [UInt32.toBitVec_and, show (knownFlags ||| ~~~knownFlags).toBitVec = BitVec.allOnes 32 from
      by decide, BitVec.and_allOnes]
  unfold flagsWord
  rw [select_bit flags attrSize 0 (by decide), select_bit flags attrUidgid 1 (by decide),
    select_bit flags attrPermissions 2 (by decide), select_bit flags attrAcmodtime 3 (by decide),
    select_bit flags attrExtended 31 (by decide), union, union, union, union]
  rw [← union, known] at all
  change flags &&& knownFlags = flags
  simpa using all

theorem tests_flagsWord : ∀ size owner permissions times extended : Bool,
    flagsWord size owner permissions times extended &&& ~~~knownFlags = 0 ∧
      (flagsWord size owner permissions times extended &&& attrSize != 0) = size ∧
      (flagsWord size owner permissions times extended &&& attrUidgid != 0) = owner ∧
      (flagsWord size owner permissions times extended &&& attrPermissions != 0) = permissions ∧
      (flagsWord size owner permissions times extended &&& attrAcmodtime != 0) = times ∧
      (flagsWord size owner permissions times extended &&& attrExtended != 0) = extended := by
  decide

/-! ### What the parsers read -/

theorem exact_parseAttrs : Exact parseAttrs fun attrs word =>
    ∃ block : AttributeBlock, block.encode = word ∧ block.view = attrs := by
  refine (exact_bind exact_u32 fun flags => exact_unless protocolError
    (exact_bind (exact_field exact_u64) fun size =>
      exact_bind (exact_field exact_numbers) fun owner =>
        exact_bind (exact_field exact_u32) fun permissions =>
          exact_bind (exact_field exact_numbers) fun times =>
            exact_map (exact_optionally _ exact_extended) fun _ =>
              Attrs.mk size permissions (times.map Prod.snd))).congr fun attrs word => ?_
  constructor
  · rintro ⟨flags, _, _, rfl, ⟨known, size, _, _, ⟨has_size, rfl⟩, ⟨owner, _, _, ⟨has_owner, rfl⟩,
      ⟨permissions, _, _, ⟨has_permissions, rfl⟩, ⟨times, _, _, ⟨has_times, rfl⟩,
        ⟨extended, encoded, rfl⟩, rfl⟩, rfl⟩, rfl⟩, rfl⟩, rfl⟩
    have flags_eq := flagsWord_tests (not_not.mp known)
    rw [← has_size, ← has_owner, ← has_permissions, ← has_times] at flags_eq
    cases extended with
    | none =>
      obtain ⟨absent, rfl⟩ := encoded
      rw [absent] at flags_eq
      refine ⟨⟨size, owner, permissions, times, none⟩, ?_, rfl⟩
      rw [AttributeBlock.encode, AttributeBlock.flags, Option.isSome_none, flags_eq]
      rfl
    | some pairs =>
      obtain ⟨present, full, rfl, rfl⟩ := encoded
      rw [present] at flags_eq
      refine ⟨⟨size, owner, permissions, times, some full⟩, ?_, rfl⟩
      rw [AttributeBlock.encode, AttributeBlock.flags, Option.isSome_some, flags_eq]
      rfl
  · rintro ⟨⟨size, owner, permissions, times, extended⟩, rfl, rfl⟩
    obtain ⟨known, size_bit, owner_bit, permissions_bit, times_bit, extended_bit⟩ :=
      tests_flagsWord size.isSome owner.isSome permissions.isSome times.isSome extended.isSome
    refine ⟨_, _, _, rfl, ⟨not_not.mpr known, size, _, _, ⟨size_bit.symm, rfl⟩,
      ⟨owner, _, _, ⟨owner_bit.symm, rfl⟩, ⟨permissions, _, _, ⟨permissions_bit.symm, rfl⟩,
        ⟨times, _, _, ⟨times_bit.symm, rfl⟩, ⟨extended.map fun full =>
          full.1.map fun blobs => (blobs.1.1, blobs.2.1), ?_, rfl⟩, rfl⟩, rfl⟩, rfl⟩, rfl⟩, rfl⟩
    cases extended with
    | none => exact ⟨extended_bit, rfl⟩
    | some full => exact ⟨extended_bit, full, rfl, rfl⟩

theorem exact_parseName : Exact parseName fun entry word =>
    ∃ name : ListedName, name.encode = word ∧ name.view = entry := by
  refine (exact_bind exact_string fun filename => exact_bind exact_bytes fun _ =>
    exact_map exact_parseAttrs (NameEntry.mk filename)).congr fun entry word => ?_
  constructor
  · rintro ⟨filename, _, _, ⟨name_small, rfl⟩, ⟨longname, _, _, ⟨long_small, rfl⟩,
      ⟨_, ⟨block, rfl, rfl⟩, rfl⟩, rfl⟩, rfl⟩
    exact ⟨⟨⟨filename, name_small⟩, ⟨longname, long_small⟩, block⟩, rfl, rfl⟩
  · rintro ⟨⟨filename, longname, block⟩, rfl, rfl⟩
    exact ⟨filename.1, _, _, ⟨filename.2, rfl⟩, ⟨longname.1, _, _, ⟨longname.2, rfl⟩,
      ⟨_, ⟨block, rfl, rfl⟩, rfl⟩, rfl⟩, rfl⟩

theorem exact_parseStatus : Exact parseStatusFrom fun status word =>
    ∃ message : StatusMessage, message.encode = word ∧ message.status = status := by
  refine (exact_bind exact_u32 fun status => exact_map exact_blobs fun _ => status).congr
    fun status word => ?_
  constructor
  · rintro ⟨_, _, _, rfl, ⟨_, ⟨texts, rfl, rfl⟩, rfl⟩, rfl⟩
    exact ⟨⟨status, texts⟩, rfl, rfl⟩
  · rintro ⟨⟨status, texts⟩, rfl, rfl⟩
    exact ⟨status, _, _, rfl, ⟨_, ⟨texts, rfl, rfl⟩, rfl⟩, rfl⟩

theorem parseStatus_eq_ok_iff {status : UInt32} :
    parseStatus payload = .ok status ↔
      ∃ message : StatusMessage, message.encode = payload ∧ message.status = status :=
  whole_eq_ok_iff protocolError exact_parseStatus

theorem parseData_eq_ok_iff {payload data : Bytes} :
    parseData payload = .ok data ↔ data.length < 2 ^ 32 ∧ encodeBytes data = payload :=
  whole_eq_ok_iff protocolError exact_bytes

theorem parseNames_eq_ok_iff {names : List NameEntry} :
    parseNames payload = .ok names ↔
      ∃ full : NameList, encodeNames full = payload ∧ full.1.map ListedName.view = names := by
  refine (whole_eq_ok_iff protocolError
    (exact_counted exact_parseName (by decide))).trans ?_
  constructor
  · rintro ⟨full, within, rfl, rfl⟩
    exact ⟨⟨full, within⟩, rfl, rfl⟩
  · rintro ⟨full, rfl, rfl⟩
    exact ⟨full.1, full.2, rfl, rfl⟩

theorem parseHandle_eq_ok_iff {handle : Bytes} :
    parseHandle payload = .ok handle ↔
      ∃ full : Handle, encodeBytes full = payload ∧ full.1 = handle := by
  have read := @parseData_eq_ok_iff payload
  unfold parseHandle
  unfold parseData at read
  cases found : Reader.whole protocolError Cursor.bytes payload with
  | error reason =>
    refine ⟨nofun, ?_⟩
    rintro ⟨full, encoded, rfl⟩
    rw [read.mpr ⟨Nat.lt_of_le_of_lt full.2.2 (by decide), encoded⟩] at found
    cases found
  | ok bytes =>
    obtain ⟨small, encoded⟩ := read.mp found
    have refused : (bytes.isEmpty || decide (bytes.length > 256)) = true ↔
        ¬(bytes ≠ [] ∧ bytes.length ≤ 256) := by
      rw [Bool.or_eq_true, List.isEmpty_iff, decide_eq_true_eq, not_and_or, not_not, not_le]
    change (if (bytes.isEmpty || decide (bytes.length > 256)) = true then
      Except.error protocolError else Except.ok bytes) = .ok handle ↔ _
    by_cases bad : (bytes.isEmpty || decide (bytes.length > 256)) = true
    · rw [if_pos bad]
      refine ⟨nofun, ?_⟩
      rintro ⟨full, also, rfl⟩
      have same := read.mpr ⟨Nat.lt_of_le_of_lt full.2.2 (by decide), also⟩
      rw [found] at same
      obtain rfl := Except.ok.inj same
      exact absurd full.2 (refused.mp bad)
    · rw [if_neg bad]
      have fits := not_not.mp (mt refused.mpr bad)
      constructor
      · intro same
        exact ⟨⟨bytes, fits⟩, encoded, Except.ok.inj same⟩
      · rintro ⟨full, also, rfl⟩
        have same := read.mpr ⟨Nat.lt_of_le_of_lt full.2.2 (by decide), also⟩
        rw [found] at same
        exact same

/-- Each parser accepts exactly the encodings of values within its bounds, and returns the part of
the value that the client keeps. -/
theorem parsers_invert_encoding (payload : Bytes) :
    (∀ names, parseNames payload = .ok names ↔
      ∃ full : NameList, encodeNames full = payload ∧ full.1.map ListedName.view = names) ∧
    (∀ attrs, parseAttrsReply payload = .ok attrs ↔
      ∃ block : AttributeBlock, block.encode = payload ∧ block.view = attrs) ∧
    (∀ status, parseStatus payload = .ok status ↔
      ∃ message : StatusMessage, message.encode = payload ∧ message.status = status) ∧
    (∀ handle, parseHandle payload = .ok handle ↔
      ∃ full : Handle, encodeBytes full = payload ∧ full.1 = handle) :=
  ⟨fun _ => parseNames_eq_ok_iff, fun _ => whole_eq_ok_iff protocolError exact_parseAttrs,
    fun _ => parseStatus_eq_ok_iff, fun _ => parseHandle_eq_ok_iff⟩

end Reading

end JwOps.Sftp.Packets
