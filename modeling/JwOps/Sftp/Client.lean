/- module: Sftp/Client
   source: jw-agentd sftp_protocol.rs, the requests of the client, read_handle and write_handle
   digest: A file that is written in chunks or offered in pieces comes back byte for byte. -/
import JwOps.Foundation.Program
import JwOps.Sftp.Packets

set_option autoImplicit false

namespace JwOps.Sftp.Client

open Contracts Foundation.Program Operation Digest Packets

variable {left : Nat}

/-! ### Requests and replies -/

/-- A packet as `response` hands it on, without the request id. -/
structure Packet where
  kind : UInt8
  payload : Bytes
  deriving DecidableEq, Repr

def fxpStatus : UInt8 := 101
def fxpHandle : UInt8 := 102
def fxpData : UInt8 := 103
def fxpName : UInt8 := 104
def fxpAttrs : UInt8 := 105

def fxOk : UInt32 := 0
def fxEof : UInt32 := 1
def fxNoSuchFile : UInt32 := 2
def fxPermissionDenied : UInt32 := 3
def fxBadMessage : UInt32 := 5
def fxOpUnsupported : UInt32 := 8

def packetMaxBytes : Nat := 256 * 1024

def readChunkBytes : Nat := 32 * 1024

inductive Request where
  | realpath (path : String)
  | stat (path : String)
  | lstat (path : String)
  | opendir (path : String)
  | readdir (handle : Bytes)
  | openRead (path : String)
  | openWriteExclusive (path : String) (permissions : UInt32)
  | read (handle : Bytes) (offset : Nat)
  | write (handle : Bytes) (offset : Nat) (data : Bytes)
  | fsync (handle : Bytes)
  | close (handle : Bytes)
  | posixRename (source target : String)
  | remove (path : String)
  deriving DecidableEq, Repr

def pushString (text : String) : Bytes := encodeBytes (utf8Bytes text)

/-- The payload behind the request id. -/
def Request.body : Request → Bytes
  | .realpath path | .stat path | .lstat path | .opendir path | .remove path => pushString path
  | .readdir handle | .close handle => encodeBytes handle
  | .openRead path => pushString path ++ be32 0x00000001 ++ be32 0
  | .openWriteExclusive path permissions =>
    pushString path ++ be32 (0x00000002 ||| 0x00000008 ||| 0x00000020) ++ be32 attrPermissions ++
      be32 (permissions &&& 0o777)
  | .read handle offset =>
    encodeBytes handle ++ be64 (UInt64.ofNat offset) ++ be32 (UInt32.ofNat readChunkBytes)
  | .write handle offset data =>
    encodeBytes handle ++ be64 (UInt64.ofNat offset) ++ encodeBytes data
  | .fsync handle => pushString "fsync@openssh.com" ++ encodeBytes handle
  | .posixRename source target =>
    pushString "posix-rename@openssh.com" ++ pushString source ++ pushString target

/-- A failed answer stands for what `send_packet`, `read_packet` and the comparison of the ids
report. -/
abbrev Exchange := Prog Request fun _ => Except String Packet

def exchange (request : Request) : Exchange (Except String Packet) :=
  if packetMaxBytes < request.body.length + 5 then .ret (.error "sftp_packet_too_large")
  else issue request

/-- The state is the number of request ids that are left below `u32::MAX`. -/
abbrev Protocol := ExceptT String (StateT Nat Exchange)

def requestIdExhausted : String := "sftp_request_id_exhausted"

def request (sent : Request) : Protocol Packet := fun left =>
  match left with
  | 0 => .ret (.error requestIdExhausted, 0)
  | left + 1 => do
    let answer ← exchange sent
    pure (answer, left)

/-- A loop of requests: each reply ends it, or gives the state of the next round. -/
def converse {σ α : Type} (ask : σ → Request) (take : σ → Packet → Except String (σ ⊕ α)) :
    Nat → σ → Exchange (Except String α × Nat)
  | 0, _ => .ret (.error requestIdExhausted, 0)
  | left + 1, state => do
    let answer ← exchange (ask state)
    match answer.bind (take state) with
    | .error reason => .ret (.error reason, left)
    | .ok (.inl next) => converse ask take left next
    | .ok (.inr result) => .ret (.ok result, left)

def statusError (status : UInt32) : String :=
  if status = fxNoSuchFile then "not_found"
  else if status = fxPermissionDenied then "permission_denied"
  else if status = fxBadMessage then "sftp_bad_message"
  else if status = fxOpUnsupported then "sftp_operation_unsupported"
  else "sftp_failure"

/-! ### Reading and writing an open file -/

/-- One round of `read_handle`: the offset and the bytes so far. -/
def takeRead (maxBytes : Nat) (tooLarge : String) (state : Nat × Bytes) (packet : Packet) :
    Except String ((Nat × Bytes) ⊕ Bytes) :=
  if packet.kind = fxpData then do
    let data ← parseData packet.payload
    if data.isEmpty then throw protocolError
    if 2 ^ 64 ≤ state.1 + data.length then throw "size_overflow"
    if maxBytes < state.1 + data.length then throw tooLarge
    pure (.inl (state.1 + data.length, state.2 ++ data))
  else if packet.kind = fxpStatus then do
    let status ← parseStatus packet.payload
    if status = fxEof then pure (.inr state.2) else throw (statusError status)
  else throw protocolError

def readHandle (handle : Bytes) (maxBytes : Nat) (tooLarge : String) : Protocol Bytes := fun left =>
  converse (fun state => .read handle state.1) (takeRead maxBytes tooLarge) left (0, [])

def requireOkStatus (fallback : String) (packet : Packet) : Except String Unit := do
  if packet.kind ≠ fxpStatus then throw protocolError
  let status ← parseStatus packet.payload
  if status = fxOk then pure ()
  else if status = fxOpUnsupported then throw "sftp_write_extension_unavailable"
  else if statusError status = "sftp_failure" then throw fallback
  else throw (statusError status)

/-- The chunks of `write_handle` from an offset on. -/
def writeFrom (handle : Bytes) (offset : Nat) (bytes : Bytes) : Protocol Unit :=
  if bytes = [] then pure ()
  else do
    let packet ← request (.write handle offset (bytes.take readChunkBytes))
    liftExcept (requireOkStatus "sftp_write_failed" packet)
    let next := offset + (bytes.take readChunkBytes).length
    if 2 ^ 64 ≤ next then throw "size_overflow"
    writeFrom handle next (bytes.drop readChunkBytes)
termination_by bytes.length
decreasing_by
  rename_i more
  have some_left : 0 < bytes.length := List.length_pos_of_ne_nil more
  have chunk_pos : 0 < readChunkBytes := by decide
  rw [List.length_drop]
  omega

def writeHandle (handle : Bytes) (bytes : Bytes) : Protocol Unit := writeFrom handle 0 bytes

/-! ### Rounds of a run -/

section Rounds

variable {W α β σ : Type} {handler : W → (request : Request) → Except String Packet × W}

theorem runWith_exchange {sent : Request} (fits : sent.body.length + 5 ≤ packetMaxBytes)
    (world : W) : runWith handler (exchange sent) world = handler world sent := by
  rw [exchange, if_neg (Nat.not_lt.mpr fits)]
  rfl

theorem runWith_converse (ask : σ → Request) (take : σ → Packet → Except String (σ ⊕ α))
    (state : σ) (fits : (ask state).body.length + 5 ≤ packetMaxBytes) {world : W} :
    runWith handler (converse ask take (left + 1) state) world =
      match (handler world (ask state)).1.bind (take state) with
      | .error reason => ((.error reason, left), (handler world (ask state)).2)
      | .ok (.inl next) =>
        runWith handler (converse ask take left next) (handler world (ask state)).2
      | .ok (.inr result) => ((.ok result, left), (handler world (ask state)).2) := by
  rw [converse, runWith_bind, runWith_exchange fits]
  generalize (handler world (ask state)).1.bind (take state) = taken
  rcases taken with reason | next | result <;> rfl

theorem runWith_request {sent : Request} (fits : sent.body.length + 5 ≤ packetMaxBytes)
    {world : W} :
    runWith handler (request sent (left + 1)) world =
      (((handler world sent).1, left), (handler world sent).2) := by
  refine (runWith_bind (exchange sent) _ world).trans ?_
  rw [runWith_exchange fits]
  rfl

/-- What follows a call that succeeds. -/
theorem runWith_protocol {first : Protocol α} {left rest : Nat} {world after : W} {value : α}
    (ran : runWith handler (first left) world = ((.ok value, rest), after))
    (next : α → Protocol β) :
    runWith handler ((first >>= next) left) world = runWith handler (next value rest) after := by
  refine (runWith_bind (first left) _ world).trans ?_
  rw [ran]
  rfl

end Rounds

theorem length_encodeBytes (value : Bytes) : (encodeBytes value).length = 4 + value.length := by
  rw [encodeBytes, List.length_append, be32, Foundation.length_toBigEndian]

theorem read_fits {handle : Handle} {offset : Nat} :
    (Request.read handle.1 offset).body.length + 5 ≤ packetMaxBytes := by
  have small := handle.2.2
  rw [Request.body, List.length_append, List.length_append, length_encodeBytes, be64, be32,
    Foundation.length_toBigEndian, Foundation.length_toBigEndian, packetMaxBytes]
  omega

theorem write_fits {handle : Handle} {offset : Nat} {bytes : Bytes} :
    (Request.write handle.1 offset (bytes.take readChunkBytes)).body.length + 5 ≤
      packetMaxBytes := by
  have small := handle.2.2
  have chunk := List.length_take_le readChunkBytes bytes
  rw [Request.body, List.length_append, List.length_append, length_encodeBytes,
    length_encodeBytes, be64, Foundation.length_toBigEndian, packetMaxBytes]
  rw [readChunkBytes] at chunk ⊢
  omega

/-! ### A server with one file -/

/-- The file of a server and the number of requests so far. -/
structure Served where
  content : Bytes
  requests : Nat

def statusPacket (texts : Blob × Blob) (status : UInt32) : Packet :=
  ⟨fxpStatus, StatusMessage.encode ⟨status, texts⟩⟩

/-- What a server may give for a request: at least one byte, at most the length asked for. -/
def pieceSize (wanted : Nat) : Nat := max 1 (min readChunkBytes wanted)

def overwrite (content : Bytes) (offset : Nat) (data : Bytes) : Bytes :=
  content.take offset ++ List.replicate (offset - content.length) 0 ++ data ++
    content.drop (offset + data.length)

/-- Reads are answered with a piece of the rest, of a size that the server chooses for each
request, and writes are applied at their offset. -/
def fileServer (texts : Blob × Blob) (sizes : Nat → Nat) (served : Served) :
    Request → Except String Packet × Served
  | .read _ offset =>
    let rest := served.content.drop offset
    (.ok (if rest = [] then statusPacket texts fxEof
      else ⟨fxpData, encodeBytes (rest.take (pieceSize (sizes served.requests)))⟩),
      ⟨served.content, served.requests + 1⟩)
  | .write _ offset data =>
    (.ok (statusPacket texts fxOk), ⟨overwrite served.content offset data, served.requests + 1⟩)
  | _ => (.error "sftp_read_failed", served)

theorem takeRead_eof (limit : Nat) (tooLarge : String) (state : Nat × Bytes)
    (texts : Blob × Blob) :
    takeRead limit tooLarge state (statusPacket texts fxEof) = .ok (.inr state.2) := by
  have parsed : parseStatus (StatusMessage.encode ⟨fxEof, texts⟩) = .ok fxEof :=
    parseStatus_eq_ok_iff.mpr ⟨_, rfl, rfl⟩
  unfold takeRead statusPacket
  rw [if_neg (show fxpStatus ≠ fxpData by decide), if_pos rfl, parsed]
  rfl

theorem takeRead_data (limit : Nat) (tooLarge : String) (offset : Nat) (bytes data : Bytes)
    (some_data : data ≠ []) (small : offset + data.length < 2 ^ 64)
    (short : data.length ≤ readChunkBytes) :
    takeRead limit tooLarge (offset, bytes) ⟨fxpData, encodeBytes data⟩ =
      if limit < offset + data.length then .error tooLarge
      else .ok (.inl (offset + data.length, bytes ++ data)) := by
  have parsed : parseData (encodeBytes data) = .ok data := by
    refine parseData_eq_ok_iff.mpr ⟨?_, rfl⟩
    rw [readChunkBytes] at short
    omega
  unfold takeRead
  rw [if_pos rfl]
  simp only [parsed]
  simp only [bind, Except.bind, List.isEmpty_iff, some_data, if_false, Nat.not_le.mpr small]
  split <;> rfl

section Transfer

variable (texts : Blob × Blob) (sizes : Nat → Nat) (handle : Handle) {limit : Nat}
  (tooLarge : String)

/-- The reading loop from an offset on. -/
def readRest (limit : Nat) (left offset : Nat) (served : Served) :
    (Except String Bytes × Nat) × Served :=
  runWith (fileServer texts sizes) (converse (fun state => .read handle.1 state.1)
    (takeRead limit tooLarge) left (offset, served.content.take offset)) served

/-- One round before the end of the file. -/
theorem readRest_piece (room : limit + readChunkBytes < 2 ^ 64) {offset : Nat}
    (begun : offset ≤ limit) (left : Nat) (served : Served)
    (inside : offset < served.content.length) :
    ∃ next, offset < next ∧ next ≤ served.content.length ∧
      readRest texts sizes handle tooLarge limit (left + 1) offset served =
        if limit < next then ((.error tooLarge, left), ⟨served.content, served.requests + 1⟩)
        else readRest texts sizes handle tooLarge limit left next
          ⟨served.content, served.requests + 1⟩ := by
  have more : served.content.drop offset ≠ [] := by
    rw [Ne, List.drop_eq_nil_iff]
    omega
  have counted := @List.length_take _ (pieceSize (sizes served.requests))
    (served.content.drop offset)
  have sized : 1 ≤ pieceSize (sizes served.requests) ∧
      pieceSize (sizes served.requests) ≤ readChunkBytes := by
    unfold pieceSize readChunkBytes
    omega
  generalize piece : (served.content.drop offset).take (pieceSize (sizes served.requests)) = data
    at counted
  rw [List.length_drop] at counted
  have taken : served.content.take offset ++ data = served.content.take (offset + data.length) := by
    rw [List.take_add, counted, ← List.length_drop, ← List.take_eq_take_min, piece]
  refine ⟨offset + data.length, by omega, by omega, ?_⟩
  have some_data : data ≠ [] := by
    rintro rfl
    rw [List.length_nil] at counted
    omega
  unfold readRest
  refine (runWith_converse _ _ (offset, served.content.take offset)
    read_fits).trans ?_
  simp only [fileServer, if_neg more, piece, Except.bind]
  rw [takeRead_data _ _ _ _ _ some_data (by omega) (by omega), taken]
  by_cases past : limit < offset + data.length
  · rw [if_pos past, if_pos past]
  · rw [if_neg past, if_neg past]

theorem readRest_end {content : Bytes} {requests : Nat} :
    readRest texts sizes handle tooLarge limit (left + 1) content.length ⟨content, requests⟩ =
      ((.ok content, left), ⟨content, requests + 1⟩) := by
  unfold readRest
  refine (runWith_converse _ _ (content.length, content.take content.length)
    read_fits).trans ?_
  simp only [fileServer, List.drop_length, if_true, Except.bind, takeRead_eof, List.take_length]

/-- A file within the limit is read to its end, with at most one request for each byte. -/
theorem readRest_all (room : limit + readChunkBytes < 2 ^ 64) {content : Bytes}
    (within : content.length ≤ limit) (left : Nat) :
    ∀ offset requests, offset ≤ content.length → content.length - offset < left →
      ∃ count, count ≤ content.length - offset + 1 ∧
        readRest texts sizes handle tooLarge limit left offset ⟨content, requests⟩ =
          ((.ok content, left - count), ⟨content, requests + count⟩) := by
  induction left with
  | zero =>
    intro offset requests inside enough
    omega
  | succ left ih =>
    intro offset requests inside enough
    rcases Nat.eq_or_lt_of_le inside with rfl | before
    · exact ⟨1, by omega, readRest_end texts sizes handle tooLarge⟩
    · obtain ⟨next, further, bounded, round⟩ := readRest_piece texts sizes handle tooLarge room
        (by omega) left ⟨content, requests⟩ before
      have bounded : next ≤ content.length := bounded
      rw [if_neg (by omega)] at round
      obtain ⟨count, few, rest⟩ := ih next (requests + 1) bounded (by omega)
      refine ⟨count + 1, by omega, ?_⟩
      rw [round, rest, Nat.add_sub_add_right, Nat.add_right_comm, Nat.add_assoc]

theorem readRest_too_large (room : limit + readChunkBytes < 2 ^ 64) {content : Bytes}
    (longer : limit < content.length) :
    ∀ offset requests, offset ≤ limit → limit - offset < left →
      (readRest texts sizes handle tooLarge limit left offset ⟨content, requests⟩).1.1 =
        .error tooLarge := by
  induction left with
  | zero =>
    intro offset requests inside enough
    omega
  | succ left ih =>
    intro offset requests inside enough
    obtain ⟨next, further, _, round⟩ := readRest_piece texts sizes handle tooLarge room inside
      left ⟨content, requests⟩ (Nat.lt_of_le_of_lt inside longer)
    rw [round]
    by_cases past : limit < next
    · rw [if_pos past]
    · rw [if_neg past]
      exact ih next (requests + 1) (by omega) (by omega)

theorem overwrite_end (content data : Bytes) :
    overwrite content content.length data = content ++ data := by
  simp [overwrite]

theorem requireOkStatus_ok (fallback : String) :
    requireOkStatus fallback (statusPacket texts fxOk) = .ok () := by
  have parsed : parseStatus (StatusMessage.encode ⟨fxOk, texts⟩) = .ok fxOk :=
    parseStatus_eq_ok_iff.mpr ⟨_, rfl, rfl⟩
  unfold requireOkStatus statusPacket
  simp only [parsed]
  rfl

/-- The chunks are appended one after the other. -/
theorem writeFrom_appends (offset : Nat) (bytes : Bytes) : ∀ (left requests : Nat)
    (content : Bytes), content.length = offset → offset + bytes.length < 2 ^ 64 →
    bytes.length ≤ left → ∃ count, count ≤ bytes.length ∧
      runWith (fileServer texts sizes) (writeFrom handle.1 offset bytes left)
        ⟨content, requests⟩ = ((.ok (), left - count), ⟨content ++ bytes, requests + count⟩) := by
  induction offset, bytes using writeFrom.induct with
  | case1 offset =>
    intro left requests content _ _ _
    refine ⟨0, Nat.le_refl _, ?_⟩
    rw [writeFrom, if_pos rfl, List.append_nil]
    rfl
  | case2 offset bytes more ih =>
    intro left requests content ended small enough
    have some_bytes : 0 < bytes.length := List.length_pos_of_ne_nil more
    have chunk_pos : 0 < readChunkBytes := by decide
    have counted := @List.length_take _ readChunkBytes bytes
    have rest := @List.length_drop _ readChunkBytes bytes
    obtain ⟨left, rfl⟩ : ∃ less, left = less + 1 := ⟨left - 1, by omega⟩
    obtain ⟨count, few, run⟩ := ih left (requests + 1) (content ++ bytes.take readChunkBytes)
      (by rw [List.length_append, ended]) (by omega) (by omega)
    refine ⟨count + 1, by omega, ?_⟩
    rw [writeFrom, if_neg more]
    refine (runWith_protocol (runWith_request write_fits) _).trans ?_
    have unfull : ¬2 ^ 64 ≤ offset + (bytes.take readChunkBytes).length := by omega
    simp only [requireOkStatus_ok, liftExcept, pure_bind, if_neg unfull, fileServer]
    rw [← ended, overwrite_end, ended, run, List.append_assoc, List.take_append_drop,
      Nat.add_sub_add_right, Nat.add_right_comm, Nat.add_assoc]

/-- While request ids are left, a file within the limit is read as it is, a longer one is too
large, and what was written into an empty file is read back. -/
theorem transfer_round_trip (room : limit + readChunkBytes < 2 ^ 64) (left : Nat) :
    (∀ content : Bytes, content.length ≤ limit → content.length < left →
      ∃ count, count ≤ content.length + 1 ∧
        runWith (fileServer texts sizes) (readHandle handle.1 limit tooLarge left) ⟨content, 0⟩ =
          ((.ok content, left - count), ⟨content, count⟩)) ∧
    (∀ content : Bytes, limit < content.length → limit < left →
      (runWith (fileServer texts sizes) (readHandle handle.1 limit tooLarge left)
        ⟨content, 0⟩).1.1 = .error tooLarge) ∧
    ∀ bytes : Bytes, bytes.length ≤ limit → 2 * bytes.length < left →
      (runWith (fileServer texts sizes) ((do
        writeHandle handle.1 bytes
        readHandle handle.1 limit tooLarge) left) ⟨[], 0⟩).1.1 = .ok bytes := by
  refine ⟨fun content within enough => ?_, fun content longer enough => ?_,
    fun bytes within enough => ?_⟩
  · obtain ⟨count, few, run⟩ := readRest_all texts sizes handle tooLarge room within left 0 0
      (Nat.zero_le _) enough
    exact ⟨count, few, run.trans (by rw [Nat.zero_add])⟩
  · exact readRest_too_large texts sizes handle tooLarge room longer 0 0 (Nat.zero_le _)
      enough
  · obtain ⟨written, few, write⟩ := writeFrom_appends texts sizes handle 0 bytes left 0 [] rfl
      (by omega) (by omega)
    obtain ⟨count, _, read⟩ := readRest_all texts sizes handle tooLarge room within
      (left - written) 0 (0 + written) (Nat.zero_le _) (by omega)
    rw [writeHandle, runWith_protocol write]
    exact congrArg (fun outcome => outcome.1.1) read

end Transfer

def sampleHandle : Handle := ⟨[1], by decide⟩

theorem two_bytes_round_trip :
    (runWith (fileServer (⟨[], by decide⟩, ⟨[], by decide⟩) fun _ => 1) ((do
      writeHandle sampleHandle.1 [7, 8]
      readHandle sampleHandle.1 2 "too_large") 5) ⟨[], 0⟩).1.1 = .ok [7, 8] :=
  (transfer_round_trip _ _ sampleHandle "too_large" (by decide) 5).2.2 [7, 8] (by decide)
    (by decide)

/-- A client without a request id left cannot read an empty file. -/
theorem no_id_left_to_read :
    (runWith (fileServer (⟨[], by decide⟩, ⟨[], by decide⟩) fun _ => 1)
      (readHandle sampleHandle.1 2 "too_large" 0) ⟨[], 0⟩).1.1 =
        .error "sftp_request_id_exhausted" :=
  rfl

end JwOps.Sftp.Client
