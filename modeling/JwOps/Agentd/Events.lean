/- module: Agentd/Events
   source: jw-agentd api.rs, the event stream of an operation and its resumption
   digest: What a client receives over any number of connections is the stage list without gaps. -/
import Mathlib.Data.List.Infix
import JwOps.Ledger.Reads

set_option autoImplicit false

namespace JwOps.Agentd.Events

open Ledger.Reads

/-! ### The stream of one connection -/

/-- Server-sent events. Only stage events carry an id. -/
inductive Event where
  | operationStage (id : List Char) (data : String)
  | operationError (data : String)
  deriving DecidableEq, Repr

/-- The stream without the operation it asks for and its timers. -/
structure OperationEventStream where
  lastSequence : Nat
  queue : List Event
  pending : Bool
  closeAfterQueue : Bool
  deriving DecidableEq, Repr

namespace OperationEventStream

def new (lastSequence : Nat) : OperationEventStream := ⟨lastSequence, [], false, false⟩

def pushError (stream : OperationEventStream) (code : String) : OperationEventStream :=
  { stream with
    queue := stream.queue ++ [.operationError ("\x7b\"code\":\"" ++ code ++ "\"\x7d")]
    closeAfterQueue := true }

end OperationEventStream

/-- What the futures that the stream polls answer at one turn of its loop. -/
inductive Broker where
  | pending
  | failed
  | ready (receipt : OperationReceiptView)

structure Answers where
  elapsed : Bool
  broker : Broker
  delayed : Bool

inductive Turn where
  | again
  | pending
  | item (event : Event)
  | done
  deriving DecidableEq, Repr

section Stream

variable (toJson : OperationStageEvidenceView → Option String)

def pushStage (stream : OperationEventStream) (stage : OperationStageEvidenceView) :
    OperationEventStream :=
  match toJson stage with
  | some data =>
    { stream with
      queue := stream.queue ++ [.operationStage (Nat.toDigits 10 stage.sequence) data] }
  | none => stream.pushError "event_serialization_failed"

def recordStage (stream : OperationEventStream) (stage : OperationStageEvidenceView) :
    OperationEventStream :=
  if stage.sequence ≤ stream.lastSequence then stream
  else
    pushStage toJson { stream with lastSequence := max stream.lastSequence stage.sequence } stage

def recordReceipt (stream : OperationEventStream) (receipt : OperationReceiptView) :
    OperationEventStream :=
  let recorded := receipt.stages.foldl (recordStage toJson) stream
  if receipt.terminalState.isTerminal then { recorded with closeAfterQueue := true }
  else recorded

/-- One turn of the loop in `poll_next`. -/
def pollNext (stream : OperationEventStream) (answers : Answers) : OperationEventStream × Turn :=
  match stream.queue with
  | event :: queue => ({ stream with queue := queue }, .item event)
  | [] =>
    if stream.closeAfterQueue then (stream, .done)
    else if answers.elapsed then (stream.pushError "event_stream_window_elapsed", .again)
    else if stream.pending then
      match answers.broker with
      | .pending => (stream, .pending)
      | .ready receipt => (recordReceipt toJson { stream with pending := false } receipt, .again)
      | .failed =>
        ({ stream with pending := false }.pushError "operation_receipt_unavailable", .again)
    else if answers.delayed then ({ stream with pending := true }, .again)
    else (stream, .pending)

end Stream

/-- `str::parse::<u64>`. -/
def parseU64 (text : List Char) : Option Nat :=
  let digits := match text with
    | '+' :: rest => rest
    | _ => text
  if digits.isEmpty || !digits.all Char.isDigit then none
  else
    let number := Nat.ofDigitChars 10 digits 0
    if number < 2 ^ 64 then some number else none

/-- `HeaderValue::to_str`: visible ASCII only. -/
def isHeaderText (text : List Char) : Bool :=
  text.all fun c => c == '\t' || (32 ≤ c.toNat && c.toNat < 127)

def lastEventSequence (header : Option (List Char)) : Except String Nat :=
  match header with
  | none => .ok 0
  | some text =>
    if !isHeaderText text then .error "last_event_id"
    else
      match parseU64 text with
      | some number => .ok number
      | none => .error "last_event_id"

/-! ### A client that reconnects -/

/-- The ids and texts of the stage events in a list. -/
def stageEvents (events : List Event) : List (List Char × String) :=
  events.filterMap fun event =>
    match event with
    | .operationStage id data => some (id, data)
    | .operationError _ => none

/-- What the client has received over all connections, and the open one. -/
structure Client where
  received : List Event
  connection : Option OperationEventStream

def Client.lastEventId (client : Client) : Option (List Char) :=
  (stageEvents client.received).getLast?.map Prod.fst

inductive Action where
  | connect
  | poll (answers : Answers)
  | cut

section Run

variable (toJson : OperationStageEvidenceView → Option String)

def Client.step (client : Client) (action : Action) : Client :=
  match action with
  | .connect =>
    match lastEventSequence client.lastEventId with
    | .ok lastSequence => { client with connection := some (.new lastSequence) }
    | .error _ => { client with connection := none }
  | .cut => { client with connection := none }
  | .poll answers =>
    match client.connection with
    | none => client
    | some stream =>
      match pollNext toJson stream answers with
      | (next, .item event) => ⟨client.received ++ [event], some next⟩
      | (_, .done) => { client with connection := none }
      | (next, _) => { client with connection := some next }

def run (actions : List Action) : Client :=
  actions.foldl (Client.step toJson) ⟨[], none⟩

theorem run_append (first second : List Action) :
    run toJson (first ++ second) = second.foldl (Client.step toJson) (run toJson first) :=
  List.foldl_append

end Run

/-- Receipts over time: the stages grow at the end, with increasing `u64` numbers. -/
structure Grows (receipts : Nat → OperationReceiptView) : Prop where
  later : ∀ first second, first ≤ second → (receipts first).stages <+: (receipts second).stages
  increasing : ∀ time, (receipts time).stages.Pairwise (·.sequence < ·.sequence)
  fits : ∀ time, ∀ stage ∈ (receipts time).stages, stage.sequence < 2 ^ 64

/-- Receipts that the broker hands out come from the operation. -/
def Honest (receipts : Nat → OperationReceiptView) : Action → Prop
  | .poll ⟨_, .ready receipt, _⟩ => ∃ time, receipt = receipts time
  | _ => True

/-! ### Numbers and their texts -/

theorem parseU64_toDigits {number : Nat} (fits : number < 2 ^ 64) :
    parseU64 (Nat.toDigits 10 number) = some number := by
  have all_digits : ∀ c ∈ Nat.toDigits 10 number, c.isDigit = true :=
    fun c member => Nat.isDigit_of_mem_toDigits (by decide) (by decide) member
  have not_empty : Nat.toDigits 10 number ≠ [] := Nat.toDigits_ne_nil
  have unsigned : (match Nat.toDigits 10 number with
      | '+' :: rest => rest
      | _ => Nat.toDigits 10 number) = Nat.toDigits 10 number := by
    split
    · rename_i rest text_eq
      have plus := all_digits '+' (by rw [text_eq]; exact List.mem_cons_self)
      exact absurd plus (by decide)
    · rfl
  have digits_ok : ((Nat.toDigits 10 number).isEmpty ||
      !(Nat.toDigits 10 number).all Char.isDigit) = false := by
    rw [List.all_eq_true.mpr all_digits, List.isEmpty_eq_false_iff.mpr not_empty]
    rfl
  have value : Nat.ofDigitChars 10 (Nat.toDigits 10 number) 0 = number :=
    Nat.ofDigitChars_toDigits (by decide) (by decide)
  dsimp only [parseU64]
  rw [unsigned, digits_ok, value]
  exact if_pos fits

theorem isHeaderText_toDigits (number : Nat) : isHeaderText (Nat.toDigits 10 number) = true := by
  refine List.all_eq_true.mpr fun c member => ?_
  have digit := Nat.isDigit_of_mem_toDigits (by decide) (by decide) member
  have bounds : 48 ≤ c.toNat ∧ c.toNat ≤ 57 := Char.isDigit_iff_toNat.mp digit
  have low : decide (32 ≤ c.toNat) = true := decide_eq_true (by omega)
  have high : decide (c.toNat < 127) = true := decide_eq_true (by omega)
  rw [low, high, Bool.and_self, Bool.or_true]

theorem lastEventSequence_toDigits {number : Nat} (fits : number < 2 ^ 64) :
    lastEventSequence (some (Nat.toDigits 10 number)) = .ok number := by
  rw [lastEventSequence, isHeaderText_toDigits, parseU64_toDigits fits]
  rfl

/-! ### The cursor -/

/-- The number of the last stage seen, 0 before the first. -/
def lastOf (seen : List OperationStageEvidenceView) : Nat :=
  (seen.getLast?.map OperationStageEvidenceView.sequence).getD 0

theorem lastOf_append (seen fresh : List OperationStageEvidenceView) :
    lastOf (seen ++ fresh) =
      (fresh.getLast?.map OperationStageEvidenceView.sequence).getD (lastOf seen) := by
  unfold lastOf
  rw [List.getLast?_append]
  cases fresh.getLast? <;> rfl

theorem le_lastOf {seen : List OperationStageEvidenceView}
    (increasing : seen.Pairwise (·.sequence < ·.sequence)) {stage : OperationStageEvidenceView}
    (member : stage ∈ seen) : stage.sequence ≤ lastOf seen := by
  obtain rfl | ⟨init, last, rfl⟩ := List.eq_nil_or_concat' seen
  · cases member
  · rw [lastOf_append]
    change stage.sequence ≤ last.sequence
    rcases List.mem_append.mp member with earlier | same
    · exact Nat.le_of_lt ((List.pairwise_append.mp increasing).2.2 stage earlier last
        (List.mem_singleton_self last))
    · rw [List.mem_singleton.mp same]

theorem lastOf_lt {seen fresh : List OperationStageEvidenceView}
    (increasing : (seen ++ fresh).Pairwise (·.sequence < ·.sequence))
    (numbered : ∀ stage ∈ fresh, 0 < stage.sequence) {stage : OperationStageEvidenceView}
    (member : stage ∈ fresh) : lastOf seen < stage.sequence := by
  obtain rfl | ⟨init, last, rfl⟩ := List.eq_nil_or_concat' seen
  · exact numbered stage member
  · rw [lastOf_append]
    exact (List.pairwise_append.mp increasing).2.2 last
      (List.mem_append_right init (List.mem_singleton_self last)) stage member

section Recording

variable {toJson : OperationStageEvidenceView → Option String}

variable (toJson) in
/-- The id and text of a stage's event. -/
def stageData (stage : OperationStageEvidenceView) : List Char × String :=
  (Nat.toDigits 10 stage.sequence, (toJson stage).getD "")

@[simp] theorem stageEvents_append (first second : List Event) :
    stageEvents (first ++ second) = stageEvents first ++ stageEvents second :=
  List.filterMap_append

@[simp] theorem stageEvents_pushError {stream : OperationEventStream} {code : String} :
    stageEvents (stream.pushError code).queue = stageEvents stream.queue := by
  simp [OperationEventStream.pushError, stageEvents]

theorem foldl_recordStage_seen {seen : List OperationStageEvidenceView}
    {stream : OperationEventStream} (known : ∀ stage ∈ seen, stage.sequence ≤ stream.lastSequence) :
    seen.foldl (recordStage toJson) stream = stream := by
  induction seen with
  | nil => rfl
  | cons stage rest ih =>
    have skipped : recordStage toJson stream stage = stream :=
      if_pos (known stage List.mem_cons_self)
    rw [List.foldl_cons, skipped]
    exact ih fun other member => known other (List.mem_cons_of_mem stage member)

/-- Stages above the cursor are queued in their order, and the cursor ends at the last of them. -/
theorem foldl_recordStage_fresh (serializes : ∀ stage, (toJson stage).isSome)
    {fresh : List OperationStageEvidenceView} {stream : OperationEventStream}
    (increasing : fresh.Pairwise (·.sequence < ·.sequence))
    (above : ∀ stage ∈ fresh, stream.lastSequence < stage.sequence) :
    stageEvents (fresh.foldl (recordStage toJson) stream).queue =
        stageEvents stream.queue ++ fresh.map (stageData toJson) ∧
      (fresh.foldl (recordStage toJson) stream).lastSequence =
        (fresh.getLast?.map OperationStageEvidenceView.sequence).getD stream.lastSequence := by
  induction fresh generalizing stream with
  | nil => exact ⟨(List.append_nil _).symm, rfl⟩
  | cons stage rest ih =>
    obtain ⟨data, data_eq⟩ := Option.isSome_iff_exists.mp (serializes stage)
    have stage_above := above stage List.mem_cons_self
    have recorded : recordStage toJson stream stage =
        { stream with
          lastSequence := stage.sequence
          queue := stream.queue ++ [.operationStage (Nat.toDigits 10 stage.sequence) data] } := by
      rw [recordStage, if_neg (Nat.not_le.mpr stage_above), pushStage, data_eq,
        Nat.max_eq_right (Nat.le_of_lt stage_above)]
    obtain ⟨stage_lt, rest_increasing⟩ := List.pairwise_cons.mp increasing
    rw [List.foldl_cons, recorded]
    obtain ⟨queue_eq, last_eq⟩ := @ih
      { stream with
        lastSequence := stage.sequence
        queue := stream.queue ++ [.operationStage (Nat.toDigits 10 stage.sequence) data] }
      rest_increasing stage_lt
    refine ⟨?_, ?_⟩
    · rw [queue_eq, stageEvents_append, List.map_cons, List.append_assoc]
      simp [stageEvents, stageData, data_eq]
    · rw [last_eq]
      cases rest with
      | nil => rfl
      | cons next rest => simp [List.getLast?_cons]

variable {receipts : Nat → OperationReceiptView}

theorem Grows.comparable (grows : Grows receipts) (first second : Nat) :
    (receipts first).stages <+: (receipts second).stages ∨
      (receipts second).stages <+: (receipts first).stages :=
  (Nat.le_total first second).imp (grows.later first second) (grows.later second first)

/-- Stages that the operation has had in this order from its beginning. -/
def Listed (receipts : Nat → OperationReceiptView)
    (seen : List OperationStageEvidenceView) : Prop :=
  ∃ time, seen <+: (receipts time).stages

theorem Listed.increasing {seen : List OperationStageEvidenceView} (grows : Grows receipts)
    (listed : Listed receipts seen) : seen.Pairwise (·.sequence < ·.sequence) := by
  obtain ⟨time, initial⟩ := listed
  exact (grows.increasing time).sublist initial.sublist

/-- A receipt lists what was seen and possibly more, or only a part of what was seen. -/
theorem Listed.receipt {seen : List OperationStageEvidenceView} (grows : Grows receipts)
    (listed : Listed receipts seen) (time : Nat) :
    seen <+: (receipts time).stages ∨ (receipts time).stages <+: seen := by
  obtain ⟨other, initial⟩ := listed
  rcases grows.comparable other time with earlier | later
  · exact .inl (initial.trans earlier)
  · exact List.prefix_or_prefix_of_prefix initial later

/-- Recording a receipt catches up with it. -/
theorem recordReceipt_spec (serializes : ∀ stage, (toJson stage).isSome) (grows : Grows receipts)
    (numbered : ∀ time, ∀ stage ∈ (receipts time).stages, 0 < stage.sequence)
    {seen : List OperationStageEvidenceView} (listed : Listed receipts seen)
    (stream : OperationEventStream) (cursor : stream.lastSequence = lastOf seen) (time : Nat) :
    ∃ fresh, Listed receipts (seen ++ fresh) ∧ (receipts time).stages <+: seen ++ fresh ∧
      stageEvents (recordReceipt toJson stream (receipts time)).queue =
        stageEvents stream.queue ++ fresh.map (stageData toJson) ∧
      (recordReceipt toJson stream (receipts time)).lastSequence = lastOf (seen ++ fresh) := by
  have closing_queue : (recordReceipt toJson stream (receipts time)).queue =
      ((receipts time).stages.foldl (recordStage toJson) stream).queue := by
    unfold recordReceipt
    split <;> rfl
  have closing_last : (recordReceipt toJson stream (receipts time)).lastSequence =
      ((receipts time).stages.foldl (recordStage toJson) stream).lastSequence := by
    unfold recordReceipt
    split <;> rfl
  rw [closing_queue, closing_last]
  have known : ∀ stage ∈ seen, stage.sequence ≤ stream.lastSequence := by
    intro stage member
    rw [cursor]
    exact le_lastOf (listed.increasing grows) member
  rcases listed.receipt grows time with ⟨fresh, stages_eq⟩ | shorter
  · have increasing := grows.increasing time
    rw [← stages_eq] at increasing
    have above : ∀ stage ∈ fresh, stream.lastSequence < stage.sequence := by
      intro stage member
      rw [cursor]
      refine lastOf_lt increasing (fun other is_fresh => numbered time other ?_) member
      rw [← stages_eq]
      exact List.mem_append_right seen is_fresh
    obtain ⟨queue_eq, last_eq⟩ := foldl_recordStage_fresh serializes
      (List.pairwise_append.mp increasing).2.1 above
    refine ⟨fresh, ⟨time, ?_⟩, ?_, ?_, ?_⟩
    · rw [stages_eq]
    · rw [stages_eq]
    · rw [← stages_eq, List.foldl_append, foldl_recordStage_seen known, queue_eq]
    · rw [← stages_eq, List.foldl_append, foldl_recordStage_seen known, last_eq, cursor,
        lastOf_append]
  · have nothing : (receipts time).stages.foldl (recordStage toJson) stream = stream :=
      foldl_recordStage_seen fun stage member => known stage (shorter.subset member)
    refine ⟨[], ?_, ?_, ?_, ?_⟩
    · rw [List.append_nil]
      exact listed
    · rw [List.append_nil]
      exact shorter
    · rw [nothing, List.map_nil, List.append_nil]
    · rw [nothing, cursor, List.append_nil]

end Recording

/-! ### Every run -/

section Law

variable {toJson : OperationStageEvidenceView → Option String}
  {receipts : Nat → OperationReceiptView}

variable {client : Client}

/-- The events received and those queued are what the operation's first stages give. -/
def Synced (toJson : OperationStageEvidenceView → Option String)
    (receipts : Nat → OperationReceiptView) (client : Client) : Prop :=
  match client.connection with
  | none => ∃ seen, Listed receipts seen ∧
      stageEvents client.received = seen.map (stageData toJson)
  | some stream => ∃ seen, Listed receipts seen ∧ stream.lastSequence = lastOf seen ∧
      stageEvents client.received ++ stageEvents stream.queue = seen.map (stageData toJson)

theorem Listed.initial {seen part : List OperationStageEvidenceView}
    (listed : Listed receipts seen) (initial : part <+: seen) : Listed receipts part := by
  obtain ⟨time, found⟩ := listed
  exact ⟨time, initial.trans found⟩

/-- Losing the queue with the connection leaves an initial part. -/
theorem Synced.received (synced : Synced toJson receipts client) :
    ∃ seen, Listed receipts seen ∧
      stageEvents client.received = seen.map (stageData toJson) := by
  obtain ⟨received, connection⟩ := client
  cases connection with
  | none => exact synced
  | some stream =>
    obtain ⟨seen, listed, _, events_eq⟩ := synced
    obtain ⟨got, waiting, rfl, got_eq, _⟩ := List.map_eq_append_iff.mp events_eq.symm
    exact ⟨got, listed.initial (List.prefix_append got waiting), got_eq.symm⟩

theorem Synced.connect (grows : Grows receipts) (synced : Synced toJson receipts client) :
    Synced toJson receipts (client.step toJson .connect) := by
  obtain ⟨seen, listed, events_eq⟩ := synced.received
  have header : lastEventSequence client.lastEventId = .ok (lastOf seen) := by
    unfold Client.lastEventId lastOf
    rw [events_eq, List.getLast?_map]
    cases last_eq : seen.getLast? with
    | none => rfl
    | some last =>
      obtain ⟨time, initial⟩ := listed
      exact lastEventSequence_toDigits
        (grows.fits time last (initial.subset (List.mem_of_getLast? last_eq)))
  dsimp only [Client.step]
  rw [header]
  exact ⟨seen, listed, rfl, by rw [events_eq]; exact List.append_nil _⟩

section

variable (serializes : ∀ stage, (toJson stage).isSome) (grows : Grows receipts)
  (numbered : ∀ time, ∀ stage ∈ (receipts time).stages, 0 < stage.sequence)
include serializes grows numbered

/-- One turn of an open stream: the received and queued events grow by what the receipt adds. -/
theorem Synced.poll (synced : Synced toJson receipts client) {answers : Answers}
    (honest : Honest receipts (.poll answers)) :
    Synced toJson receipts (client.step toJson (.poll answers)) := by
  obtain ⟨received, connection⟩ := client
  cases connection with
  | none => exact synced
  | some stream =>
    have whole := synced
    obtain ⟨seen, listed, cursor, events_eq⟩ := synced
    obtain ⟨last, queue, pending, closing⟩ := stream
    cases queue with
    | cons event queue =>
      refine ⟨seen, listed, cursor, Eq.trans ?_ events_eq⟩
      change stageEvents (received ++ [event]) ++ stageEvents queue =
        stageEvents received ++ stageEvents ([event] ++ queue)
      rw [stageEvents_append, stageEvents_append, List.append_assoc]
    | nil =>
      obtain ⟨elapsed, broker, delayed⟩ := answers
      have unchanged : ∀ stream : OperationEventStream, stageEvents stream.queue = [] →
          stream.lastSequence = last → Synced toJson receipts ⟨received, some stream⟩ := by
        intro stream empty last_eq
        refine ⟨seen, listed, last_eq.trans cursor, ?_⟩
        rw [← events_eq, empty]
        rfl
      dsimp only [Client.step, pollNext]
      cases closing with
      | true => exact whole.received
      | false =>
        cases elapsed with
        | true => exact unchanged _ stageEvents_pushError rfl
        | false =>
          cases pending with
          | false =>
            cases delayed with
            | true | false => exact unchanged _ rfl rfl
          | true =>
            cases broker with
            | pending => exact unchanged _ rfl rfl
            | failed => exact unchanged _ stageEvents_pushError rfl
            | ready receipt =>
              obtain ⟨time, rfl⟩ := honest
              obtain ⟨fresh, more, _, queue_eq, last_eq⟩ := recordReceipt_spec serializes grows
                numbered listed ⟨last, [], false, false⟩ cursor time
              refine ⟨seen ++ fresh, more, last_eq, ?_⟩
              change stageEvents received ++
                stageEvents (recordReceipt toJson ⟨last, [], false, false⟩ _).queue = _
              rw [queue_eq, List.map_append, ← events_eq, ← List.append_assoc]

theorem synced_step (synced : Synced toJson receipts client) {action : Action}
    (honest : Honest receipts action) :
    Synced toJson receipts (client.step toJson action) := by
  cases action with
  | connect => exact synced.connect grows
  | cut => exact synced.received
  | poll answers => exact synced.poll serializes grows numbered honest

theorem synced_run {actions : List Action} (honest : ∀ action ∈ actions, Honest receipts action) :
    Synced toJson receipts (run toJson actions) := by
  suffices every : ∀ client, Synced toJson receipts client →
      Synced toJson receipts (actions.foldl (Client.step toJson) client) from
    every ⟨[], none⟩ ⟨[], ⟨0, List.nil_prefix⟩, rfl⟩
  induction actions with
  | nil => exact fun _ synced => synced
  | cons action rest ih =>
    intro client synced
    exact ih (fun other member => honest other (List.mem_cons_of_mem action member)) _
      (synced_step serializes grows numbered synced (honest action List.mem_cons_self))

end

/-- A closing stream hands out its queue and ends. -/
theorem drained {stream : OperationEventStream} (closing : stream.closeAfterQueue = true)
    (received : List Event) (later : List Answers) (enough : stream.queue.length < later.length) :
    (later.map Action.poll).foldl (Client.step toJson) ⟨received, some stream⟩ =
      ⟨received ++ stream.queue, none⟩ := by
  obtain ⟨last, queue, pending, close⟩ := stream
  obtain rfl : close = true := closing
  have finished : ∀ (rest : List Answers) (got : List Event),
      (rest.map Action.poll).foldl (Client.step toJson) ⟨got, none⟩ = ⟨got, none⟩ := by
    intro rest got
    induction rest with
    | nil => rfl
    | cons _ rest ih => exact ih
  induction queue generalizing received later with
  | nil =>
    cases later with
    | nil => cases enough
    | cons answers later =>
      rw [List.append_nil]
      exact finished later received
  | cons event queue ih =>
    cases later with
    | nil => cases enough
    | cons answers later =>
      have tail := ih (received ++ [event]) later (Nat.lt_of_succ_lt_succ enough)
      rw [List.append_assoc] at tail
      exact tail

/-- The open stream takes this receipt from the broker at this turn. -/
def Takes (client : Client) (answers : Answers) (receipt : OperationReceiptView) : Prop :=
  ∃ last, client.connection = some ⟨last, [], true, false⟩ ∧ answers.elapsed = false ∧
    answers.broker = .ready receipt

/-- Over any connections and cuts the client receives the operation's first stages, each once and
in order. A connection that has taken a terminal receipt and is not cut delivers all stages of that
receipt and ends. -/
theorem events_exactly_once (serializes : ∀ stage, (toJson stage).isSome) (grows : Grows receipts)
    (numbered : ∀ time, ∀ stage ∈ (receipts time).stages, 0 < stage.sequence)
    (actions : List Action) (honest : ∀ action ∈ actions, Honest receipts action) :
    (∃ seen, Listed receipts seen ∧
      stageEvents (run toJson actions).received = seen.map (stageData toJson)) ∧
    ∀ answers time, Takes (run toJson actions) answers (receipts time) →
      (receipts time).terminalState.isTerminal = true →
      ∃ turns, ∀ later : List Answers, turns < later.length →
        ∃ seen, Listed receipts seen ∧ (receipts time).stages <+: seen ∧
          (run toJson (actions ++ (answers :: later).map Action.poll)).connection = none ∧
          stageEvents (run toJson (actions ++ (answers :: later).map Action.poll)).received =
            seen.map (stageData toJson) := by
  have synced := synced_run serializes grows numbered honest
  refine ⟨synced.received, ?_⟩
  rintro ⟨elapsed, broker, delayed⟩ time ⟨last, connection_eq, rfl, rfl⟩ terminal
  simp only [run_append]
  generalize run toJson actions = client at synced connection_eq ⊢
  obtain ⟨received, connection⟩ := client
  obtain rfl : connection = some ⟨last, [], true, false⟩ := connection_eq
  obtain ⟨seen, listed, cursor, events_eq⟩ := synced
  obtain ⟨fresh, more, covered, queue_eq, _⟩ := recordReceipt_spec serializes grows numbered listed
    ⟨last, [], false, false⟩ cursor time
  have closing : (recordReceipt toJson ⟨last, [], false, false⟩
      (receipts time)).closeAfterQueue = true := by
    unfold recordReceipt
    rw [if_pos terminal]
  refine ⟨(recordReceipt toJson ⟨last, [], false, false⟩ (receipts time)).queue.length,
    fun later enough => ⟨seen ++ fresh, more, covered, ?_⟩⟩
  have ended := @drained toJson _ closing received later enough
  rw [List.map_cons, List.foldl_cons]
  change (List.foldl (Client.step toJson) ⟨received, some (recordReceipt toJson
    ⟨last, [], false, false⟩ (receipts time))⟩ (later.map Action.poll)).connection = none ∧
      stageEvents (List.foldl (Client.step toJson) ⟨received, some (recordReceipt toJson
        ⟨last, [], false, false⟩ (receipts time))⟩ (later.map Action.poll)).received = _
  rw [ended]
  refine ⟨rfl, ?_⟩
  rw [stageEvents_append, queue_eq, List.map_append, ← events_eq, ← List.append_assoc]

/-- A finished operation with one stage of this number. -/
def sampleReceipt (sequence : Nat) : OperationReceiptView where
  operationType := .nginxSiteState
  operationId := "op"
  displayName := "site"
  recordedAt := "t"
  planId := "plan"
  planHash := "hash"
  actor := ⟨1000, "admin", .admin⟩
  terminalState := .succeeded
  beforeDigest := "before"
  afterDigest := "after"
  stages := [⟨sequence, .succeeded, "t", "ok", "digest", none, []⟩]
  rollbackResult := none
  resourceId := none
  restoreAvailable := false

theorem grows_sampleReceipt {sequence : Nat} (fits : sequence < 2 ^ 64) :
    Grows fun _ => sampleReceipt sequence where
  later _ _ _ := List.prefix_refl _
  increasing _ := List.pairwise_singleton _ _
  fits _ stage member := by
    rw [List.mem_singleton.mp member]
    exact fits

/-- A connection up to the turn at which the broker answers. -/
def opening : List Action := [.connect, .poll ⟨false, .pending, true⟩]

theorem honest_opening (receipts : Nat → OperationReceiptView) :
    ∀ action ∈ opening, Honest receipts action := by
  intro action member
  rcases List.mem_pair.mp member with rfl | rfl <;> trivial

theorem events_of_sampleReceipt :
    Takes (run (fun _ => some "stage") opening) ⟨false, .ready (sampleReceipt 1), false⟩
        (sampleReceipt 1) ∧
      ∃ turns, ∀ later : List Answers, turns < later.length →
        ∃ seen, Listed (fun _ => sampleReceipt 1) seen ∧ (sampleReceipt 1).stages <+: seen ∧
          (run (fun _ => some "stage") (opening ++
            (⟨false, .ready (sampleReceipt 1), false⟩ :: later).map Action.poll)).connection =
              none ∧
          stageEvents (run (fun _ => some "stage") (opening ++
            (⟨false, .ready (sampleReceipt 1), false⟩ :: later).map Action.poll)).received =
              seen.map (stageData fun _ => some "stage") := by
  have taken : Takes (run (fun _ => some "stage") opening)
      ⟨false, .ready (sampleReceipt 1), false⟩ (sampleReceipt 1) := ⟨0, rfl, rfl, rfl⟩
  have law := @events_exactly_once (fun _ => some "stage") (fun _ => sampleReceipt 1)
    (fun _ => rfl) (grows_sampleReceipt (by decide))
    (fun _ stage member => by rw [List.mem_singleton.mp member]; decide) opening
    (honest_opening _)
  exact ⟨taken, law.2 _ 0 taken rfl⟩

/-- A stage with the number 0 is taken for one that the client has seen. -/
theorem stage_zero_not_delivered :
    Grows (fun _ => sampleReceipt 0) ∧ (sampleReceipt 0).terminalState.isTerminal = true ∧
      Takes (run (fun _ => some "stage") opening) ⟨false, .ready (sampleReceipt 0), false⟩
        (sampleReceipt 0) ∧
      (∀ later : List Answers, 0 < later.length →
        (run (fun _ => some "stage") (opening ++
          (⟨false, .ready (sampleReceipt 0), false⟩ :: later).map Action.poll)).connection =
            none) ∧
      ∀ later : List Answers, 0 < later.length →
        stageEvents (run (fun _ => some "stage") (opening ++
          (⟨false, .ready (sampleReceipt 0), false⟩ :: later).map Action.poll)).received = [] := by
  have ended : ∀ later : List Answers, 0 < later.length →
      run (fun _ => some "stage") (opening ++
        (⟨false, .ready (sampleReceipt 0), false⟩ :: later).map Action.poll) = ⟨[], none⟩ := by
    intro later enough
    rw [run_append]
    exact @drained (fun _ => some "stage") ⟨0, [], false, true⟩ rfl [] later enough
  refine ⟨grows_sampleReceipt (by decide), rfl, ⟨0, rfl, rfl, rfl⟩, ?_, ?_⟩
  · intro later enough
    rw [ended later enough]
  · intro later enough
    rw [ended later enough]
    rfl

end Law

end JwOps.Agentd.Events
