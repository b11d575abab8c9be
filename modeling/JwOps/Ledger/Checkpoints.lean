/- module: Ledger/Checkpoints
   source: crates/jw-opsd/src/ledger.rs, crates/jw-opsd/src/ledger/{command_evidence,diagnostics}.rs
   digest: However calls are cut short, the next opening passes and brings the checkpoint up to
   date. -/
import JwOps.Ledger.Locks
import JwOps.Ledger.Reads

set_option autoImplicit false

namespace JwOps.Ledger.Checkpoints

open Contracts Operation Digest Schema Writes Commits
open Locks (samplePlan sampleApproval)
open Ledger.Reads
open Foundation.Chain (bind_ok)
open Foundation.Keyed Foundation.Transaction

variable {operationId : String} {change : Transition}

variable {previous : String} {events front back : List EventRow} {expected sequence : Int}
  {input : EventInput} {α : Type}

/-! ### The calls of a ledger -/

section Calls

variable (codec : Codec)

def transition (operationId : String) (change : Transition) : Sql StoredOperation :=
  transitionInternal codec operationId change none none

def transitionWithCommandEvidence (operationId : String) (change : Transition)
    (command : OperationCommandEvidenceView) : Sql StoredOperation := do
  let stored ← check (prepareCommandEvidence codec command change.evidenceDigest)
  transitionInternal codec operationId change none (some stored)

def transitionWithDiagnostics (operationId : String) (change : Transition)
    (diagnostics : List ManagedConfigDiagnosticView) : Sql StoredOperation :=
  if diagnostics = [] then transition codec operationId change
  else do
    let (stored, combined) ← check (prepareDiagnostics codec change.evidenceDigest diagnostics)
    transitionInternal codec operationId { change with evidenceDigest := combined } (some stored)
      none

def transitionWithDiagnosticsAndCommand (operationId : String) (change : Transition)
    (diagnostics : List ManagedConfigDiagnosticView) (command : OperationCommandEvidenceView) :
    Sql StoredOperation :=
  if diagnostics = [] then transitionWithCommandEvidence codec operationId change command
  else do
    let storedCommand ← check (prepareCommandEvidence codec command change.evidenceDigest)
    let (stored, combined) ← check (prepareDiagnostics codec change.evidenceDigest diagnostics)
    transitionInternal codec operationId { change with evidenceDigest := combined } (some stored)
      (some storedCommand)

end Calls

/-- Everything that the service calls on its ledger, to open it again or to write. -/
inductive Call where
  | openLedger (failure : OpsError)
  | createOrReusePlan (plan : StoredPlan)
  | beginOperation (approval : Approval)
  | attachSnapshot (operationId : String) (snapshot : SnapshotRecord) (nowMs : Int)
  | transition (operationId : String) (change : Transition)
  | transitionWithCommandEvidence (operationId : String) (change : Transition)
      (command : OperationCommandEvidenceView)
  | transitionWithDiagnostics (operationId : String) (change : Transition)
      (diagnostics : List ManagedConfigDiagnosticView)
  | transitionWithDiagnosticsAndCommand (operationId : String) (change : Transition)
      (diagnostics : List ManagedConfigDiagnosticView) (command : OperationCommandEvidenceView)

/-- The call without its answer. -/
def Call.run (codec : Codec) : Call → Sql Unit
  | .openLedger failure => Reads.openLedger codec failure
  | .createOrReusePlan plan => do let _ ← Writes.createOrReusePlan codec plan
  | .beginOperation approval => do let _ ← Writes.beginOperation codec approval
  | .attachSnapshot operationId snapshot nowMs => do
      let _ ← Writes.attachSnapshot codec operationId snapshot nowMs
  | .transition operationId change => do let _ ← Checkpoints.transition codec operationId change
  | .transitionWithCommandEvidence operationId change command => do
      let _ ← Checkpoints.transitionWithCommandEvidence codec operationId change command
  | .transitionWithDiagnostics operationId change diagnostics => do
      let _ ← Checkpoints.transitionWithDiagnostics codec operationId change diagnostics
  | .transitionWithDiagnosticsAndCommand operationId change diagnostics command => do
      let _ ← Checkpoints.transitionWithDiagnosticsAndCommand codec operationId change diagnostics
        command

/-- A call and the statements of it that fail. The first one that does ends the call where it
stands, as a crash at that point would. -/
structure Cut where
  call : Call
  faults : List Bool

def Cut.perform (codec : Codec) (ledger : LedgerState) (cut : Cut) : LedgerState :=
  (cut.call.run codec ⟨ledger, cut.faults⟩).2.store

def runCuts (codec : Codec) (ledger : LedgerState) (cuts : List Cut) : LedgerState :=
  cuts.foldl (Cut.perform codec) ledger

/-! ### The chain -/

/-- Events numbered from `expected` on, each with the digest of the one before it. -/
def Linked (codec : Codec) : Int → String → List EventRow → Prop
  | _, _, [] => True
  | expected, previous, event :: rest =>
    (event.sequence = expected ∧ event.previousDigest = previous ∧
      ledgerEventDigest codec previous (codec.eventJson {
        schemaVersion := 1
        sequence := event.sequence
        previousDigest := previous
        operationId := event.operationId
        planId := event.planId
        stage := event.stage.asStorageValue
        resultCode := event.resultCode
        recordedAtMs := event.recordedAtMs
        evidenceDigest := event.evidenceDigest }) = .ok event.eventDigest) ∧
    Linked codec (expected + 1) event.eventDigest rest

/-- The digest that the event after these builds on. -/
def tip (previous : String) (events : List EventRow) : String :=
  events.getLast?.elim previous EventRow.eventDigest

variable {codec : Codec}

theorem linked_append :
    Linked codec expected previous (front ++ back) ↔
      Linked codec expected previous front ∧
        Linked codec (expected + front.length) (tip previous front) back := by
  induction front generalizing expected previous with
  | nil => simp [Linked, tip]
  | cons event rest ih =>
    have later : tip previous (event :: rest) = tip event.eventDigest rest := by
      unfold tip
      rw [List.getLast?_cons]
      cases rest.getLast? with
      | none => rfl
      | some last => rfl
    have count : expected + ((event :: rest).length : Int) = expected + 1 + rest.length := by
      rw [List.length_cons]
      push_cast
      omega
    rw [List.cons_append, Linked, Linked, ih, later, count]
    exact and_assoc.symm

section

variable (linked : Linked codec 1 previous events)
include linked

theorem linked_sequence {event : EventRow} (split : events = front ++ event :: back) :
    event.sequence = front.length + 1 := by
  subst split
  obtain ⟨_, here, _⟩ := linked_append.mp linked
  rw [here.1]
  omega

theorem linked_bounds {event : EventRow} (member : event ∈ events) :
    1 ≤ event.sequence ∧ event.sequence ≤ events.length := by
  obtain ⟨front, back, split⟩ := List.append_of_mem member
  have place := linked_sequence linked split
  rw [split, List.length_append, List.length_cons]
  push_cast
  omega

/-- No other event has the number of an event. -/
theorem linked_alone {event other : EventRow} (split : events = front ++ event :: back)
    (member : other ∈ front ++ back) :
    other.sequence ≠ event.sequence := by
  have place := linked_sequence linked split
  rcases List.mem_append.mp member with before | after
  · rw [split] at linked
    have bounds := linked_bounds (linked_append.mp linked).1 before
    omega
  · obtain ⟨between, rest, rfl⟩ := List.append_of_mem after
    have later : events = (front ++ event :: between) ++ other :: rest := by
      rw [split, List.append_assoc, List.cons_append]
    have otherPlace := linked_sequence linked later
    rw [List.length_append, List.length_cons] at otherPlace
    push_cast at otherPlace
    omega

theorem linked_lookup {event : EventRow} (member : event ∈ events) :
    lookup EventRow.sequence event.sequence events = some event := by
  obtain ⟨front, back, split⟩ := List.append_of_mem member
  have place := linked_sequence linked split
  subst split
  have earlier : lookup EventRow.sequence event.sequence front = none := by
    refine lookup_eq_none.mpr fun other there => ?_
    have bounds := linked_bounds (linked_append.mp linked).1 there
    omega
  unfold lookup at earlier ⊢
  rw [List.find?_append, earlier]
  simp

theorem exists_sequence {number : Nat} (positive : 1 ≤ number) (within : number ≤ events.length) :
      ∃ event ∈ events, event.sequence = number := by
  have bound : number - 1 < events.length := by omega
  refine ⟨events[number - 1], List.getElem_mem bound, ?_⟩
  have split : events = events.take (number - 1) ++
      events[number - 1] :: events.drop (number - 1 + 1) := by
    rw [← List.drop_eq_getElem_cons bound, List.take_append_drop]
  rw [linked_sequence linked split, List.length_take]
  omega

end

/-! ### What holds of a ledger between two statements -/

/-- The rows beside an event, if any, are those that its evidence digest was taken over. -/
structure EvidenceLoads (codec : Codec) (command : Option OperationCommandEvidenceView)
    (row : Option DiagnosticsRow) (evidenceDigest : String) : Prop where
  command : ∃ loaded, loadCommandEvidence codec command evidenceDigest
    (row.map DiagnosticsRow.validatorEvidenceDigest) = .ok loaded
  diagnostics : ∃ loaded, loadDiagnostics codec row evidenceDigest = .ok loaded

/-- The rows of a ledger that only its own calls have written. -/
structure Vouched (codec : Codec) (tables : Tables) : Prop where
  linked : Linked codec 1 genesisDigest tables.ledgerEvents
  counted : (tables.ledgerEvents.length : Int) ≤ i64Max
  evidence : ∀ event ∈ tables.ledgerEvents, EvidenceLoads codec
    (commandOf tables event.sequence) (diagnosticsOf tables event.sequence) event.evidenceDigest
  commands : ∀ row ∈ tables.operationCommandEvidence,
    row.sequence ≤ tables.ledgerEvents.length
  diagnostics : ∀ row ∈ tables.managedConfigDiagnostics,
    row.sequence ≤ tables.ledgerEvents.length

/-- The marker and the checkpoint file: an event that needs a checkpoint is covered by one of the
two, and both name events of the chain. -/
structure Covered (ledger : LedgerState) : Prop where
  marker : ∀ sequence, ledger.metadata = some sequence →
    1 ≤ sequence ∧ sequence ≤ ledger.tables.ledgerEvents.length
  file : ∀ checkpoint, ledger.checkpoint = some checkpoint → checkpoint.schemaVersion = 1 ∧
    ∃ event ∈ ledger.tables.ledgerEvents, event.sequence = checkpoint.sequence ∧
      event.eventDigest = checkpoint.eventDigest
  due : ∀ event ∈ ledger.tables.ledgerEvents, dueAfter event = true →
    (∃ sequence, ledger.metadata = some sequence ∧ event.sequence ≤ sequence) ∨
      ∃ checkpoint, ledger.checkpoint = some checkpoint ∧ event.sequence ≤ checkpoint.sequence

structure Sound (codec : Codec) (ledger : LedgerState) : Prop where
  vouched : Vouched codec ledger.tables
  covered : Covered ledger

theorem sound_emptyLedger : Sound codec emptyLedger := by
  constructor
  · constructor
    · trivial
    · decide
    · nofun
    · nofun
    · nofun
  · constructor
    · nofun
    · nofun
    · nofun

/-! ### A checkpoint is completed -/

theorem lastEvent_sequence {tables : Tables} {last : EventRow} (vouched : Vouched codec tables)
    (found : tables.lastEvent = some last) :
    last ∈ tables.ledgerEvents ∧ last.sequence = tables.ledgerEvents.length := by
  have split := List.dropLast_append_getLast? last found
  have place := linked_sequence vouched.linked split.symm
  refine ⟨List.mem_of_getLast? found, ?_⟩
  rw [place, ← split, List.length_append, List.length_singleton]
  push_cast
  rw [List.length_dropLast, List.length_append, List.length_singleton]
  omega

section Completing

variable {ledger : LedgerState} {last : EventRow}

/-- A checkpoint at the last event covers every event. -/
theorem Sound.written (sound : Sound codec ledger) (found : ledger.tables.lastEvent = some last)
    (metadata : Option Int)
    (marker : ∀ sequence, metadata = some sequence → ledger.metadata = some sequence) :
    Sound codec { ledger with
      metadata := metadata, checkpoint := some ⟨1, last.sequence, last.eventDigest⟩ } := by
  obtain ⟨member, place⟩ := lastEvent_sequence sound.vouched found
  refine ⟨sound.vouched, ?_⟩
  constructor
  · intro sequence marked
    exact sound.covered.marker sequence (marker sequence marked)
  · rintro checkpoint same
    obtain rfl := Option.some.inj same
    exact ⟨rfl, last, member, rfl, rfl⟩
  · intro event there _
    refine .inr ⟨_, rfl, ?_⟩
    have bounds := linked_bounds sound.vouched.linked there
    change event.sequence ≤ last.sequence
    omega

theorem sound_completePendingCheckpoint (sound : Sound codec ledger) :
    Outcome completePendingCheckpoint ledger fun _ after => Sound codec after := by
  refine Outcome.bind (Outcome.query sound ?_)
  cases pending : ledger.metadata with
  | none => exact Outcome.ret _ sound
  | some required =>
    refine Outcome.bind (outcome_load sound ?_)
    cases found : ledger.tables.lastEvent with
    | none => exact sound
    | some last =>
      have written := sound.written found ledger.metadata fun _ marked => marked
      refine Outcome.bind (Outcome.rejectIf sound fun _ => Outcome.bind ?_)
      refine Outcome.bind (Outcome.execute sound (Outcome.bind (Outcome.execute sound ?_)))
      refine Outcome.execute written (Outcome.execute written ?_)
      change Sound codec ⟨ledger.tables,
        if ledger.metadata = some required then none else ledger.metadata, some _⟩
      rw [if_pos pending]
      exact sound.written found none nofun

end Completing

/-! ### Committed blocks -/

section Committing

variable {ledger : LedgerState}

theorem nextEvent_ok {previous : Option EventRow} {event : EventRow}
    (computed : nextEvent codec previous input = .ok event) :
    event.sequence = saturatingSucc (previous.elim 0 EventRow.sequence) ∧
      event.stage = input.stage ∧ event.evidenceDigest = input.evidenceDigest ∧
      Linked codec event.sequence (previous.elim genesisDigest EventRow.eventDigest) [event] := by
  obtain ⟨digest, hashed, done⟩ := bind_ok.mp computed
  obtain rfl := Except.ok.inj done
  exact ⟨rfl, rfl, rfl, ⟨rfl, rfl, hashed⟩, trivial⟩

/-- The event that a vouched chain takes: it has the next number. -/
theorem Vouched.appended {tables : Tables} (vouched : Vouched codec tables) {event : EventRow}
    (appended : Appended codec tables input event) :
    event.sequence = tables.ledgerEvents.length + 1 ∧ event.sequence ≤ i64Max ∧
      Linked codec 1 genesisDigest (tables.ledgerEvents ++ [event]) := by
  obtain ⟨computed, fresh⟩ := appended
  obtain ⟨number, _, _, alone⟩ := nextEvent_ok computed
  have counted := vouched.counted
  have place : event.sequence = tables.ledgerEvents.length + 1 ∧ event.sequence ≤ i64Max := by
    unfold saturatingSucc at number
    cases found : tables.lastEvent with
    | none =>
      have empty : tables.ledgerEvents = [] := List.getLast?_eq_none_iff.mp found
      rw [found] at number
      rw [number, empty]
      decide
    | some last =>
      obtain ⟨member, length⟩ := lastEvent_sequence vouched found
      rw [found] at number
      change event.sequence = min (last.sequence + 1) i64Max at number
      have differs := (fresh last member).1
      omega
  refine ⟨place.1, place.2, linked_append.mpr ⟨vouched.linked, ?_⟩⟩
  rw [place.1, Int.add_comm] at alone
  exact alone

theorem linked_digest (linked : Linked codec expected previous events) {event : EventRow}
    (member : event ∈ events) :
    ∃ bytes, event.eventDigest = sha256Digest codec bytes := by
  induction events generalizing expected previous with
  | nil => cases member
  | cons first rest ih =>
    obtain ⟨⟨_, _, hashed⟩, onward⟩ := linked
    rcases List.mem_cons.mp member with rfl | later
    · obtain ⟨_, _, done⟩ := bind_ok.mp hashed
      exact ⟨_, (Except.ok.inj done).symm⟩
    · exact ih onward later

/-- A vouched chain has a next event for every input. -/
theorem Vouched.next {tables : Tables} (vouched : Vouched codec tables) (input : EventInput) :
    ∃ event, nextEvent codec tables.lastEvent input = .ok event := by
  have decoded : ∃ raw, decodeSha256
      (tables.lastEvent.elim genesisDigest EventRow.eventDigest) = .ok raw := by
    cases found : tables.lastEvent with
    | none =>
      have genesis : genesisDigest = formatSha256 (List.replicate 32 0) := by decide +kernel
      exact ⟨_, genesis ▸ decodeSha256_formatSha256 rfl⟩
    | some last =>
      obtain ⟨bytes, digest⟩ := linked_digest vouched.linked (lastEvent_sequence vouched found).1
      refine ⟨(codec.sha256 bytes).1, ?_⟩
      change decodeSha256 last.eventDigest = _
      rw [digest]
      exact decodeSha256_formatSha256 (codec.sha256 bytes).2
  obtain ⟨raw, decoded⟩ := decoded
  unfold nextEvent ledgerEventDigest
  dsimp only
  rw [decoded]
  exact ⟨_, rfl⟩

/-- While numbers and digests last, the table of events admits it. -/
theorem Vouched.admits {tables : Tables} (vouched : Vouched codec tables)
    (few : (tables.ledgerEvents.length : Int) < i64Max) {event : EventRow}
    (computed : nextEvent codec tables.lastEvent input = .ok event)
    (distinct : ∀ other ∈ tables.ledgerEvents, other.eventDigest ≠ event.eventDigest) :
    Appended codec tables input event := by
  refine ⟨computed, fun other member => ⟨?_, distinct other member⟩⟩
  obtain ⟨number, _⟩ := nextEvent_ok computed
  have bounds := linked_bounds vouched.linked member
  unfold saturatingSucc at number
  cases found : tables.lastEvent with
  | none =>
    rw [List.getLast?_eq_none_iff.mp found] at member
    cases member
  | some last =>
    obtain ⟨_, place⟩ := lastEvent_sequence vouched found
    rw [found] at number
    change event.sequence = min (last.sequence + 1) i64Max at number
    omega

/-- The rows that a transition writes beside its event. -/
def besideEvent (sequence : Int) (value : StoredDiagnostics) : DiagnosticsRow :=
  ⟨sequence, value.diagnostics, value.digest, value.validatorEvidenceDigest⟩

theorem lookup_commandRows (sequence : Int) (command : Option OperationCommandEvidenceView) :
    (lookup CommandRow.sequence sequence (commandRows sequence command)).map CommandRow.command =
      command := by
  cases command with
  | none => rfl
  | some value => simp [commandRows, lookup]

theorem lookup_diagnosticsRows (sequence : Int) (diagnostics : Option StoredDiagnostics) :
    lookup DiagnosticsRow.sequence sequence (diagnosticsRows sequence diagnostics) =
      diagnostics.map (besideEvent sequence) := by
  cases diagnostics with
  | none => rfl
  | some value => simp [diagnosticsRows, lookup, besideEvent]

/-- Rows of another event do not show. -/
theorem lookup_append_other {key : α → Int} {rows more : List α}
    (differ : ∀ row ∈ more, key row ≠ sequence) :
    lookup key sequence (rows ++ more) = lookup key sequence rows := by
  have none : lookup key sequence more = none := lookup_eq_none.mpr differ
  unfold lookup at none ⊢
  rw [List.find?_append, none, Option.or_none]

theorem lookup_append_beyond {key : α → Int} {rows more : List α}
    (beyond : ∀ row ∈ rows, key row < sequence) :
    lookup key sequence (rows ++ more) = lookup key sequence more := by
  have none : lookup key sequence rows = none :=
    lookup_eq_none.mpr fun row member same => by
      have := beyond row member
      omega
  unfold lookup at none ⊢
  rw [List.find?_append, none, Option.none_or]

theorem Vouched.extend {tables after : Tables} (vouched : Vouched codec tables)
    {input : EventInput} {event : EventRow} (appended : Appended codec tables input event)
    {diagnostics : Option StoredDiagnostics} {command : Option OperationCommandEvidenceView}
    (loads : EvidenceLoads codec command (diagnostics.map (besideEvent event.sequence))
      input.evidenceDigest)
    (events : after.ledgerEvents = tables.ledgerEvents ++ [event])
    (commands : after.operationCommandEvidence =
      tables.operationCommandEvidence ++ commandRows event.sequence command)
    (rows : after.managedConfigDiagnostics =
      tables.managedConfigDiagnostics ++ diagnosticsRows event.sequence diagnostics) :
    Vouched codec after := by
  obtain ⟨place, small, linked⟩ := vouched.appended appended
  have length : (after.ledgerEvents.length : Int) = tables.ledgerEvents.length + 1 := by
    rw [events, List.length_append, List.length_singleton]
    push_cast
    rfl
  have newCommand : ∀ row ∈ commandRows event.sequence command, row.sequence = event.sequence := by
    intro row member
    obtain ⟨value, _, rfl⟩ := List.mem_map.mp member
    rfl
  have newRow : ∀ row ∈ diagnosticsRows event.sequence diagnostics,
      row.sequence = event.sequence := by
    intro row member
    obtain ⟨value, _, rfl⟩ := List.mem_map.mp member
    rfl
  constructor
  · rw [events]
    exact linked
  · omega
  · intro other member
    rw [events] at member
    unfold commandOf diagnosticsOf
    rw [commands, rows]
    rcases List.mem_append.mp member with old | new
    · have bounds := linked_bounds vouched.linked old
      rw [lookup_append_other fun row there => ?_, lookup_append_other fun row there => ?_]
      · exact vouched.evidence other old
      · rw [newRow row there]
        omega
      · rw [newCommand row there]
        omega
    · obtain rfl := List.mem_singleton.mp new
      rw [lookup_append_beyond fun row there => ?_, lookup_append_beyond fun row there => ?_]
      · rw [lookup_commandRows, lookup_diagnosticsRows, (nextEvent_ok appended.1).2.2.1]
        exact loads
      · have := vouched.diagnostics row there
        omega
      · have := vouched.commands row there
        omega
  · intro row member
    rw [commands] at member
    rcases List.mem_append.mp member with old | new
    · have := vouched.commands row old
      omega
    · rw [newCommand row new]
      omega
  · intro row member
    rw [rows] at member
    rcases List.mem_append.mp member with old | new
    · have := vouched.diagnostics row old
      omega
    · rw [newRow row new]
      omega

/-- The evidence of a write is what its event names. -/
def Prepared (codec : Codec) : LedgerWrite → Prop
  | .transition _ change diagnostics command => ∀ sequence, EvidenceLoads codec command
      (diagnostics.map (besideEvent sequence)) change.evidenceDigest
  | _ => True

theorem evidenceLoads_none {evidenceDigest : String} :
    EvidenceLoads codec none none evidenceDigest :=
  ⟨⟨none, rfl⟩, ⟨[], rfl⟩⟩

theorem Vouched.commit {tables after : Tables} {call : LedgerWrite}
    (vouched : Vouched codec tables) (commit : Commit codec tables call after)
    (prepared : Prepared codec call) : Vouched codec after := by
  have plain {input : EventInput} {event : EventRow} {after : Tables}
      (appended : Appended codec tables input event)
      (events : after.ledgerEvents = tables.ledgerEvents ++ [event])
      (commands : after.operationCommandEvidence = tables.operationCommandEvidence)
      (rows : after.managedConfigDiagnostics = tables.managedConfigDiagnostics) :
      Vouched codec after :=
    @Vouched.extend codec tables after vouched input event appended none none
      evidenceLoads_none events (commands.trans (List.append_nil _).symm)
      (rows.trans (List.append_nil _).symm)
  cases commit with
  | planned _ _ _ _ appended | begun _ _ _ _ _ _ _ _ appended | attached _ _ _ _ _ _ _ appended =>
    exact plain appended rfl rfl rfl
  | moved operationId change diagnostics command current event stored expected eligible appended =>
    exact vouched.extend appended (prepared event.sequence) rfl rfl rfl

/-- The marker follows the new event when that needs a checkpoint. -/
theorem Covered.marked {after : LedgerState} (covered : Covered ledger) {event : EventRow}
    (place : event.sequence = ledger.tables.ledgerEvents.length + 1)
    (earlier : ∀ other ∈ ledger.tables.ledgerEvents,
      other.sequence ≤ ledger.tables.ledgerEvents.length)
    (file : after.checkpoint = ledger.checkpoint)
    (events : after.tables.ledgerEvents = ledger.tables.ledgerEvents ++ [event])
    (marker : after.metadata =
      if dueAfter event then some event.sequence else ledger.metadata) : Covered after := by
  have length : (after.tables.ledgerEvents.length : Int) =
      ledger.tables.ledgerEvents.length + 1 := by
    rw [events, List.length_append, List.length_singleton]
    push_cast
    rfl
  constructor
  · intro sequence marked
    rw [marker] at marked
    split at marked
    · obtain rfl := Option.some.inj marked
      omega
    · have bounds := covered.marker sequence marked
      omega
  · intro checkpoint written
    rw [file] at written
    obtain ⟨version, named, member, facts⟩ := covered.file checkpoint written
    refine ⟨version, named, ?_, facts⟩
    rw [events]
    exact List.mem_append_left _ member
  · intro other member needed
    rw [events] at member
    rw [marker, file]
    by_cases due : dueAfter event = true
    · -- the new marker is beyond every event
      refine .inl ⟨event.sequence, if_pos due, ?_⟩
      rcases List.mem_append.mp member with old | new
      · have := earlier other old
        omega
      · rw [List.mem_singleton.mp new]
    · rw [if_neg due]
      rcases List.mem_append.mp member with old | new
      · exact covered.due other old needed
      · rw [List.mem_singleton.mp new] at needed
        exact absurd needed due

theorem Sound.committed {after : LedgerState} {call : LedgerWrite} (sound : Sound codec ledger)
    (commit : Commit codec ledger.tables call after.tables) (prepared : Prepared codec call)
    (marked : @MarkPost ledger Unit (.ok (.committed ())) after) : Sound codec after := by
  have vouched := sound.vouched.commit commit prepared
  obtain ⟨file, event, events, marker⟩ := marked
  refine ⟨vouched, sound.covered.marked ?_ ?_ file events marker⟩
  · exact linked_sequence vouched.linked events
  · intro other member
    exact (linked_bounds sound.vouched.linked member).2

theorem sound_committing {call : LedgerWrite} {block : Sql (Ending α Unit)} {tail : Sql α}
    {reused : α → Prop} (sound : Sound codec ledger)
    (committed : Outcome block ledger (BlockEnd codec ledger call reused))
    (prepared : Prepared codec call)
    (answered : ∀ reached, Outcome tail reached fun _ after => after = reached) :
    Outcome (committing block tail) ledger fun _ after => Sound codec after := by
  refine Outcome.bind (Outcome.transaction sound (committed.mono ?_))
  rintro result reached ⟨commit, marks⟩
  match result, commit, marks with
  | .error error, _, _ => exact sound
  | .ok (.dropped value), _, _ => exact Outcome.ret _ sound
  | .ok (.committed ()), commit, marks =>
    refine Outcome.bind ((sound_completePendingCheckpoint
      (sound.committed commit prepared marks)).mono ?_)
    intro result completed kept
    match result with
    | .error error => exact kept
    | .ok () =>
      refine (answered completed).mono ?_
      rintro _ after rfl
      exact kept

end Committing

/-! ### Calls -/

section Preparing

variable {change : Transition} {command stored : OperationCommandEvidenceView}
  {diagnostics : List ManagedConfigDiagnosticView} {value : StoredDiagnostics} {combined : String}

theorem prepareCommandEvidence_ok
    (prepared : prepareCommandEvidence codec command change.evidenceDigest = .ok stored) :
    ∀ eventDigest validator, validator.getD eventDigest = change.evidenceDigest →
      ∃ loaded, loadCommandEvidence codec (some stored) eventDigest validator = .ok loaded := by
  intro eventDigest validator same
  unfold prepareCommandEvidence at prepared
  split at prepared
  · cases prepared
  · rename_i accepted
    obtain rfl := Except.ok.inj prepared
    refine ⟨some command, ?_⟩
    unfold loadCommandEvidence
    dsimp only
    rw [same, if_neg accepted]

theorem prepareDiagnostics_ok
    (prepared : prepareDiagnostics codec change.evidenceDigest diagnostics =
      .ok (value, combined)) :
    value.validatorEvidenceDigest = change.evidenceDigest ∧ ∀ sequence,
      ∃ loaded, loadDiagnostics codec (some (besideEvent sequence value)) combined =
        .ok loaded := by
  unfold prepareDiagnostics at prepared
  split at prepared
  · cases prepared
  · rename_i accepted
    obtain ⟨rfl, rfl⟩ := Prod.mk.inj (Except.ok.inj prepared)
    simp only [not_or] at accepted
    obtain ⟨some, few, shapes, digest⟩ := accepted
    refine ⟨rfl, fun sequence => ⟨diagnostics, ?_⟩⟩
    have computed := validateDigest_sha256Digest codec (codec.diagnosticsJson diagnostics)
    unfold loadDiagnostics besideEvent
    dsimp only
    rw [if_neg]
    simp only [not_or, not_not, ne_eq]
    exact ⟨by rw [computed]; decide, digest, trivial, some, few, shapes, trivial⟩

end Preparing

section Running

variable {ledger : LedgerState}

section

variable (sound : Sound codec ledger)
include sound

theorem sound_transitionInternal {operationId : String} {change : Transition}
    {diagnostics : Option StoredDiagnostics} {command : Option OperationCommandEvidenceView}
    (prepared : Prepared codec (.transition operationId change diagnostics command)) :
    Outcome (transitionInternal codec operationId change diagnostics command) ledger
      fun _ after => Sound codec after :=
  sound_committing sound outcome_transitionTransaction
    prepared fun _ => outcome_load rfl rfl

theorem sound_transition :
    Outcome (transition codec operationId change) ledger fun _ after => Sound codec after :=
  sound_transitionInternal sound fun _ => evidenceLoads_none

theorem sound_transitionWithCommandEvidence {command : OperationCommandEvidenceView} :
    Outcome (transitionWithCommandEvidence codec operationId change command) ledger
      fun _ after => Sound codec after := by
  refine Outcome.bind (outcome_check ?_)
  cases prepared : prepareCommandEvidence codec command change.evidenceDigest with
  | error error => exact sound
  | ok stored =>
    refine sound_transitionInternal sound fun sequence => ⟨?_, ⟨[], rfl⟩⟩
    exact prepareCommandEvidence_ok prepared _ _ rfl

theorem sound_transitionWithDiagnostics {diagnostics : List ManagedConfigDiagnosticView} :
    Outcome (transitionWithDiagnostics codec operationId change diagnostics) ledger
      fun _ after => Sound codec after := by
  unfold transitionWithDiagnostics
  split
  · exact sound_transition sound
  · refine Outcome.bind (outcome_check ?_)
    cases prepared : prepareDiagnostics codec change.evidenceDigest diagnostics with
    | error error => exact sound
    | ok result =>
      obtain ⟨_, loads⟩ := prepareDiagnostics_ok prepared
      exact sound_transitionInternal sound fun sequence => ⟨⟨none, rfl⟩, loads sequence⟩

theorem sound_transitionWithDiagnosticsAndCommand
    {diagnostics : List ManagedConfigDiagnosticView} {command : OperationCommandEvidenceView} :
    Outcome (transitionWithDiagnosticsAndCommand codec operationId change diagnostics command)
      ledger fun _ after => Sound codec after := by
  unfold transitionWithDiagnosticsAndCommand
  split
  · exact sound_transitionWithCommandEvidence sound
  · refine Outcome.bind (outcome_check ?_)
    cases ready : prepareCommandEvidence codec command change.evidenceDigest with
    | error error => exact sound
    | ok stored =>
      refine Outcome.bind (outcome_check ?_)
      cases prepared : prepareDiagnostics codec change.evidenceDigest diagnostics with
      | error error => exact sound
      | ok result =>
        obtain ⟨validator, loads⟩ := prepareDiagnostics_ok prepared
        refine sound_transitionInternal sound fun sequence => ⟨?_, loads sequence⟩
        exact prepareCommandEvidence_ok ready _ _ validator

theorem sound_openLedger (failure : OpsError) :
    Outcome (openLedger codec failure) ledger fun _ after => Sound codec after := by
  refine Outcome.bind (Outcome.execute sound (Outcome.bind (Outcome.query sound ?_)))
  dsimp only [id]
  cases validateContinuity codec ledger with
  | error error => exact sound
  | ok value => exact sound_completePendingCheckpoint sound

theorem sound_createOrReusePlan (plan : StoredPlan) :
    Outcome (createOrReusePlan codec plan) ledger fun _ after => Sound codec after :=
  sound_committing sound outcome_createPlanTransaction trivial fun _ => Outcome.ret _ rfl

theorem sound_run (call : Call) :
    Outcome (call.run codec) ledger fun _ after => Sound codec after := by
  have unanswered {α : Type} {program : Sql α}
      (holds : Outcome program ledger fun _ after => Sound codec after) :
      Outcome (do let _ ← program) ledger fun _ after => Sound codec after := by
    refine Outcome.bind (holds.mono ?_)
    intro result after kept
    cases result with
    | error error => exact kept
    | ok value => exact Outcome.ret _ kept
  cases call with
  | openLedger failure => exact sound_openLedger sound failure
  | createOrReusePlan plan => exact unanswered (sound_createOrReusePlan sound plan)
  | beginOperation approval =>
    exact unanswered (sound_committing sound outcome_beginTransaction trivial
      fun _ => outcome_load rfl rfl)
  | attachSnapshot operationId snapshot nowMs =>
    exact unanswered (sound_committing sound
      outcome_attachTransaction trivial
      fun _ => outcome_load rfl rfl)
  | transition operationId change => exact unanswered (sound_transition sound)
  | transitionWithCommandEvidence operationId change command =>
    exact unanswered (sound_transitionWithCommandEvidence sound)
  | transitionWithDiagnostics operationId change diagnostics =>
    exact unanswered (sound_transitionWithDiagnostics sound)
  | transitionWithDiagnosticsAndCommand operationId change diagnostics command =>
    exact unanswered (sound_transitionWithDiagnosticsAndCommand sound)

theorem sound_runCuts (cuts : List Cut) :
    Sound codec (runCuts codec ledger cuts) := by
  induction cuts generalizing ledger with
  | nil => exact sound
  | cons cut rest ih => exact ih (sound_run sound cut.call cut.faults)

end

end Running

/-! ### Opening -/

section Opening

variable {ledger : LedgerState}

theorem validateEvent_linked {tables : Tables} {event : EventRow} {rest : List EventRow}
    (linked : Linked codec expected previous (event :: rest))
    (evidence : EvidenceLoads codec (commandOf tables event.sequence)
      (diagnosticsOf tables event.sequence) event.evidenceDigest) :
    validateEvent codec tables expected previous event = .ok () := by
  obtain ⟨⟨number, before, digest⟩, _⟩ := linked
  obtain ⟨⟨command, commandLoaded⟩, ⟨diagnostics, loaded⟩⟩ := evidence
  have place : ¬(event.sequence ≠ expected ∨ event.previousDigest ≠ previous) := by
    simp [number, before]
  unfold validateEvent
  simp only [if_neg place, digest, commandLoaded, loaded, bind, Except.bind, pure, Except.pure,
    ne_eq, not_true_eq_false, ↓reduceIte]

theorem validateChain_linked {tables : Tables} (linked : Linked codec expected previous events)
    (evidence : ∀ event ∈ events, EvidenceLoads codec (commandOf tables event.sequence)
      (diagnosticsOf tables event.sequence) event.evidenceDigest)
    (small : expected + events.length ≤ i64Max) :
    validateChain codec tables expected previous events = .ok (expected + events.length - 1) := by
  induction events generalizing expected previous with
  | nil => simp [validateChain]
  | cons event rest ih =>
    rw [List.length_cons] at small ⊢
    push_cast at small ⊢
    have next : saturatingSucc expected = expected + 1 := by
      unfold saturatingSucc
      omega
    have passed := validateEvent_linked linked (evidence event List.mem_cons_self)
    have later := ih linked.2 (fun other member => evidence other (List.mem_cons_of_mem _ member))
      (by omega)
    rw [validateChain, passed, next]
    change validateChain codec tables (expected + 1) event.eventDigest rest = _
    rw [later]
    congr 1
    omega

/-- A number that asks nothing of the checkpoint, or that of an event which calls for one. -/
def CalledFor (ledger : LedgerState) (number : Int) : Prop :=
  number = 0 ∨ ∃ event ∈ ledger.tables.ledgerEvents, event.sequence = number ∧
    dueAfter event = true

theorem calledFor_terminal (ledger : LedgerState) :
    CalledFor ledger (((ledger.tables.ledgerEvents.filter fun event =>
      event.stage.isTerminal).getLast?.map EventRow.sequence).getD 0) := by
  cases found : (ledger.tables.ledgerEvents.filter fun event =>
      event.stage.isTerminal).getLast? with
  | none => exact .inl rfl
  | some event =>
    obtain ⟨member, ends⟩ := List.mem_filter.mp (List.mem_of_getLast? found)
    refine .inr ⟨event, member, rfl, ?_⟩
    rw [dueAfter, ends]
    rfl

theorem calledFor_periodic (sound : Sound codec ledger) {latest : Int}
    (last : latest = ledger.tables.ledgerEvents.length) :
    CalledFor ledger (latest - latest.emod checkpointInterval) := by
  have remainder : latest.emod checkpointInterval = latest % 128 := rfl
  rw [remainder]
  by_cases early : latest < 128
  · exact .inl (by omega)
  · have positive : 1 ≤ (latest - latest % 128).toNat := by omega
    obtain ⟨event, member, place⟩ := exists_sequence sound.vouched.linked positive (by omega)
    refine .inr ⟨event, member, by omega, ?_⟩
    have multiple : event.sequence % checkpointInterval = 0 := by
      change event.sequence % 128 = 0
      omega
    rw [dueAfter, multiple]
    simp

theorem validateCheckpoint_ok (sound : Sound codec ledger) {latest : Int}
    (last : latest = ledger.tables.ledgerEvents.length) :
    validateCheckpoint ledger latest = .ok () := by
  have terminal := calledFor_terminal ledger
  have periodic := calledFor_periodic sound last
  unfold validateCheckpoint
  dsimp only
  generalize ((ledger.tables.ledgerEvents.filter fun event =>
    event.stage.isTerminal).getLast?.map EventRow.sequence).getD 0 = terminalSequence at terminal ⊢
  generalize latest - latest.emod checkpointInterval = periodicSequence at periodic ⊢
  have largest : CalledFor ledger (max terminalSequence periodicSequence) := by
    rcases le_total terminalSequence periodicSequence with less | less
    · rw [max_eq_right less]
      exact periodic
    · rw [max_eq_left less]
      exact terminal
  generalize max terminalSequence periodicSequence = required at largest ⊢
  have inRange :
    ¬(ledger.metadata.any fun sequence => sequence ≤ 0 || latest < sequence) = true := by
    cases marked : ledger.metadata with
    | none => simp
    | some sequence =>
      have bounds := sound.covered.marker sequence marked
      simp only [Option.any_some, Bool.or_eq_true, decide_eq_true_eq, not_or]
      omega
  rw [if_neg inRange]
  -- an event that no checkpoint reaches is one that the marker reaches
  have reached : required = 0 ∨ (ledger.metadata.any fun sequence => required ≤ sequence) = true ∨
      ∃ checkpoint, ledger.checkpoint = some checkpoint ∧ required ≤ checkpoint.sequence := by
    rcases largest with zero | ⟨event, member, rfl, due⟩
    · exact .inl zero
    · rcases sound.covered.due event member due with ⟨sequence, marked, within⟩ | covered
      · refine .inr (.inl ?_)
        rw [marked]
        simpa using within
      · exact .inr (.inr covered)
  cases written : ledger.checkpoint with
  | none =>
    dsimp only
    rw [if_pos]
    rcases reached with zero | marked | ⟨checkpoint, file, _⟩
    · exact .inl zero
    · exact .inr marked
    · rw [written] at file
      cases file
  | some checkpoint =>
    obtain ⟨version, event, member, number, digest⟩ := sound.covered.file checkpoint written
    have bounds := linked_bounds sound.vouched.linked member
    dsimp only
    rw [if_neg, if_pos]
    · rw [← number, linked_lookup sound.vouched.linked member, ← digest]
      rfl
    · simp only [not_or, not_and, not_not, ne_eq, Bool.not_eq_true, Bool.not_eq_false']
      refine ⟨version, by omega, fun below => ?_⟩
      rcases reached with zero | marked | ⟨other, file, within⟩
      · omega
      · simpa using marked
      · rw [written] at file
        obtain rfl := Option.some.inj file
        omega

theorem validateContinuity_ok (sound : Sound codec ledger)
    (few : (ledger.tables.ledgerEvents.length : Int) < i64Max) :
    validateContinuity codec ledger = .ok () := by
  have chain := validateChain_linked sound.vouched.linked sound.vouched.evidence
    (show 1 + _ ≤ i64Max by omega)
  unfold validateContinuity
  rw [chain]
  exact validateCheckpoint_ok sound (by omega)

/-- Without faults a pending checkpoint is completed. -/
theorem completePendingCheckpoint_quiet (sound : Sound codec ledger) :
    ∃ checkpoint, completePendingCheckpoint ⟨ledger, []⟩ =
      (.ok (), ⟨⟨ledger.tables, none, checkpoint⟩, []⟩) := by
  obtain ⟨tables, metadata, file⟩ := ledger
  unfold completePendingCheckpoint
  rw [run_bind, run_query_quiet rfl]
  cases metadata with
  | none => exact ⟨file, rfl⟩
  | some required =>
    have bounds := sound.covered.marker required rfl
    cases found : tables.lastEvent with
    | none =>
      have empty : tables.ledgerEvents = [] := List.getLast?_eq_none_iff.mp found
      simp only [empty, List.length_nil] at bounds
      omega
    | some last =>
      obtain ⟨_, place⟩ := lastEvent_sequence sound.vouched found
      have within : ¬last.sequence < required := by omega
      refine ⟨some ⟨1, last.sequence, last.eventDigest⟩, ?_⟩
      dsimp only
      rw [run_bind, load, run_query_quiet rfl]
      dsimp only
      rw [found]
      dsimp only
      rw [run_bind, rejectIf, if_neg within]
      change (_, Session.mk (LedgerState.mk tables
        (if some required = some required then none else some required) _) _) = _
      rw [if_pos rfl]
      rfl

theorem run_write_quiet {refused : OpsError} {admitted : Tables → Bool} {change : Tables → Tables}
    (takes : admitted ledger.tables = true) :
    write refused admitted change ⟨ledger, []⟩ =
      (.ok (), ⟨{ ledger with tables := change ledger.tables }, []⟩) := by
  refine run_statement_quiet ?_
  rw [if_pos takes]

theorem run_mark_quiet (sequence : Int) (terminal : Bool) :
    markCheckpointIfNeeded sequence terminal ⟨ledger, []⟩ =
      (.ok (), ⟨{ ledger with
        metadata :=
          if terminal || sequence % checkpointInterval == 0 then some sequence
          else ledger.metadata }, []⟩) := by
  unfold markCheckpointIfNeeded
  cases terminal || sequence % checkpointInterval == 0 with
  | true => rfl
  | false => rfl

theorem run_appendEvent_quiet {input : EventInput} {event : EventRow}
    (appended : Appended codec ledger.tables input event) :
    appendEvent codec input ⟨ledger, []⟩ = (.ok event.sequence, ⟨{ ledger with tables :=
      { ledger.tables with ledgerEvents := ledger.tables.ledgerEvents ++ [event] } }, []⟩) := by
  obtain ⟨computed, fresh⟩ := appended
  unfold appendEvent select
  rw [run_bind, run_query_quiet rfl]
  dsimp only
  rw [computed, run_bind]
  change (insertEvent event >>= fun _ => pure event.sequence) _ = _
  rw [run_bind, insertEvent, run_write_quiet]
  · rfl
  · simp only [Bool.not_eq_true', List.any_eq_false, Bool.or_eq_true, beq_iff_eq, not_or]
    exact fresh

/-- Without faults a plan with an unused key, identifier and hash is stored. -/
theorem createOrReusePlan_quiet (sound : Sound codec ledger) {plan : StoredPlan} {event : EventRow}
    (unbound : ledger.tables.findIdempotency plan.idempotencyKey = none)
    (fresh : ∀ other ∈ ledger.tables.plans, other.planId ≠ plan.planId ∧
      other.planHash ≠ plan.planHash ∧ other.idempotencyKey ≠ plan.idempotencyKey)
    (appended : Appended codec ledger.tables (planEvent plan) event) :
    ∃ checkpoint, createOrReusePlan codec plan ⟨ledger, []⟩ =
      (.ok plan, ⟨⟨planned ledger.tables plan event, none, checkpoint⟩, []⟩) := by
  have block : createPlanTransaction codec plan ⟨ledger, []⟩ = (.ok (.committed ()),
      ⟨⟨planned ledger.tables plan event, if false || event.sequence % checkpointInterval == 0 then
        some event.sequence else ledger.metadata, ledger.checkpoint⟩, []⟩) := by
    unfold createPlanTransaction select
    rw [run_bind, run_query_quiet rfl]
    dsimp only
    rw [unbound]
    dsimp only
    rw [run_bind, insertPlan, run_write_quiet]
    · dsimp only
      rw [run_bind, insertIdempotency, run_write_quiet]
      · dsimp only
        rw [run_bind, @run_appendEvent_quiet codec _ _ event]
        · dsimp only
          rw [run_bind, run_mark_quiet]
          rfl
        · exact appended
      · simp only [Bool.not_eq_true', List.any_eq_false, beq_iff_eq]
        exact lookup_eq_none.mp unbound
    · simp only [Bool.not_eq_true', List.any_eq_false, Bool.or_eq_true, beq_iff_eq, not_or,
        and_assoc]
      exact fresh
  have ended := @outcome_createPlanTransaction codec ledger plan []
  rw [block] at ended
  obtain ⟨checkpoint, completed⟩ := completePendingCheckpoint_quiet
    (@Sound.committed codec ledger ⟨planned ledger.tables plan event, _, _⟩
      (.createOrReusePlan plan) sound ended.1 trivial ended.2)
  refine ⟨checkpoint, ?_⟩
  unfold createOrReusePlan committing
  rw [run_bind, run_transaction_committed block]
  dsimp only
  rw [run_bind, completed]
  rfl

/-- Without faults a sound ledger opens, and its pending checkpoint is completed. -/
theorem openLedger_quiet (sound : Sound codec ledger)
    (few : (ledger.tables.ledgerEvents.length : Int) < i64Max) (failure : OpsError) :
    ∃ checkpoint, openLedger codec failure ⟨ledger, []⟩ =
      (.ok (), ⟨⟨ledger.tables, none, checkpoint⟩, []⟩) := by
  obtain ⟨checkpoint, completed⟩ := completePendingCheckpoint_quiet sound
  refine ⟨checkpoint, ?_⟩
  unfold openLedger
  rw [run_bind, run_execute_quiet]
  dsimp only [id]
  rw [run_bind, run_query_quiet (validateContinuity_ok sound few)]
  exact completed

/-- The state that an opening leaves: no marker, and a checkpoint that names an event of the chain
and reaches every event that calls for one. -/
structure Converged (ledger : LedgerState) : Prop where
  unmarked : ledger.metadata = none
  named : ∀ checkpoint, ledger.checkpoint = some checkpoint →
    ∃ event ∈ ledger.tables.ledgerEvents, event.sequence = checkpoint.sequence ∧
      event.eventDigest = checkpoint.eventDigest
  reached : ∀ event ∈ ledger.tables.ledgerEvents,
    event.stage.isTerminal = true ∨ event.sequence % 128 = 0 →
    ∃ checkpoint, ledger.checkpoint = some checkpoint ∧ event.sequence ≤ checkpoint.sequence

/-- After calls that were cut short anywhere, among them openings, the next opening passes. -/
theorem opening_converges (codec : Codec) (cuts : List Cut) (failure : OpsError)
    (few : ((runCuts codec emptyLedger cuts).tables.ledgerEvents.length : Int) < 2 ^ 63 - 1) :
    (openLedger codec failure ⟨runCuts codec emptyLedger cuts, []⟩).1 = .ok () ∧
      (openLedger codec failure ⟨runCuts codec emptyLedger cuts, []⟩).2.store.tables =
        (runCuts codec emptyLedger cuts).tables ∧
      Converged (openLedger codec failure ⟨runCuts codec emptyLedger cuts, []⟩).2.store := by
  have sound := sound_runCuts (@sound_emptyLedger codec) cuts
  generalize runCuts codec emptyLedger cuts = ledger at few sound
  have kept := sound_openLedger sound failure []
  obtain ⟨checkpoint, opened⟩ := openLedger_quiet sound few failure
  rw [opened] at kept ⊢
  refine ⟨rfl, rfl, rfl, ?_, ?_⟩
  · intro file written
    exact (kept.covered.file file written).2
  · intro event member calls
    have due : dueAfter event = true := by
      unfold dueAfter
      rw [Bool.or_eq_true, beq_iff_eq]
      exact calls
    rcases kept.covered.due event member due with ⟨_, marked, _⟩ | reached
    · cases marked
    · exact reached

/-- A cancellation that ends between its commit and the rename of its checkpoint file. -/
def cutShort : List Cut :=
  [⟨.createOrReusePlan samplePlan, []⟩, ⟨.beginOperation sampleApproval, []⟩,
    ⟨.transition sampleApproval.operationId
      ⟨[.approved], .cancelledBeforeApply, "cancelled", "", none, none, 3⟩,
      List.replicate 11 false ++ [true]⟩]

theorem opening_converges_of_cutShort :
    ((runCuts sampleCodec emptyLedger cutShort).metadata = some 3 ∧
      (runCuts sampleCodec emptyLedger cutShort).checkpoint = none) ∧
    (openLedger sampleCodec .forensicLockdown
      ⟨runCuts sampleCodec emptyLedger cutShort, []⟩).1 = .ok () ∧
    Converged (openLedger sampleCodec .forensicLockdown
      ⟨runCuts sampleCodec emptyLedger cutShort, []⟩).2.store := by
  have reached : ((runCuts sampleCodec emptyLedger cutShort).metadata = some 3 ∧
      (runCuts sampleCodec emptyLedger cutShort).checkpoint = none) ∧
      ((runCuts sampleCodec emptyLedger cutShort).tables.ledgerEvents.length : Int) <
        2 ^ 63 - 1 := by
    decide +kernel
  obtain ⟨passed, _, converged⟩ :=
    opening_converges sampleCodec cutShort .forensicLockdown reached.2
  exact ⟨reached.1, passed, converged⟩

/-- A ledger whose events call for no checkpoint has none after its opening. -/
theorem opening_without_checkpoint :
    (openLedger sampleCodec .forensicLockdown ⟨runCuts sampleCodec emptyLedger
        [⟨.createOrReusePlan samplePlan, []⟩], []⟩).1 = .ok () ∧
      (openLedger sampleCodec .forensicLockdown ⟨runCuts sampleCodec emptyLedger
        [⟨.createOrReusePlan samplePlan, []⟩], []⟩).2.store.checkpoint = none := by
  decide +kernel

end Opening

end JwOps.Ledger.Checkpoints
