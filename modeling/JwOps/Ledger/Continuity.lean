/- module: Ledger/Continuity
   source: crates/jw-opsd/src/ledger.rs (open, validate_continuity, validate_checkpoint)
   digest: The check of a database as it is found on disk, and what its checkpoint commits to. -/
import JwOps.Foundation.Chain
import JwOps.Ledger.Reads

set_option autoImplicit false

namespace JwOps.Ledger.Continuity

open Contracts Foundation Operation Digest Schema Writes Reads Keyed Chain

/-! ### A database on disk -/

/-- A value as SQLite keeps it in a column declared NOT NULL, whatever type the column declares. A
text that is not UTF-8 is a blob here: both are refused by the same error. -/
inductive Value where
  | integer (value : Int)
  | real (bits : BitVec 64)
  | text (value : String)
  | blob (bytes : Bytes)
  deriving DecidableEq, Repr

/-- `row.get` into a `String`. -/
def Value.asText : Value → Except OpsError String
  | .text value => .ok value
  | _ => .error sqlError

/-- `row.get` into an `i64`. -/
def Value.asInteger : Value → Except OpsError Int
  | .integer value => .ok value
  | _ => .error sqlError

def Value.isText : Value → Bool
  | .text _ => true
  | _ => false

def Value.isInteger : Value → Bool
  | .integer _ => true
  | _ => false

/-- A row of `ledger_events`. Its key is the row number, which is always an integer. -/
structure EventColumns where
  sequence : Int
  operationId : Value
  planId : Value
  stage : Value
  resultCode : Value
  recordedAtMs : Value
  evidenceDigest : Value
  previousDigest : Value
  eventDigest : Value
  deriving DecidableEq, Repr

structure CommandColumns where
  sequence : Int
  commandJson : Value
  deriving DecidableEq, Repr

structure DiagnosticsColumns where
  sequence : Int
  diagnosticsJson : Value
  diagnosticsDigest : Value
  validatorEvidenceDigest : Value
  deriving DecidableEq, Repr

/-- What reading the checkpoint file gives, its metadata checks included. -/
inductive CheckpointFile where
  | absent
  | refused
  | contents (bytes : Bytes)
  deriving DecidableEq, Repr

/-- The tables that the continuity check reads, `events` in the order of their key, with the answer
of `PRAGMA integrity_check` and the checkpoint file beside them. -/
structure Database where
  integrity : String
  events : List EventColumns
  commands : List CommandColumns
  diagnostics : List DiagnosticsColumns
  pendingSequence : Option Int
  checkpointFile : CheckpointFile
  deriving DecidableEq, Repr

/-- The JSON readers that the check takes from its library. -/
structure Decoder where
  command : String → Option OperationCommandEvidenceView
  diagnostics : String → Option (List ManagedConfigDiagnosticView)
  checkpoint : Bytes → Option Checkpoint

/-! ### The check -/

/-- A row of `ledger_events` after its columns were taken. -/
structure EventText where
  sequence : Int
  operationId : String
  planId : String
  stage : String
  resultCode : String
  recordedAtMs : Int
  evidenceDigest : String
  previousDigest : String
  eventDigest : String
  deriving DecidableEq, Repr

def EventColumns.read (row : EventColumns) : Except OpsError EventText := do
  let operationId ← row.operationId.asText
  let planId ← row.planId.asText
  let stage ← row.stage.asText
  let resultCode ← row.resultCode.asText
  let recordedAtMs ← row.recordedAtMs.asInteger
  let evidenceDigest ← row.evidenceDigest.asText
  let previousDigest ← row.previousDigest.asText
  let eventDigest ← row.eventDigest.asText
  pure ⟨row.sequence, operationId, planId, stage, resultCode, recordedAtMs, evidenceDigest,
    previousDigest, eventDigest⟩

def EventText.canonical (event : EventText) : CanonicalEvent where
  schemaVersion := 1
  sequence := event.sequence
  previousDigest := event.previousDigest
  operationId := event.operationId
  planId := event.planId
  stage := event.stage
  resultCode := event.resultCode
  recordedAtMs := event.recordedAtMs
  evidenceDigest := event.evidenceDigest

/-- The columns of `managed_config_diagnostics` that the join adds to an event. -/
structure DiagnosticsText where
  json : String
  digest : String
  validatorEvidenceDigest : String
  deriving DecidableEq, Repr

def CommandColumns.read (row : CommandColumns) : Except OpsError String := row.commandJson.asText

def DiagnosticsColumns.read (row : DiagnosticsColumns) : Except OpsError DiagnosticsText := do
  let json ← row.diagnosticsJson.asText
  let digest ← row.diagnosticsDigest.asText
  let validatorEvidenceDigest ← row.validatorEvidenceDigest.asText
  pure ⟨json, digest, validatorEvidenceDigest⟩

/-- A column that a `LEFT JOIN` adds: null where the table has no row. -/
def joined {α β : Type} (row : Option α) (read : α → Except OpsError β) :
    Except OpsError (Option β) :=
  match row with
  | none => .ok none
  | some row => (read row).map some

section Check

variable (codec : Codec) (decoder : Decoder)

def loadCommandText (json : Option String) (eventEvidenceDigest : String)
    (validatorEvidenceDigest : Option String) :
    Except OpsError (Option OperationCommandEvidenceView) :=
  match json with
  | none => .ok none
  | some json =>
    match decoder.command json with
    | none => .error .forensicLockdown
    | some command =>
      loadCommandEvidence codec (some command) eventEvidenceDigest validatorEvidenceDigest

def loadDiagnosticsText (stored : Option DiagnosticsText) (eventEvidenceDigest : String) :
    Except OpsError (List ManagedConfigDiagnosticView) :=
  match stored with
  | none => .ok []
  | some stored =>
    if (validateDigest stored.digest).toBool = false ∨
        (validateDigest stored.validatorEvidenceDigest).toBool = false ∨
        sha256Digest codec (utf8Bytes stored.json) ≠ stored.digest
    then .error .forensicLockdown
    else
      match decoder.diagnostics stored.json with
      | none => .error .forensicLockdown
      | some diagnostics =>
        if diagnostics = [] ∨ managedConfigDiagnosticMaxEntries < diagnostics.length ∨
            diagnostics.any (fun diagnostic => !diagnostic.validateShape.toBool) ∨
            diagnosticEvidenceDigest codec stored.validatorEvidenceDigest stored.digest ≠
              eventEvidenceDigest
        then .error .forensicLockdown
        else .ok diagnostics

/-- One turn of the loop. The state is `(expected_sequence, previous)`. -/
def validateEventRow (database : Database) (state : Int × String) (row : EventColumns) :
    Except OpsError (Int × String) := do
  let event ← row.read
  let command ← joined (lookup CommandColumns.sequence row.sequence database.commands)
    CommandColumns.read
  let diagnostics ← joined
    (lookup DiagnosticsColumns.sequence row.sequence database.diagnostics) DiagnosticsColumns.read
  if event.sequence ≠ state.1 ∨ event.previousDigest ≠ state.2 then throw .forensicLockdown
  let expectedDigest ← ledgerEventDigest codec state.2 (codec.eventJson event.canonical)
  if event.eventDigest ≠ expectedDigest then throw .forensicLockdown
  let _ ← loadCommandText codec decoder command event.evidenceDigest
    (diagnostics.map DiagnosticsText.validatorEvidenceDigest)
  let _ ← loadDiagnosticsText codec decoder diagnostics event.evidenceDigest
  pure (saturatingSucc state.1, event.eventDigest)

def validateCheckpointFile (database : Database) (latestSequence : Int) : Except OpsError Unit :=
  let terminal (row : EventColumns) : Bool :=
    [OperationStage.succeeded, .rolledBack, .recoveryRequired, .rejected, .expired,
      .cancelledBeforeApply].any fun stage => row.stage == .text stage.asStorageValue
  let terminalSequence := ((database.events.filter terminal).getLast?.map
    EventColumns.sequence).getD 0
  let periodicSequence := latestSequence - latestSequence.emod checkpointInterval
  let requiredSequence := max terminalSequence periodicSequence
  if database.checkpointFile = .refused then .error .forensicLockdown
  else if database.pendingSequence.any fun sequence => sequence ≤ 0 || latestSequence < sequence
  then .error .forensicLockdown
  else
    match database.checkpointFile with
    | .refused => .error .forensicLockdown
    | .absent =>
      if requiredSequence = 0 ∨
          database.pendingSequence.any fun sequence => requiredSequence ≤ sequence
      then .ok ()
      else .error .forensicLockdown
    | .contents bytes =>
      match decoder.checkpoint bytes with
      | none => .error .forensicLockdown
      | some checkpoint =>
        if checkpoint.schemaVersion ≠ 1 ∨ latestSequence < checkpoint.sequence ∨
            (checkpoint.sequence < requiredSequence ∧
              !(database.pendingSequence.any fun sequence => requiredSequence ≤ sequence))
        then .error .forensicLockdown
        else do
          let stored ← joined
            (lookup EventColumns.sequence checkpoint.sequence database.events)
            (fun row => row.eventDigest.asText)
          if stored = some checkpoint.eventDigest then .ok () else .error .forensicLockdown

def validateDatabase (database : Database) : Except OpsError Unit := do
  if database.integrity ≠ "ok" then throw .forensicLockdown
  let last ← database.events.foldlM (validateEventRow codec decoder database) (1, genesisDigest)
  validateCheckpointFile decoder database (last.1 - 1)

/-- `Ledger::open`: `prepared` is how the state directory, the pragmas and the migrations went, and
`completed` how a pending checkpoint is completed. -/
def openDatabase (prepared completed : Except OpsError Unit) (database : Database) :
    Except OpsError Unit := do
  prepared
  validateDatabase codec decoder database
  completed

end Check

/-! ### Columns of the declared types -/

/-- Every column holds a value of the type that its table declares. -/
def EventColumns.declared (row : EventColumns) : Bool :=
  row.operationId.isText && row.planId.isText && row.stage.isText && row.resultCode.isText &&
    row.recordedAtMs.isInteger && row.evidenceDigest.isText && row.previousDigest.isText &&
    row.eventDigest.isText

def DiagnosticsColumns.declared (row : DiagnosticsColumns) : Bool :=
  row.diagnosticsJson.isText && row.diagnosticsDigest.isText && row.validatorEvidenceDigest.isText

def Database.declared (database : Database) : Bool :=
  database.events.all EventColumns.declared &&
    database.commands.all (fun row => row.commandJson.isText) &&
    database.diagnostics.all DiagnosticsColumns.declared

def EventText.columns (event : EventText) : EventColumns where
  sequence := event.sequence
  operationId := .text event.operationId
  planId := .text event.planId
  stage := .text event.stage
  resultCode := .text event.resultCode
  recordedAtMs := .integer event.recordedAtMs
  evidenceDigest := .text event.evidenceDigest
  previousDigest := .text event.previousDigest
  eventDigest := .text event.eventDigest

theorem asText_ok {value : Value} {text : String} :
    value.asText = .ok text ↔ value = .text text := by
  cases value <;> simp [Value.asText]

theorem asInteger_ok {value : Value} {number : Int} :
    value.asInteger = .ok number ↔ value = .integer number := by
  cases value <;> simp [Value.asInteger]

theorem isText_iff {value : Value} : value.isText = true ↔ ∃ text, value = .text text := by
  cases value <;> simp [Value.isText]

theorem isInteger_iff {value : Value} :
    value.isInteger = true ↔ ∃ number, value = .integer number := by
  cases value <;> simp [Value.isInteger]

@[simp] theorem columns_read (event : EventText) : event.columns.read = .ok event := rfl

theorem read_ok {row : EventColumns} {event : EventText} :
    row.read = .ok event ↔ row = event.columns := by
  constructor
  · intro read
    simp only [EventColumns.read, bind_ok, asText_ok, asInteger_ok] at read
    obtain ⟨_, h1, _, h2, _, h3, _, h4, _, h5, _, h6, _, h7, _, h8, done⟩ := read
    obtain rfl := Except.ok.inj done
    cases row
    simp_all [EventText.columns]
  · rintro rfl
    rfl

theorem EventColumns.declared_iff {row : EventColumns} :
    row.declared = true ↔ ∃ event : EventText, row = event.columns := by
  constructor
  · intro declared
    simp only [EventColumns.declared, Bool.and_eq_true, isText_iff, isInteger_iff] at declared
    obtain ⟨⟨⟨⟨⟨⟨⟨⟨o, h1⟩, p, h2⟩, s, h3⟩, r, h4⟩, t, h5⟩, e, h6⟩, v, h7⟩, d, h8⟩ := declared
    refine ⟨⟨row.sequence, o, p, s, r, t, e, v, d⟩, ?_⟩
    cases row
    simp_all [EventText.columns]
  · rintro ⟨event, rfl⟩
    rfl

theorem DiagnosticsColumns.read_of_declared {row : DiagnosticsColumns}
    (declared : row.declared = true) : ∃ text, row.read = .ok text := by
  simp only [DiagnosticsColumns.declared, Bool.and_eq_true, isText_iff] at declared
  obtain ⟨⟨⟨json, h1⟩, digest, h2⟩, validator, h3⟩ := declared
  refine ⟨⟨json, digest, validator⟩, ?_⟩
  simp only [DiagnosticsColumns.read, h1, h2, h3, Value.asText]
  rfl

/-! ### What a passed row says -/

theorem joined_ok {α β : Type} {row : Option α} {read : α → Except OpsError β}
    (readable : ∀ value, row = some value → ∃ text, read value = .ok text) :
    ∃ text, joined row read = .ok text := by
  cases row with
  | none => exact ⟨none, rfl⟩
  | some value =>
    obtain ⟨text, same⟩ := readable value rfl
    exact ⟨some text, by simp [joined, same, Except.map]⟩

section Passed

variable {codec : Codec} {decoder : Decoder} {database : Database}

variable {state : Int × String} {row : EventColumns} {digest : String} {error : OpsError}

/-- What is hashed for an event after a raw digest. -/
def ledgerInput (codec : Codec) (rawPrevious : Bytes) (event : EventText) : Bytes :=
  utf8Bytes "jw-agent/ledger/v1" ++ [0] ++ rawPrevious ++ codec.eventJson event.canonical

theorem validateEventRow_ok {after : Int × String}
    (passes : validateEventRow codec decoder database state row = .ok after) :
    ∃ event rawPrevious, row = event.columns ∧ state = (event.sequence, event.previousDigest) ∧
      decodeSha256 event.previousDigest = .ok rawPrevious ∧
      event.eventDigest = sha256Digest codec (ledgerInput codec rawPrevious event) ∧
      after = (saturatingSucc event.sequence, event.eventDigest) := by
  simp only [validateEventRow, bind_ok] at passes
  obtain ⟨event, read, command, _, diagnostics, _, passes⟩ := passes
  obtain rfl := read_ok.mp read
  obtain ⟨expected, previous⟩ := state
  split_ifs at passes with place
  · cases passes
  simp only [not_or, not_not] at place
  obtain ⟨rfl, rfl⟩ := place
  simp only [bind_ok, ledgerEventDigest] at passes
  obtain ⟨digest, ⟨raw, decoded, same⟩, passes⟩ := passes
  obtain rfl := Except.ok.inj same
  split_ifs at passes with digests
  · cases passes
  simp only [bind_ok] at passes
  obtain ⟨_, _, _, _, done⟩ := passes
  exact ⟨event, raw, rfl, rfl, decoded, not_not.mp digests, (Except.ok.inj done).symm⟩

/-! ### Refusals -/

theorem loadCommandText_error {json : Option String} {validator : Option String}
    (refused : loadCommandText codec decoder json digest validator = .error error) :
    error = .forensicLockdown := by
  cases json with
  | none => cases refused
  | some json =>
    unfold loadCommandText loadCommandEvidence at refused
    dsimp only at refused
    split at refused
    · exact (Except.error.inj refused).symm
    · split_ifs at refused
      exact (Except.error.inj refused).symm

theorem loadDiagnosticsText_error {stored : Option DiagnosticsText}
    (refused : loadDiagnosticsText codec decoder stored digest = .error error) :
    error = .forensicLockdown := by
  cases stored with
  | none => cases refused
  | some stored =>
    unfold loadDiagnosticsText at refused
    dsimp only at refused
    split_ifs at refused
    · exact (Except.error.inj refused).symm
    · split at refused
      · exact (Except.error.inj refused).symm
      · split_ifs at refused
        exact (Except.error.inj refused).symm

/-- With every column of its declared type a row is refused as tampered with or not at all. -/
theorem validateEventRow_error (declared : database.declared = true)
    (member : row ∈ database.events)
    (refused : validateEventRow codec decoder database state row = .error error) :
    error = .forensicLockdown := by
  simp only [Database.declared, Bool.and_eq_true, List.all_eq_true] at declared
  obtain ⟨⟨events, commands⟩, diagnostics⟩ := declared
  obtain ⟨event, rfl⟩ := EventColumns.declared_iff.mp (events _ member)
  obtain ⟨command, commandRead⟩ := @joined_ok _ _
    (lookup CommandColumns.sequence event.sequence database.commands) CommandColumns.read
    fun value found => by
      obtain ⟨text, same⟩ := isText_iff.mp (commands value (lookup_mem found))
      exact ⟨text, asText_ok.mpr same⟩
  obtain ⟨stored, storedRead⟩ := @joined_ok _ _
    (lookup DiagnosticsColumns.sequence event.sequence database.diagnostics)
    DiagnosticsColumns.read
    fun value found => DiagnosticsColumns.read_of_declared (diagnostics value (lookup_mem found))
  have sequence : event.columns.sequence = event.sequence := rfl
  simp only [validateEventRow, columns_read, sequence, commandRead, storedRead] at refused
  change (if _ then _ else _) = _ at refused
  split_ifs at refused
  · exact (Except.error.inj refused).symm
  rw [bind_error] at refused
  rcases refused with undecoded | ⟨digest, _, refused⟩
  · simp only [ledgerEventDigest, bind_error] at undecoded
    rcases undecoded with undecoded | ⟨_, _, never⟩
    · exact decodeSha256_error undecoded
    · cases never
  split_ifs at refused
  · exact (Except.error.inj refused).symm
  simp only [bind_error] at refused
  rcases refused with commandRefused | ⟨_, _, diagnosticsRefused | ⟨_, _, never⟩⟩
  · exact loadCommandText_error commandRefused
  · exact loadDiagnosticsText_error diagnosticsRefused
  · cases never

theorem validateCheckpointFile_error (declared : database.declared = true) {latest : Int}
    (refused : validateCheckpointFile decoder database latest = .error error) :
    error = .forensicLockdown := by
  simp only [Database.declared, Bool.and_eq_true, List.all_eq_true] at declared
  have fromIf {condition : Prop} [Decidable condition] {first second : Except OpsError Unit}
      (refused : (if condition then first else second) = .error error) :
      first = .error error ∨ second = .error error := by
    split_ifs at refused
    · exact .inl refused
    · exact .inr refused
  have inj {value : OpsError} (same : (.error value : Except OpsError Unit) = .error error) :
      error = value := (Except.error.inj same).symm
  unfold validateCheckpointFile at refused
  dsimp only at refused
  rcases fromIf refused with refused | refused
  · exact inj refused
  rcases fromIf refused with refused | refused
  · exact inj refused
  split at refused
  · exact inj refused
  · rcases fromIf refused with never | refused
    · cases never
    · exact inj refused
  · split at refused
    · exact inj refused
    · rename_i checkpoint _
      rcases fromIf refused with refused | refused
      · exact inj refused
      obtain ⟨stored, read⟩ := @joined_ok _ _
        (lookup EventColumns.sequence checkpoint.sequence database.events)
        (fun row => row.eventDigest.asText) fun value found => by
          obtain ⟨event, rfl⟩ := EventColumns.declared_iff.mp (declared.1.1 _ (lookup_mem found))
          exact ⟨event.eventDigest, rfl⟩
      rw [read] at refused
      rcases fromIf refused with never | refused
      · cases never
      · exact inj refused

theorem validateDatabase_error (declared : database.declared = true)
    (refused : validateDatabase codec decoder database = .error error) :
    error = .forensicLockdown := by
  unfold validateDatabase at refused
  split_ifs at refused
  · exact (Except.error.inj refused).symm
  rcases bind_error.mp refused with broken | ⟨last, _, refused⟩
  · obtain ⟨state, row, member, refused⟩ := foldlM_error broken
    exact validateEventRow_error declared member refused
  · exact validateCheckpointFile_error declared refused

/-! ### Positions -/

theorem iterate_saturatingSucc {count : Nat} :
    saturatingSucc^[count] 1 = min ((count : Int) + 1) i64Max := by
  induction count with
  | zero => decide
  | succ count ih =>
    rw [Function.iterate_succ_apply', ih, saturatingSucc]
    push_cast
    omega

/-- The rows that passed are numbered from one on. -/
theorem sequence_of_passed {rows : List EventColumns} {last : Int × String}
    (passes : rows.foldlM (validateEventRow codec decoder database) (1, genesisDigest) = .ok last)
    {front back : List EventColumns} {row : EventColumns} (split : rows = front ++ row :: back) :
    row.sequence = min ((front.length : Int) + 1) i64Max := by
  subst split
  obtain ⟨middle, frontPasses, backPasses⟩ := foldlM_append_ok passes
  obtain ⟨next, checked, _⟩ := foldlM_cons_ok backPasses
  have position := @foldlM_measure _ _ _ _ _ _ _ _ Prod.fst saturatingSucc
    (fun before record after passed => by
      obtain ⟨event, _, _, rfl, _, _, rfl⟩ := validateEventRow_ok passed
      rfl) frontPasses
  obtain ⟨event, _, rfl, rfl, _⟩ := validateEventRow_ok checked
  exact position.trans iterate_saturatingSucc

/-- The checkpoint that the file beside the database holds. -/
def Database.checkpoint (decoder : Decoder) (database : Database) : Option Checkpoint :=
  match database.checkpointFile with
  | .contents bytes => decoder.checkpoint bytes
  | _ => none

theorem validateCheckpointFile_ok {latest : Int} {checkpoint : Checkpoint}
    (passes : validateCheckpointFile decoder database latest = .ok ())
    (named : database.checkpoint decoder = some checkpoint) :
    ∃ row, lookup EventColumns.sequence checkpoint.sequence database.events = some row ∧
      row.eventDigest = .text checkpoint.eventDigest := by
  unfold Database.checkpoint at named
  split at named
  · rename_i bytes file
    unfold validateCheckpointFile at passes
    simp only [file, named, reduceCtorEq, ↓reduceIte] at passes
    split_ifs at passes
    simp only [bind_ok] at passes
    obtain ⟨stored, read, same⟩ := passes
    split_ifs at same with agrees
    subst agrees
    cases found : lookup EventColumns.sequence checkpoint.sequence database.events with
    | none =>
      rw [found] at read
      cases read
    | some row =>
      rw [found] at read
      refine ⟨row, rfl, ?_⟩
      cases text : row.eventDigest.asText with
      | error error => simp [joined, text, Except.map] at read
      | ok value =>
        simp only [joined, text, Except.map, Except.ok.injEq, Option.some.injEq] at read
        rw [← read]
        exact asText_ok.mp text
  · cases named

/-- The first row with a sequence stands where the sequence says; the numbers of rows beyond the
largest one repeat it. -/
theorem position_of_first {rows : List EventColumns} {last : Int × String}
    (passes : rows.foldlM (validateEventRow codec decoder database) (1, genesisDigest) = .ok last)
    {front back : List EventColumns} (split : rows = front ++ row :: back)
    (first : ∀ earlier ∈ front, earlier.sequence ≠ row.sequence) :
    row.sequence = front.length + 1 ∧ row.sequence ≤ i64Max := by
  have numbered := sequence_of_passed passes split
  have positive : (0 : Int) < i64Max := by decide
  have small : (front.length : Int) + 1 ≤ i64Max := by
    by_contra large
    have bound : i64Max.toNat - 1 < front.length := by omega
    have parts : front = front.take (i64Max.toNat - 1) ++
        front[i64Max.toNat - 1] :: front.drop (i64Max.toNat - 1 + 1) := by
      rw [← List.drop_eq_getElem_cons bound, List.take_append_drop]
    have atLimit := @sequence_of_passed codec decoder database _ _ passes
      (front.take (i64Max.toNat - 1)) (front.drop (i64Max.toNat - 1 + 1) ++ row :: back)
      (front[i64Max.toNat - 1]) (by
        rw [split, ← List.cons_append, ← List.append_assoc, ← parts])
    rw [List.length_take] at atLimit
    have differs := first _ (List.getElem_mem bound)
    omega
  omega

/-- A checkpoint of a database that passes names the end of its first rows. -/
theorem passed_checkpoint {checkpoint : Checkpoint}
    (passes : validateDatabase codec decoder database = .ok ())
    (named : database.checkpoint decoder = some checkpoint) :
    ∃ count : Nat, checkpoint.sequence = count ∧ checkpoint.sequence ≤ i64Max ∧
      (database.events.take count).length = count ∧
      (database.events.take count).foldlM (validateEventRow codec decoder database)
        (1, genesisDigest) = .ok (saturatingSucc checkpoint.sequence, checkpoint.eventDigest) := by
  unfold validateDatabase at passes
  split_ifs at passes
  · cases passes
  obtain ⟨last, chain, passes⟩ := bind_ok.mp passes
  obtain ⟨row, found, digest⟩ := validateCheckpointFile_ok passes named
  have same := lookup_key found
  obtain ⟨_, front, back, split, fresh⟩ := List.find?_eq_some_iff_append.mp found
  have first : ∀ earlier ∈ front, earlier.sequence ≠ row.sequence := by
    intro earlier member
    have := fresh earlier member
    rw [same]
    simpa using this
  obtain ⟨place, small⟩ := position_of_first chain split first
  have cut : database.events.take (front.length + 1) = front ++ [row] := by
    rw [split, List.take_append, List.take_of_length_le (by omega)]
    simp
  refine ⟨front.length + 1, by rw [← same, place]; push_cast; rfl, same ▸ small, ?_, ?_⟩
  · rw [cut]
    simp
  · rw [split, ← List.singleton_append, ← List.append_assoc] at chain
    obtain ⟨middle, frontPasses, _⟩ := foldlM_append_ok chain
    obtain ⟨_, _, checked⟩ := foldlM_concat_ok frontPasses
    obtain ⟨event, _, rfl, _, _, _, rfl⟩ := validateEventRow_ok checked
    have text : event.eventDigest = checkpoint.eventDigest := by
      simpa [EventText.columns] using digest
    rw [cut, frontPasses, ← text, ← same]
    rfl

end Passed

/-! ### The database of a ledger -/

def eventColumns (event : EventRow) : EventColumns :=
  EventText.columns ⟨event.sequence, event.operationId, event.planId, event.stage.asStorageValue,
    event.resultCode, event.recordedAtMs, event.evidenceDigest, event.previousDigest,
    event.eventDigest⟩

/-- A database that keeps the tables of a ledger: the stages as their texts, the evidence as JSON
that reads back to it. -/
structure Stores (codec : Codec) (decoder : Decoder) (database : Database) (ledger : LedgerState) :
    Prop where
  integrity : database.integrity = "ok"
  events : database.events = ledger.tables.ledgerEvents.map eventColumns
  commands : List.Forall₂ (fun stored row => stored.sequence = row.sequence ∧
      ∃ json, stored.commandJson = .text json ∧ decoder.command json = some row.command)
    database.commands ledger.tables.operationCommandEvidence
  diagnostics : List.Forall₂ (fun stored row => stored.sequence = row.sequence ∧
      stored.diagnosticsDigest = .text row.diagnosticsDigest ∧
      stored.validatorEvidenceDigest = .text row.validatorEvidenceDigest ∧
      ∃ json, stored.diagnosticsJson = .text json ∧
        decoder.diagnostics json = some row.diagnostics ∧
        utf8Bytes json = codec.diagnosticsJson row.diagnostics)
    database.diagnostics ledger.tables.managedConfigDiagnostics
  pending : database.pendingSequence = ledger.metadata
  file : database.checkpointFile ≠ .refused
  checkpoint : database.checkpoint decoder = ledger.checkpoint
  absent : ledger.checkpoint = none → database.checkpointFile = .absent

section Stored

variable {codec : Codec} {decoder : Decoder} {database : Database} {ledger : LedgerState}

/-- Tables row by row alike have alike rows under a key. -/
theorem lookup_forall₂ {α β : Type} {key : α → Int} {otherKey : β → Int} {alike : α → β → Prop}
    (keys : ∀ row other, alike row other → key row = otherKey other) {rows : List α}
    {others : List β} (table : List.Forall₂ alike rows others) {wanted : Int} :
    (lookup key wanted rows = none ∧ lookup otherKey wanted others = none) ∨
      ∃ row other, lookup key wanted rows = some row ∧ lookup otherKey wanted others = some other ∧
        alike row other := by
  induction table with
  | nil => exact .inl ⟨rfl, rfl⟩
  | @cons row other rest others related _ ih =>
    have same := keys _ _ related
    by_cases here : key row = wanted
    · refine .inr ⟨row, other, ?_, ?_, related⟩
      · simp [lookup, here]
      · simp [lookup, ← same, here]
    · have differs : otherKey other ≠ wanted := same ▸ here
      simpa [lookup, here, differs] using ih

section

variable (stores : Stores codec decoder database ledger)
include stores

theorem Stores.command (sequence : Int) :
    ∃ json, joined (lookup CommandColumns.sequence sequence database.commands)
        CommandColumns.read = .ok json ∧
      ∀ digest validator, loadCommandText codec decoder json digest validator =
        loadCommandEvidence codec (commandOf ledger.tables sequence) digest validator := by
  rcases lookup_forall₂ (fun _ _ alike => alike.1) stores.commands with
    ⟨found, otherFound⟩ | ⟨row, other, found, otherFound, _, json, text, decoded⟩
  · refine ⟨none, by rw [found]; rfl, fun digest validator => ?_⟩
    rw [commandOf, otherFound]
    rfl
  · refine ⟨some json, ?_, fun digest validator => ?_⟩
    · rw [found]
      simp [joined, CommandColumns.read, text, Value.asText, Except.map]
    · rw [commandOf, otherFound]
      simp [loadCommandText, decoded]

theorem Stores.diagnosticsRead (sequence : Int) :
    ∃ stored, joined (lookup DiagnosticsColumns.sequence sequence database.diagnostics)
        DiagnosticsColumns.read = .ok stored ∧
      stored.map DiagnosticsText.validatorEvidenceDigest =
        (diagnosticsOf ledger.tables sequence).map DiagnosticsRow.validatorEvidenceDigest ∧
      ∀ digest, loadDiagnosticsText codec decoder stored digest =
        loadDiagnostics codec (diagnosticsOf ledger.tables sequence) digest := by
  rcases lookup_forall₂ (fun _ _ alike => alike.1) stores.diagnostics with
    ⟨found, otherFound⟩ | ⟨row, other, found, otherFound, _, digest, validator, json, text,
      decoded, bytes⟩
  · refine ⟨none, by rw [found]; rfl, ?_, fun digest => ?_⟩ <;>
    · rw [diagnosticsOf, otherFound]
      rfl
  · refine ⟨some ⟨json, other.diagnosticsDigest, other.validatorEvidenceDigest⟩, ?_, ?_,
      fun eventDigest => ?_⟩
    · rw [found]
      simp only [joined, DiagnosticsColumns.read, text, digest, validator, Value.asText]
      rfl
    · rw [diagnosticsOf, otherFound]
      rfl
    · rw [diagnosticsOf, otherFound]
      simp only [loadDiagnosticsText, loadDiagnostics, decoded, bytes, ite_or]

theorem Stores.event (expected : Int) (previous : String) (event : EventRow) :
    validateEventRow codec decoder database (expected, previous) (eventColumns event) =
      (validateEvent codec ledger.tables expected previous event).map fun _ =>
        (saturatingSucc expected, event.eventDigest) := by
  obtain ⟨json, commandRead, command⟩ := stores.command event.sequence
  obtain ⟨stored, storedRead, validator, diagnostics⟩ := stores.diagnosticsRead event.sequence
  have sequence : (eventColumns event).sequence = event.sequence := rfl
  have read : (eventColumns event).read = .ok _ := columns_read _
  simp only [validateEventRow, read, sequence, commandRead, storedRead, validateEvent, bind,
    Except.bind, command, diagnostics, validator]
  by_cases place : event.sequence ≠ expected ∨ event.previousDigest ≠ previous
  · rw [if_pos place, if_pos place]
    rfl
  · rw [if_neg place, if_neg place]
    simp only [not_or, not_not] at place
    obtain ⟨rfl, rfl⟩ := place
    simp only [EventText.canonical]
    cases ledgerEventDigest codec event.previousDigest _ with
    | error error => rfl
    | ok digest =>
      dsimp only
      split_ifs
      · rfl
      cases loadCommandEvidence codec _ event.evidenceDigest _ with
      | error error => rfl
      | ok value =>
        dsimp only
        cases loadDiagnostics codec _ event.evidenceDigest with
        | error error => rfl
        | ok value => rfl

theorem Stores.chain (rows : List EventRow) (expected : Int) (previous : String) :
    ((rows.map eventColumns).foldlM (validateEventRow codec decoder database)
      (expected, previous)).map (fun last => last.1 - 1) =
        validateChain codec ledger.tables expected previous rows := by
  induction rows generalizing expected previous with
  | nil => rfl
  | cons event rest ih =>
    rw [List.map_cons, List.foldlM_cons, stores.event, validateChain]
    cases validateEvent codec ledger.tables expected previous event with
    | error error => rfl
    | ok value => exact ih _ _

end

theorem terminal_text {stage : OperationStage} :
    ([OperationStage.succeeded, .rolledBack, .recoveryRequired, .rejected, .expired,
      .cancelledBeforeApply].any fun terminal =>
        Value.text stage.asStorageValue == .text terminal.asStorageValue) = stage.isTerminal := by
  cases stage <;> decide

theorem lookup_map_columns (rows : List EventRow) (sequence : Int) :
    lookup EventColumns.sequence sequence (rows.map eventColumns) =
      (lookup EventRow.sequence sequence rows).map eventColumns := by
  rw [lookup, List.find?_map]
  rfl

theorem Stores.file_ok (stores : Stores codec decoder database ledger) (latest : Int) :
    validateCheckpointFile decoder database latest = validateCheckpoint ledger latest := by
  have terminal : ((database.events.filter fun row =>
      [OperationStage.succeeded, .rolledBack, .recoveryRequired, .rejected, .expired,
        .cancelledBeforeApply].any fun stage =>
          row.stage == .text stage.asStorageValue).getLast?.map
          EventColumns.sequence) =
      ((ledger.tables.ledgerEvents.filter fun event => event.stage.isTerminal).getLast?.map
        EventRow.sequence) := by
    rw [stores.events, List.filter_map, List.getLast?_map, Option.map_map]
    have stages : (fun row : EventColumns =>
        [OperationStage.succeeded, .rolledBack, .recoveryRequired, .rejected, .expired,
          .cancelledBeforeApply].any fun stage => row.stage == .text stage.asStorageValue) ∘
            eventColumns = fun event => event.stage.isTerminal :=
      funext fun event => terminal_text
    rw [stages]
    rfl
  have named := stores.checkpoint
  unfold validateCheckpointFile validateCheckpoint
  simp only [terminal, stores.pending, stores.file, ↓reduceIte]
  cases file : database.checkpointFile with
  | refused => exact absurd file stores.file
  | absent =>
    rw [Database.checkpoint, file] at named
    rw [← named]
  | contents bytes =>
    rw [Database.checkpoint, file] at named
    dsimp only at named
    cases kept : ledger.checkpoint with
    | none =>
      have := stores.absent kept
      rw [file] at this
      cases this
    | some checkpoint =>
      dsimp only
      rw [named, kept]
      dsimp only
      rw [stores.events, lookup_map_columns]
      cases lookup EventRow.sequence checkpoint.sequence ledger.tables.ledgerEvents with
      | none => rfl
      | some row => rfl

/-- On the database of a ledger the check is the one that `openLedger` makes. -/
theorem Stores.validate (stores : Stores codec decoder database ledger) :
    validateDatabase codec decoder database = validateContinuity codec ledger := by
  have chain := stores.chain ledger.tables.ledgerEvents 1 genesisDigest
  rw [validateDatabase, validateContinuity, ← chain, ← stores.events, stores.integrity]
  cases database.events.foldlM (validateEventRow codec decoder database) (1, genesisDigest) with
  | error error => rfl
  | ok last => exact stores.file_ok _

end Stored

/-! ### What a checkpoint commits to -/

/-- The events that are encoded for the rows of a database. -/
def Database.encoded (database : Database) : List CanonicalEvent :=
  database.events.filterMap fun row => row.read.toOption.map EventText.canonical

/-- The inputs that are hashed for the rows of a database. -/
def Database.hashed (codec : Codec) (database : Database) : List Bytes :=
  database.events.filterMap fun row => do
    let event ← row.read.toOption
    let rawPrevious ← (decodeSha256 event.previousDigest).toOption
    some (ledgerInput codec rawPrevious event)

/-- The rows from the first to the one with sequence `last` are the same, each found under its
sequence. -/
def AgreeUpTo (last : Int) (first second : Database) : Prop :=
  first.events.take last.toNat = second.events.take last.toNat ∧
    ∀ sequence, 1 ≤ sequence → sequence ≤ last →
      ∃ row, lookup EventColumns.sequence sequence first.events = some row ∧
        lookup EventColumns.sequence sequence second.events = some row

section Commitment

variable {codec : Codec} {decoder : Decoder} {first second : Database}

variable {row : EventColumns} {rows : List EventColumns} {sequence : Int}

theorem EventText.ext_canonical {one two : EventText} (same : one.canonical = two.canonical)
    (digest : one.eventDigest = two.eventDigest) : one = two := by
  cases one
  cases two
  simp_all [EventText.canonical]

theorem mem_encoded {database : Database} {event : EventText}
    (member : event.columns ∈ database.events) : event.canonical ∈ database.encoded :=
  List.mem_filterMap.mpr ⟨event.columns, member, rfl⟩

theorem mem_hashed {database : Database} {event : EventText} {rawPrevious : Bytes}
    (member : event.columns ∈ database.events)
    (decoded : decodeSha256 event.previousDigest = .ok rawPrevious) :
    ledgerInput codec rawPrevious event ∈ database.hashed codec := by
  refine List.mem_filterMap.mpr ⟨event.columns, member, ?_⟩
  simp [decoded, Except.toOption]

/-- The state after a row determines the row and the state before it: the digest is taken over the
event with its sequence and the digest before it. -/
theorem validateEventRow_backward
    (hashes : CollisionFree codec.sha256 (first.hashed codec ++ second.hashed codec))
    (encodings : CollisionFree codec.eventJson (first.encoded ++ second.encoded))
    {other : EventColumns} (member : row ∈ first.events) (otherMember : other ∈ second.events)
    {before earlier after : Int × String}
    (passes : validateEventRow codec decoder first before row = .ok after)
    (otherPasses : validateEventRow codec decoder second earlier other = .ok after) :
    row = other ∧ before = earlier := by
  obtain ⟨one, raw, rfl, rfl, decoded, digest, rfl⟩ := validateEventRow_ok passes
  obtain ⟨two, otherRaw, rfl, rfl, otherDecoded, otherDigest, same⟩ :=
    validateEventRow_ok otherPasses
  have sameDigest : one.eventDigest = two.eventDigest := (Prod.mk.inj same).2
  have sameHash : codec.sha256 (ledgerInput codec raw one) =
      codec.sha256 (ledgerInput codec otherRaw two) :=
    Subtype.ext (formatSha256_injective (digest.symm.trans (sameDigest.trans otherDigest)))
  have sameInput := hashes _ (List.mem_append_left _ (mem_hashed member decoded)) _
    (List.mem_append_right _ (mem_hashed otherMember otherDecoded)) sameHash
  obtain ⟨sameFront, sameJson⟩ := List.append_inj sameInput (by
    simp only [List.length_append, decodeSha256_length decoded, decodeSha256_length otherDecoded])
  have sameEvent := encodings _ (List.mem_append_left _ (mem_encoded member)) _
    (List.mem_append_right _ (mem_encoded otherMember)) sameJson
  obtain rfl := EventText.ext_canonical sameEvent sameDigest
  exact ⟨rfl, rfl⟩

theorem lookup_take {count : Nat}
    (found : lookup EventColumns.sequence sequence (rows.take count) = some row) :
    lookup EventColumns.sequence sequence rows = some row := by
  rw [← List.take_append_drop count rows, lookup, List.find?_append]
  rw [lookup] at found
  rw [found]
  rfl

theorem lookup_of_passed {database : Database} {last : Int × String}
    (passes : rows.foldlM (validateEventRow codec decoder database) (1, genesisDigest) = .ok last)
    (positive : 1 ≤ sequence) (within : sequence ≤ rows.length) (small : sequence ≤ i64Max) :
    ∃ row, lookup EventColumns.sequence sequence rows = some row := by
  have bound : sequence.toNat - 1 < rows.length := by omega
  have numbered := @sequence_of_passed codec decoder database rows last passes
    (rows.take (sequence.toNat - 1)) (rows.drop (sequence.toNat - 1 + 1)) (rows[sequence.toNat - 1])
    (by rw [← List.drop_eq_getElem_cons bound, List.take_append_drop])
  rw [List.length_take] at numbered
  cases found : lookup EventColumns.sequence sequence rows with
  | some row => exact ⟨row, rfl⟩
  | none =>
    have := lookup_eq_none.mp found _ (List.getElem_mem bound)
    omega

theorem agree_of_passed
    (hashes : CollisionFree codec.sha256 (first.hashed codec ++ second.hashed codec))
    (encodings : CollisionFree codec.eventJson (first.encoded ++ second.encoded))
    {checkpoint other : Checkpoint} (passes : validateDatabase codec decoder first = .ok ())
    (otherPasses : validateDatabase codec decoder second = .ok ())
    (named : first.checkpoint decoder = some checkpoint)
    (otherNamed : second.checkpoint decoder = some other)
    (sameSequence : other.sequence = checkpoint.sequence)
    (sameDigest : other.eventDigest = checkpoint.eventDigest) :
    AgreeUpTo checkpoint.sequence first second := by
  obtain ⟨count, sequence, small, size, chain⟩ := passed_checkpoint passes named
  obtain ⟨otherCount, otherSequence, _, otherSize, otherChain⟩ :=
    passed_checkpoint otherPasses otherNamed
  obtain rfl : otherCount = count := by omega
  rw [sameSequence, sameDigest] at otherChain
  have same : first.events.take otherCount = second.events.take otherCount :=
    (foldlM_unique (fun row member different otherMember _ _ _ =>
      validateEventRow_backward hashes encodings (List.mem_of_mem_take member)
        (List.mem_of_mem_take otherMember)) (size.trans otherSize.symm) chain otherChain).1
  have place : checkpoint.sequence.toNat = otherCount := by omega
  refine ⟨by rw [place]; exact same, fun wanted positive within => ?_⟩
  obtain ⟨row, found⟩ := lookup_of_passed chain positive (by omega) (by omega)
  exact ⟨row, lookup_take found, lookup_take (same ▸ found)⟩

/-- Tamper evidence. A checkpoint of a database that passes fixes its rows up to the checkpoint: no
other database passes under a checkpoint file that names the same sequence and digest, and opening
one fails, as tampered with where every column has its declared type. No function into 32 bytes is
injective, so the hash and the encoding are injective on the inputs at hand. -/
theorem tampering_refused (first second : Database) {checkpoint other : Checkpoint}
    (hashes : CollisionFree codec.sha256 (first.hashed codec ++ second.hashed codec))
    (encodings : CollisionFree codec.eventJson (first.encoded ++ second.encoded))
    (passes : validateDatabase codec decoder first = .ok ())
    (named : first.checkpoint decoder = some checkpoint)
    (otherNamed : second.checkpoint decoder = some other)
    (sameSequence : other.sequence = checkpoint.sequence)
    (sameDigest : other.eventDigest = checkpoint.eventDigest) :
    (validateDatabase codec decoder second = .ok () →
      AgreeUpTo checkpoint.sequence first second) ∧
    (¬ AgreeUpTo checkpoint.sequence first second → ∀ prepared completed,
      ∃ error, openDatabase codec decoder prepared completed second = .error error ∧
        (prepared = .ok () → second.declared = true → error = .forensicLockdown)) := by
  have agree (otherPasses : validateDatabase codec decoder second = .ok ()) :=
    agree_of_passed hashes encodings passes otherPasses named otherNamed sameSequence sameDigest
  refine ⟨agree, fun differ prepared completed => ?_⟩
  cases prepared with
  | error error => exact ⟨error, rfl, nofun⟩
  | ok _ =>
    cases checked : validateDatabase codec decoder second with
    | ok _ => exact absurd (agree checked) differ
    | error error =>
      refine ⟨error, ?_, fun _ declared => validateDatabase_error declared checked⟩
      rw [openDatabase, checked]
      rfl

end Commitment

/-! ### A database of two events -/

/-- An event with the digest that the ledger gives it. -/
def sealed (codec : Codec) (event : EventText) : EventText :=
  { event with eventDigest := ((ledgerEventDigest codec event.previousDigest
      (codec.eventJson event.canonical)).toOption).getD "" }

def sampleEvents : List EventText :=
  let first := sealed sampleCodec
    ⟨1, "operation", "plan", "APPROVED", "approved", 0, genesisDigest, genesisDigest, ""⟩
  [first, sealed sampleCodec ⟨2, "operation", "plan", "SNAPSHOTTED", "snapshot_ready", 1,
    genesisDigest, first.eventDigest, ""⟩]

/-- The checkpoint file names the second event. -/
def sampleDecoder : Decoder where
  command _ := none
  diagnostics _ := none
  checkpoint _ := sampleEvents.getLast?.map fun event => ⟨1, event.sequence, event.eventDigest⟩

def sampleDatabase (events : List EventColumns) : Database :=
  ⟨"ok", events, [], [], none, .contents []⟩

/-- The first event with a stage that is no text. -/
def retyped : List EventColumns :=
  (sampleEvents.map EventText.columns).mapIdx fun index row =>
    if index = 0 then { row with stage := .blob [0] } else row

theorem truncation_refused :
    openDatabase sampleCodec sampleDecoder (.ok ()) (.ok ())
      (sampleDatabase (sampleEvents.take 1 |>.map EventText.columns)) =
        .error .forensicLockdown := by
  obtain ⟨error, refused, lockdown⟩ := (@tampering_refused sampleCodec sampleDecoder
    (sampleDatabase (sampleEvents.map EventText.columns))
    (sampleDatabase (sampleEvents.take 1 |>.map EventText.columns)) _ _
    (by decide +kernel) (by decide +kernel) (by decide +kernel) rfl rfl rfl rfl).2
    (fun agree => absurd agree.1 (by decide +kernel)) (.ok ()) (.ok ())
  rw [refused, lockdown rfl (by decide +kernel)]

/-- A column of another type is a database error. -/
theorem retyped_not_lockdown :
    CollisionFree sampleCodec.sha256
      ((sampleDatabase (sampleEvents.map EventText.columns)).hashed sampleCodec ++
        (sampleDatabase retyped).hashed sampleCodec) ∧
    CollisionFree sampleCodec.eventJson
      ((sampleDatabase (sampleEvents.map EventText.columns)).encoded ++
        (sampleDatabase retyped).encoded) ∧
    validateDatabase sampleCodec sampleDecoder
      (sampleDatabase (sampleEvents.map EventText.columns)) = .ok () ∧
    (sampleDatabase retyped).checkpoint sampleDecoder =
      (sampleDatabase (sampleEvents.map EventText.columns)).checkpoint sampleDecoder ∧
    ((sampleDatabase retyped).checkpoint sampleDecoder).map Checkpoint.sequence = some 2 ∧
    ¬ AgreeUpTo 2 (sampleDatabase (sampleEvents.map EventText.columns)) (sampleDatabase retyped) ∧
    openDatabase sampleCodec sampleDecoder (.ok ()) (.ok ()) (sampleDatabase retyped) =
      .error sqlError := by
  refine ⟨by decide +kernel, by decide +kernel, by decide +kernel, rfl, by decide +kernel,
    fun agree => absurd agree.1 (by decide +kernel), by decide +kernel⟩

end JwOps.Ledger.Continuity
