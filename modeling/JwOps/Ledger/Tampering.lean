/- module: Ledger/Tampering
   source: crates/jw-opsd/src/ledger.rs (validate_continuity),
     crates/jw-opsd/src/ledger/{command_evidence,diagnostics}.rs
   digest: Which changes to the evidence rows of a ledger its opening finds. -/
import JwOps.Ledger.Checkpoints
import JwOps.Ledger.Continuity

set_option autoImplicit false

namespace JwOps.Ledger.Tampering

open Contracts Foundation Operation Digest Schema Writes Reads Continuity Checkpoints Keyed Chain

/-! ### The rows beside an event -/

/-- The rows that the two joins find for an event. -/
abbrev Beside := Option CommandColumns × Option DiagnosticsColumns

def beside (database : Database) (sequence : Int) : Beside :=
  (lookup CommandColumns.sequence sequence database.commands,
    lookup DiagnosticsColumns.sequence sequence database.diagnostics)

/-- The part of the check of an event that looks at the rows beside it. -/
def evidenceCheck (codec : Codec) (decoder : Decoder) (rows : Beside) (evidenceDigest : String) :
    Except OpsError Unit := do
  let command ← joined rows.1 CommandColumns.read
  let diagnostics ← joined rows.2 DiagnosticsColumns.read
  let _ ← loadCommandText codec decoder command evidenceDigest
    (diagnostics.map DiagnosticsText.validatorEvidenceDigest)
  let _ ← loadDiagnosticsText codec decoder diagnostics evidenceDigest
  pure ()

section Check

variable {codec : Codec} {decoder : Decoder} {database altered : Database}

theorem validateEventRow_congr {row : EventColumns}
    (same : beside altered row.sequence = beside database row.sequence) (state : Int × String) :
    validateEventRow codec decoder altered state row =
      validateEventRow codec decoder database state row := by
  obtain ⟨commands, diagnostics⟩ := Prod.mk.inj same
  unfold validateEventRow
  rw [commands, diagnostics]

theorem foldlM_congr {rows : List EventColumns}
    (same : ∀ row ∈ rows, beside altered row.sequence = beside database row.sequence)
    (state : Int × String) :
    rows.foldlM (validateEventRow codec decoder altered) state =
      rows.foldlM (validateEventRow codec decoder database) state := by
  induction rows generalizing state with
  | nil => rfl
  | cons row rest ih =>
    have later := ih fun other member => same other (List.mem_cons_of_mem _ member)
    rw [List.foldlM_cons, List.foldlM_cons, validateEventRow_congr (same row List.mem_cons_self)]
    exact congrArg _ (funext later)

/-- An event that passed passes again unless the rows beside it are refused. -/
theorem validateEventRow_again {event : EventText} {state after : Int × String}
    (passes : validateEventRow codec decoder database state event.columns = .ok after) :
    validateEventRow codec decoder altered state event.columns =
      (evidenceCheck codec decoder (beside altered event.sequence) event.evidenceDigest).map
        fun _ => after := by
  obtain ⟨same, raw, columns, rfl, decoded, digest, rfl⟩ := validateEventRow_ok passes
  obtain rfl : event = same := by
    have read := congrArg EventColumns.read columns
    rw [columns_read, columns_read] at read
    exact Except.ok.inj read
  have hashed : ledgerEventDigest codec event.previousDigest (codec.eventJson event.canonical) =
      .ok event.eventDigest := by
    rw [ledgerEventDigest, decoded, digest]
    rfl
  have sequence : event.columns.sequence = event.sequence := rfl
  unfold validateEventRow evidenceCheck beside
  simp only [columns_read, sequence, bind, Except.bind]
  cases joined (lookup CommandColumns.sequence event.sequence altered.commands)
      CommandColumns.read with
  | error error => rfl
  | ok command =>
    dsimp only
    cases joined (lookup DiagnosticsColumns.sequence event.sequence altered.diagnostics)
        DiagnosticsColumns.read with
    | error error => rfl
    | ok diagnostics =>
      simp only [ne_eq, not_true_eq_false, or_self, ↓reduceIte, hashed]
      cases loadCommandText codec decoder command event.evidenceDigest
          (diagnostics.map DiagnosticsText.validatorEvidenceDigest) with
      | error error => rfl
      | ok loaded =>
        dsimp only
        cases loadDiagnosticsText codec decoder diagnostics event.evidenceDigest with
        | error error => rfl
        | ok views => rfl

/-- A database that passes, with the rows beside one event altered, passes exactly when these rows
do, and otherwise with their error. -/
theorem validateDatabase_altered (passes : validateDatabase codec decoder database = .ok ())
    {event : EventText} {front back : List EventColumns}
    (events : database.events = front ++ event.columns :: back)
    (alone : ∀ row ∈ front ++ back, row.sequence ≠ event.sequence)
    (rest : { altered with commands := database.commands, diagnostics := database.diagnostics } =
      database)
    (others : ∀ sequence, sequence ≠ event.sequence →
      beside altered sequence = beside database sequence) :
    validateDatabase codec decoder altered =
      evidenceCheck codec decoder (beside altered event.sequence) event.evidenceDigest := by
  have sameEvents := congrArg Database.events rest
  have sameIntegrity := congrArg Database.integrity rest
  dsimp only at sameEvents sameIntegrity
  have sameFile : ∀ latest, validateCheckpointFile decoder altered latest =
      validateCheckpointFile decoder database latest := by
    intro latest
    rw [← rest]
    rfl
  unfold validateDatabase at passes ⊢
  rw [sameIntegrity, sameEvents]
  split at passes
  · cases passes
  rename_i sound
  obtain ⟨last, chain, checkpoint⟩ := bind_ok.mp passes
  rw [events] at chain ⊢
  obtain ⟨middle, frontPasses, backPasses⟩ := foldlM_append_ok chain
  obtain ⟨next, checked, backPasses⟩ := foldlM_cons_ok backPasses
  have frontAgain := @foldlM_congr codec decoder database altered front
    (fun row member => others row.sequence (alone row (List.mem_append_left _ member)))
    (1, genesisDigest)
  have backAgain := @foldlM_congr codec decoder database altered back
    (fun row member => others row.sequence (alone row (List.mem_append_right _ member))) next
  have again := @validateEventRow_again codec decoder database altered event middle next checked
  rw [if_neg sound, List.foldlM_append, frontAgain, frontPasses]
  change (List.foldlM _ middle (event.columns :: back) >>= _) = _
  rw [List.foldlM_cons, again]
  cases evidenceCheck codec decoder (beside altered event.sequence) event.evidenceDigest with
  | error error => rfl
  | ok value =>
    change (List.foldlM _ next back >>= _) = _
    rw [backAgain, backPasses]
    change validateCheckpointFile decoder altered (last.1 - 1) = _
    rw [sameFile]
    exact checkpoint

end Check

/-! ### Digests of evidence -/

/-- What is hashed for a command. -/
def commandInput (codec : Codec) (command : OperationCommandEvidenceView) : Bytes :=
  utf8Bytes "jw-agent/command-evidence/v1" ++ [0] ++ codec.commandJson command

/-- What is hashed for an event that has diagnostics. -/
def combinedInput (codec : Codec) (evidence : DiagnosticEvidence) : Bytes :=
  utf8Bytes "jw-agent/managed-config-diagnostic-evidence/v1" ++ [0] ++
    codec.diagnosticEvidenceJson evidence

def commandsBeside (decoder : Decoder) (rows : Beside) : List OperationCommandEvidenceView :=
  (rows.1.bind fun row => row.read.toOption.bind decoder.command).toList

def textsBeside (rows : Beside) : List DiagnosticsText :=
  (rows.2.bind fun row => row.read.toOption).toList

def evidenceBeside (rows : Beside) : List DiagnosticEvidence :=
  (textsBeside rows).map fun text => ⟨1, text.validatorEvidenceDigest, text.digest⟩

/-- Everything that is hashed for the rows beside an event. -/
def hashedBeside (codec : Codec) (decoder : Decoder) (rows : Beside) : List Bytes :=
  (commandsBeside decoder rows).map (commandInput codec) ++
    (evidenceBeside rows).map (combinedInput codec) ++
    (textsBeside rows).map fun text => utf8Bytes text.json

/-- Neither the hash nor an encoder confuses what two pairs of rows hold. -/
structure Unambiguous (codec : Codec) (decoder : Decoder) (first second : Beside) : Prop where
  hashes : CollisionFree codec.sha256
    (hashedBeside codec decoder first ++ hashedBeside codec decoder second)
  commands : CollisionFree codec.commandJson
    (commandsBeside decoder first ++ commandsBeside decoder second)
  evidence : CollisionFree codec.diagnosticEvidenceJson
    (evidenceBeside first ++ evidenceBeside second)

section Digests

variable {codec : Codec} {decoder : Decoder} {first second : Beside}

variable {rows : Beside} {text : DiagnosticsText}

theorem sha256Digest_injective {inputs : List Bytes} (hashes : CollisionFree codec.sha256 inputs)
    {input other : Bytes} (member : input ∈ inputs) (otherMember : other ∈ inputs)
    (same : sha256Digest codec input = sha256Digest codec other) : input = other :=
  hashes _ member _ otherMember (Subtype.ext (formatSha256_injective same))

/-- The two domains of evidence differ in their tenth byte. -/
theorem commandInput_ne_combinedInput {command : OperationCommandEvidenceView}
    {evidence : DiagnosticEvidence} :
      commandInput codec command ≠ combinedInput codec evidence := by
  intro same
  have tenth := congrArg (fun bytes => bytes[9]?) same
  have left : (utf8Bytes "jw-agent/command-evidence/v1")[9]? = some 99 := by decide +kernel
  have right : (utf8Bytes "jw-agent/managed-config-diagnostic-evidence/v1")[9]? = some 109 := by
    decide +kernel
  have here {bytes more : Bytes} {byte : UInt8} (found : bytes[9]? = some byte) :
      (bytes ++ [0] ++ more)[9]? = some byte := by
    obtain ⟨bound, _⟩ := List.getElem?_eq_some_iff.mp found
    rw [List.append_assoc, List.getElem?_append_left bound, found]
  simp only [commandInput, combinedInput, here left, here right] at tenth
  cases tenth

theorem mem_hashed_command {command : OperationCommandEvidenceView}
    (member : command ∈ commandsBeside decoder rows) :
    commandInput codec command ∈ hashedBeside codec decoder rows :=
  List.mem_append_left _ (List.mem_append_left _ (List.mem_map_of_mem member))

theorem mem_hashed_evidence (member : text ∈ textsBeside rows) :
    combinedInput codec ⟨1, text.validatorEvidenceDigest, text.digest⟩ ∈
      hashedBeside codec decoder rows :=
  List.mem_append_left _ (List.mem_append_right _
    (List.mem_map_of_mem (List.mem_map_of_mem member)))

theorem mem_hashed_text (member : text ∈ textsBeside rows) :
    utf8Bytes text.json ∈ hashedBeside codec decoder rows :=
  List.mem_append_right _ (List.mem_map_of_mem member)

variable (clear : Unambiguous codec decoder first second)

include clear

theorem Unambiguous.command {command other : OperationCommandEvidenceView}
    (member : command ∈ commandsBeside decoder first)
    (otherMember : other ∈ commandsBeside decoder second)
    (same : commandEvidenceDigest codec command = commandEvidenceDigest codec other) :
    command = other := by
  have inputs := sha256Digest_injective clear.hashes
    (List.mem_append_left _ (mem_hashed_command member))
    (List.mem_append_right _ (mem_hashed_command otherMember)) same
  exact clear.commands _ (List.mem_append_left _ member) _ (List.mem_append_right _ otherMember)
    (List.append_cancel_left inputs)

theorem Unambiguous.diagnostics {other : DiagnosticsText} (member : text ∈ textsBeside first)
    (otherMember : other ∈ textsBeside second)
    (hashed : sha256Digest codec (utf8Bytes text.json) = text.digest)
    (otherHashed : sha256Digest codec (utf8Bytes other.json) = other.digest)
    (same : diagnosticEvidenceDigest codec text.validatorEvidenceDigest text.digest =
      diagnosticEvidenceDigest codec other.validatorEvidenceDigest other.digest) :
    text = other := by
  have inputs := sha256Digest_injective clear.hashes
    (List.mem_append_left _ (mem_hashed_evidence member))
    (List.mem_append_right _ (mem_hashed_evidence otherMember)) same
  have evidence := clear.evidence _
    (List.mem_append_left _ (List.mem_map_of_mem member)) _
    (List.mem_append_right _ (List.mem_map_of_mem otherMember)) (List.append_cancel_left inputs)
  have validator := congrArg DiagnosticEvidence.validatorEvidenceDigest evidence
  have digest := congrArg DiagnosticEvidence.diagnosticsDigest evidence
  dsimp only at validator digest
  have json := sha256Digest_injective clear.hashes
    (List.mem_append_left _ (mem_hashed_text member))
    (List.mem_append_right _ (mem_hashed_text otherMember))
    ((hashed.trans digest).trans otherHashed.symm)
  have sameJson := utf8Bytes_injective json
  cases text
  cases other
  simp_all

theorem Unambiguous.kinds {command : OperationCommandEvidenceView} {text : DiagnosticsText}
    (member : command ∈ commandsBeside decoder first) (textMember : text ∈ textsBeside first) :
    commandEvidenceDigest codec command ≠
      diagnosticEvidenceDigest codec text.validatorEvidenceDigest text.digest := by
  intro same
  exact commandInput_ne_combinedInput (sha256Digest_injective clear.hashes
    (List.mem_append_left _ (mem_hashed_command member))
    (List.mem_append_left _ (mem_hashed_evidence textMember)) same)

end Digests

/-! ### Tampering with one row -/

/-- A change to one of the rows that an event was written with. -/
inductive Edit where
  | removeCommand
  | changeCommand (commandJson : Value)
  | removeDiagnostics
  | changeDiagnostics (diagnosticsJson diagnosticsDigest validatorEvidenceDigest : Value)
  deriving DecidableEq, Repr

namespace Edit

def apply (sequence : Int) (database : Database) : Edit → Database
  | .removeCommand =>
    { database with
      commands := replaceAt CommandColumns.sequence sequence none database.commands }
  | .changeCommand json =>
    { database with
      commands := replaceAt CommandColumns.sequence sequence (some ⟨sequence, json⟩)
        database.commands }
  | .removeDiagnostics =>
    { database with
      diagnostics := replaceAt DiagnosticsColumns.sequence sequence none database.diagnostics }
  | .changeDiagnostics json digest validator =>
    { database with
      diagnostics := replaceAt DiagnosticsColumns.sequence sequence
        (some ⟨sequence, json, digest, validator⟩) database.diagnostics }

/-- The event was written with the row that is edited. -/
def Hits (tables : Tables) (sequence : Int) : Edit → Prop
  | .removeCommand | .changeCommand _ => (commandOf tables sequence).isSome = true
  | .removeDiagnostics | .changeDiagnostics _ _ _ => (diagnosticsOf tables sequence).isSome = true

/-- What the opening has to go by: a command that is read as another one, diagnostics in columns of
their type, or a command whose diagnostics are gone. -/
def Shows (decoder : Decoder) (tables : Tables) (sequence : Int) : Edit → Prop
  | .removeCommand => False
  | .changeCommand value =>
    ∃ json, value = .text json ∧ decoder.command json ≠ commandOf tables sequence
  | .removeDiagnostics => (commandOf tables sequence).isSome = true
  | .changeDiagnostics json digest validator =>
    json.isText = true ∧ digest.isText = true ∧ validator.isText = true

end Edit

section Cases

variable {codec : Codec} {decoder : Decoder} {database : Database} {ledger : LedgerState}
  {sequence : Int} {evidenceDigest : String}

variable {row : DiagnosticsRow} {loaded : List ManagedConfigDiagnosticView}
  {text : DiagnosticsText}

/-- The command row that a database keeps for an event, and the command it is read as. -/
theorem beside_command (stores : Stores codec decoder database ledger)
    {command : OperationCommandEvidenceView}
      (written : commandOf ledger.tables sequence = some command) :
    ∃ row json, (beside database sequence).1 = some row ∧ row.read = .ok json ∧
      decoder.command json = some command := by
  obtain ⟨found, there, rfl⟩ := Option.map_eq_some_iff.mp written
  rcases lookup_forall₂ (fun _ _ alike => alike.1) stores.commands with
    ⟨_, absent⟩ | ⟨row, other, stored, same, _, json, text, decoded⟩
  · rw [there] at absent
    cases absent
  · rw [there] at same
    obtain rfl := Option.some.inj same
    exact ⟨row, json, stored, asText_ok.mpr text, decoded⟩

theorem beside_diagnostics (stores : Stores codec decoder database ledger)
    (written : diagnosticsOf ledger.tables sequence = some row) :
    ∃ stored text, (beside database sequence).2 = some stored ∧ stored.read = .ok text ∧
      text.digest = row.diagnosticsDigest ∧
      text.validatorEvidenceDigest = row.validatorEvidenceDigest ∧
      utf8Bytes text.json = codec.diagnosticsJson row.diagnostics := by
  rcases lookup_forall₂ (fun _ _ alike => alike.1) stores.diagnostics with
    ⟨_, absent⟩ | ⟨stored, other, found, same, _, digest, validator, json, text, _, bytes⟩
  · rw [diagnosticsOf, absent] at written
    cases written
  · rw [diagnosticsOf, same] at written
    obtain rfl := Option.some.inj written
    refine ⟨stored, ⟨json, _, _⟩, found, ?_, rfl, rfl, bytes⟩
    rw [DiagnosticsColumns.read, text, digest, validator]
    rfl

theorem evidenceCheck_eq {rows : Beside} {json : Option String} {stored : Option DiagnosticsText}
    (commandRead : joined rows.1 CommandColumns.read = .ok json)
    (storedRead : joined rows.2 DiagnosticsColumns.read = .ok stored) :
    evidenceCheck codec decoder rows evidenceDigest = (do
      let _ ← loadCommandText codec decoder json evidenceDigest
        (stored.map DiagnosticsText.validatorEvidenceDigest)
      let _ ← loadDiagnosticsText codec decoder stored evidenceDigest
      pure ()) := by
  unfold evidenceCheck
  rw [commandRead, storedRead]
  rfl

theorem loadCommandEvidence_ok {view : OperationCommandEvidenceView} {validator : Option String}
    {loaded : Option OperationCommandEvidenceView}
    (passes : loadCommandEvidence codec (some view) evidenceDigest validator = .ok loaded) :
    commandEvidenceDigest codec view = validator.getD evidenceDigest := by
  unfold loadCommandEvidence at passes
  dsimp only at passes
  split at passes
  · cases passes
  · rename_i accepted
    exact not_not.mp fun differs => accepted (.inr differs)

theorem loadDiagnostics_ok
    (passes : loadDiagnostics codec (some row) evidenceDigest = .ok loaded) :
    sha256Digest codec (codec.diagnosticsJson row.diagnostics) = row.diagnosticsDigest ∧
      diagnosticEvidenceDigest codec row.validatorEvidenceDigest row.diagnosticsDigest =
        evidenceDigest := by
  unfold loadDiagnostics at passes
  dsimp only at passes
  split at passes
  · cases passes
  · rename_i accepted
    simp only [not_or, not_not, ne_eq] at accepted
    exact ⟨accepted.2.2.1, accepted.2.2.2.2.2.2⟩

theorem loadDiagnosticsText_ok
    (passes : loadDiagnosticsText codec decoder (some text) evidenceDigest = .ok loaded) :
    sha256Digest codec (utf8Bytes text.json) = text.digest ∧
      diagnosticEvidenceDigest codec text.validatorEvidenceDigest text.digest =
        evidenceDigest := by
  unfold loadDiagnosticsText at passes
  dsimp only at passes
  split at passes
  · cases passes
  · rename_i hashed
    split at passes
    · cases passes
    · split at passes
      · cases passes
      · rename_i accepted
        simp only [not_or, not_not, ne_eq] at hashed accepted
        exact ⟨hashed.2.2, accepted.2.2.2⟩

theorem diagnosticsRead_ok {columns : DiagnosticsColumns} (read : columns.read = .ok text) :
    columns = ⟨columns.sequence, .text text.json,
      .text text.digest, .text text.validatorEvidenceDigest⟩ := by
  simp only [DiagnosticsColumns.read, bind_ok, asText_ok] at read
  obtain ⟨json, first, digest, second, validator, third, done⟩ := read
  obtain rfl := Except.ok.inj done
  rw [← first, ← second, ← third]

theorem diagnosticsRead_error {columns : DiagnosticsColumns} {error : OpsError}
    (read : columns.read = .error error) : error = sqlError := by
  have text {value : Value} (unread : value.asText = .error error) : error = sqlError := by
    cases value <;> cases unread <;> rfl
  simp only [DiagnosticsColumns.read, bind_error] at read
  rcases read with first | ⟨_, _, second | ⟨_, _, third | ⟨_, _, never⟩⟩⟩
  · exact text first
  · exact text second
  · exact text third
  · cases never

variable (stores : Stores codec decoder database ledger)
  (loads : EvidenceLoads codec (commandOf ledger.tables sequence)
    (diagnosticsOf ledger.tables sequence) evidenceDigest)

include stores loads

theorem removed_command :
    evidenceCheck codec decoder (none, (beside database sequence).2) evidenceDigest = .ok () := by
  obtain ⟨stored, read, _, same⟩ := stores.diagnosticsRead sequence
  obtain ⟨views, loaded⟩ := loads.diagnostics
  rw [evidenceCheck_eq rfl read, same, loaded]
  rfl

theorem changed_command {command : OperationCommandEvidenceView}
    (written : commandOf ledger.tables sequence = some command) {value : Value}
    (clear : Unambiguous codec decoder (beside database sequence) (some ⟨sequence, value⟩, (beside database sequence).2)) :
    evidenceCheck codec decoder (some ⟨sequence, value⟩, (beside database sequence).2)
        evidenceDigest = .error .forensicLockdown ↔
      ∃ json, value = .text json ∧ decoder.command json ≠ some command := by
  obtain ⟨stored, read, validator, same⟩ := stores.diagnosticsRead sequence
  obtain ⟨views, loaded⟩ := loads.diagnostics
  obtain ⟨accepted, commandLoaded⟩ := loads.command
  cases text : value.asText with
  | error error =>
    have unread : joined (some ⟨sequence, value⟩) CommandColumns.read = .error error := by
      simp only [joined, CommandColumns.read, text, Except.map]
    have refused : evidenceCheck codec decoder (some ⟨sequence, value⟩,
        (beside database sequence).2) evidenceDigest = .error error := by
      unfold evidenceCheck
      rw [unread]
      rfl
    have kind : error ≠ .forensicLockdown := by
      cases value <;> cases text <;> rintro ⟨⟩
    constructor
    · intro lockdown
      exact absurd (Except.error.inj (refused.symm.trans lockdown)) kind
    · rintro ⟨json, rfl, _⟩
      cases text
  | ok json =>
    obtain rfl := asText_ok.mp text
    rw [@evidenceCheck_eq codec decoder evidenceDigest _ (some json) stored rfl read, same,
      loaded]
    cases decoded : decoder.command json with
    | none =>
      have lockdown : loadCommandText codec decoder (some json) evidenceDigest
          (stored.map DiagnosticsText.validatorEvidenceDigest) = .error .forensicLockdown := by
        simp only [loadCommandText, decoded]
      rw [lockdown]
      exact ⟨fun _ => ⟨json, rfl, by rw [decoded]; rintro ⟨⟩⟩, fun _ => rfl⟩
    | some other =>
      have again : loadCommandText codec decoder (some json) evidenceDigest
          (stored.map DiagnosticsText.validatorEvidenceDigest) =
            loadCommandEvidence codec (some other) evidenceDigest
              ((diagnosticsOf ledger.tables sequence).map
                DiagnosticsRow.validatorEvidenceDigest) := by
        simp only [loadCommandText, decoded, validator]
      rw [again]
      by_cases equal : other = command
      · subst equal
        rw [written] at commandLoaded
        rw [commandLoaded]
        constructor
        · rintro ⟨⟩
        · rintro ⟨_, same, differs⟩
          obtain rfl := Value.text.inj same
          exact absurd decoded differs
      · have lockdown : loadCommandEvidence codec (some other) evidenceDigest
            ((diagnosticsOf ledger.tables sequence).map
              DiagnosticsRow.validatorEvidenceDigest) = .error .forensicLockdown := by
          unfold loadCommandEvidence
          dsimp only
          rw [if_pos]
          refine .inr fun hashed => equal ?_
          rw [written] at commandLoaded
          obtain ⟨row, old, there, oldRead, oldDecoded⟩ := beside_command stores written
          refine (clear.command ?_ ?_
            ((loadCommandEvidence_ok commandLoaded).trans hashed.symm)).symm
          · simp [commandsBeside, there, oldRead, oldDecoded, Except.toOption]
          · simp [commandsBeside, CommandColumns.read, Value.asText, decoded, Except.toOption]
        rw [lockdown]
        refine ⟨fun _ => ⟨json, rfl, ?_⟩, fun _ => rfl⟩
        rw [decoded]
        exact fun same => equal (Option.some.inj same)

theorem removed_diagnostics (written : (diagnosticsOf ledger.tables sequence).isSome = true)
    (clear : Unambiguous codec decoder (beside database sequence)
      ((beside database sequence).1, none)) :
    evidenceCheck codec decoder ((beside database sequence).1, none) evidenceDigest =
        .error .forensicLockdown ↔ (commandOf ledger.tables sequence).isSome = true := by
  obtain ⟨json, read, same⟩ := stores.command sequence
  obtain ⟨row, there⟩ := Option.isSome_iff_exists.mp written
  rw [@evidenceCheck_eq codec decoder evidenceDigest _ json none read rfl, same]
  cases command : commandOf ledger.tables sequence with
  | none => exact ⟨nofun, nofun⟩
  | some view =>
    have lockdown : loadCommandEvidence codec (some view) evidenceDigest none =
        .error .forensicLockdown := by
      unfold loadCommandEvidence
      dsimp only
      rw [if_pos]
      refine .inr fun hashed => ?_
      obtain ⟨_, commandLoaded⟩ := loads.command
      obtain ⟨_, loaded⟩ := loads.diagnostics
      rw [there] at loaded
      obtain ⟨stored, text, found, textRead, digest, validator, _⟩ :=
        beside_diagnostics stores there
      obtain ⟨columns, old, commandFound, commandRead, decoded⟩ := beside_command stores command
      refine @Unambiguous.kinds codec decoder _ _ clear view text ?_ ?_ ?_
      · simp [commandsBeside, commandFound, commandRead, decoded, Except.toOption]
      · simp [textsBeside, found, textRead, Except.toOption]
      · rw [validator, digest]
        exact hashed.trans (loadDiagnostics_ok loaded).2.symm
    change (loadCommandEvidence codec (some view) evidenceDigest none >>= _) = _ ↔ _
    rw [lockdown]
    exact ⟨fun _ => rfl, fun _ => rfl⟩

theorem changed_diagnostics (written : diagnosticsOf ledger.tables sequence = some row)
    (columns : DiagnosticsColumns) (changed : (beside database sequence).2 ≠ some columns)
    (keyed : columns.sequence = sequence)
    (clear : Unambiguous codec decoder (beside database sequence) ((beside database sequence).1,
      some columns)) :
    evidenceCheck codec decoder ((beside database sequence).1, some columns) evidenceDigest =
        .error .forensicLockdown ↔ columns.declared = true := by
  obtain ⟨json, read, _⟩ := stores.command sequence
  cases columnsRead : columns.read with
  | error error =>
    have undeclared : ¬columns.declared = true := by
      intro declared
      obtain ⟨text, same⟩ := DiagnosticsColumns.read_of_declared declared
      rw [columnsRead] at same
      cases same
    have refused : evidenceCheck codec decoder ((beside database sequence).1, some columns)
        evidenceDigest = .error error := by
      have unread : joined (some columns) DiagnosticsColumns.read = .error error := by
        simp only [joined, columnsRead, Except.map]
      unfold evidenceCheck
      rw [show joined (beside database sequence).1 CommandColumns.read = _ from read, unread]
      rfl
    have kind : error ≠ .forensicLockdown := by
      rw [diagnosticsRead_error columnsRead]
      rintro ⟨⟩
    refine ⟨fun lockdown => ?_, fun declared => absurd declared undeclared⟩
    exact absurd (Except.error.inj (refused.symm.trans lockdown)) kind
  | ok text =>
    have shape := diagnosticsRead_ok columnsRead
    have declared : columns.declared = true := by
      rw [shape]
      rfl
    refine ⟨fun _ => declared, fun _ => ?_⟩
    have textRead : joined (some columns) DiagnosticsColumns.read = .ok (some text) := by
      simp only [joined, columnsRead, Except.map]
    rw [@evidenceCheck_eq codec decoder evidenceDigest _ json (some text) read textRead]
    cases command : loadCommandText codec decoder json evidenceDigest
        ((some text).map DiagnosticsText.validatorEvidenceDigest) with
    | error error =>
      rw [loadCommandText_error command]
      rfl
    | ok view =>
      cases diagnostics : loadDiagnosticsText codec decoder (some text) evidenceDigest with
      | error error =>
        rw [loadDiagnosticsText_error diagnostics]
        rfl
      | ok views =>
        -- rows that pass are the ones the event was written with
        obtain ⟨_, loaded⟩ := loads.diagnostics
        rw [written] at loaded
        obtain ⟨hashed, evidence⟩ := loadDiagnostics_ok loaded
        obtain ⟨newHashed, newEvidence⟩ := loadDiagnosticsText_ok diagnostics
        obtain ⟨stored, old, found, oldRead, digest, validator, bytes⟩ :=
          beside_diagnostics stores written
        rw [← bytes, ← digest] at hashed
        rw [← digest, ← validator] at evidence
        have same : old = text := by
          refine clear.diagnostics ?_ ?_ hashed newHashed (evidence.trans newEvidence.symm)
          · simp [textsBeside, found, oldRead, Except.toOption]
          · simp [textsBeside, columnsRead, Except.toOption]
        refine absurd ?_ changed
        rw [found, diagnosticsRead_ok oldRead, shape, same, lookup_key found, keyed]

end Cases

/-! ### Ledgers of the service -/

section Service

variable {codec : Codec} {decoder : Decoder} {database : Database} {ledger : LedgerState}

theorem beside_apply (stores : Stores codec decoder database ledger) {sequence : Int} {edit : Edit}
    (hits : edit.Hits ledger.tables sequence) :
    beside (edit.apply sequence database) sequence =
      match edit with
      | .removeCommand => (none, (beside database sequence).2)
      | .changeCommand json => (some ⟨sequence, json⟩, (beside database sequence).2)
      | .removeDiagnostics => ((beside database sequence).1, none)
      | .changeDiagnostics json digest validator =>
        ((beside database sequence).1, some ⟨sequence, json, digest, validator⟩) := by
  have command (written : (commandOf ledger.tables sequence).isSome = true) :
      ∃ row, lookup CommandColumns.sequence sequence database.commands = some row := by
    obtain ⟨view, there⟩ := Option.isSome_iff_exists.mp written
    obtain ⟨row, _, found, _⟩ := beside_command stores there
    exact ⟨row, found⟩
  have diagnostics (written : (diagnosticsOf ledger.tables sequence).isSome = true) :
      ∃ row, lookup DiagnosticsColumns.sequence sequence database.diagnostics = some row := by
    obtain ⟨view, there⟩ := Option.isSome_iff_exists.mp written
    obtain ⟨row, _, found, _⟩ := beside_diagnostics stores there
    exact ⟨row, found⟩
  cases edit with
  | removeCommand =>
    obtain ⟨row, found⟩ := command hits
    exact Prod.ext (lookup_replaceAt_self found nofun) rfl
  | changeCommand json =>
    obtain ⟨row, found⟩ := command hits
    refine Prod.ext (lookup_replaceAt_self found ?_) rfl
    intro _ same
    rw [← Option.some.inj same]
  | removeDiagnostics =>
    obtain ⟨row, found⟩ := diagnostics hits
    exact Prod.ext rfl (lookup_replaceAt_self found nofun)
  | changeDiagnostics json digest validator =>
    obtain ⟨row, found⟩ := diagnostics hits
    refine Prod.ext rfl (lookup_replaceAt_self found ?_)
    intro _ same
    rw [← Option.some.inj same]

theorem beside_apply_other {sequence other : Int} {edit : Edit} (differ : other ≠ sequence) :
    beside (edit.apply sequence database) other = beside database other := by
  cases edit with
  | removeCommand => exact Prod.ext (lookup_replaceAt_other differ nofun) rfl
  | changeCommand json =>
    refine Prod.ext (lookup_replaceAt_other differ ?_) rfl
    intro _ same
    rw [← Option.some.inj same]
  | removeDiagnostics => exact Prod.ext rfl (lookup_replaceAt_other differ nofun)
  | changeDiagnostics json digest validator =>
    refine Prod.ext rfl (lookup_replaceAt_other differ ?_)
    intro _ same
    rw [← Option.some.inj same]

theorem evidenceCheck_apply (stores : Stores codec decoder database ledger) {sequence : Int}
    {evidenceDigest : String} (loads : EvidenceLoads codec (commandOf ledger.tables sequence)
      (diagnosticsOf ledger.tables sequence) evidenceDigest) {edit : Edit}
    (hits : edit.Hits ledger.tables sequence)
    (changed : beside (edit.apply sequence database) sequence ≠ beside database sequence)
    (clear : Unambiguous codec decoder (beside database sequence)
      (beside (edit.apply sequence database) sequence)) :
    evidenceCheck codec decoder (beside (edit.apply sequence database) sequence) evidenceDigest =
        .error .forensicLockdown ↔ edit.Shows decoder ledger.tables sequence := by
  rw [beside_apply stores hits] at changed clear ⊢
  cases edit with
  | removeCommand =>
    rw [removed_command stores loads]
    exact ⟨nofun, nofun⟩
  | changeCommand json =>
    obtain ⟨command, written⟩ := Option.isSome_iff_exists.mp hits
    rw [Edit.Shows, written]
    exact changed_command stores loads written clear
  | removeDiagnostics => exact removed_diagnostics stores loads hits clear
  | changeDiagnostics json digest validator =>
    obtain ⟨row, written⟩ := Option.isSome_iff_exists.mp hits
    have other : (beside database sequence).2 ≠ some ⟨sequence, json, digest, validator⟩ := by
      intro same
      exact changed (Prod.ext rfl same.symm)
    rw [changed_diagnostics stores loads written _ other rfl clear]
    simp only [DiagnosticsColumns.declared, Edit.Shows, Bool.and_eq_true, and_assoc]

/-- With one evidence row edited the database of a sound ledger is judged by that row alone. -/
theorem validateDatabase_apply (stores : Stores codec decoder database ledger)
    (sound : Sound codec ledger) (few : (ledger.tables.ledgerEvents.length : Int) < 2 ^ 63 - 1)
    {event : EventRow} (member : event ∈ ledger.tables.ledgerEvents) (edit : Edit) :
    validateDatabase codec decoder (edit.apply event.sequence database) =
      evidenceCheck codec decoder (beside (edit.apply event.sequence database) event.sequence)
        event.evidenceDigest := by
  have passes : validateDatabase codec decoder database = .ok () := by
    rw [stores.validate]
    exact validateContinuity_ok sound few
  obtain ⟨front, back, split⟩ := List.append_of_mem member
  have events : database.events =
      front.map eventColumns ++ eventColumns event :: back.map eventColumns := by
    rw [stores.events, split, List.map_append, List.map_cons]
  refine validateDatabase_altered passes events ?_ ?_ fun other differ =>
    beside_apply_other differ
  · intro row there
    rw [← List.map_append] at there
    obtain ⟨other, placed, rfl⟩ := List.mem_map.mp there
    exact linked_alone sound.vouched.linked split placed
  · cases edit <;> rfl

/-- A ledger that only its own calls wrote, kept in a database of which one evidence row was then
taken out or changed: the opening finds it exactly when the row that is left is text that says
something else, or when diagnostics are missing beside a command. -/
theorem tampering_found_iff (codec : Codec) (decoder : Decoder) (cuts : List Cut)
    (database : Database)
    (stores : Stores codec decoder database (runCuts codec emptyLedger cuts))
    (few : ((runCuts codec emptyLedger cuts).tables.ledgerEvents.length : Int) < 2 ^ 63 - 1)
    (event : EventRow) (member : event ∈ (runCuts codec emptyLedger cuts).tables.ledgerEvents)
    (edit : Edit) (hits : edit.Hits (runCuts codec emptyLedger cuts).tables event.sequence)
    (changed : beside (edit.apply event.sequence database) event.sequence ≠
      beside database event.sequence)
    (clear : Unambiguous codec decoder (beside database event.sequence)
      (beside (edit.apply event.sequence database) event.sequence))
    (completed : Except OpsError Unit) (unlocked : completed ≠ .error .forensicLockdown) :
    openDatabase codec decoder (.ok ()) completed (edit.apply event.sequence database) =
        .error .forensicLockdown ↔
      edit.Shows decoder (runCuts codec emptyLedger cuts).tables event.sequence := by
  have sound := sound_runCuts (@sound_emptyLedger codec) cuts
  generalize runCuts codec emptyLedger cuts = ledger at stores few member hits sound ⊢
  have found := evidenceCheck_apply stores (sound.vouched.evidence event member) hits changed clear
  rw [← found, ← validateDatabase_apply stores sound few member edit]
  unfold openDatabase
  change (validateDatabase codec decoder _ >>= fun _ => completed) = _ ↔ _
  cases validateDatabase codec decoder (edit.apply event.sequence database) with
  | error error => exact Iff.rfl
  | ok value => exact ⟨fun same => absurd same unlocked, nofun⟩

/-! ### A command row beside an event -/

def sampleCommand : OperationCommandEvidenceView :=
  ⟨"nginx_test", true, some 0, false, genesisDigest, false, genesisDigest, false⟩

def commandCuts : List Cut :=
  [⟨.createOrReusePlan Locks.samplePlan, []⟩, ⟨.beginOperation Locks.sampleApproval, []⟩,
    ⟨.transitionWithCommandEvidence "op_0" ⟨[.approved], .recoveryRequired, "failed",
      commandEvidenceDigest sampleCodec sampleCommand, none, none, 6⟩ sampleCommand, []⟩]

def commandDecoder (ledger : LedgerState) : Decoder where
  command json := if json = "command" then some sampleCommand else none
  diagnostics _ := none
  checkpoint _ := ledger.checkpoint

def commandDatabase (ledger : LedgerState) : Database where
  integrity := "ok"
  events := ledger.tables.ledgerEvents.map eventColumns
  commands := [⟨3, .text "command"⟩]
  diagnostics := []
  pendingSequence := none
  checkpointFile := .contents []

/-- What the samples below need of the ledger that the calls lead to. -/
structure KeepsCommand (ledger : LedgerState) : Prop where
  numbers : ledger.tables.ledgerEvents.map EventRow.sequence = [1, 2, 3]
  commands : ledger.tables.operationCommandEvidence = [⟨3, sampleCommand⟩]
  diagnostics : ledger.tables.managedConfigDiagnostics = []
  marker : ledger.metadata = none
  file : ledger.checkpoint.isSome = true

theorem keepsCommand_commandCuts : KeepsCommand (runCuts sampleCodec emptyLedger commandCuts) := by
  have facts : ((runCuts sampleCodec emptyLedger commandCuts).tables.ledgerEvents.map
        EventRow.sequence = [1, 2, 3] ∧
      (runCuts sampleCodec emptyLedger commandCuts).tables.operationCommandEvidence =
        [⟨3, sampleCommand⟩]) ∧
      (runCuts sampleCodec emptyLedger commandCuts).tables.managedConfigDiagnostics = [] ∧
      (runCuts sampleCodec emptyLedger commandCuts).metadata = none ∧
      (runCuts sampleCodec emptyLedger commandCuts).checkpoint.isSome = true := by
    decide +kernel
  exact ⟨facts.1.1, facts.1.2, facts.2.1, facts.2.2.1, facts.2.2.2⟩

section Keeping

variable (keeps : KeepsCommand ledger)

include keeps

theorem KeepsCommand.stores :
    Stores sampleCodec (commandDecoder ledger) (commandDatabase ledger) ledger := by
  constructor
  · rfl
  · rfl
  · rw [keeps.commands]
    exact .cons ⟨rfl, "command", rfl, rfl⟩ .nil
  · rw [keeps.diagnostics]
    exact .nil
  · exact keeps.marker.symm
  · nofun
  · rfl
  · intro absent
    have file := keeps.file
    rw [absent] at file
    cases file

theorem KeepsCommand.event : ∃ event ∈ ledger.tables.ledgerEvents, event.sequence = 3 := by
  have third : (3 : Int) ∈ ledger.tables.ledgerEvents.map EventRow.sequence := by
    rw [keeps.numbers]
    decide
  obtain ⟨event, member, place⟩ := List.mem_map.mp third
  exact ⟨event, member, place⟩

theorem KeepsCommand.few : (ledger.tables.ledgerEvents.length : Int) < 2 ^ 63 - 1 := by
  have length := congrArg List.length keeps.numbers
  rw [List.length_map] at length
  rw [length]
  decide

theorem KeepsCommand.written : commandOf ledger.tables 3 = some sampleCommand := by
  rw [commandOf, keeps.commands]
  rfl

end Keeping

theorem tampering_found_of_changed_command :
    openDatabase sampleCodec (commandDecoder (runCuts sampleCodec emptyLedger commandCuts))
      (.ok ()) (.ok ()) ((Edit.changeCommand (.text "other")).apply 3
        (commandDatabase (runCuts sampleCodec emptyLedger commandCuts))) =
        .error .forensicLockdown := by
  have keeps := keepsCommand_commandCuts
  obtain ⟨event, member, place⟩ := keeps.event
  have found := tampering_found_iff sampleCodec _ commandCuts _ keeps.stores keeps.few event member
    (.changeCommand (.text "other"))
  rw [place] at found
  generalize runCuts sampleCodec emptyLedger commandCuts = ledger at keeps found ⊢
  refine (found ?_ ?_ ?_ (.ok ()) nofun).mpr ⟨"other", rfl, ?_⟩
  · exact Option.isSome_iff_exists.mpr ⟨_, keeps.written⟩
  · intro same
    have json : some (Value.text "other") = some (Value.text "command") :=
      congrArg (fun rows : Beside => rows.1.map CommandColumns.commandJson) same
    exact absurd json (by decide)
  · have codecs : CollisionFree sampleCodec.sha256 [commandInput sampleCodec sampleCommand] ∧
        CollisionFree sampleCodec.commandJson [sampleCommand] := by
      constructor <;> simp [CollisionFree]
    exact ⟨codecs.1, codecs.2, nofun⟩
  · rw [keeps.written]
    nofun

/-- Without its command row the same database opens as before. -/
theorem removed_command_not_found :
    (commandOf (runCuts sampleCodec emptyLedger commandCuts).tables 3).isSome = true ∧
      openDatabase sampleCodec (commandDecoder (runCuts sampleCodec emptyLedger commandCuts))
        (.ok ()) (.ok ()) ((Edit.removeCommand).apply 3
          (commandDatabase (runCuts sampleCodec emptyLedger commandCuts))) = .ok () := by
  have keeps := keepsCommand_commandCuts
  have sound := sound_runCuts (@sound_emptyLedger sampleCodec) commandCuts
  generalize runCuts sampleCodec emptyLedger commandCuts = ledger at keeps sound ⊢
  have written : (commandOf ledger.tables 3).isSome = true :=
    Option.isSome_iff_exists.mpr ⟨_, keeps.written⟩
  obtain ⟨event, member, place⟩ := keeps.event
  have loads := sound.vouched.evidence event member
  have judged := validateDatabase_apply keeps.stores sound keeps.few member .removeCommand
  rw [place] at loads judged
  have rows := @beside_apply _ _ _ _ keeps.stores 3 .removeCommand written
  refine ⟨written, ?_⟩
  unfold openDatabase
  rw [judged, rows, removed_command keeps.stores loads]
  rfl

end Service

end JwOps.Ledger.Tampering
