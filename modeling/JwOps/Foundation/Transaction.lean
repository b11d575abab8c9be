/- module: Foundation/Transaction
   digest: Statements over a store that may fail one by one, and transactions that roll back. -/
import Mathlib.Logic.Basic

set_option autoImplicit false

namespace JwOps.Foundation.Transaction

/-- A store together with the fault schedule consumed by the statements still to be run.
An exhausted schedule means that every later statement succeeds. -/
structure Session (D : Type) where
  store : D
  faults : List Bool

/-- Sequences of statements over a store `D` that stop at the first error. -/
abbrev SessionM (D E : Type) := ExceptT E (StateM (Session D))

/-- How a transaction block ends: it is left before the commit, or it is committed. -/
inductive Ending (β α : Type) where
  | dropped (value : β)
  | committed (value : α)
  deriving Repr, DecidableEq

variable {D E α β γ : Type}

/-- One statement: the schedule may fail it before it takes effect. -/
def statement (fault : E) (effect : D → Except E (α × D)) : SessionM D E α := fun session =>
  match session.faults with
  | true :: rest => (.error fault, { session with faults := rest })
  | schedule =>
    match effect session.store with
    | .ok (value, store) => (.ok value, ⟨store, schedule.tail⟩)
    | .error error => (.error error, ⟨session.store, schedule.tail⟩)

/-- A statement that only reads. -/
def query (fault : E) (read : D → Except E α) : SessionM D E α :=
  statement fault fun store => (read store).map fun value => (value, store)

/-- A statement that always applies when the schedule lets it run. -/
def execute (fault : E) (write : D → D) : SessionM D E Unit :=
  statement fault fun store => .ok ((), write store)

/-- Stops with `error` when the condition holds. -/
def rejectIf (condition : Prop) [Decidable condition] (error : E) : SessionM D E Unit :=
  if condition then throw error else pure ()

/-- Runs the statements only when the condition holds. -/
def runIf (condition : Bool) (program : SessionM D E Unit) : SessionM D E Unit :=
  if condition then program else pure ()

/-- Runs the statements on a value that may be absent. -/
def runSome (value : Option α) (program : α → SessionM D E Unit) : SessionM D E Unit :=
  match value with
  | some present => program present
  | none => pure ()

/-- The block followed by its commit, which leaving the block early skips. -/
def closing (fault : E) (block : SessionM D E (Ending β α)) : SessionM D E (Ending β α) := do
  match ← block with
  | .dropped value => pure (.dropped value)
  | .committed value =>
    execute fault id
    pure (.committed value)

/-- Opens a transaction, runs the block on it and commits; every error, a failed commit and
leaving the block early put back the store the transaction was opened on. -/
def transaction (fault : E) (block : SessionM D E (Ending β α)) : SessionM D E (Ending β α) := do
  execute fault id
  fun session =>
    match closing fault block session with
    | (.ok (.committed value), after) => (.ok (.committed value), after)
    | (.ok (.dropped value), after) => (.ok (.dropped value), { after with store := session.store })
    | (.error error, after) => (.error error, { after with store := session.store })

/-- What holds of the result and of the store whatever the schedule is. -/
def Outcome (program : SessionM D E α) (store : D) (post : Except E α → D → Prop) : Prop :=
  ∀ faults, post (program ⟨store, faults⟩).1 (program ⟨store, faults⟩).2.store

variable {program : SessionM D E α} {post post' : Except E α → D → Prop}

theorem Outcome.mono {store : D} (holds : Outcome program store post)
    (weaker : ∀ result after, post result after → post' result after) :
      Outcome program store post' :=
  fun faults => weaker _ _ (holds faults)

theorem Outcome.and {store : D} (left : Outcome program store post)
    (right : Outcome program store post') :
    Outcome program store fun result after => post result after ∧ post' result after :=
  fun faults => ⟨left faults, right faults⟩

theorem Outcome.ret {store : D} (value : α) (holds : post (.ok value) store) :
    Outcome (pure value : SessionM D E α) store post :=
  fun _ => holds

theorem Outcome.fail {store : D} (error : E) (holds : post (.error error) store) :
    Outcome (throw error : SessionM D E α) store post :=
  fun _ => holds

theorem run_bind (program : SessionM D E α) (next : α → SessionM D E β) (session : Session D) :
    (program >>= next) session =
      match program session with
      | (.ok value, reached) => next value reached
      | (.error error, reached) => (.error error, reached) := by
  change ExceptT.bindCont next (program session).1 (program session).2 = _
  rcases program session with ⟨error | value, reached⟩ <;> rfl

theorem Outcome.bind {program : SessionM D E α} {next : α → SessionM D E β} {store : D}
    {post : Except E β → D → Prop}
    (first : Outcome program store fun result after =>
      match result with
      | .ok value => Outcome (next value) after post
      | .error error => post (.error error) after) :
    Outcome (program >>= next) store post := by
  intro faults
  have step := first faults
  rw [run_bind]
  rcases run : program ⟨store, faults⟩ with ⟨error | value, session⟩
  · rw [run] at step
    exact step
  · rw [run] at step
    exact step session.faults

theorem Outcome.statement {fault : E} {effect : D → Except E (α × D)} {store : D}
    (failed : post (.error fault) store)
    (done : match effect store with
      | .ok (value, after) => post (.ok value) after
      | .error error => post (.error error) store) :
    Outcome (statement fault effect) store post := by
  intro faults
  unfold Transaction.statement
  cases faults with
  | nil => dsimp only; cases result : effect store <;> simp only [result] at done ⊢ <;> exact done
  | cons head rest =>
    cases head with
    | true => exact failed
    | false =>
      dsimp only
      cases result : effect store <;> simp only [result] at done ⊢ <;> exact done

theorem Outcome.query {fault : E} {read : D → Except E α} {store : D}
    (failed : post (.error fault) store) (done : post (read store) store) :
      Outcome (query fault read) store post := by
  refine Outcome.statement failed ?_
  cases result : read store with
  | error _ | ok _ => simpa [result, Except.map] using done

theorem Outcome.rejectIf {condition : Prop} [Decidable condition] {error : E} {store : D}
    {post : Except E Unit → D → Prop} (failed : post (.error error) store)
    (passed : ¬condition → post (.ok ()) store) :
    Outcome (rejectIf condition error) store post := by
  unfold Transaction.rejectIf
  split
  · exact Outcome.fail _ failed
  · rename_i holds
    exact Outcome.ret _ (passed holds)

theorem Outcome.runIf {condition : Bool} {program : SessionM D E Unit} {store : D}
    {post : Except E Unit → D → Prop} (taken : condition = true → Outcome program store post)
    (skipped : condition = false → post (.ok ()) store) :
    Outcome (runIf condition program) store post := by
  cases condition with
  | true => exact taken rfl
  | false => exact Outcome.ret _ (skipped rfl)

theorem Outcome.runSome {value : Option α} {program : α → SessionM D E Unit} {store : D}
    {post : Except E Unit → D → Prop}
    (taken : ∀ present, value = some present → Outcome (program present) store post)
    (skipped : value = none → post (.ok ()) store) :
    Outcome (runSome value program) store post := by
  cases value with
  | some present => exact taken present rfl
  | none => exact Outcome.ret _ (skipped rfl)

theorem Outcome.execute {fault : E} {write : D → D} {store : D}
    {post : Except E Unit → D → Prop} (failed : post (.error fault) store)
    (done : post (.ok ()) (write store)) : Outcome (execute fault write) store post :=
  Outcome.statement failed done

/-- A transaction either commits what its block reached or leaves the store alone. -/
theorem Outcome.transaction {fault : E} {block : SessionM D E (Ending β α)} {store : D}
    {post : Except E (Ending β α) → D → Prop} (failed : post (.error fault) store)
    (inner : Outcome block store fun result after =>
      match result with
      | .ok (.committed value) => post (.ok (.committed value)) after
      | .ok (.dropped value) => post (.ok (.dropped value)) store
      | .error error => post (.error error) store) :
    Outcome (transaction fault block) store post := by
  refine Outcome.bind (Outcome.execute failed ?_)
  intro faults
  have attempted : Outcome (closing fault block) store fun result after =>
      match result with
      | .ok (.committed value) => post (.ok (.committed value)) after
      | .ok (.dropped value) => post (.ok (.dropped value)) store
      | .error error => post (.error error) store := by
    refine Outcome.bind (inner.mono ?_)
    intro result after holds
    match result, holds with
    | .error error, holds => exact holds
    | .ok (.dropped value), holds => exact Outcome.ret _ holds
    | .ok (.committed value), holds =>
      exact Outcome.bind (Outcome.execute failed (Outcome.ret _ holds))
  have reached := attempted faults
  dsimp only [id] at reached ⊢
  split <;> rename_i run <;> rw [run] at reached <;> exact reached

/-! ### Programs that do not look at a part of the store -/

/-- The program does the same on a store that is changed by `change`, and leaves it so changed. -/
def Ignores (program : SessionM D E α) (change : D → D) : Prop :=
  ∀ store faults, program ⟨change store, faults⟩ =
    ((program ⟨store, faults⟩).1,
      ⟨change (program ⟨store, faults⟩).2.store, (program ⟨store, faults⟩).2.faults⟩)

section Ignoring

variable {change : D → D}

theorem Ignores.ret (value : α) : Ignores (pure value : SessionM D E α) change :=
  fun _ _ => rfl

theorem Ignores.bind {program : SessionM D E α} {next : α → SessionM D E β}
    (first : Ignores program change) (rest : ∀ value, Ignores (next value) change) :
    Ignores (program >>= next) change := by
  intro store faults
  rw [run_bind, run_bind, first store faults]
  rcases program ⟨store, faults⟩ with ⟨error | value, reached, left⟩
  · rfl
  · exact rest value reached left

theorem Ignores.statement {fault : E} {effect : D → Except E (α × D)}
    (same : ∀ store, effect (change store) =
      (effect store).map fun reached => (reached.1, change reached.2)) :
    Ignores (statement fault effect) change := by
  intro store faults
  unfold Transaction.statement
  cases faults with
  | nil =>
    dsimp only
    rw [same store]
    cases effect store with
    | error error => rfl
    | ok reached => rfl
  | cons head rest =>
    cases head with
    | true => rfl
    | false =>
      dsimp only
      rw [same store]
      cases effect store with
      | error error => rfl
      | ok reached => rfl

theorem Ignores.query {fault : E} {read : D → Except E α}
    (same : ∀ store, read (change store) = read store) : Ignores (query fault read) change := by
  refine Ignores.statement fun store => ?_
  rw [same store]
  cases read store with
  | error error => rfl
  | ok value => rfl

theorem Ignores.execute {fault : E} {write : D → D}
    (same : ∀ store, write (change store) = change (write store)) :
    Ignores (execute fault write) change := by
  refine Ignores.statement fun store => ?_
  rw [same store]
  rfl

theorem Ignores.rejectIf {condition : Prop} [Decidable condition] {error : E} :
    Ignores (rejectIf condition error : SessionM D E Unit) change := by
  unfold Transaction.rejectIf
  split
  · exact fun _ _ => rfl
  · exact fun _ _ => rfl

end Ignoring

/-! ### Runs without faults -/

section Quiet

variable {fault : E} {store : D}

variable {value : α} {block : SessionM D E (Ending β α)}

theorem run_statement_quiet {effect : D → Except E (α × D)} {after : D}
    (done : effect store = .ok (value, after)) :
    statement fault effect ⟨store, []⟩ = (.ok value, ⟨after, []⟩) := by
  unfold statement
  rw [done]
  rfl

theorem run_query_quiet {read : D → Except E α} {result : Except E α} (done : read store = result) :
    query fault read ⟨store, []⟩ = (result, ⟨store, []⟩) := by
  unfold query statement
  dsimp only
  rw [done]
  cases result with
  | error error => rfl
  | ok value => rfl

theorem run_execute_quiet {write : D → D} :
    execute fault write ⟨store, []⟩ = (.ok (), ⟨write store, []⟩) := rfl

theorem run_transaction_quiet {error : E} {after : D}
    (failed : block ⟨store, []⟩ = (.error error, ⟨after, []⟩)) :
    transaction fault block ⟨store, []⟩ = (.error error, ⟨store, []⟩) := by
  have closed : closing fault block ⟨store, []⟩ = (.error error, ⟨after, []⟩) := by
    unfold closing
    rw [run_bind, failed]
  unfold transaction
  rw [run_bind, run_execute_quiet]
  dsimp only [id]
  rw [closed]

theorem run_transaction_dropped {value : β} {after : D}
    (left : block ⟨store, []⟩ = (.ok (.dropped value), ⟨after, []⟩)) :
    transaction fault block ⟨store, []⟩ = (.ok (.dropped value), ⟨store, []⟩) := by
  have closed : closing fault block ⟨store, []⟩ = (.ok (.dropped value), ⟨after, []⟩) := by
    unfold closing
    rw [run_bind, left]
    rfl
  unfold transaction
  rw [run_bind, run_execute_quiet]
  dsimp only [id]
  rw [closed]

theorem run_transaction_committed {after : D}
    (done : block ⟨store, []⟩ = (.ok (.committed value), ⟨after, []⟩)) :
    transaction fault block ⟨store, []⟩ = (.ok (.committed value), ⟨after, []⟩) := by
  have closed : closing fault block ⟨store, []⟩ = (.ok (.committed value), ⟨after, []⟩) := by
    unfold closing
    rw [run_bind, done]
    rfl
  unfold transaction
  rw [run_bind, run_execute_quiet]
  dsimp only [id]
  rw [closed]

end Quiet

end JwOps.Foundation.Transaction
