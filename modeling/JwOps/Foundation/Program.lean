/- module: Foundation/Program
   digest: Programs as trees of calls, run against an environment that may answer anything. -/
import Mathlib.Logic.Basic

set_option autoImplicit false

namespace JwOps.Foundation.Program

/-- A program that issues calls of `Op`; each call is continued by its answer. -/
inductive Prog (Op : Type) (Ans : Op → Type) (α : Type) where
  | ret (value : α)
  | call (op : Op) (next : Ans op → Prog Op Ans α)

variable {Op : Type} {Ans : Op → Type} {α β γ E : Type}

def Prog.bind : Prog Op Ans α → (α → Prog Op Ans β) → Prog Op Ans β
  | .ret value, next => next value
  | .call op following, next => .call op fun answer => (following answer).bind next

instance : Monad (Prog Op Ans) where
  pure := .ret
  bind := Prog.bind

theorem Prog.bind_ret (program : Prog Op Ans α) : program.bind .ret = program := by
  induction program with
  | ret value => rfl
  | call op next ih => exact congrArg (Prog.call op) (funext ih)

theorem Prog.bind_assoc (program : Prog Op Ans α) (first : α → Prog Op Ans β)
    (second : β → Prog Op Ans γ) :
    (program.bind first).bind second = program.bind fun value => (first value).bind second := by
  induction program with
  | ret value => rfl
  | call op next ih => exact congrArg (Prog.call op) (funext ih)

instance : LawfulMonad (Prog Op Ans) :=
  LawfulMonad.mk' _ Prog.bind_ret (fun _ _ => rfl) Prog.bind_assoc

/-- The program that issues one call and returns its answer. -/
def issue (op : Op) : Prog Op Ans (Ans op) := .call op .ret

/-- How an environment may answer a call and which world it leaves behind. -/
abbrev Environment (Op : Type) (Ans : Op → Type) (W : Type) :=
  W → (op : Op) → Ans op → W → Prop

variable {W T : Type}

/-- A run of the program to its end. -/
inductive Completes (env : Environment Op Ans W) :
    Prog Op Ans α → W → α → W → Prop where
  | ret (value : α) (world : W) : Completes env (.ret value) world value world
  | call {op : Op} {next : Ans op → Prog Op Ans α} {world middle last : W} {answer : Ans op}
      {value : α} (step : env world op answer middle)
      (rest : Completes env (next answer) middle value last) :
      Completes env (.call op next) world value last

/-- A run of the program that is cut off after any number of its calls. -/
inductive Interrupted (env : Environment Op Ans W) : Prog Op Ans α → W → W → Prop where
  | here (program : Prog Op Ans α) (world : W) : Interrupted env program world world
  | call {op : Op} {next : Ans op → Prog Op Ans α} {world middle last : W} {answer : Ans op}
      (step : env world op answer middle) (rest : Interrupted env (next answer) middle last) :
      Interrupted env (.call op next) world last

theorem Completes.interrupted {env : Environment Op Ans W} {program : Prog Op Ans α}
    {world last : W} {value : α} (run : Completes env program world value last) :
    Interrupted env program world last := by
  induction run with
  | ret value world => exact .here _ _
  | call step _ ih => exact .call step ih

/-- Runs the program against a deterministic environment. -/
def runWith (handler : W → (op : Op) → Ans op × W) : Prog Op Ans α → W → α × W
  | .ret value, world => (value, world)
  | .call op next, world =>
    runWith handler (next (handler world op).1) (handler world op).2

variable {handler : W → (op : Op) → Ans op × W}

theorem runWith_bind (program : Prog Op Ans α) (next : α → Prog Op Ans β) (world : W) :
    runWith handler (program >>= next) world =
      runWith handler (next (runWith handler program world).1)
        (runWith handler program world).2 := by
  induction program generalizing world with
  | ret value => rfl
  | call op following ih => exact ih _ _

theorem completes_runWith {env : Environment Op Ans W}
    (allowed : ∀ world op, env world op (handler world op).1 (handler world op).2)
    (program : Prog Op Ans α) (world : W) :
    Completes env program world (runWith handler program world).1
      (runWith handler program world).2 := by
  induction program generalizing world with
  | ret value => exact .ret value world
  | call op next ih => exact .call (allowed world op) (ih _ _)

/-- Runs the program against a deterministic environment until a world is to be looked at. -/
def runUntil (handler : W → (op : Op) → Ans op × W) (halt : W → Bool) : Prog Op Ans α → W → W
  | .ret _, world => world
  | .call op next, world =>
    if halt world then world
    else runUntil handler halt (next (handler world op).1) (handler world op).2

theorem interrupted_runUntil {env : Environment Op Ans W} {halt : W → Bool}
    (allowed : ∀ world op, env world op (handler world op).1 (handler world op).2)
    (program : Prog Op Ans α) (world : W) :
    Interrupted env program world (runUntil handler halt program world) := by
  induction program generalizing world with
  | ret value => exact .here _ _
  | call op next ih =>
    unfold runUntil
    split
    · exact .here _ _
    · exact .call (allowed world op) (ih _ _)

/-- Every call the program issues satisfies the guard, and `post` holds when it ends,
whatever the environment answers. -/
def Safe (env : Environment Op Ans W) (guard : W → Op → Prop) :
    Prog Op Ans α → W → (α → W → Prop) → Prop
  | .ret value, world, post => post value world
  | .call op next, world, post =>
    guard world op ∧ ∀ answer after, env world op answer after →
      Safe env guard (next answer) after post

section Rules

variable {env : Environment Op Ans W} {guard guard' : W → Op → Prop} {program : Prog Op Ans α}
  {world last : W} {value : α} {post post' : α → W → Prop} {invariant : W → Prop}

theorem Safe.mono (holds : Safe env guard program world post)
    (weaker : ∀ value after, post value after → post' value after) :
    Safe env guard program world post' := by
  induction program generalizing world with
  | ret value => exact weaker _ _ holds
  | call op next ih =>
    exact ⟨holds.1, fun answer after step => ih answer (holds.2 answer after step)⟩

theorem Safe.weaken (holds : Safe env guard program world post)
    (allowed : ∀ world op, guard world op → guard' world op) :
    Safe env guard' program world post := by
  induction program generalizing world with
  | ret value => exact holds
  | call op next ih =>
    exact ⟨allowed _ _ holds.1, fun answer after step => ih answer (holds.2 answer after step)⟩

/-- Two postconditions of one program; the second may come from any guard. -/
theorem Safe.and (first : Safe env guard program world post)
    (second : Safe env guard' program world post') :
    Safe env guard program world fun value after => post value after ∧ post' value after := by
  induction program generalizing world with
  | ret value => exact ⟨first, second⟩
  | call op next ih =>
    refine ⟨first.1, fun answer after step => ?_⟩
    exact ih answer (first.2 answer after step) (second.2 answer after step)

/-- Two guards of one program. -/
theorem Safe.guards (first : Safe env guard program world post)
    (second : Safe env guard' program world post') :
    Safe env (fun world op => guard world op ∧ guard' world op) program world post := by
  induction program generalizing world with
  | ret value => exact first
  | call op next ih =>
    refine ⟨⟨first.1, second.1⟩, fun answer after step => ?_⟩
    exact ih answer (first.2 answer after step) (second.2 answer after step)

/-- A guard that holds at every call and keeps an invariant gives the invariant at the end. -/
theorem Safe.keep (holds : Safe env guard program world post)
    (kept : ∀ world op answer after, invariant world → guard world op →
      env world op answer after → invariant after)
    (initial : invariant world) :
    Safe env (fun world op => invariant world ∧ guard world op) program world
      fun value after => invariant after ∧ post value after := by
  induction program generalizing world with
  | ret value => exact ⟨initial, holds⟩
  | call op next ih =>
    refine ⟨⟨initial, holds.1⟩, fun answer after step => ?_⟩
    exact ih answer (holds.2 answer after step) (kept _ _ _ _ initial holds.1 step)

theorem Safe.bind {next : α → Prog Op Ans β} {post : β → W → Prop}
    (first : Safe env guard program world fun value after =>
      Safe env guard (next value) after post) :
    Safe env guard (program >>= next) world post := by
  induction program generalizing world with
  | ret value => exact first
  | call op following ih =>
    exact ⟨first.1, fun answer after step => ih answer (first.2 answer after step)⟩

/-- The postcondition holds at the end of every complete run. -/
theorem Safe.completes (holds : Safe env guard program world post)
    (run : Completes env program world value last) : post value last := by
  induction run with
  | ret value world => exact holds
  | call step _ ih => exact ih (holds.2 _ _ step)

/-- An invariant kept by every guarded call holds wherever a run is cut off. -/
theorem Safe.interrupted (holds : Safe env guard program world post)
    (kept : ∀ world op answer after, invariant world → guard world op →
      env world op answer after → invariant after)
    (initial : invariant world) (run : Interrupted env program world last) : invariant last := by
  induction run with
  | here program world => exact initial
  | call step _ ih =>
    exact ih (holds.2 _ _ step) (kept _ _ _ _ initial holds.1 step)

end Rules

section Failing

variable {env : Environment Op Ans W} {guard : W → Op → Prop}

/-- Programs that stop at the first error. -/
abbrev Fallible (Op : Type) (Ans : Op → Type) (E : Type) := ExceptT E (Prog Op Ans)

/-- `Safe` for a fallible program: the postcondition sees the error or the value. -/
abbrev SafeE (env : Environment Op Ans W) (guard : W → Op → Prop)
    (program : Fallible Op Ans E α) (world : W) (post : Except E α → W → Prop) : Prop :=
  Safe env guard program.run world post

/-- The result of the program as a value; the program itself never fails. -/
def attempt (program : Fallible Op Ans E α) : Fallible Op Ans E (Except E α) :=
  ExceptT.mk (program.run >>= fun result => .ret (.ok result))

/-- Hands an error of the program to the handler, which then gives the final result. -/
def onError (program : Fallible Op Ans E α) (handler : E → Fallible Op Ans E β)
    (next : α → Fallible Op Ans E β) : Fallible Op Ans E β :=
  ExceptT.mk (program.run >>= fun result =>
    match result with
    | .ok value => (next value).run
    | .error error => (handler error).run)

/-- Replaces an error of the program. -/
def mapError (program : Fallible Op Ans E α) (change : E → E) : Fallible Op Ans E α :=
  onError program (fun error => throw (change error)) pure

/-- Stops with `error` when the condition holds. -/
def rejectIf (condition : Prop) [Decidable condition] (error : E) : Fallible Op Ans E Unit :=
  if condition then throw error else pure ()

/-- A value computed without calls. -/
def lift (result : Except E α) : Fallible Op Ans E α := ExceptT.mk (.ret result)

variable {program : Fallible Op Ans E α} {next : α → Fallible Op Ans E β} {world : W}
  {post : Except E α → W → Prop}

theorem SafeE.ret (value : α) (holds : post (.ok value) world) :
    SafeE env guard (pure value : Fallible Op Ans E α) world post := holds

theorem SafeE.fail (error : E) (holds : post (.error error) world) :
    SafeE env guard (throw error : Fallible Op Ans E α) world post := holds

theorem SafeE.bind {post : Except E β → W → Prop}
    (first : SafeE env guard program world fun result after =>
      match result with
      | .ok value => SafeE env guard (next value) after post
      | .error error => post (.error error) after) :
    SafeE env guard (program >>= next) world post := by
  refine Safe.bind (first.mono fun result after holds => ?_)
  cases result with
  | ok value => exact holds
  | error error => exact holds

theorem SafeE.lift (result : Except E α) (holds : post result world) :
    SafeE env guard (lift result : Fallible Op Ans E α) world post := holds

theorem SafeE.attempt {post : Except E (Except E α) → W → Prop}
    (first : SafeE env guard program world fun result after => post (.ok result) after) :
    SafeE env guard (attempt program) world post :=
  Safe.bind (first.mono fun _ _ holds => holds)

theorem SafeE.onError {handler : E → Fallible Op Ans E β} {post : Except E β → W → Prop}
    (first : SafeE env guard program world fun result after =>
      match result with
      | .ok value => SafeE env guard (next value) after post
      | .error error => SafeE env guard (handler error) after post) :
    SafeE env guard (onError program handler next) world post := by
  refine Safe.bind (first.mono fun result after holds => ?_)
  cases result with
  | ok value => exact holds
  | error error => exact holds

theorem SafeE.rejectIf {condition : Prop} [Decidable condition] {error : E}
    {post : Except E Unit → W → Prop} (failed : condition → post (.error error) world)
    (passed : ¬condition → post (.ok ()) world) :
    SafeE env guard (rejectIf condition error : Fallible Op Ans E Unit) world post := by
  unfold Program.rejectIf
  split
  · rename_i holds
    exact SafeE.fail error (failed holds)
  · rename_i holds
    exact SafeE.ret () (passed holds)

end Failing

section Issuing

variable {allowed allowed' : Op → Prop}

/-- Every call that the program can issue is allowed, whatever it was answered before. -/
def Issues (allowed : Op → Prop) : Prog Op Ans α → Prop
  | .ret _ => True
  | .call op next => allowed op ∧ ∀ answer, Issues allowed (next answer)

section

variable {program : Prog Op Ans α}

theorem Issues.mono (calls : Issues allowed program)
    (weaker : ∀ op, allowed op → allowed' op) : Issues allowed' program := by
  induction program with
  | ret value => trivial
  | call op next ih => exact ⟨weaker op calls.1, fun answer => ih answer (calls.2 answer)⟩

theorem Issues.bind {next : α → Prog Op Ans β} (first : Issues allowed program)
    (rest : ∀ value, Issues allowed (next value)) :
    Issues allowed (program >>= next) := by
  induction program with
  | ret value => exact rest value
  | call op following ih => exact ⟨first.1, fun answer => ih answer (first.2 answer)⟩

theorem Issues.any (program : Prog Op Ans α) : Issues (fun _ => True) program := by
  induction program with
  | ret value => trivial
  | call op next ih => exact ⟨trivial, ih⟩

/-- A program whose calls all keep an invariant ends in it. -/
theorem Safe.of_issues {env : Environment Op Ans W} {guard : W → Op → Prop}
    {world : W} {invariant : W → Prop} (calls : Issues allowed program) (initial : invariant world)
    (guarded : ∀ world op, invariant world → allowed op → guard world op)
    (kept : ∀ world op answer after, invariant world → allowed op →
      env world op answer after → invariant after) :
    Safe env guard program world fun _ after => invariant after := by
  induction program generalizing world with
  | ret value => exact initial
  | call op next ih =>
    refine ⟨guarded _ _ initial calls.1, fun answer after step => ?_⟩
    exact ih answer (calls.2 answer) (kept _ _ _ _ initial calls.1 step)

end

/-- `Issues` for a fallible program. -/
abbrev IssuesE (allowed : Op → Prop) (program : Fallible Op Ans E α) : Prop :=
  Issues allowed program.run

theorem IssuesE.ret (value : α) : IssuesE allowed (pure value : Fallible Op Ans E α) := trivial

theorem IssuesE.fail (error : E) : IssuesE allowed (throw error : Fallible Op Ans E α) := trivial

theorem IssuesE.lift (result : Except E α) :
    IssuesE allowed (lift result : Fallible Op Ans E α) := trivial

variable {program : Fallible Op Ans E α} {next : α → Fallible Op Ans E β}

theorem IssuesE.bind (first : IssuesE allowed program)
    (rest : ∀ value, IssuesE allowed (next value)) :
    IssuesE allowed (program >>= next) := by
  refine Issues.bind first fun result => ?_
  cases result with
  | ok value => exact rest value
  | error error => trivial

theorem IssuesE.attempt (first : IssuesE allowed program) :
    IssuesE allowed (attempt program) :=
  Issues.bind first fun _ => trivial

theorem IssuesE.onError {handler : E → Fallible Op Ans E β} (first : IssuesE allowed program)
    (failed : ∀ error, IssuesE allowed (handler error))
    (done : ∀ value, IssuesE allowed (next value)) :
    IssuesE allowed (onError program handler next) := by
  refine Issues.bind first fun result => ?_
  cases result with
  | ok value => exact done value
  | error error => exact failed error

theorem IssuesE.mapError {change : E → E} (first : IssuesE allowed program) :
    IssuesE allowed (mapError program change) :=
  IssuesE.onError first (fun _ => trivial) fun _ => trivial

theorem IssuesE.rejectIf (condition : Prop) [Decidable condition] (error : E) :
    IssuesE allowed (rejectIf condition error : Fallible Op Ans E Unit) := by
  unfold Program.rejectIf
  split <;> trivial

theorem IssuesE.checked {condition : Prop} [Decidable condition] {error : E}
    {next : Fallible Op Ans E α} (rest : IssuesE allowed next) :
    IssuesE allowed (Program.rejectIf condition error >>= fun _ => next) :=
  IssuesE.bind (IssuesE.rejectIf condition error) fun _ => rest

theorem IssuesE.forM {items : List α} {body : α → Fallible Op Ans E Unit}
    (each : ∀ item, IssuesE allowed (body item)) : IssuesE allowed (items.forM body) := by
  induction items with
  | nil => trivial
  | cons item rest ih => exact IssuesE.bind (each item) fun _ => ih

end Issuing

section Returning

/-- Whatever is answered, a value with the property is returned. -/
def Returns (holds : α → Prop) : Prog Op Ans α → Prop
  | .ret value => holds value
  | .call _ next => ∀ answer, Returns holds (next answer)

theorem Returns.safe {holds : α → Prop} {program : Prog Op Ans α} (returns : Returns holds program)
    (env : Environment Op Ans W) (world : W) :
    Safe env (fun _ _ => True) program world fun value _ => holds value := by
  induction program generalizing world with
  | ret value => exact returns
  | call op next ih => exact ⟨trivial, fun answer after _ => ih answer (returns answer) after⟩

theorem Returns.bind {holds : α → Prop} {holds' : β → Prop} {program : Prog Op Ans α}
    {next : α → Prog Op Ans β} (first : Returns holds program)
    (rest : ∀ value, holds value → Returns holds' (next value)) :
    Returns holds' (program >>= next) := by
  induction program with
  | ret value => exact rest value first
  | call op following ih => exact fun answer => ih answer (first answer)

/-- The program never fails. -/
abbrev Succeeds (program : Fallible Op Ans E α) : Prop :=
  Returns (fun result => result.toBool = true) program.run

theorem Succeeds.attempt (program : Fallible Op Ans E α) : Succeeds (attempt program) := by
  unfold Program.attempt Succeeds
  induction program.run with
  | ret result => rfl
  | call op next ih => exact ih

theorem Succeeds.bind {program : Fallible Op Ans E α} {next : α → Fallible Op Ans E β}
    (first : Succeeds program) (rest : ∀ value, Succeeds (next value)) :
    Succeeds (program >>= next) := by
  refine Returns.bind first fun result isOk => ?_
  cases result with
  | ok value => exact rest value
  | error error => cases isOk

theorem Succeeds.forM {items : List α} {body : α → Fallible Op Ans E Unit}
    (each : ∀ item, Succeeds (body item)) : Succeeds (items.forM body) := by
  induction items with
  | nil => rfl
  | cons item rest ih => exact Succeeds.bind (each item) fun _ => ih

end Returning

/-- A relation to an abstract world under which every guarded call of the concrete
environment is answered by an abstract call. -/
structure Simulates (concrete : Environment Op Ans W) (abstract_ : Environment Op Ans T)
    (guard : T → Op → Prop) (related : W → T → Prop) : Prop where
  step : ∀ {world track op answer after}, related world track → guard track op →
    concrete world op answer after →
    ∃ next, abstract_ track op answer next ∧ related after next

variable {concrete : Environment Op Ans W} {abstract_ : Environment Op Ans T}
  {related : W → T → Prop}

theorem Simulates.narrow {guard guard' : T → Op → Prop}
    (simulation : Simulates concrete abstract_ guard related)
    (stronger : ∀ track op, guard' track op → guard track op) :
    Simulates concrete abstract_ guard' related :=
  ⟨fun start allowed stepped => simulation.step start (stronger _ _ allowed) stepped⟩

/-- What is safe against the abstract environment is safe against the concrete one. -/
theorem Safe.simulated {guard : T → Op → Prop}
    (simulation : Simulates concrete abstract_ guard related) {program : Prog Op Ans α}
    {world : W} {track : T} {post : α → T → Prop} (start : related world track)
    (holds : Safe abstract_ guard program track post) :
    Safe concrete (fun world op => ∃ track, related world track ∧ guard track op) program world
      fun value after => ∃ last, related after last ∧ post value last := by
  induction program generalizing world track with
  | ret value => exact ⟨track, start, holds⟩
  | call op next ih =>
    refine ⟨⟨track, start, holds.1⟩, fun answer after step => ?_⟩
    obtain ⟨reached, matched, relatedAfter⟩ := simulation.step start holds.1 step
    exact ih answer relatedAfter (holds.2 answer reached matched)

end JwOps.Foundation.Program
