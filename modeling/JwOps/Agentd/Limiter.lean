/- module: Agentd/Limiter
   source: crates/jw-agentd/src/api.rs (AuthLimiter, ApiProblem)
   digest: The limits on authentication attempts, and when a refused attempt costs the others. -/
import JwOps.Contracts.Digest
import JwOps.Foundation.Window
import Mathlib.Data.List.Induction

set_option autoImplicit false

namespace JwOps.Agentd.Limiter

open Contracts Foundation Operation Digest Maps Window

structure ApiProblem where
  status : Nat
  code : String
  retryAfter : Option Nat
  deriving DecidableEq, Repr

namespace ApiProblem

def new (status : Nat) (code : String) : ApiProblem := ⟨status, code, none⟩

def rateLimited (retryAfter : Nat) : ApiProblem :=
  ⟨429, "authentication_rate_limited", some retryAfter⟩

end ApiProblem

/-- Nanoseconds, as an instant of the monotonic clock counts them. -/
def authWindow : Nat := 60 * 1000000000

def authGlobalLimit : Nat := 60

def authSourceLimit : Nat := 20

def authSubjectLimit : Nat := 6

def authKeyLimit : Nat := 2048

structure AuthLimiterState where
  global : Option Counter
  sources : Dict String Counter
  subjects : Dict Bytes Counter
  deriving DecidableEq

def AuthLimiterState.default : AuthLimiterState := ⟨none, .empty, .empty⟩

def cleanupLimiter (state : AuthLimiterState) (now : Nat) : AuthLimiterState where
  global := state.global.filter (Counter.live authWindow now)
  sources := state.sources.retain fun _ => Counter.live authWindow now
  subjects := state.subjects.retain fun _ => Counter.live authWindow now

def remaining (counter : Counter) (now : Nat) : Nat := authWindow - (now - counter.started)

def consumeCounter (slot : Option Counter) (limit now : Nat) :
    Except ApiProblem Unit × Option Counter :=
  let counter := opened slot now
  if limit ≤ counter.attempts then
    (.error (.rateLimited (remaining counter now)), some counter)
  else (.ok (), some counter.next)

def consumeMapCounter {κ : Type} [DecidableEq κ] (map : Dict κ Counter) (key : κ)
    (limit now : Nat) : Except ApiProblem Unit × Dict κ Counter :=
  let counter := opened (map.get key) now
  if limit ≤ counter.attempts then
    (.error (.rateLimited (remaining counter now)), map.set key counter)
  else (.ok (), map.set key counter.next)

def subjectDigest (codec : Codec) (username : String) : Bytes :=
  (codec.sha256 (utf8Bytes username)).1

/-- What one attempt presents, and when. -/
structure Attempt where
  source : String
  username : String
  now : Nat
  deriving DecidableEq, Repr

def consume (codec : Codec) (state : AuthLimiterState) (attempt : Attempt) :
    Except ApiProblem Unit × AuthLimiterState :=
  let now := attempt.now
  let subject := subjectDigest codec attempt.username
  let state := cleanupLimiter state now
  if authKeyLimit ≤ state.sources.size ∧ state.sources.get attempt.source = none then
    (.error (.rateLimited authWindow), state)
  else if authKeyLimit ≤ state.subjects.size ∧ state.subjects.get subject = none then
    (.error (.rateLimited authWindow), state)
  else
    -- each counter is written before the next one is looked at
    match consumeCounter state.global authGlobalLimit now with
    | (.error problem, global) => (.error problem, { state with global })
    | (.ok (), global) =>
      match consumeMapCounter state.sources attempt.source authSourceLimit now with
      | (.error problem, sources) => (.error problem, { state with global, sources })
      | (.ok (), sources) =>
        let (outcome, subjects) := consumeMapCounter state.subjects subject authSubjectLimit now
        (outcome, ⟨global, sources, subjects⟩)

/-! ### What one attempt does -/

section Step

variable (codec : Codec) (state : AuthLimiterState) (attempt : Attempt)

/-- The limiter has a key for the attempt, or room for a new one. -/
def HasKeys : Prop :=
  (state.sources.size < authKeyLimit ∨ (state.sources.get attempt.source).isSome) ∧
  (state.subjects.size < authKeyLimit ∨
    (state.subjects.get (subjectDigest codec attempt.username)).isSome)

def SourceSpent : Prop := authSourceLimit ≤ used (state.sources.get attempt.source)

def SubjectSpent : Prop :=
  authSubjectLimit ≤ used (state.subjects.get (subjectDigest codec attempt.username))

/-- Neither the keys nor the global budget stand in the way. -/
def Room : Prop := HasKeys codec state attempt ∧ used state.global < authGlobalLimit

def withGlobal : AuthLimiterState :=
  { state with global := some (opened state.global attempt.now).next }

def withSource : AuthLimiterState :=
  { withGlobal state attempt with
    sources := state.sources.set attempt.source
      (opened (state.sources.get attempt.source) attempt.now).next }

/-- What an attempt does to counters that have been cleaned up. -/
inductive Consumes : Except ApiProblem Unit → AuthLimiterState → Prop
  | blocked {problem : ApiProblem} (full : ¬Room codec state attempt) :
      Consumes (.error problem) state
  | source {problem : ApiProblem} (room : Room codec state attempt)
      (spent : SourceSpent state attempt) :
      Consumes (.error problem)
        { withGlobal state attempt with
          sources := state.sources.set attempt.source
            (opened (state.sources.get attempt.source) attempt.now) }
  | subject {problem : ApiProblem} (room : Room codec state attempt)
      (fresh : ¬SourceSpent state attempt) (spent : SubjectSpent codec state attempt) :
      Consumes (.error problem)
        { withSource state attempt with
          subjects := state.subjects.set (subjectDigest codec attempt.username)
            (opened (state.subjects.get (subjectDigest codec attempt.username)) attempt.now) }
  | admitted (room : Room codec state attempt) (fresh : ¬SourceSpent state attempt)
      (freshSubject : ¬SubjectSpent codec state attempt) :
      Consumes (.ok ())
        { withSource state attempt with
          subjects := state.subjects.set (subjectDigest codec attempt.username)
            (opened (state.subjects.get (subjectDigest codec attempt.username)) attempt.now).next }

end Step

theorem room_of {size : Nat} {slot : Option Counter}
    (passed : ¬(authKeyLimit ≤ size ∧ slot = none)) : size < authKeyLimit ∨ slot.isSome := by
  by_cases small : size < authKeyLimit
  · exact .inl small
  · refine .inr ?_
    have some_ : slot ≠ none := fun absent => passed ⟨Nat.le_of_not_lt small, absent⟩
    exact Option.isSome_iff_ne_none.mpr some_

theorem no_room {size : Nat} {slot : Option Counter}
    (full : authKeyLimit ≤ size ∧ slot = none) : ¬(size < authKeyLimit ∨ slot.isSome) := by
  rintro (small | present)
  · exact Nat.not_lt_of_le full.1 small
  · rw [full.2] at present
    cases present

theorem consume_spec {codec : Codec} {state : AuthLimiterState} {attempt : Attempt} :
    Consumes codec (cleanupLimiter state attempt.now) attempt (consume codec state attempt).1
      (consume codec state attempt).2 := by
  unfold consume
  dsimp only
  generalize cleanupLimiter state attempt.now = state
  by_cases sources : authKeyLimit ≤ state.sources.size ∧ state.sources.get attempt.source = none
  · rw [if_pos sources]
    exact .blocked fun room => no_room sources room.1.1
  rw [if_neg sources]
  by_cases subjects : authKeyLimit ≤ state.subjects.size ∧
      state.subjects.get (subjectDigest codec attempt.username) = none
  · rw [if_pos subjects]
    exact .blocked fun room => no_room subjects room.1.2
  rw [if_neg subjects]
  have keys : HasKeys codec state attempt := ⟨room_of sources, room_of subjects⟩
  unfold consumeCounter consumeMapCounter
  simp only [opened_attempts]
  by_cases full : authGlobalLimit ≤ used state.global
  · rw [if_pos full]
    dsimp only
    rw [opened_of_used (by decide) full]
    exact .blocked fun room => Nat.not_lt_of_le full room.2
  rw [if_neg full]
  have room : Room codec state attempt := ⟨keys, Nat.lt_of_not_le full⟩
  by_cases spent : authSourceLimit ≤ used (state.sources.get attempt.source)
  · rw [if_pos spent]
    exact .source room spent
  rw [if_neg spent]
  by_cases last :
      authSubjectLimit ≤ used (state.subjects.get (subjectDigest codec attempt.username))
  · rw [if_pos last]
    exact .subject room spent last
  · rw [if_neg last]
    exact .admitted room spent last

/-! ### Sequences of attempts -/

def recorded (outcome : Except ApiProblem Unit) (attempt : Attempt) (admitted : List Attempt) :
    List Attempt :=
  match outcome with
  | .ok () => admitted ++ [attempt]
  | .error _ => admitted

/-- The limiter after an attempt, and the attempts it has admitted so far. -/
def observe (codec : Codec) (seen : AuthLimiterState × List Attempt) (attempt : Attempt) :
    AuthLimiterState × List Attempt :=
  let (outcome, state) := consume codec seen.1 attempt
  (state, recorded outcome attempt seen.2)

def play (codec : Codec) (attempts : List Attempt) : AuthLimiterState × List Attempt :=
  attempts.foldl (observe codec) (.default, [])

theorem play_snoc (codec : Codec) (earlier : List Attempt) (attempt : Attempt) :
    play codec (earlier ++ [attempt]) = observe codec (play codec earlier) attempt := by
  unfold play
  rw [List.foldl_append]
  rfl

def times (which : Attempt → Bool) (admitted : List Attempt) : List Nat :=
  (admitted.filter which).map Attempt.now

theorem times_snoc {which : Attempt → Bool} {admitted : List Attempt} {attempt : Attempt}
    (chosen : which attempt = true) :
    times which (admitted ++ [attempt]) = times which admitted ++ [attempt.now] := by
  simp [times, chosen]

theorem times_snoc_other {which : Attempt → Bool} {admitted : List Attempt} {attempt : Attempt}
    (other : which attempt = false) :
    times which (admitted ++ [attempt]) = times which admitted := by
  simp [times, other]

def everyAttempt (_attempt : Attempt) : Bool := true

def ofSource (source : String) (attempt : Attempt) : Bool := decide (attempt.source = source)

def ofSubject (codec : Codec) (subject : Bytes) (attempt : Attempt) : Bool :=
  decide (subjectDigest codec attempt.username = subject)

/-- Every counter accounts for what was admitted in its window. -/
structure Sound (codec : Codec) (state : AuthLimiterState) (admitted : List Attempt)
    (last : Nat) : Prop where
  global : Counts authWindow authGlobalLimit last (times everyAttempt admitted) state.global
  source : ∀ source, Counts authWindow authSourceLimit last (times (ofSource source) admitted)
    (state.sources.get source)
  subject : ∀ subject, Counts authWindow authSubjectLimit last
    (times (ofSubject codec subject) admitted) (state.subjects.get subject)
  sourceKeys : state.sources.size ≤ authKeyLimit
  subjectKeys : state.subjects.size ≤ authKeyLimit

section SoundSteps

variable {codec : Codec} {state : AuthLimiterState} {admitted : List Attempt} {last now : Nat}
  {attempt : Attempt}

theorem Sound.cleanup (sound : Sound codec state admitted last) (later : last ≤ now) :
    Sound codec (cleanupLimiter state now) admitted now where
  global := sound.global.expire later
  source source := by
    show Counts _ _ _ _ (Dict.get (Dict.retain _ _) source)
    rw [Dict.get_retain]
    exact (sound.source source).expire later
  subject subject := by
    show Counts _ _ _ _ (Dict.get (Dict.retain _ _) subject)
    rw [Dict.get_retain]
    exact (sound.subject subject).expire later
  sourceKeys := Nat.le_trans Dict.size_retain sound.sourceKeys
  subjectKeys := Nat.le_trans Dict.size_retain sound.subjectKeys

theorem Consumes.sound {outcome : Except ApiProblem Unit} {after : AuthLimiterState}
    (sound : Sound codec state admitted attempt.now)
    (global_live : attempt.now < (opened state.global attempt.now).started + authWindow)
    (source_live : attempt.now <
      (opened (state.sources.get attempt.source) attempt.now).started + authWindow)
    (subject_live : attempt.now <
      (opened (state.subjects.get (subjectDigest codec attempt.username)) attempt.now).started +
        authWindow)
    (consumed : Consumes codec state attempt outcome after) :
    Sound codec after (recorded outcome attempt admitted) attempt.now := by
  cases consumed with
  | blocked full => exact sound
  | source room spent =>
    have global_room : (opened state.global attempt.now).attempts < authGlobalLimit := by
      rw [opened_attempts]
      exact room.2
    exact {
      global := sound.global.opened.charge global_room
      source := counts_set sound.source (fun _ _ => rfl) (sound.source attempt.source).opened
      subject := sound.subject
      sourceKeys := Dict.size_set sound.sourceKeys room.1.1
      subjectKeys := sound.subjectKeys }
  | subject room fresh spent =>
    have global_room : (opened state.global attempt.now).attempts < authGlobalLimit := by
      rw [opened_attempts]
      exact room.2
    have source_room :
        (opened (state.sources.get attempt.source) attempt.now).attempts < authSourceLimit := by
      rw [opened_attempts]
      exact Nat.lt_of_not_le fresh
    exact {
      global := sound.global.opened.charge global_room
      source := counts_set sound.source (fun _ _ => rfl)
        ((sound.source attempt.source).opened.charge source_room)
      subject := counts_set sound.subject (fun _ _ => rfl) (sound.subject _).opened
      sourceKeys := Dict.size_set sound.sourceKeys room.1.1
      subjectKeys := Dict.size_set sound.subjectKeys room.1.2 }
  | admitted room fresh freshSubject =>
    have global_room : (opened state.global attempt.now).attempts < authGlobalLimit := by
      rw [opened_attempts]
      exact room.2
    have source_room :
        (opened (state.sources.get attempt.source) attempt.now).attempts < authSourceLimit := by
      rw [opened_attempts]
      exact Nat.lt_of_not_le fresh
    have subject_room :
        (opened (state.subjects.get (subjectDigest codec attempt.username))
          attempt.now).attempts < authSubjectLimit := by
      rw [opened_attempts]
      exact Nat.lt_of_not_le freshSubject
    have mine : ofSource attempt.source attempt = true := decide_eq_true rfl
    have own : ofSubject codec (subjectDigest codec attempt.username) attempt = true :=
      decide_eq_true rfl
    have global := sound.global.opened.grant global_room global_live
    have source := (sound.source attempt.source).opened.grant source_room source_live
    have subject := (sound.subject _).opened.grant subject_room subject_live
    rw [← times_snoc rfl] at global
    rw [← times_snoc mine] at source
    rw [← times_snoc own] at subject
    exact {
      global := global
      source := counts_set sound.source
        (fun other differ => times_snoc_other (decide_eq_false (Ne.symm differ))) source
      subject := counts_set sound.subject
        (fun other differ => times_snoc_other (decide_eq_false (Ne.symm differ))) subject
      sourceKeys := Dict.size_set sound.sourceKeys room.1.1
      subjectKeys := Dict.size_set sound.subjectKeys room.1.2 }

theorem Sound.observe (sound : Sound codec state admitted last) (later : last ≤ attempt.now) :
    Sound codec (observe codec (state, admitted) attempt).1
      (observe codec (state, admitted) attempt).2 attempt.now := by
  have positive : 0 < authWindow := by decide
  have cleaned := sound.cleanup later
  exact Consumes.sound cleaned (opened_live positive cleaned.global)
    (live_of_retain positive (cleaned.source _))
    (live_of_retain positive (cleaned.subject _)) consume_spec

end SoundSteps

def lastTime (attempts : List Attempt) : Nat := (attempts.getLast?.map Attempt.now).getD 0

def Ordered (attempts : List Attempt) : Prop :=
  attempts.Pairwise fun first second => first.now ≤ second.now

theorem lastTime_le {earlier : List Attempt} {attempt : Attempt}
    (ordered : Ordered (earlier ++ [attempt])) : lastTime earlier ≤ attempt.now := by
  unfold lastTime
  cases found : earlier.getLast? with
  | none => exact Nat.zero_le _
  | some previous =>
    have member := List.mem_of_getLast? found
    exact (List.pairwise_append.mp ordered).2.2 previous member attempt List.mem_cons_self

theorem sound_play (codec : Codec) {attempts : List Attempt} (ordered : Ordered attempts) :
    Sound codec (play codec attempts).1 (play codec attempts).2 (lastTime attempts) := by
  induction attempts using List.reverseRecOn with
  | nil =>
    exact {
      global := counts_empty
      source := fun _ => counts_empty
      subject := fun _ => counts_empty
      sourceKeys := Nat.zero_le _
      subjectKeys := Nat.zero_le _ }
  | append_singleton earlier attempt ih =>
    have before := ih (List.pairwise_append.mp ordered).1
    have last : lastTime (earlier ++ [attempt]) = attempt.now := by
      simp [lastTime]
    rw [play_snoc, last]
    exact before.observe (lastTime_le ordered)

/-! ### Budgets and isolation -/

/-- The counter of an admitted attempt is in its window, which holds at most `limit` admissions. -/
def WindowBounded (slot : Option Counter) (limit now : Nat) (admitted : List Nat) : Prop :=
  ∃ counter, slot = some counter ∧ counter.started ≤ now ∧ now < counter.started + authWindow ∧
    (admitted.countP fun time => decide (counter.started ≤ time)) ≤ limit

/-- No counter has used more than before. -/
structure SameBudgets (before after : AuthLimiterState) : Prop where
  global : used after.global = used before.global
  source : ∀ source, used (after.sources.get source) = used (before.sources.get source)
  subject : ∀ subject, used (after.subjects.get subject) = used (before.subjects.get subject)

/-- The attempt is over the limit of its source or of its subject. -/
def Spent (codec : Codec) (state : AuthLimiterState) (attempt : Attempt) : Prop :=
  SourceSpent state attempt ∨ SubjectSpent codec state attempt

/-- The counters an attempt meets after the given ones. -/
def met (codec : Codec) (earlier : List Attempt) (attempt : Attempt) : AuthLimiterState :=
  cleanupLimiter (play codec earlier).1 attempt.now

def Admits (codec : Codec) (earlier : List Attempt) (attempt : Attempt) : Prop :=
  (consume codec (play codec earlier).1 attempt).1 = .ok ()

/-- The limiter bounds what it admits and what it remembers, and refusals cost nobody else. -/
structure Isolates (codec : Codec) (attempts : List Attempt) : Prop where
  global : ∀ earlier attempt, earlier ++ [attempt] <+: attempts → Admits codec earlier attempt →
    WindowBounded (play codec (earlier ++ [attempt])).1.global authGlobalLimit attempt.now
      (times everyAttempt (play codec (earlier ++ [attempt])).2)
  source : ∀ earlier attempt, earlier ++ [attempt] <+: attempts → Admits codec earlier attempt →
    WindowBounded ((play codec (earlier ++ [attempt])).1.sources.get attempt.source)
      authSourceLimit attempt.now
      (times (ofSource attempt.source) (play codec (earlier ++ [attempt])).2)
  subject : ∀ earlier attempt, earlier ++ [attempt] <+: attempts → Admits codec earlier attempt →
    WindowBounded
      ((play codec (earlier ++ [attempt])).1.subjects.get (subjectDigest codec attempt.username))
      authSubjectLimit attempt.now
      (times (ofSubject codec (subjectDigest codec attempt.username))
        (play codec (earlier ++ [attempt])).2)
  sourceKeys : ∀ earlier, earlier <+: attempts →
    (play codec earlier).1.sources.size ≤ authKeyLimit
  subjectKeys : ∀ earlier, earlier <+: attempts →
    (play codec earlier).1.subjects.size ≤ authKeyLimit
  refused : ∀ earlier attempt, earlier ++ [attempt] <+: attempts →
    Spent codec (met codec earlier attempt) attempt →
    SameBudgets (met codec earlier attempt) (play codec (earlier ++ [attempt])).1
  alone : ∀ source, (∀ attempt ∈ attempts, attempt.source = source) →
    ∀ earlier, earlier <+: attempts → used (play codec earlier).1.global ≤ authSourceLimit

/-- Nobody goes on trying past a limit of their own while there is a budget left to take from. -/
def Restrained (codec : Codec) (attempts : List Attempt) : Prop :=
  ∀ earlier attempt, earlier ++ [attempt] <+: attempts →
    Spent codec (met codec earlier attempt) attempt →
      ¬Room codec (met codec earlier attempt) attempt

section Isolation

variable {codec : Codec} {attempts earlier : List Attempt} {attempt : Attempt}

theorem consumes_play (codec : Codec) (earlier : List Attempt) (attempt : Attempt) :
    Consumes codec (met codec earlier attempt) attempt
      (consume codec (play codec earlier).1 attempt).1
      (play codec (earlier ++ [attempt])).1 := by
  rw [play_snoc]
  exact consume_spec

theorem now_mem_times {which : Attempt → Bool} (chosen : which attempt = true)
    (admits : Admits codec earlier attempt) :
    attempt.now ∈ times which (play codec (earlier ++ [attempt])).2 := by
  have recorded : (play codec (earlier ++ [attempt])).2 = (play codec earlier).2 ++ [attempt] := by
    rw [play_snoc]
    show recorded (consume codec (play codec earlier).1 attempt).1 attempt _ = _
    rw [admits]
    rfl
  rw [recorded, times_snoc chosen]
  exact List.mem_append_right _ List.mem_cons_self

theorem sound_snoc (ordered : Ordered attempts) (cut : earlier ++ [attempt] <+: attempts) :
    Sound codec (play codec (earlier ++ [attempt])).1 (play codec (earlier ++ [attempt])).2
      attempt.now := by
  have sound := sound_play codec (ordered.sublist cut.sublist)
  have last : lastTime (earlier ++ [attempt]) = attempt.now := by
    simp [lastTime]
  rw [last] at sound
  exact sound

theorem sameBudgets_of_restrained (restrained : Restrained codec attempts)
    (cut : earlier ++ [attempt] <+: attempts)
      (spent : Spent codec (met codec earlier attempt) attempt) :
    SameBudgets (met codec earlier attempt) (play codec (earlier ++ [attempt])).1 := by
  have full := restrained earlier attempt cut spent
  have consumed := consumes_play codec earlier attempt
  generalize (play codec (earlier ++ [attempt])).1 = after at consumed ⊢
  generalize (consume codec (play codec earlier).1 attempt).1 = outcome at consumed
  cases consumed with
  | blocked full => exact ⟨rfl, fun _ => rfl, fun _ => rfl⟩
  | source room _ | subject room _ _ | admitted room _ _ => exact absurd room full

/-- With room left, the global counter is charged whatever becomes of the attempt. -/
theorem used_global_of_room (room : Room codec (met codec earlier attempt) attempt) :
    used (play codec (earlier ++ [attempt])).1.global =
      used (met codec earlier attempt).global + 1 := by
  have consumed := consumes_play codec earlier attempt
  have charged : used (some (opened (met codec earlier attempt).global attempt.now).next) =
      used (met codec earlier attempt).global + 1 := by
    show (opened _ _).attempts + 1 = _
    rw [opened_attempts]
  generalize (play codec (earlier ++ [attempt])).1 = after at consumed ⊢
  generalize (consume codec (play codec earlier).1 attempt).1 = outcome at consumed
  cases consumed with
  | blocked full => exact absurd room full
  | source _ _ | subject _ _ _ | admitted _ _ _ => exact charged

/-- While one source alone is trying, and stops at its limit, its counter is the global one. -/
theorem global_eq_source (restrained : Restrained codec attempts) {source : String}
    (only : ∀ attempt ∈ attempts, attempt.source = source) (cut : earlier <+: attempts) :
    (play codec earlier).1.global = (play codec earlier).1.sources.get source := by
  induction earlier using List.reverseRecOn with
  | nil => rfl
  | append_singleton earlier attempt ih =>
    have before := ih ((List.prefix_append earlier [attempt]).trans cut)
    have named : attempt.source = source :=
      only attempt (cut.subset (List.mem_append_right _ List.mem_cons_self))
    have cleaned : (met codec earlier attempt).global =
        (met codec earlier attempt).sources.get source := by
      show _ = Dict.get (Dict.retain _ _) source
      rw [Dict.get_retain, ← before]
      rfl
    have full := restrained earlier attempt cut
    have consumed := consumes_play codec earlier attempt
    generalize (play codec (earlier ++ [attempt])).1 = after at consumed ⊢
    generalize (consume codec (play codec earlier).1 attempt).1 = outcome at consumed
    generalize met codec earlier attempt = state at *
    have charged : some (opened state.global attempt.now).next =
        (withSource state attempt).sources.get source := by
      show _ = Dict.get (Dict.set _ _ _) source
      rw [cleaned, named, Dict.get_set_self]
    cases consumed with
    | blocked _ => exact cleaned
    | source room spent => exact absurd room (full (.inl spent))
    | subject room _ spent => exact absurd room (full (.inr spent))
    | admitted _ _ _ => exact charged

end Isolation

def sampleAttempt : Attempt := ⟨"203.0.113.7", "admin", 0⟩

end JwOps.Agentd.Limiter
