/- module: Agentd/Terminal
   source: crates/jw-agentd/src/terminal.rs
   digest: The broker of terminal tickets and leases, under every interleaving of its calls. -/
import JwOps.Agentd.Tables
import JwOps.Foundation.Histories
import JwOps.Foundation.Maps
import Mathlib.Data.List.Perm.Subperm

set_option autoImplicit false

namespace JwOps.Agentd.Terminal

open Contracts.Operation Tables
open Foundation.Histories (Since)
open Foundation.Maps

def maxGlobalSessions : Nat := 8

/-- Nanoseconds. -/
def terminalTicketTtl : Nat := 30 * 1000000000

structure TicketEntry where
  sessionBinding : Bytes
  sessionToken : String
  subject : Subject
  ingress : IngressChannel
  origin : String
  password : String
  rows : UInt16
  cols : UInt16
  expiresAt : Nat
  deriving DecidableEq, Repr

/-- The sending end of a cancellation channel is the number of the channel. -/
structure ActiveEntry where
  sessionId : String
  cancel : Nat
  deriving DecidableEq, Repr

structure TerminalState where
  tickets : Dict Bytes TicketEntry
  active : Dict Bytes ActiveEntry
  deriving DecidableEq

structure IssuedTerminalTicket where
  ticket : String
  expiresAtUnixMs : Int
  deriving DecidableEq, Repr

structure TerminalLease where
  sessionBinding : Bytes
  sessionToken : String
  sessionId : String
  subject : Subject
  ingress : IngressChannel
  password : String
  rows : UInt16
  cols : UInt16
  cancellation : Nat
  deriving DecidableEq, Repr

inductive TerminalTicketError where
  | busy
  | expired
  | invalid
  | storage
  deriving DecidableEq, Repr

/-- The broker's state, the leases that have not been dropped, and the value of every cancellation
channel made so far. -/
structure World where
  state : TerminalState
  leases : List TerminalLease
  channels : List Bool
  deriving DecidableEq

def World.default : World := ⟨⟨.empty, .empty⟩, [], []⟩

/-! ### Calls -/

/-- What a caller gives to `issue`, what the random source answers, and the two readings of the
clock: for the clean-up, and for the end of the ticket. -/
structure TerminalTicketIssue where
  sessionToken : String
  subject : Subject
  ingress : IngressChannel
  origin : String
  password : String
  rows : UInt16
  cols : UInt16
  nowUnixMs : Int
  randomToken : Option String
  cleanedAt : Nat
  now : Nat
  deriving DecidableEq, Repr

/-- What a caller gives to `consume`, and the same answers of the host. -/
structure TicketUse where
  ticket : String
  sessionToken : String
  ingress : IngressChannel
  origin : String
  randomSessionId : Option String
  cleanedAt : Nat
  now : Nat
  deriving DecidableEq, Repr

section Calls

variable (codec : AgentCodec)

def sessionBinding (token : String) : Bytes :=
  digestWithDomain codec "jw-agent/terminal-session/v1" token

def ticketDigest (ticket : String) : Bytes :=
  digestWithDomain codec "jw-agent/terminal-ticket/v1" ticket

def cleanupExpired (state : TerminalState) (now : Nat) : TerminalState :=
  { state with tickets := state.tickets.retain fun _ ticket => decide (now < ticket.expiresAt) }

/-- A session or the broker has no room for another ticket. -/
def Occupied (state : TerminalState) (binding : Bytes) : Prop :=
  (state.active.get binding).isSome ∨
    (∃ ticket ∈ state.tickets.values, ticket.sessionBinding = binding) ∨
    maxGlobalSessions ≤ state.tickets.size ∨ maxGlobalSessions ≤ state.active.size

instance (state : TerminalState) (binding : Bytes) : Decidable (Occupied state binding) :=
  inferInstanceAs (Decidable (_ ∨ _))

def TerminalTicketIssue.entry (request : TerminalTicketIssue) : TicketEntry where
  sessionBinding := sessionBinding codec request.sessionToken
  sessionToken := request.sessionToken
  subject := request.subject
  ingress := request.ingress
  origin := request.origin
  password := request.password
  rows := request.rows
  cols := request.cols
  expiresAt := request.now + terminalTicketTtl

def issue (state : TerminalState) (request : TerminalTicketIssue) :
    Except TerminalTicketError IssuedTerminalTicket × TerminalState :=
  let state := cleanupExpired state request.cleanedAt
  if Occupied state (sessionBinding codec request.sessionToken) then (.error .busy, state)
  else
    match request.randomToken with
    | none => (.error .storage, state)
    | some ticket =>
      (.ok ⟨ticket, saturatingAdd request.nowUnixMs (30 * 1000)⟩,
        { state with
          tickets := state.tickets.set (ticketDigest codec ticket) (request.entry codec) })

def TicketEntry.lease (entry : TicketEntry) (binding : Bytes) (sessionId : String)
    (channel : Nat) : TerminalLease where
  sessionBinding := binding
  sessionToken := entry.sessionToken
  sessionId := sessionId
  subject := entry.subject
  ingress := entry.ingress
  password := entry.password
  rows := entry.rows
  cols := entry.cols
  cancellation := channel

/-- A session has a lease, or there are as many leases as there may be. -/
def engaged (active : Dict Bytes ActiveEntry) (binding : Bytes) : Bool :=
  (active.get binding).isSome || decide (maxGlobalSessions ≤ active.size)

/-- A channel is numbered by how many there were when it was made. -/
def consume (state : TerminalState) (channels : Nat) (request : TicketUse) :
    Except TerminalTicketError TerminalLease × TerminalState :=
  if !validTokenShape request.ticket then (.error .invalid, state)
  else
    let binding := sessionBinding codec request.sessionToken
    let digest := ticketDigest codec request.ticket
    match state.tickets.get digest with
    | none => (.error .invalid, cleanupExpired state request.cleanedAt)
    | some entry =>
      let state :=
        cleanupExpired { state with tickets := state.tickets.erase digest } request.cleanedAt
      if entry.expiresAt ≤ request.now then (.error .expired, state)
      else if entry.sessionBinding ≠ binding ∨ entry.ingress ≠ request.ingress ∨
          entry.origin ≠ request.origin then (.error .invalid, state)
      else if engaged state.active binding then (.error .busy, state)
      else
        match request.randomSessionId with
        | none => (.error .storage, state)
        | some sessionId =>
          (.ok (entry.lease binding sessionId channels),
            { state with active := state.active.set binding ⟨sessionId, channels⟩ })

/-- Sends `true` to one channel. -/
def send (channels : List Bool) (channel : Nat) : List Bool := channels.set channel true

def revokeSession (world : World) (sessionToken : String) : World :=
  let binding := sessionBinding codec sessionToken
  { world with
    state := { world.state with
      tickets := world.state.tickets.retain fun _ ticket =>
        decide (ticket.sessionBinding ≠ binding) }
    channels :=
      match world.state.active.get binding with
      | some active => send world.channels active.cancel
      | none => world.channels }

def revokeAll (world : World) : World :=
  { world with
    state := { world.state with tickets := .empty }
    channels := world.state.active.values.foldl
      (fun channels active => send channels active.cancel) world.channels }

/-- The destructor of a lease. -/
def dropLease (state : TerminalState) (lease : TerminalLease) : TerminalState :=
  match state.active.get lease.sessionBinding with
  | some active =>
    if active.sessionId = lease.sessionId then
      { state with active := state.active.erase lease.sessionBinding }
    else state
  | none => state

/-! ### Interleavings -/

/-- What may happen next: a call that takes the lock, the timer of a ticket, or the end of a lease,
which is named by its channel. -/
inductive Event where
  | issue (request : TerminalTicketIssue)
  | consume (request : TicketUse)
  | revokeSession (sessionToken : String)
  | revokeAll
  | ticketExpiry (ticket : String)
  | leaseDrop (channel : Nat)
  deriving DecidableEq, Repr

inductive Answer where
  | ticket (issued : IssuedTerminalTicket)
  | lease (lease : TerminalLease)
  | refused (error : TerminalTicketError)
  | nothing
  deriving DecidableEq, Repr

def step (world : World) : Event → Answer × World
  | .issue request =>
    match issue codec world.state request with
    | (.ok issued, state) => (.ticket issued, { world with state })
    | (.error error, state) => (.refused error, { world with state })
  | .consume request =>
    match consume codec world.state world.channels.length request with
    | (.ok lease, state) =>
      (.lease lease, ⟨state, world.leases ++ [lease], world.channels ++ [false]⟩)
    | (.error error, state) => (.refused error, { world with state })
  | .revokeSession sessionToken => (.nothing, revokeSession codec world sessionToken)
  | .revokeAll => (.nothing, revokeAll world)
  | .ticketExpiry ticket =>
    (.nothing, { world with state := { world.state with
      tickets := world.state.tickets.erase (ticketDigest codec ticket) } })
  | .leaseDrop channel =>
    match world.leases.find? fun lease => lease.cancellation == channel with
    | none => (.nothing, world)
    | some lease =>
      (.nothing, { world with
        state := dropLease world.state lease
        leases := world.leases.erase lease })

def after (events : List Event) : World :=
  Foundation.Histories.after (fun world event => (step codec world event).2) .default events

def answer (earlier : List Event) (event : Event) : Answer :=
  (step codec (after codec earlier) event).1

end Calls

theorem after_snoc (codec : AgentCodec) (earlier : List Event) (event : Event) :
    after codec (earlier ++ [event]) = (step codec (after codec earlier) event).2 :=
  Foundation.Histories.after_snoc earlier event

/-! ### What one event does -/

/-- What an event does to the broker, whatever led to it. -/
inductive Change (codec : AgentCodec) (world : World) : Event → Answer → World → Prop
  | fewer {event : Event} {answer : Answer} {tickets : Dict Bytes TicketEntry}
      {channels : List Bool} (without : Dict.Fewer world.state.tickets tickets)
      (noLease : ∀ lease, answer ≠ .lease lease) (same : channels.length = world.channels.length) :
      Change codec world event answer ⟨{ world.state with tickets }, world.leases, channels⟩
  | issued {request : TerminalTicketIssue} {ticket : String} {expiresAtUnixMs : Int}
      {tickets : Dict Bytes TicketEntry} (without : Dict.Fewer world.state.tickets tickets)
      (free : ¬Occupied { world.state with tickets } (sessionBinding codec request.sessionToken)) :
      Change codec world (.issue request) (.ticket ⟨ticket, expiresAtUnixMs⟩)
        { world with state := { world.state with
          tickets := tickets.set (ticketDigest codec ticket) (request.entry codec) } }
  | exchanged {request : TicketUse} {entry : TicketEntry} {sessionId : String}
      {tickets : Dict Bytes TicketEntry}
      (found : world.state.tickets.get (ticketDigest codec request.ticket) = some entry)
      (without : Dict.Fewer world.state.tickets tickets)
      (gone : tickets.get (ticketDigest codec request.ticket) = none)
      (early : request.now < entry.expiresAt)
      (sameSession : entry.sessionBinding = sessionBinding codec request.sessionToken)
      (sameIngress : entry.ingress = request.ingress) (sameOrigin : entry.origin = request.origin)
      (room : world.state.active.size < maxGlobalSessions) :
      Change codec world (.consume request)
        (.lease (entry.lease entry.sessionBinding sessionId world.channels.length))
        ⟨⟨tickets, world.state.active.set entry.sessionBinding ⟨sessionId, world.channels.length⟩⟩,
          world.leases ++ [entry.lease entry.sessionBinding sessionId world.channels.length],
          world.channels ++ [false]⟩
  | dropped {channel : Nat} {lease : TerminalLease} (alive : lease ∈ world.leases)
      (named : lease.cancellation = channel) :
      Change codec world (.leaseDrop channel) .nothing
        { world with
          state := dropLease world.state lease
          leases := world.leases.erase lease }

section Steps

variable (codec : AgentCodec) (world : World)

theorem change_issue {request : TerminalTicketIssue} :
    Change codec world (.issue request) (step codec world (.issue request)).1
      (step codec world (.issue request)).2 := by
  have cleaned := Dict.Fewer.retain world.state.tickets
    fun _ ticket => decide (request.cleanedAt < ticket.expiresAt)
  unfold step issue
  dsimp only
  by_cases busy : Occupied (cleanupExpired world.state request.cleanedAt)
      (sessionBinding codec request.sessionToken)
  · rw [if_pos busy]
    exact .fewer cleaned nofun rfl
  · rw [if_neg busy]
    cases request.randomToken with
    | none => exact .fewer cleaned nofun rfl
    | some ticket => exact .issued cleaned busy

theorem change_consume {request : TicketUse} :
    Change codec world (.consume request) (step codec world (.consume request)).1
      (step codec world (.consume request)).2 := by
  have noLease {error : TerminalTicketError} (lease : TerminalLease) :
      Answer.refused error ≠ .lease lease := by
    rintro ⟨⟩
  unfold step consume
  dsimp only
  by_cases shaped : validTokenShape request.ticket
  case neg =>
    rw [if_pos (by simpa using shaped)]
    exact .fewer (.refl _) noLease rfl
  rw [if_neg (by simpa using shaped)]
  cases found : world.state.tickets.get (ticketDigest codec request.ticket) with
  | none => exact .fewer (Dict.Fewer.retain _ _) noLease rfl
  | some entry =>
    dsimp only [cleanupExpired]
    have without : Dict.Fewer world.state.tickets
        ((world.state.tickets.erase (ticketDigest codec request.ticket)).retain
          fun _ ticket => decide (request.cleanedAt < ticket.expiresAt)) :=
      (Dict.Fewer.retain _ _).trans (Dict.Fewer.retain _ _)
    by_cases late : entry.expiresAt ≤ request.now
    · rw [if_pos late]
      exact .fewer without noLease rfl
    rw [if_neg late]
    by_cases foreign : entry.sessionBinding ≠ sessionBinding codec request.sessionToken ∨
        entry.ingress ≠ request.ingress ∨ entry.origin ≠ request.origin
    · rw [if_pos foreign]
      exact .fewer without noLease rfl
    rw [if_neg foreign]
    have same : entry.sessionBinding = sessionBinding codec request.sessionToken ∧
        entry.ingress = request.ingress ∧ entry.origin = request.origin := by
      simpa using foreign
    rw [← same.1]
    by_cases busy : engaged world.state.active entry.sessionBinding
    · simp only [busy, ↓reduceIte]
      exact .fewer without noLease rfl
    simp only [busy]
    have room : world.state.active.size < maxGlobalSessions := by
      unfold engaged at busy
      simp only [Bool.or_eq_true, decide_eq_true_eq, not_or] at busy
      exact Nat.lt_of_not_le busy.2
    have gone : ((world.state.tickets.erase (ticketDigest codec request.ticket)).retain
        fun _ ticket => decide (request.cleanedAt < ticket.expiresAt)).get
          (ticketDigest codec request.ticket) = none := by
      rw [Dict.get_retain, Dict.get_erase_self]
      rfl
    cases request.randomSessionId with
    | none => exact .fewer without noLease rfl
    | some sessionId =>
      exact .exchanged found without gone (Nat.lt_of_not_le late) same.1 same.2.1 same.2.2 room

theorem length_revoked {active : List ActiveEntry} {channels : List Bool} :
    (active.foldl (fun channels active => send channels active.cancel) channels).length =
      channels.length := by
  induction active generalizing channels with
  | nil => rfl
  | cons first rest ih =>
    rw [List.foldl_cons, ih]
    exact List.length_set

theorem change_step (event : Event) :
    Change codec world event (step codec world event).1 (step codec world event).2 := by
  cases event with
  | issue request => exact change_issue codec world
  | consume request => exact change_consume codec world
  | revokeSession sessionToken =>
    refine .fewer (Dict.Fewer.retain _ _) nofun ?_
    cases world.state.active.get (sessionBinding codec sessionToken) with
    | none => rfl
    | some active => exact List.length_set
  | revokeAll => exact .fewer (Dict.Fewer.empty _) nofun length_revoked
  | ticketExpiry ticket => exact .fewer (Dict.Fewer.retain _ _) nofun rfl
  | leaseDrop channel =>
    unfold step
    dsimp only
    cases found : world.leases.find? fun lease => lease.cancellation == channel with
    | none => exact .fewer (.refl _) nofun rfl
    | some lease =>
      have named : lease.cancellation = channel := by
        simpa using List.find?_some found
      exact .dropped (List.mem_of_find?_eq_some found) named

end Steps

/-! ### The invariant -/

/-- Every live lease has its own active entry, and no session has a ticket beside another one or
beside a lease. -/
structure Sound (world : World) : Prop where
  tickets : world.state.tickets.size ≤ maxGlobalSessions
  active : world.state.active.size ≤ maxGlobalSessions
  own : ∀ lease ∈ world.leases,
    world.state.active.get lease.sessionBinding = some ⟨lease.sessionId, lease.cancellation⟩
  bindings : (world.leases.map TerminalLease.sessionBinding).Nodup
  channels : ∀ lease ∈ world.leases, lease.cancellation < world.channels.length
  alone : ∀ first second one other, world.state.tickets.get first = some one →
    world.state.tickets.get second = some other → one.sessionBinding = other.sessionBinding →
    first = second
  apart : ∀ digest entry, world.state.tickets.get digest = some entry →
    world.state.active.get entry.sessionBinding = none

section Invariant

variable {codec : AgentCodec} {world after : World} {event : Event} {answer : Answer}

theorem Sound.binding_ne (sound : Sound world) {lease other : TerminalLease}
    (alive : lease ∈ world.leases) (otherAlive : other ∈ world.leases) (differ : other ≠ lease) :
    other.sessionBinding ≠ lease.sessionBinding := fun same =>
  differ (List.inj_on_of_nodup_map sound.bindings otherAlive alive same)

/-- A lease that goes takes its own entry with it and no other. -/
theorem Sound.dropLease (sound : Sound world) {lease : TerminalLease}
    (alive : lease ∈ world.leases) :
    dropLease world.state lease =
      { world.state with active := world.state.active.erase lease.sessionBinding } := by
  unfold Terminal.dropLease
  rw [sound.own lease alive]
  dsimp only
  rw [if_pos rfl]

theorem Sound.free_of_not_occupied {state : TerminalState} {binding : Bytes}
    (free : ¬Occupied state binding) :
    state.active.get binding = none ∧
      (∀ digest entry, state.tickets.get digest = some entry → entry.sessionBinding ≠ binding) ∧
      state.tickets.size < maxGlobalSessions := by
  unfold Occupied at free
  obtain ⟨noLease, noTicket, tickets, _⟩ :
      _ ∧ _ ∧ _ ∧ _ := by simpa only [not_or] using free
  refine ⟨by simpa using noLease, ?_, Nat.lt_of_not_le tickets⟩
  intro digest entry found same
  exact noTicket ⟨entry, Dict.mem_values.mpr ⟨digest, found⟩, same⟩

theorem Change.sound (change : Change codec world event answer after) (sound : Sound world) :
    Sound after := by
  cases change with
  | fewer without _ same =>
    exact {
      tickets := Nat.le_trans without.size sound.tickets
      active := sound.active
      own := sound.own
      bindings := sound.bindings
      channels := fun lease alive => same ▸ sound.channels lease alive
      alone := fun first second one other firstFound secondFound =>
        sound.alone first second one other (without.kept _ _ firstFound)
          (without.kept _ _ secondFound)
      apart := fun digest entry found => sound.apart digest entry (without.kept _ _ found) }
  | @issued request ticket _ tickets without free =>
    obtain ⟨noLease, noTicket, room⟩ := Sound.free_of_not_occupied free
    exact {
      tickets := Dict.size_set (Nat.le_of_lt room) (.inl room)
      active := sound.active
      own := sound.own
      bindings := sound.bindings
      channels := sound.channels
      alone := by
        intro first second one other firstFound secondFound same
        rcases Dict.get_set_cases firstFound with ⟨rfl, rfl⟩ | firstOld <;>
          rcases Dict.get_set_cases secondFound with ⟨rfl, rfl⟩ | secondOld
        · rfl
        · exact absurd same.symm (noTicket _ _ secondOld)
        · exact absurd same (noTicket _ _ firstOld)
        · exact sound.alone _ _ _ _ (without.kept _ _ firstOld) (without.kept _ _ secondOld) same
      apart := by
        intro digest entry found
        rcases Dict.get_set_cases found with ⟨rfl, rfl⟩ | old
        · exact noLease
        · exact sound.apart _ _ (without.kept _ _ old) }
  | @exchanged request entry sessionId tickets found without gone _ _ _ _ room =>
    have fresh : world.state.active.get entry.sessionBinding = none := sound.apart _ _ found
    have unheld : ∀ lease ∈ world.leases, lease.sessionBinding ≠ entry.sessionBinding := by
      intro lease alive same
      have present := sound.own lease alive
      rw [same, fresh] at present
      cases present
    exact {
      tickets := Nat.le_trans without.size sound.tickets
      active := Dict.size_set sound.active (.inl room)
      own := by
        intro lease alive
        rcases List.mem_append.mp alive with old | new
        · rw [Dict.get_set_other (unheld lease old)]
          exact sound.own lease old
        · obtain rfl := List.mem_singleton.mp new
          exact Dict.get_set_self
      bindings := JwOps.Foundation.Keyed.nodup_concat sound.bindings unheld
      channels := by
        intro lease alive
        rw [List.length_append]
        rcases List.mem_append.mp alive with old | new
        · exact Nat.lt_add_right 1 (sound.channels lease old)
        · obtain rfl := List.mem_singleton.mp new
          exact Nat.lt_add_one _
      alone := fun first second one other firstFound secondFound =>
        sound.alone first second one other (without.kept _ _ firstFound)
          (without.kept _ _ secondFound)
      apart := by
        intro digest other kept
        have before := without.kept _ _ kept
        have differ : other.sessionBinding ≠ entry.sessionBinding := by
          intro same
          have one := sound.alone _ _ _ _ before found same
          rw [one, gone] at kept
          cases kept
        rw [Dict.get_set_other differ]
        exact sound.apart _ _ before }
  | @dropped channel lease alive named =>
    rw [sound.dropLease alive]
    have unique : world.leases.Nodup := List.Nodup.of_map _ sound.bindings
    exact {
      tickets := sound.tickets
      active := Nat.le_trans Dict.size_retain sound.active
      own := by
        intro other left
        have differ : other ≠ lease := by
          rintro rfl
          exact unique.not_mem_erase left
        have stayed := List.mem_of_mem_erase left
        rw [Dict.get_erase_other (sound.binding_ne alive stayed differ)]
        exact sound.own other stayed
      bindings := sound.bindings.sublist (List.erase_sublist.map _)
      channels := fun other left => sound.channels other (List.mem_of_mem_erase left)
      alone := sound.alone
      apart := by
        intro digest entry found
        show (world.state.active.retain _).get _ = none
        rw [Dict.get_retain, sound.apart digest entry found]
        rfl }

end Invariant

theorem sound_default : Sound .default where
  tickets := Nat.zero_le _
  active := Nat.zero_le _
  own := nofun
  bindings := List.nodup_nil
  channels := nofun
  alone := fun _ _ _ _ found => by cases found
  apart := fun _ _ found => by cases found

theorem sound_after (codec : AgentCodec) (events : List Event) : Sound (after codec events) :=
  Foundation.Histories.holds_after sound_default
    (fun world event sound => (change_step codec world event).sound sound) events

/-! ### Where tickets come from -/

/-- An accepted issue wrote this entry. -/
def Issued (codec : AgentCodec) (digest : Bytes) (entry : TicketEntry) (before : List Event)
    (event : Event) : Prop :=
  ∃ request issued, event = .issue request ∧ answer codec before event = .ticket issued ∧
    ticketDigest codec issued.ticket = digest ∧ entry = request.entry codec

/-- A ticket was exchanged for a lease. -/
def Exchanged (codec : AgentCodec) (digest : Bytes) (before : List Event) (event : Event) : Prop :=
  ∃ use lease, event = .consume use ∧ answer codec before event = .lease lease ∧
    ticketDigest codec use.ticket = digest

theorem issued_since {codec : AgentCodec} {earlier : List Event} {digest : Bytes}
    {entry : TicketEntry} (found : (after codec earlier).state.tickets.get digest = some entry) :
    Since (Issued codec digest entry) (Exchanged codec digest) earlier := by
  induction earlier using List.reverseRecOn with
  | nil => cases found
  | append_singleton earlier event ih =>
    have change := change_step codec (after codec earlier) event
    rw [after_snoc] at found
    have answered : answer codec earlier event = (step codec (after codec earlier) event).1 := rfl
    generalize (step codec (after codec earlier) event).1 = reply at change answered
    generalize (step codec (after codec earlier) event).2 = next at change found
    cases change with
    | fewer without noLease _ =>
      refine (ih (without.kept _ _ found)).later ?_
      rintro ⟨use, lease, _, leased, _⟩
      exact noLease lease (answered.symm.trans leased)
    | issued without _ =>
      rcases Dict.get_set_cases found with ⟨same, written⟩ | stood
      · exact .now ⟨_, _, rfl, answered, same.symm, written⟩
      · refine (ih (without.kept _ _ stood)).later ?_
        rintro ⟨use, _, same, _⟩
        cases same
    | exchanged _ without gone _ _ _ _ _ =>
      refine (ih (without.kept _ _ found)).later ?_
      rintro ⟨use, _, same, _, named⟩
      cases same
      rw [← named, gone] at found
      cases found
    | dropped alive _ =>
      rw [(sound_after codec earlier).dropLease alive] at found
      refine (ih found).later ?_
      rintro ⟨use, _, same, _⟩
      cases same

/-! ### The whole law -/

def ticketsOf (codec : AgentCodec) (world : World) (sessionToken : String) : Nat :=
  world.state.tickets.values.countP fun ticket =>
    decide (ticket.sessionBinding = sessionBinding codec sessionToken)

def leasesOf (codec : AgentCodec) (world : World) (sessionToken : String) : Nat :=
  world.leases.countP fun lease =>
    decide (lease.sessionBinding = sessionBinding codec sessionToken)

/-- The ticket of a use was issued for its session, ingress and origin and had not run out. -/
def IssuedFor (codec : AgentCodec) (use : TicketUse) (before : List Event) (event : Event) : Prop :=
  ∃ request issued, event = .issue request ∧ answer codec before event = .ticket issued ∧
    ticketDigest codec issued.ticket = ticketDigest codec use.ticket ∧
    sessionBinding codec request.sessionToken = sessionBinding codec use.sessionToken ∧
    request.ingress = use.ingress ∧ request.origin = use.origin ∧
    use.now < request.now + terminalTicketTtl

structure BrokerHolds (codec : AgentCodec) (events : List Event) : Prop where
  tickets : ∀ earlier, earlier <+: events →
    (after codec earlier).state.tickets.size ≤ maxGlobalSessions
  leases : ∀ earlier, earlier <+: events → (after codec earlier).leases.length ≤ maxGlobalSessions
  single : ∀ earlier, earlier <+: events → ∀ sessionToken,
    ticketsOf codec (after codec earlier) sessionToken +
      leasesOf codec (after codec earlier) sessionToken ≤ 1
  exchanged : ∀ earlier use lease, earlier ++ [.consume use] <+: events →
    answer codec earlier (.consume use) = .lease lease →
    Since (IssuedFor codec use) (Exchanged codec (ticketDigest codec use.ticket)) earlier
  revoked : ∀ earlier sessionToken, earlier ++ [.revokeSession sessionToken] <+: events →
    ticketsOf codec (after codec (earlier ++ [.revokeSession sessionToken])) sessionToken = 0 ∧
      ∀ lease ∈ (after codec (earlier ++ [.revokeSession sessionToken])).leases,
        lease.sessionBinding = sessionBinding codec sessionToken →
        (after codec (earlier ++ [.revokeSession sessionToken])).channels[lease.cancellation]? =
          some true
  dropped : ∀ earlier channel, earlier ++ [.leaseDrop channel] <+: events →
    ∀ lease ∈ (after codec earlier).leases, lease.cancellation ≠ channel →
      lease ∈ (after codec (earlier ++ [.leaseDrop channel])).leases ∧
        (after codec (earlier ++ [.leaseDrop channel])).state.active.get lease.sessionBinding =
          some ⟨lease.sessionId, lease.cancellation⟩

section Law

variable {codec : AgentCodec} {world : World}

theorem Sound.leases_length (sound : Sound world) : world.leases.length ≤ maxGlobalSessions := by
  have keys : world.leases.map TerminalLease.sessionBinding ⊆
      world.state.active.entries.map Prod.fst := by
    intro binding member
    obtain ⟨lease, alive, rfl⟩ := List.mem_map.mp member
    exact List.mem_map_of_mem (Dict.mem_entries.mpr (sound.own lease alive))
  have fewer := (List.subperm_of_subset sound.bindings keys).length_le
  rw [List.length_map, List.length_map] at fewer
  exact Nat.le_trans fewer sound.active

theorem Sound.single (sound : Sound world) (sessionToken : String) :
    ticketsOf codec world sessionToken + leasesOf codec world sessionToken ≤ 1 := by
  have oneTicket : ticketsOf codec world sessionToken ≤ 1 := by
    refine Dict.countP_values_le_one ?_
    intro first second one other firstFound secondFound oneMeets otherMeets
    have same := (of_decide_eq_true oneMeets).trans (of_decide_eq_true otherMeets).symm
    exact sound.alone _ _ _ _ firstFound secondFound same
  have oneLease : leasesOf codec world sessionToken ≤ 1 := by
    unfold leasesOf
    have counted : world.leases.countP (fun lease =>
        decide (lease.sessionBinding = sessionBinding codec sessionToken)) =
        (world.leases.map TerminalLease.sessionBinding).count
          (sessionBinding codec sessionToken) := by
      rw [List.count_eq_countP, List.countP_map]
      refine List.countP_congr ?_
      intro lease _
      simp
    rw [counted]
    exact List.nodup_iff_count_le_one.mp sound.bindings _
  have notBoth : ticketsOf codec world sessionToken = 0 ∨
      leasesOf codec world sessionToken = 0 := by
    by_contra both
    obtain ⟨someTicket, someLease⟩ := not_or.mp both
    obtain ⟨entry, held, ticketOf⟩ := List.countP_pos_iff.mp (Nat.pos_of_ne_zero someTicket)
    obtain ⟨lease, alive, leaseOf⟩ := List.countP_pos_iff.mp (Nat.pos_of_ne_zero someLease)
    obtain ⟨digest, found⟩ := Dict.mem_values.mp held
    have free := sound.apart digest entry found
    have taken := sound.own lease alive
    rw [of_decide_eq_true leaseOf, ← of_decide_eq_true ticketOf, free] at taken
    cases taken
  omega

theorem revoked_tickets {sessionToken : String} :
    ticketsOf codec (revokeSession codec world sessionToken) sessionToken = 0 := by
  unfold ticketsOf
  rw [List.countP_eq_zero]
  intro entry held meets
  obtain ⟨digest, found⟩ := Dict.mem_values.mp held
  have kept : (Dict.retain _ world.state.tickets).get digest = some entry := found
  rw [Dict.get_retain] at kept
  have differ := (Option.filter_eq_some_iff.mp kept).2
  simp only [decide_eq_true_eq] at differ meets
  exact differ meets

theorem Sound.signals (sound : Sound world) {sessionToken : String} {lease : TerminalLease}
    (alive : lease ∈ world.leases)
    (named : lease.sessionBinding = sessionBinding codec sessionToken) :
    (revokeSession codec world sessionToken).channels[lease.cancellation]? = some true := by
  have own := sound.own lease alive
  rw [named] at own
  unfold revokeSession
  dsimp only
  rw [own]
  exact List.getElem?_set_self (sound.channels lease alive)

theorem Sound.keeps_other (sound : Sound world) {channel : Nat} {lease : TerminalLease}
    (alive : lease ∈ world.leases) (other : lease.cancellation ≠ channel) :
    lease ∈ (step codec world (.leaseDrop channel)).2.leases ∧
      (step codec world (.leaseDrop channel)).2.state.active.get lease.sessionBinding =
        some ⟨lease.sessionId, lease.cancellation⟩ := by
  have after := (change_step codec world (.leaseDrop channel)).sound sound
  have stays : lease ∈ (step codec world (.leaseDrop channel)).2.leases := by
    unfold step
    dsimp only
    cases found : world.leases.find? fun lease => lease.cancellation == channel with
    | none => exact alive
    | some dropped =>
      have named : dropped.cancellation = channel := by
        simpa using List.find?_some found
      refine (List.mem_erase_of_ne ?_).mpr alive
      rintro rfl
      exact other named
  exact ⟨stays, after.own lease stays⟩

end Law

/-- Whoever gets a lease presents a ticket issued for them, and nobody got one with it since. -/
theorem issuedFor_since {codec : AgentCodec} {earlier : List Event} {use : TicketUse}
    (lease : TerminalLease) (answered : answer codec earlier (.consume use) = .lease lease) :
    Since (IssuedFor codec use) (Exchanged codec (ticketDigest codec use.ticket)) earlier := by
  have change := change_step codec (after codec earlier) (.consume use)
  have replied : (step codec (after codec earlier) (.consume use)).1 = .lease lease := answered
  generalize (step codec (after codec earlier) (.consume use)).1 = reply at change replied
  generalize (step codec (after codec earlier) (.consume use)).2 = next at change
  cases change with
  | fewer _ noLease _ => exact absurd replied (noLease lease)
  | exchanged found _ _ early sameSession sameIngress sameOrigin _ =>
    refine (issued_since found).imp ?_
    rintro before event ⟨request, issued, rfl, accepted, digest, rfl⟩
    exact ⟨request, issued, rfl, accepted, digest, sameSession, sameIngress, sameOrigin, early⟩

end JwOps.Agentd.Terminal
