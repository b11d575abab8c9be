/- module: Lifecycle/Links
   source: crates/jw-opsd/src/{engine,nginx}.rs
   digest: What a site operation leaves of the enabled link, whatever fails on the way. -/
import JwOps.Files.Playing

set_option autoImplicit false

namespace JwOps.Lifecycle.Links

open Contracts Ledger Engine Operation Digest Config Schema Writes Locks Interface Replace Nginx
open Recovery Requests
open Files (Sites.readEnabled Sites.readEnabled_ok Sites.readEnabled_congr
  Sites.discoverSite Sites.discoverSite_ok Sites.siteAt_ok Sites.siteAt_file)
open Files.Sites (Tree nginxInternalTemporaryName enabledLink)
open Files.Server Files.Playing Lifecycle.History Lifecycle.Tracking Lifecycle.System
open Lifecycle.Serving Lifecycle.Runs Lifecycle.Sessions Lifecycle.EffectFree Lifecycle.Lives
open Foundation.Files Foundation.Program

variable {nowMs : Int}

/-! ### The site at the beginning -/

/-- Nobody else changes the host; a directory may list its entries in another order every time. -/
def aloneModel (runtime : Runtime) : HostModel Host := treeModel runtime Same

def linkPath (runtime : Runtime) (basename : String) : Path :=
  joinPath runtime.paths.nginxEnabled basename

/-- Discovery accepts the site, and no other entry of the directory has its identifier. -/
structure Accepted (runtime : Runtime) (origin : Tree) (siteId basename : String) : Prop where
  found : ∃ site, Sites.discoverSite runtime.toCodec runtime.paths origin siteId = .ok site ∧
    site.basename = basename
  unique : ∀ name, .text name ∈ origin.listing runtime.paths.nginxAvailable →
    nginxInternalTemporaryName name = false →
    nginxSiteId runtime.toCodec nginxLayoutId name = siteId → name = basename

theorem joinPath_inj {first second : Path} {one other : String}
    (same : joinPath first one = joinPath second other) : first = second ∧ one = other := by
  obtain ⟨roots, names⟩ := List.append_inj' same rfl
  exact ⟨roots, by simpa using names⟩

section Start

variable {runtime : Runtime} {origin tree : Tree} {siteId basename : String}

theorem readEnabled_isSome {enabled : Bool}
    (read : Sites.readEnabled runtime.paths tree basename = .ok enabled) :
    (tree.lookup (linkPath runtime basename)).isSome = enabled := by
  have entry := Sites.readEnabled_ok read
  cases enabled with
  | false => simp [linkPath, show tree.lookup _ = none from entry]
  | true =>
    obtain ⟨text, _, present, _⟩ := entry
    simp [linkPath, present]

section

variable (accepted : Accepted runtime origin siteId basename)
include accepted

theorem Accepted.named :
    nginxInternalTemporaryName basename = false := by
  obtain ⟨site, found, rfl⟩ := accepted.found
  exact (Sites.discoverSite_ok found).2.1

theorem Accepted.lasting :
    ¬IsTemporary (linkPath runtime basename) := by
  rintro ⟨root, name, same, temporary⟩
  obtain ⟨_, rfl⟩ := joinPath_inj same
  rw [accepted.named] at temporary
  cases temporary

/-- The link is no entry of the directory of available sites. -/
theorem Accepted.apart (name : String) :
    joinPath runtime.paths.nginxAvailable name ≠ linkPath runtime basename := by
  intro same
  obtain ⟨site, found, rfl⟩ := accepted.found
  obtain ⟨_, _, _, visited⟩ := Sites.discoverSite_ok found
  obtain ⟨enabled, read, _⟩ := Sites.siteAt_ok visited
  obtain ⟨attributes, content, file⟩ := Sites.siteAt_file visited
  obtain ⟨roots, _⟩ := joinPath_inj same
  have entry := Sites.readEnabled_ok read
  rw [← roots, file] at entry
  cases enabled with
  | false => cases entry
  | true =>
    obtain ⟨text, _, bad, _⟩ := entry
    cases bad

end

end Start

/-! ### The life of a site operation -/

/-- Since the host calls `old`, the link was removed. -/
def Removed (basename : String) (old events : List Event) : Prop :=
  ∃ recent, events = recent ++ old ∧ ⟨.removeLink basename, .ok ()⟩ ∈ recent

theorem removed_cons {basename : String} {old events : List Event} {event : Event}
    (grown : ∃ recent, events = recent ++ old) :
    Removed basename old (event :: events) ↔
      event = ⟨.removeLink basename, .ok ()⟩ ∨ Removed basename old events := by
  obtain ⟨recent, rfl⟩ := grown
  constructor
  · rintro ⟨longer, same, member⟩
    rw [← List.cons_append] at same
    obtain rfl := List.append_cancel_right same
    rcases List.mem_cons.mp member with here | before
    · exact .inl here.symm
    · exact .inr ⟨recent, rfl, before⟩
  · rintro (rfl | ⟨shorter, same, member⟩)
    · exact ⟨_ :: recent, rfl, List.mem_cons_self⟩
    · obtain rfl := List.append_cancel_right same
      exact ⟨event :: recent, rfl, List.mem_cons_of_mem _ member⟩

/-- One site operation, with the tree and the host calls at the time of its approval. -/
structure Toggle where
  operationId : String
  plan : StoredPlan
  basename : String
  origin : Tree
  old : List Event

/-- The node of the enabled link. -/
def Toggle.link (toggle : Toggle) (runtime : Runtime) (tree : Tree) : Option (Node OsName) :=
  tree.lookup (linkPath runtime toggle.basename)

/-- The link is the one that was there, or one that the operation made in its place. -/
def Toggle.Shaped (toggle : Toggle) (runtime : Runtime) (tree : Tree)
    (events : List Event) : Prop :=
  (¬Removed toggle.basename toggle.old events ∧
    toggle.link runtime tree = toggle.link runtime toggle.origin) ∨
  ((Removed toggle.basename toggle.old events ∨ toggle.link runtime toggle.origin = none) ∧
    (toggle.link runtime tree = none ∨
      toggle.link runtime tree = some (.symlink (enabledLink toggle.basename))))

/-- What a site operation keeps to, seen from the tree on which it was approved. -/
structure SiteLife (runtime : Runtime) (toggle : Toggle) (operation : StoredOperation) (host : Host)
    (events : List Event) : Prop where
  id : operation.operationId = toggle.operationId
  planned : operation.plan = toggle.plan
  grown : ∃ recent, events = recent ++ toggle.old
  others : ∀ path, path ≠ linkPath runtime toggle.basename →
    host.tree.lookup path = toggle.origin.lookup path ∨
      IsTemporary path ∧ host.tree.lookup path = none
  shaped : toggle.Shaped runtime host.tree events
  calm : isNoop toggle.plan = true ∨
      operation.stage ∈ [.approved, .snapshotted, .cancelledBeforeApply] →
    toggle.link runtime host.tree = toggle.link runtime toggle.origin
  kept : operation.stage ≠ .approved → operation.stage.isTerminal = false →
    ∀ record, operation.snapshot = some record →
      record.relativePath = toggle.operationId ++ "/" ++ SnapshotKind.nginxLink.fileName ∧
      ∃ snapshot : NginxLinkSnapshot, host.vault (.snapshot record.relativePath) =
          some (runtime.snapshotJson .nginxLink snapshot) ∧
        snapshot.siteId = toggle.plan.siteId ∧
        snapshot.enabled = (toggle.link runtime toggle.origin).isSome
  restored : operation.stage = .rolledBack → (toggle.link runtime host.tree).isSome =
    (toggle.link runtime toggle.origin).isSome
  achieved : operation.stage = .succeeded →
    Sites.readEnabled runtime.paths host.tree toggle.basename =
      .ok (toggle.plan.targetState == .enabled)

section Life

variable {runtime : Runtime} {toggle : Toggle} {events : List Event} {operation : StoredOperation}
  {host after : Host}

/-- Sweeping temporary files does not matter to a running operation. -/
theorem SiteLife.swept
    (accepted : Accepted runtime toggle.origin toggle.plan.siteId toggle.basename)
    (living : SiteLife runtime toggle operation host events)
    (running : operation.stage.isTerminal = false) (swept : OnlySwept host.tree after.tree)
    (vault : operation.stage ≠ .approved → after.vault (.snapshot (toggle.operationId ++ "/" ++
        SnapshotKind.nginxLink.fileName)) =
      host.vault (.snapshot (toggle.operationId ++ "/" ++ SnapshotKind.nginxLink.fileName)))
    {event : Event} (keeps : event ≠ ⟨.removeLink toggle.basename, .ok ()⟩) :
    SiteLife runtime toggle operation after (event :: events) := by
  have link : toggle.link runtime after.tree = toggle.link runtime host.tree :=
    (swept _).resolve_right fun gone => accepted.lasting gone.1
  have removed := @removed_cons toggle.basename toggle.old events event living.grown
  rw [or_iff_right keeps] at removed
  constructor
  · exact living.id
  · exact living.planned
  · obtain ⟨recent, rfl⟩ := living.grown
    exact ⟨event :: recent, rfl⟩
  · intro path differ
    rcases swept path with same | gone
    · rw [same]
      exact living.others path differ
    · exact .inr gone
  · unfold Toggle.Shaped
    rw [link, removed]
    exact living.shaped
  · rw [link]
    exact living.calm
  · intro early working record present
    obtain ⟨path, snapshot, stored, facts⟩ := living.kept early working record present
    refine ⟨path, snapshot, ?_, facts⟩
    rw [path] at stored ⊢
    rw [vault early]
    exact stored
  · intro ended
    rw [ended] at running
    cases running
  · intro ended
    rw [ended] at running
    cases running

/-- The operation moves on while the host stays as it is. -/
theorem SiteLife.moved (living : SiteLife runtime toggle operation host events)
    {change : Transition} (later : change.next ∉ [.approved, .snapshotted])
    (started : operation.stage ≠ .approved ∨ change.next.isTerminal = true)
    (working : operation.stage.isTerminal = false)
    (cancelled : change.next = .cancelledBeforeApply →
      toggle.link runtime host.tree = toggle.link runtime toggle.origin)
    (restored : change.next = .rolledBack → (toggle.link runtime host.tree).isSome =
      (toggle.link runtime toggle.origin).isSome)
    (achieved : change.next = .succeeded →
      Sites.readEnabled runtime.paths host.tree toggle.basename =
        .ok (toggle.plan.targetState == .enabled)) :
    SiteLife runtime toggle (withTransition operation change) host events := by
  constructor
  · exact living.id
  · exact living.planned
  · exact living.grown
  · exact living.others
  · exact living.shaped
  · rintro (noop | stage)
    · exact living.calm (.inl noop)
    · have next : change.next ∈ [.approved, .snapshotted, .cancelledBeforeApply] := stage
      simp only [List.mem_cons, List.not_mem_nil, or_false, not_or] at next later
      exact cancelled ((next.resolve_left later.1).resolve_left later.2)
  · intro _ open_ record present
    have early : operation.stage ≠ .approved := by
      rcases started with started | ended
      · exact started
      · rw [show (withTransition operation change).stage = change.next from rfl, ended] at open_
        cases open_
    exact living.kept early working record present
  · exact restored
  · exact achieved

theorem steady_site (accepted : Accepted runtime toggle.origin toggle.plan.siteId toggle.basename) :
    Steady (aloneModel runtime) toggle.operationId (SiteLife runtime toggle) := by
  constructor
  · rintro operation host after events ⟨same, vault⟩ living
    constructor
    · exact living.id
    · exact living.planned
    · exact living.grown
    · rw [same]
      exact living.others
    · unfold Toggle.Shaped Toggle.link
      rw [same]
      exact living.shaped
    · unfold Toggle.link
      rw [same]
      exact living.calm
    · rw [vault]
      exact living.kept
    · unfold Toggle.link
      rw [same]
      exact living.restored
    · rw [Sites.readEnabled_congr same]
      exact living.achieved
  · intro operation host call answer after events running free answered living
    obtain ⟨swept, vault⟩ := answered_quiet free answered
    refine living.swept accepted running swept (fun _ => vault _) ?_
    intro removal
    obtain ⟨rfl, _⟩ := Event.mk.inj removal
    cases free
  · intro operation host call answer after events kind running owned aside answered living
    obtain ⟨same, vault⟩ := answered_aside owned aside answered
    refine living.swept accepted running (OnlySwept.of_eq same) (fun _ => vault .nginxLink) ?_
    intro removal
    obtain ⟨rfl, _⟩ := Event.mk.inj removal
    obtain rfl := Option.some.inj owned
    rcases aside with bad | ⟨_, _, _, bad⟩ <;> cases bad

/-! ### Changing the link -/

/-- A call of the operation that changes nothing but its link. -/
theorem SiteLife.relinked (living : SiteLife runtime toggle operation host events)
    {node : Option (Node OsName)} {event : Event}
    (puts : Puts host after (linkPath runtime toggle.basename) node)
    (stage : operation.stage = .applying ∨ operation.stage = .rollingBack)
    (changes : isNoop toggle.plan = false)
    (shaped : toggle.Shaped runtime after.tree (event :: events)) :
    SiteLife runtime toggle operation after (event :: events) := by
  constructor
  · exact living.id
  · exact living.planned
  · obtain ⟨recent, rfl⟩ := living.grown
    exact ⟨event :: recent, rfl⟩
  · intro path differ
    rw [puts.1, Function.update_of_ne differ]
    exact living.others path differ
  · exact shaped
  · rintro (noop | early)
    · rw [changes] at noop
      cases noop
    · rcases stage with stage | stage <;> rw [stage] at early <;> exact absurd early (by decide)
  · rw [puts.2]
    exact living.kept
  · intro ended
    rcases stage with stage | stage <;> rw [ended] at stage <;> cases stage
  · intro ended
    rcases stage with stage | stage <;> rw [ended] at stage <;> cases stage

theorem link_puts {node : Option (Node OsName)}
    (puts : Puts host after (linkPath runtime toggle.basename) node) :
    toggle.link runtime after.tree = node := by
  rw [Toggle.link, puts.1, Function.update_self]

section

variable (accepted : Accepted runtime toggle.origin toggle.plan.siteId toggle.basename)
  (living : SiteLife runtime toggle operation host events)
include accepted living

/-- What the operation keeps to when its link is made or removed, or when that fails. -/
theorem SiteLife.setLink (stage : operation.stage = .applying ∨ operation.stage = .rollingBack)
    (changes : isNoop toggle.plan = false) {call : HostCall} {answer : call.Answer}
    (which : call = .createLink toggle.basename ∨ call = .removeLink toggle.basename)
    (answered : treeAnswer runtime host call answer after) :
    SiteLife runtime toggle operation after (⟨call, answer⟩ :: events) := by
  have running : operation.stage.isTerminal = false := by
    rcases stage with stage | stage <;> rw [stage] <;> rfl
  have unchanged (same : Same host after) {event : Event}
      (keeps : event ≠ ⟨.removeLink toggle.basename, .ok ()⟩) :
      SiteLife runtime toggle operation after (event :: events) :=
    living.swept accepted running (OnlySwept.of_eq same.1) (fun _ => congrFun same.2 _) keeps
  rcases which with rfl | rfl
  · cases answer with
    | error error => exact unchanged answered (by simp)
    | ok _ =>
      obtain ⟨absent, puts⟩ := answered
      refine living.relinked puts stage changes (.inr ⟨?_, .inr (link_puts puts)⟩)
      rw [removed_cons living.grown]
      rcases living.shaped with ⟨_, same⟩ | ⟨gone, _⟩
      · exact .inr (same.symm.trans absent)
      · exact gone.imp_left .inr
  · cases answer with
    | error error => exact unchanged answered (by simp)
    | ok _ =>
      obtain ⟨_, puts⟩ := answered
      refine living.relinked puts stage changes (.inr ⟨.inl ?_, .inl (link_puts puts)⟩)
      rw [removed_cons living.grown]
      exact .inl rfl

/-! ### Reading the site -/

/-- Whatever discovery finds later is the site of the operation. -/
theorem SiteLife.discovered {site : NginxSite}
    (found : Sites.discoverSite runtime.toCodec runtime.paths host.tree toggle.plan.siteId =
      .ok site) :
    site.basename = toggle.basename ∧ site.siteId = toggle.plan.siteId ∧
      Sites.readEnabled runtime.paths host.tree toggle.basename =
        .ok (site.state == .enabled) := by
  obtain ⟨listed, lasting, named, visited⟩ := Sites.discoverSite_ok found
  have origin : .text site.basename ∈ toggle.origin.listing runtime.paths.nginxAvailable := by
    rw [FileTree.mem_listing] at listed ⊢
    change (host.tree.lookup (joinPath _ _)).isSome = true at listed
    rcases living.others _ (accepted.apart site.basename) with same | ⟨_, gone⟩
    · rw [same] at listed
      exact listed
    · rw [gone] at listed
      cases listed
  have same := accepted.unique _ origin lasting named
  obtain ⟨enabled, read, id, _, state, _⟩ := Sites.siteAt_ok visited
  refine ⟨same, id.trans named, ?_⟩
  rw [← same, read, state]
  cases enabled <;> rfl

end

end Life

/-! ### Parts of a session -/

section Parts

variable {runtime : Runtime} {toggle : Toggle} {earlier : List Event} {operation : StoredOperation}
  {spot : Track × Host}

variable {post : Except OpsError CommandEvidence → Track × Host → Prop}

/-- The session keeps to the life of the operation. -/
abbrev Follows {α : Type} (runtime : Runtime) (toggle : Toggle) (earlier : List Event)
    (program : Ops α) (spot : Track × Host) (post : Except OpsError α → Track × Host → Prop) :
    Prop :=
  Upkeeps (aloneModel runtime) (SiteLife runtime toggle) earlier program spot post

/-- The program goes on from a host that differs in nothing. -/
structure Onward (runtime : Runtime) (toggle : Toggle) (earlier : List Event)
    (operation : StoredOperation) (spot after : Track × Host) : Prop
    extends Alive (SiteLife runtime toggle) earlier operation after where
  tree : after.2.tree.lookup = spot.2.tree.lookup

theorem Onward.trans {middle after : Track × Host}
    (first : Onward runtime toggle earlier operation spot middle)
    (second : Onward runtime toggle earlier operation middle after) :
    Onward runtime toggle earlier operation spot after :=
  ⟨second.toAlive, second.tree.trans first.tree⟩

theorem Onward.readEnabled {after : Track × Host}
    (onward : Onward runtime toggle earlier operation spot after) :
    Sites.readEnabled runtime.paths after.2.tree toggle.basename =
      Sites.readEnabled runtime.paths spot.2.tree toggle.basename :=
  Sites.readEnabled_congr onward.tree

variable (accepted : Accepted runtime toggle.origin toggle.plan.siteId toggle.basename)
  (alive : Alive (SiteLife runtime toggle) earlier operation spot)
  (running : operation.stage.isTerminal = false)

include accepted alive running

theorem follows_read {α : Type} {call : HostCall} {view : call.Answer → Except OpsError α}
    {post : Except OpsError α → Track × Host → Prop} (leaves : leavesFiles call = true)
    (next : ∀ answer after, treeAnswer runtime spot.2 call answer after.2 →
      Onward runtime toggle earlier operation spot after → post (view answer) after) :
    Follows runtime toggle earlier (perform (.host call) view) spot post := by
  apply upkeep_host alive
  · intro answer after _ answered
    have same := answered_leaves leaves answered
    apply alive.holds.swept accepted running (OnlySwept.of_eq same.1) fun _ => congrFun same.2 _
    intro removal
    obtain ⟨rfl, _⟩ := Event.mk.inj removal
    cases leaves
  · intro answer after _ answered alive
    exact next answer after answered ⟨alive, (answered_leaves leaves answered).1⟩

section

variable
  (next : ∀ result after, Onward runtime toggle earlier operation spot after → post result after)
include next

theorem follows_run {command : CommandClass} :
    Follows runtime toggle earlier (run command) spot post :=
  follows_read accepted alive running rfl fun answer after _ onward => next answer after onward

theorem follows_runAfter {previous : CommandEvidence} {command : CommandClass} :
    Follows runtime toggle earlier (runAfter runtime previous command) spot post := by
  unfold runAfter
  split
  · exact follows_run accepted alive running next
  · exact SafeE.ret _ (next _ spot ⟨alive, rfl⟩)

end

theorem follows_discoverSite {siteId : String} (id : siteId = toggle.plan.siteId)
    {post : Except OpsError NginxSite → Track × Host → Prop}
    (failed : ∀ error after, Onward runtime toggle earlier operation spot after →
      post (.error error) after)
    (found : ∀ site after, Onward runtime toggle earlier operation spot after →
      site.basename = toggle.basename → site.siteId = toggle.plan.siteId →
      Sites.readEnabled runtime.paths spot.2.tree toggle.basename = .ok (site.state == .enabled) →
      post (.ok site) after) :
    Follows runtime toggle earlier (discoverSite siteId) spot post := by
  subst id
  apply follows_read accepted alive running rfl
  rintro answer after ⟨reads, _⟩ onward
  cases answer with
  | error error => exact failed error after onward
  | ok site =>
    rcases reads with computed | ⟨_, bad⟩
    · obtain ⟨named, id, read⟩ := alive.holds.discovered accepted computed.symm
      exact found site after onward named id read
    · cases bad

theorem follows_readEnabled {post : Except OpsError Bool → Track × Host → Prop}
    (failed : ∀ error after, Onward runtime toggle earlier operation spot after →
      post (.error error) after)
    (read : ∀ enabled after, Onward runtime toggle earlier operation spot after →
      Sites.readEnabled runtime.paths spot.2.tree toggle.basename = .ok enabled →
      post (.ok enabled) after) :
    Follows runtime toggle earlier (readEnabled toggle.basename) spot post := by
  apply follows_read accepted alive running rfl
  rintro answer after ⟨reads, _⟩ onward
  cases answer with
  | error error => exact failed error after onward
  | ok enabled =>
    rcases reads with computed | ⟨_, bad⟩
    · exact read enabled after onward computed.symm
    · cases bad

omit running in
/-- After `set_enabled` the link is as wanted, unless it failed. -/
theorem follows_setEnabled
    (stage : operation.stage = .applying ∨ operation.stage = .rollingBack) {site : NginxSite}
    (named : site.basename = toggle.basename) {enabled : Bool}
    (noop : isNoop toggle.plan = true → enabled = (toggle.link runtime toggle.origin).isSome)
    {post : Except OpsError Unit → Track × Host → Prop}
    (failed : ∀ error after, Alive (SiteLife runtime toggle) earlier operation after →
      post (.error error) after)
    (done : ∀ after, Alive (SiteLife runtime toggle) earlier operation after →
      Sites.readEnabled runtime.paths after.2.tree toggle.basename = .ok enabled →
      post (.ok ()) after) :
    Follows runtime toggle earlier (setEnabled runtime.paths site enabled) spot post := by
  have running : operation.stage.isTerminal = false := by
    rcases stage with stage | stage <;> rw [stage] <;> rfl
  unfold setEnabled
  rw [named]
  apply SafeE.bind
  apply follows_readEnabled accepted alive running
  · intro error after onward
    exact failed error after onward.toAlive
  intro current reached onward read
  have read' := onward.readEnabled.trans read
  dsimp only
  by_cases same : current = enabled
  · subst same
    rw [if_pos rfl]
    exact SafeE.ret () (done reached onward.toAlive read')
  rw [if_neg same]
  have changes : isNoop toggle.plan = false := by
    by_contra isNoop_
    rw [Bool.not_eq_false] at isNoop_
    apply same
    rw [noop isNoop_, ← onward.holds.calm (.inl isNoop_)]
    exact (readEnabled_isSome read').symm
  have rest (after : Track × Host)
    (alive : Alive (SiteLife runtime toggle) earlier operation after) :
      Follows runtime toggle earlier (do
        perform (.host (.syncDirectory runtime.paths.nginxEnabled)) id
        let after ← readEnabled toggle.basename
        rejectIf (after ≠ enabled) (.rejected "read_back_failed")) after post := by
    apply SafeE.bind
    apply follows_read accepted alive running rfl
    rintro answer synced _ onward
    cases answer with
    | error error => exact failed error synced onward.toAlive
    | ok _ =>
      apply SafeE.bind
      apply follows_readEnabled accepted onward.toAlive running
      · intro error last onward
        exact failed error last onward.toAlive
      intro value last onward read
      apply SafeE.rejectIf
      · intro _
        exact failed _ last onward.toAlive
      · intro accepted_
        rw [not_not] at accepted_
        subst accepted_
        exact done last onward.toAlive (onward.readEnabled.trans read)
  apply SafeE.bind
  unfold setEnabledLinux
  have change {call : HostCall} {view : call.Answer → Except OpsError Unit}
      (which : call = .createLink toggle.basename ∨ call = .removeLink toggle.basename) :
      Follows runtime toggle earlier (perform (.host call) view) reached fun _ after =>
        Alive (SiteLife runtime toggle) earlier operation after := by
    apply upkeep_host onward.toAlive
    · intro answer after _ answered
      exact onward.holds.setLink accepted stage changes which answered
    · intro _ _ _ _ alive
      exact alive
  split
  · refine (change (.inl rfl)).mono fun result after alive => ?_
    cases result with
    | error error => exact failed error after alive
    | ok _ => exact rest after alive
  · refine (change (.inr rfl)).mono fun result after alive => ?_
    cases result with
    | error error => exact failed error after alive
    | ok _ => exact rest after alive

end Parts

/-! ### Sessions -/

section Sessions

variable {runtime : Runtime} {toggle : Toggle} {earlier : List Event} {operation : StoredOperation}
  {spot : Track × Host}
  (readable : ∀ snapshot : NginxLinkSnapshot,
    runtime.parseSnapshot .nginxLink (runtime.snapshotJson .nginxLink snapshot) = some snapshot)
  (accepted : Accepted runtime toggle.origin toggle.plan.siteId toggle.basename)

variable {record : SnapshotRecord}

theorem follows_recoveryRequired (alive : Alive (SiteLife runtime toggle) earlier operation spot)
    (rolling : operation.stage = .rollingBack) (identifier reason : String) (nowMs : Int) :
    Follows runtime toggle earlier (recoveryRequired runtime identifier reason nowMs) spot
      fun _ _ => True := by
  apply upkeep_last alive _ closing_harmless
  apply alive.holds.moved
  · simp
  · exact .inr rfl
  · rw [rolling]
    rfl
  all_goals rintro ⟨⟩

include readable accepted in
/-- The snapshot that is read back tells the state in which the site was. -/
theorem follows_readSnapshot (alive : Alive (SiteLife runtime toggle) earlier operation spot)
    (rolling : operation.stage = .rollingBack) (present : operation.snapshot = some record)
    {post : Except OpsError NginxLinkSnapshot → Track × Host → Prop}
    (failed : ∀ error after, Alive (SiteLife runtime toggle) earlier operation after →
      post (.error error) after)
    (done : ∀ snapshot after, Alive (SiteLife runtime toggle) earlier operation after →
      snapshot.siteId = toggle.plan.siteId →
      snapshot.enabled = (toggle.link runtime toggle.origin).isSome → post (.ok snapshot) after) :
    Follows runtime toggle earlier (readSnapshot runtime .nginxLink record) spot post := by
  have running : operation.stage.isTerminal = false := by
    rw [rolling]
    rfl
  obtain ⟨_, kept, stored, id, enabled⟩ :=
    alive.holds.kept (by rw [rolling]; nofun) running record present
  apply SafeE.bind
  apply SafeE.rejectIf
  · intro _
    exact failed _ _ alive
  intro _
  apply SafeE.bind
  apply follows_read accepted alive running rfl
  rintro answer after ⟨reads, _⟩ onward
  cases answer with
  | error error => exact failed error after onward.toAlive
  | ok bytes =>
    have content := reads bytes rfl
    rw [stored] at content
    obtain rfl := Option.some.inj content
    apply SafeE.lift
    unfold decodeSnapshot
    split
    · exact failed _ after onward.toAlive
    · rw [readable kept]
      exact done kept after onward.toAlive id enabled

/-- Whatever was done before, the session goes on with the operation in `ROLLING_BACK`. -/
theorem follows_startRollback (alive : Alive (SiteLife runtime toggle) earlier operation spot)
    (stage : operation.stage ∈ rollbackStages) {identifier cause digest : String} :
    Follows runtime toggle earlier
      (startRollback identifier rollbackStages cause digest nowMs) spot fun result after =>
        ∀ rolling, result = .ok rolling → rolling.stage = .rollingBack ∧
          Alive (SiteLife runtime toggle) earlier rolling after := by
  apply SafeE.bind
  apply upkeep_load alive
  · intro error after rolling bad
    cases bad
  dsimp only
  split
  · rename_i already
    apply SafeE.ret
    intro rolling same
    obtain rfl := Except.ok.inj same
    exact ⟨already, alive⟩
  · apply upkeep_transition alive
    · apply alive.holds.moved
      · simp [advance]
      · left
        intro early
        rw [early] at stage
        exact absurd stage (by decide)
      · cases at_ : operation.stage <;> rw [at_] at stage <;>
          first | rfl | exact absurd stage (by decide)
      all_goals rintro ⟨⟩
    · intro error after rolling bad
      cases bad
    · intro after _ _ alive rolling same
      obtain rfl := Except.ok.inj same
      exact ⟨rfl, alive⟩

include readable accepted

section

variable (alive : Alive (SiteLife runtime toggle) earlier operation spot)
include alive

theorem follows_rollback (stage : operation.stage ∈ rollbackStages)
    (identifier cause digest : String) (nowMs : Int) :
    Follows runtime toggle earlier (rollback runtime identifier cause digest nowMs) spot
      fun _ _ => True := by
  apply SafeE.bind
  refine (follows_startRollback alive stage).mono ?_
  intro result spot reached
  cases result with
  | error error => trivial
  | ok rolling =>
  obtain ⟨stage, alive⟩ := reached rolling rfl
  have running : rolling.stage.isTerminal = false := by
    rw [stage]
    rfl
  have required {spot : Track × Host} (alive : Alive (SiteLife runtime toggle) earlier rolling spot)
      (reason : String) := follows_recoveryRequired alive stage identifier reason nowMs
  dsimp only
  cases present : rolling.snapshot with
  | none => exact required alive _
  | some record =>
  apply SafeE.onError
  apply follows_readSnapshot readable accepted alive stage present
  · intro error after alive
    exact required alive _
  intro snapshot after alive id enabled
  apply SafeE.onError
  apply follows_discoverSite accepted alive running id
  · intro error after onward
    exact required onward.toAlive _
  intro current after onward named _ _
  apply SafeE.onError
  apply follows_setEnabled accepted onward.toAlive (.inr stage) named fun _ => enabled
  · intro error after alive
    exact required alive _
  intro linked alive read
  apply SafeE.onError
  apply follows_run accepted alive running
  intro config tested onward
  cases config with
  | error error => exact required onward.toAlive _
  | ok config =>
  apply SafeE.onError
  apply follows_runAfter accepted onward.toAlive running
  intro reload reloaded next
  have onward := onward.trans next
  cases reload with
  | error error => exact required onward.toAlive _
  | ok reload =>
  apply SafeE.onError
  apply follows_runAfter accepted onward.toAlive running
  intro active checked next
  have onward := onward.trans next
  cases active with
  | error error => exact required onward.toAlive _
  | ok active =>
  -- what the last discovery finds decides between the two ends, and both are allowed
  have ends (verified : Bool) (last : Track × Host)
      (onward : Onward runtime toggle earlier rolling linked last) :
      Follows runtime toggle earlier (if !verified then
        recoveryRequired runtime identifier "rollback_verify_failed" nowMs
      else do
        let terminal ← transition identifier {
          expected := [.rollingBack]
          next := .rolledBack
          resultCode := "rollback_verified"
          evidenceDigest := digestOf runtime active
          afterDigest := some snapshot.enabledStateDigest
          rollbackResult := some "verified"
          nowMs := nowMs }
        let answer ← receipt terminal.operationId
        removePlanProposal terminal.plan
        pure answer) last fun _ _ => True := by
    split
    · exact required onward.toAlive _
    · apply upkeep_last onward.toAlive _ closing_harmless
      apply onward.holds.moved
      · simp
      · exact .inr rfl
      · exact running
      · rintro ⟨⟩
      · intro _
        rw [← enabled]
        exact readEnabled_isSome (onward.readEnabled.trans read)
      · rintro ⟨⟩
  apply SafeE.bind
  apply SafeE.attempt
  apply follows_discoverSite accepted onward.toAlive running id
  · intro error last next
    exact ends _ last (onward.trans next)
  · intro site last next _ _ _
    exact ends _ last (onward.trans next)

theorem follows_reloadAndVerify (stage : operation.stage = .reloading)
    {snapshotted : StoredOperation} (plan : snapshotted.plan = toggle.plan) :
    Follows runtime toggle earlier (reloadAndVerify runtime snapshotted nowMs) spot
      fun _ _ => True := by
  have back {reached : StoredOperation} {spot : Track × Host}
      (alive : Alive (SiteLife runtime toggle) earlier reached spot)
      (stage : reached.stage ∈ rollbackStages) (cause digest : String) :=
    follows_rollback readable accepted alive stage snapshotted.operationId cause digest nowMs
  have running : operation.stage.isTerminal = false := by
    rw [stage]
    rfl
  have applied : operation.stage ∈ rollbackStages := by
    rw [stage]
    decide
  have verifying : OperationStage.verifying ∈ rollbackStages := by decide
  apply SafeE.onError
  apply follows_run accepted alive running
  intro reload reloaded onward
  cases reload with
  | error error => exact back onward.toAlive applied _ _
  | ok reload =>
  dsimp only
  split
  · exact back onward.toAlive applied _ _
  apply upkeep_next onward.toAlive
  · apply onward.holds.moved
    · simp [advance]
    · left
      rw [stage]
      rintro ⟨⟩
    · exact running
    all_goals rintro ⟨⟩
  intro reached _ alive
  apply SafeE.onError
  apply follows_discoverSite accepted alive rfl (congrArg _ plan)
  · intro error after onward
    exact back onward.toAlive verifying _ _
  intro site found onward _ _ read
  apply SafeE.onError
  apply follows_run accepted onward.toAlive rfl
  intro active checked next
  have onward := onward.trans next
  cases active with
  | error error => exact back onward.toAlive verifying _ _
  | ok active =>
  dsimp only
  split
  · exact back onward.toAlive verifying _ _
  rename_i verified
  simp only [ne_eq, not_or, not_not] at verified
  apply upkeep_last onward.toAlive _ fun _ => receipt_harmless
  apply onward.holds.moved
  · simp
  · exact .inr rfl
  · rfl
  · rintro ⟨⟩
  · rintro ⟨⟩
  · intro _
    rw [onward.readEnabled, read, verified.1, plan]

theorem follows_applySiteState (stage : operation.stage = .snapshotted)
    (changes : isNoop toggle.plan = false) {preflight : NginxSite}
    (named : preflight.basename = toggle.basename) {snapshotted : StoredOperation}
    (plan : snapshotted.plan = toggle.plan) (nowMs : Int) :
    Follows runtime toggle earlier (applySiteState runtime preflight snapshotted nowMs) spot
      fun _ _ => True := by
  have back {reached : StoredOperation} {spot : Track × Host}
      (alive : Alive (SiteLife runtime toggle) earlier reached spot)
      (stage : reached.stage ∈ rollbackStages) (cause digest : String) :=
    follows_rollback readable accepted alive stage snapshotted.operationId cause digest nowMs
  have running : operation.stage.isTerminal = false := by
    rw [stage]
    rfl
  have applying : OperationStage.applying ∈ rollbackStages := by decide
  have validating : OperationStage.validating ∈ rollbackStages := by decide
  apply upkeep_next alive
  · apply alive.holds.moved
    · simp [advance]
    · left
      rw [stage]
      rintro ⟨⟩
    · exact running
    all_goals rintro ⟨⟩
  intro started _ alive
  apply SafeE.onError
  apply follows_setEnabled accepted alive (.inl rfl) named
  · intro noop
    rw [changes] at noop
    cases noop
  · intro error after alive
    exact back alive applying _ _
  intro linked alive _
  apply upkeep_next alive
  · apply alive.holds.moved
    · simp [advance]
    · left
      rintro ⟨⟩
    · rfl
    all_goals rintro ⟨⟩
  intro tried _ alive
  apply SafeE.onError
  apply follows_run accepted alive rfl
  intro configTest tested onward
  cases configTest with
  | error error => exact back onward.toAlive validating _ _
  | ok configTest =>
  dsimp only
  split
  · exact back onward.toAlive validating _ _
  apply upkeep_next onward.toAlive
  · apply onward.holds.moved
    · simp [advance]
    · left
      rintro ⟨⟩
    · rfl
    all_goals rintro ⟨⟩
  intro valid _ alive
  exact follows_reloadAndVerify readable accepted alive rfl plan

end

omit readable accepted in
/-- Ends the operation before anything was changed. -/
theorem follows_cancelApproved (alive : Alive (SiteLife runtime toggle) earlier operation spot)
    (stage : operation.stage = .approved) (known : StoredOperation) (code digest : String)
    (nowMs : Int) :
    Follows runtime toggle earlier (cancelApproved known code digest nowMs) spot
      fun _ _ => True := by
  apply upkeep_last alive _ fun _ => receipt_harmless
  apply alive.holds.moved
  · simp [advance]
  · exact .inr rfl
  · rw [stage]
    rfl
  · intro _
    apply alive.holds.calm
    rw [stage]
    simp
  all_goals rintro ⟨⟩

omit readable in
/-- A plan that asks for the present state succeeds with it, or is cancelled. -/
theorem follows_finishNoop (alive : Alive (SiteLife runtime toggle) earlier operation spot)
    (stage : operation.stage = .snapshotted) (noop : isNoop toggle.plan = true)
    (read : Sites.readEnabled runtime.paths spot.2.tree toggle.basename =
      .ok (toggle.plan.targetState == .enabled)) (known : StoredOperation) (nowMs : Int) :
    Follows runtime toggle earlier (finishNoop runtime known nowMs) spot fun _ _ => True := by
  apply upkeep_next alive
  · apply alive.holds.moved
    · simp [advance]
    · left
      rw [stage]
      rintro ⟨⟩
    · rw [stage]
      rfl
    all_goals rintro ⟨⟩
  intro verifying host alive
  have cancel {reached : Track × Host} (onward : Onward runtime toggle earlier
      (withTransition operation (advance [.snapshotted] .verifying "no_change_required"
        known.plan.enabledStateDigest nowMs)) verifying reached) (code digest : String) :
      Follows runtime toggle earlier (cancelNoop known code digest nowMs) reached
        fun _ _ => True := by
    apply upkeep_last onward.toAlive _ fun _ => receipt_harmless
    apply onward.holds.moved
    · simp [advance]
    · exact .inr rfl
    · rfl
    · intro _
      exact onward.holds.calm (.inl noop)
    all_goals rintro ⟨⟩
  apply SafeE.onError
  apply follows_run accepted alive rfl
  intro config tested onward
  cases config with
  | error error => exact cancel onward _ _
  | ok config =>
  apply SafeE.onError
  apply follows_run accepted onward.toAlive rfl
  intro active checked next
  have onward := onward.trans next
  cases active with
  | error error => exact cancel onward _ _
  | ok active =>
  dsimp only
  split
  · exact cancel onward _ _
  apply upkeep_last onward.toAlive _ fun _ => receipt_harmless
  apply onward.holds.moved
  · simp
  · exact .inr rfl
  · rfl
  · rintro ⟨⟩
  · rintro ⟨⟩
  · intro _
    rw [onward.readEnabled, host, read]

omit readable in
/-- The snapshot is stored while the operation is still approved. -/
theorem follows_writeSnapshot (alive : Alive (SiteLife runtime toggle) earlier operation spot)
    (stage : operation.stage = .approved) (snapshot : NginxLinkSnapshot)
    {post : Except OpsError SnapshotRecord → Track × Host → Prop}
    (failed : ∀ error after, Onward runtime toggle earlier operation spot after →
      post (.error error) after)
    (done : ∀ record after, Onward runtime toggle earlier operation spot after →
      record.relativePath = toggle.operationId ++ "/" ++ SnapshotKind.nginxLink.fileName →
      after.2.vault (.snapshot record.relativePath) =
        some (runtime.snapshotJson .nginxLink snapshot) →
      post (.ok record) after) :
    Follows runtime toggle earlier
      (writeSnapshot runtime .nginxLink operation.operationId snapshot) spot post := by
  have running : operation.stage.isTerminal = false := by
    rw [stage]
    rfl
  have tree {host after : Host} {bytes : Bytes} {answer : Except OpsError Bytes}
      (answered : treeAnswer runtime host
        (.storeSnapshotFile operation.operationId SnapshotKind.nginxLink.fileName bytes)
        answer after) : after.tree.lookup = host.tree.lookup := by
    cases answer with
    | ok readBack => exact answered.2.1
    | error error =>
      obtain ⟨other, stores⟩ := answered
      exact stores.1
  apply SafeE.bind
  apply upkeep_host alive
  · intro answer after _ answered
    apply alive.holds.swept accepted running (OnlySwept.of_eq (tree answered))
    · intro early
      exact absurd stage early
    · simp
  intro answer after _ answered alive
  have onward : Onward runtime toggle earlier operation spot after := ⟨alive, tree answered⟩
  cases answer with
  | error error => exact failed error after onward
  | ok readBack =>
    obtain ⟨_, stores⟩ := answered
    apply SafeE.bind
    apply SafeE.rejectIf
    · intro _
      exact failed _ after onward
    intro _
    apply SafeE.ret
    have path : operation.operationId = toggle.operationId := alive.holds.id
    apply done _ after onward
    · rw [path]
    · rw [stores.2]
      exact Function.update_self _ _ _

omit readable accepted in
/-- The operation with its snapshot, before anything else was changed. -/
theorem SiteLife.snapshotted {host : Host} {events : List Event}
    (living : SiteLife runtime toggle operation host events)
    (stage : operation.stage = .approved) {snapshot : NginxLinkSnapshot}
    (path : record.relativePath = toggle.operationId ++ "/" ++ SnapshotKind.nginxLink.fileName)
    (stored : host.vault (.snapshot record.relativePath) =
      some (runtime.snapshotJson .nginxLink snapshot))
    (id : snapshot.siteId = toggle.plan.siteId)
    (enabled : snapshot.enabled = (toggle.link runtime toggle.origin).isSome) :
    SiteLife runtime toggle (withSnapshot operation record) host events := by
  constructor
  · exact living.id
  · exact living.planned
  · exact living.grown
  · exact living.others
  · exact living.shaped
  · intro _
    apply living.calm
    rw [stage]
    simp
  · intro _ _ known present
    obtain rfl := Option.some.inj present
    exact ⟨path, snapshot, stored, id, enabled⟩
  · exact nofun
  · exact nofun

/-- An execution, from the discovery of the site to the end. -/
theorem follows_executeNginxSiteState
    (alive : Alive (SiteLife runtime toggle) earlier operation spot)
    (kind : toggle.plan.operationType = .nginxSiteState) (stage : operation.stage = .approved) :
    Follows runtime toggle earlier (executeNginxSiteState runtime operation nowMs) spot
      fun _ _ => True := by
  have plan := alive.holds.planned
  have running : operation.stage.isTerminal = false := by
    rw [stage]
    rfl
  have early : operation.stage ∈
      [OperationStage.approved, .snapshotted, .cancelledBeforeApply] := by
    rw [stage]
    simp
  have cancel {reached : Track × Host}
      (alive : Alive (SiteLife runtime toggle) earlier operation reached) (error : OpsError) :=
    follows_cancelApproved alive stage operation error.code (codeDigest runtime error.code) nowMs
  apply SafeE.onError
  apply SafeE.bind
  apply follows_discoverSite accepted alive running (congrArg _ plan)
  · intro error after onward
    exact cancel onward.toAlive error
  intro preflight found onward named id read
  apply SafeE.bind
  apply SafeE.rejectIf
  · intro _
    exact cancel onward.toAlive _
  intro _
  apply SafeE.bind
  apply SafeE.rejectIf
  · intro _
    exact cancel onward.toAlive _
  intro matched
  simp only [ne_eq, not_or, not_not] at matched
  apply SafeE.ret
  apply SafeE.onError
  apply follows_writeSnapshot accepted onward.toAlive stage
  · intro error after onward
    exact cancel onward.toAlive error
  intro record stored next path kept
  have onward := onward.trans next
  have enabled : (preflight.state == .enabled) = (toggle.link runtime toggle.origin).isSome := by
    rw [← alive.holds.calm (.inr early)]
    exact (readEnabled_isSome read).symm
  apply SafeE.bind
  apply upkeep_attach onward.toAlive
    (onward.holds.snapshotted stage path kept id enabled)
  · intro error after
    trivial
  intro after host _ alive
  have planned : (withSnapshot operation record).plan = toggle.plan := plan
  have isNoop_ : isNoop toggle.plan = (toggle.plan.currentState == toggle.plan.targetState) := by
    rw [isNoop, kind]
  dsimp only
  split
  · rename_i same
    rw [planned] at same
    apply follows_finishNoop accepted alive rfl
    · rw [isNoop_, same, beq_self_eq_true]
    · rw [host, onward.readEnabled, read, matched.2.2, plan, same]
  · rename_i differ
    rw [planned] at differ
    apply follows_applySiteState readable accepted alive rfl _ named planned
    rw [isNoop_, beq_eq_false_iff_ne]
    exact differ

omit readable accepted in
/-- At a restart an operation without effects is cancelled. -/
theorem follows_recoverBeforeApply
    (alive : Alive (SiteLife runtime toggle) earlier operation spot)
    (stage : operation.stage ∈ [.approved, .snapshotted]) :
    Follows runtime toggle earlier (recoverBeforeApply runtime operation nowMs) spot
      fun _ _ => True := by
  have early : operation.stage ∈
      [OperationStage.approved, .snapshotted, .cancelledBeforeApply] := by
    simp only [List.mem_cons, List.not_mem_nil, or_false] at stage ⊢
    exact stage.imp_right .inl
  apply upkeep_last alive
  · apply alive.holds.moved
    · simp [advance]
    · exact .inr rfl
    · simp only [List.mem_cons, List.not_mem_nil, or_false] at stage
      rcases stage with stage | stage <;> rw [stage] <;> rfl
    · intro _
      exact alive.holds.calm (.inr early)
    all_goals rintro ⟨⟩
  · intro terminal
    exact IssuesE.checked <| removePlanProposal_harmless _

/-- Whatever happens, the operation keeps to its life. -/
theorem sustains_site (kind : toggle.plan.operationType = .nginxSiteState) :
    Sustains runtime (aloneModel runtime) toggle.operationId (SiteLife runtime toggle) := by
  refine ⟨steady_site accepted, ?_, ?_⟩
  · intro operation nowMs host events _ stage living
    unfold executeApproved
    rw [living.planned, kind]
    exact follows_executeNginxSiteState readable accepted (alive_start living) kind stage
  · intro operation nowMs host events _ recoverable running living
    have alive := @alive_start Host (SiteLife runtime toggle) operation events host living
    have applied (stage : operation.stage ∈ rollbackStages) :
        Follows runtime toggle events (recoverApplied runtime operation nowMs)
          (startTrack operation, host) fun _ _ => True := by
      unfold recoverApplied
      rw [living.planned, kind]
      apply SafeE.bind
      refine (follows_rollback readable accepted alive stage _ _ _ nowMs).mono ?_
      intro result after _
      cases result <;> trivial
    unfold recoverStage
    cases stage : operation.stage with
    | approved | snapshotted => exact follows_recoverBeforeApply alive (by rw [stage]; simp)
    | applying | validating | reloading | verifying | rollingBack =>
      exact applied (by rw [stage]; decide)
    | planned => exact SafeE.fail _ trivial
    | _ =>
      rw [stage] at running
      cases running

end Sessions

/-! ### The entry at the end -/

/-- Absent, or a link that resolves to the available file. -/
def AsPlanned (paths : OpsPaths) (tree : Tree) (basename : String) : NginxSiteState → Prop
  | .disabled => tree.lookup (joinPath paths.nginxEnabled basename) = none
  | .enabled => ∃ text resolved,
      tree.lookup (joinPath paths.nginxEnabled basename) = some (.symlink text) ∧
        tree.canonicalize (joinPath paths.nginxEnabled basename) = some resolved ∧
        tree.canonicalize (joinPath paths.nginxAvailable basename) = some resolved

/-- An entry of `sites-enabled` or `sites-available`, but not the one of the site. -/
def OtherEntry (runtime : Runtime) (basename : String) (path : Path) : Prop :=
  path ≠ linkPath runtime basename ∧ ∃ entry : OsName,
    path = runtime.paths.nginxEnabled ++ [entry] ∨ path = runtime.paths.nginxAvailable ++ [entry]

/-- What is wanted of a site operation that found one tree and has come to a stage on another. -/
structure ExactToggle (runtime : Runtime) (basename : String) (target : NginxSiteState)
    (before after : Tree) (stage : OperationStage) : Prop where
  others : ∀ path, OtherEntry runtime basename path → after.lookup path = before.lookup path
  undone : stage = .rolledBack ∨ stage = .cancelledBeforeApply →
    after.lookup (linkPath runtime basename) = before.lookup (linkPath runtime basename)
  achieved : stage = .succeeded → AsPlanned runtime.paths after basename target

section Exact

variable {runtime : Runtime} {toggle : Toggle} {operation : StoredOperation} {host : Host}
  {events : List Event}

theorem SiteLife.begins (id : operation.operationId = toggle.operationId)
    (plan : operation.plan = toggle.plan) (stage : operation.stage = .approved)
    (tree : host.tree = toggle.origin) :
    SiteLife runtime toggle operation host toggle.old := by
  constructor
  · exact id
  · exact plan
  · exact ⟨[], rfl⟩
  · intro path _
    rw [tree]
    exact .inl rfl
  · left
    rw [tree]
    refine ⟨?_, rfl⟩
    rintro ⟨recent, same, member⟩
    rw [List.self_eq_append_left.mp same] at member
    cases member
  · intro _
    rw [tree]
  · intro early
    exact absurd stage early
  all_goals
    rw [stage]
    exact nofun

/-- A rollback brings the same link back unless it had to make another one in its place. -/
theorem SiteLife.restored_iff (living : SiteLife runtime toggle operation host events)
    (stage : operation.stage = .rolledBack) :
    toggle.link runtime host.tree = toggle.link runtime toggle.origin ↔
      toggle.link runtime toggle.origin = none ∨
      toggle.link runtime toggle.origin = some (.symlink (enabledLink toggle.basename)) ∨
      ¬Removed toggle.basename toggle.old events := by
  have presence := living.restored stage
  constructor
  · intro same
    by_cases removed : Removed toggle.basename toggle.old events
    · rcases living.shaped with ⟨never, _⟩ | ⟨_, absent | made⟩
      · exact absurd removed never
      · exact .inl (same.symm.trans absent)
      · exact .inr (.inl (same.symm.trans made))
    · exact .inr (.inr removed)
  · intro allowed
    rcases living.shaped with ⟨_, same⟩ | ⟨gone, absent | made⟩
    · exact same
    · rw [absent] at presence ⊢
      exact (Option.isSome_eq_false_iff.mp presence.symm |> Option.isNone_iff_eq_none.mp).symm
    · rw [made] at presence
      rcases allowed with absent | canonical | never
      · rw [absent] at presence
        cases presence
      · rw [made, canonical]
      · rcases gone with removed | absent
        · exact absurd removed never
        · rw [absent] at presence
          cases presence

theorem SiteLife.asPlanned (living : SiteLife runtime toggle operation host events)
    (stage : operation.stage = .succeeded) :
    AsPlanned runtime.paths host.tree toggle.basename toggle.plan.targetState := by
  have entry := Sites.readEnabled_ok (living.achieved stage)
  cases target : toggle.plan.targetState with
  | enabled | disabled =>
    rw [target] at entry
    exact entry

end Exact

/-- After a rollback or a cancellation the entry is the one that was there, after a success it is as
planned and nothing else changed, exactly if no rollback had to make a link with another text than
the usual one again, and no start of the service swept a temporary file out of the directories. -/
theorem toggle_exact_iff {runtime : Runtime}
    (readable : ∀ snapshot : NginxLinkSnapshot,
      runtime.parseSnapshot .nginxLink (runtime.snapshotJson .nginxLink snapshot) = some snapshot)
    {first last : Machine Host} (reachable : Reachable runtime (aloneModel runtime) first)
    (path : Relation.ReflTransGen (MachineStep runtime (aloneModel runtime)) first last)
    {operationId basename : String} {initial final : StoredOperation}
    (stored : loadOperationFrom first.world.tables operationId = .ok initial)
    (kind : initial.plan.operationType = .nginxSiteState) (stage : initial.stage = .approved)
    (accepted : Accepted runtime first.world.host.tree initial.plan.siteId basename)
    (present : Present operationId final last.world) :
    ExactToggle runtime basename initial.plan.targetState first.world.host.tree
        last.world.host.tree final.stage ↔
      (final.stage = .rolledBack →
        first.world.host.tree.lookup (linkPath runtime basename) = none ∨
        first.world.host.tree.lookup (linkPath runtime basename) =
          some (.symlink (enabledLink basename)) ∨
        ¬Removed basename (hostEvents first.world.log) (hostEvents last.world.log)) ∧
      (∀ path, OtherEntry runtime basename path → IsTemporary path →
        last.world.host.tree.lookup path = first.world.host.tree.lookup path) := by
  let toggle : Toggle := ⟨operationId, initial.plan, basename, first.world.host.tree,
    hostEvents first.world.log⟩
  have shares : skipsReloadLock initial.plan.operationType = false := by
    rw [kind]
    rfl
  have begins : SiteLife runtime toggle initial first.world.host (hostEvents first.world.log) :=
    SiteLife.begins (loadOperationFrom_id stored) rfl stage rfl
  have living : SiteLife runtime toggle final last.world.host (hostEvents last.world.log) :=
    life_of_steps (sustains_site readable accepted kind) reachable path stored shares begins
      present
  constructor
  · intro exact_
    refine ⟨fun ended => ?_, fun path other _ => exact_.others path other⟩
    exact (living.restored_iff ended).mp (exact_.undone (.inl ended))
  · rintro ⟨link, swept⟩
    constructor
    · intro path other
      rcases living.others path other.1 with same | ⟨temporary, _⟩
      · exact same
      · exact swept path other temporary
    · rintro (ended | ended)
      · exact (living.restored_iff ended).mpr (link ended)
      · apply living.calm
        rw [ended]
        simp
    · exact living.asPlanned

/-! ### A link with a text of its own -/

def directory : Node OsName := .directory ⟨0o755, 0, 0, 2⟩

/-- The text is the whole path of the available file. -/
def handmade : Node OsName :=
  .symlink ⟨true, [.name (.text "etc"), .name (.text "nginx"), .name (.text "sites-available"),
    .name (.text "site")]⟩

def handmadeTree : Tree where
  nodes := [(etcPath [], directory), (etcPath ["nginx"], directory),
    (etcPath ["nginx", "sites-available"], directory),
    (etcPath ["nginx", "sites-enabled"], directory),
    (etcPath ["nginx", "sites-available", "site"], .file ⟨0o644, 0, 0, 1⟩ []),
    (etcPath ["nginx", "sites-enabled", "site"], handmade)]
  distinct := by decide

def disablePlan : StoredPlan :=
  { samplePlan with
    siteId := nginxSiteId sampleCodec nginxLayoutId "site"
    currentState := .enabled
    targetState := .disabled
    availableDigest := sha256Digest sampleCodec []
    enabledStateDigest := nginxEnabledStateDigest sampleCodec true }

/-- The configuration is valid only while the site is enabled. -/
def needsSite : Host → (call : HostCall) → call.Answer × Host :=
  playTree wireRuntime fun host command => command != .nginxConfigTest ||
    (host.tree.lookup (linkPath wireRuntime "site")).isSome

def disableStarted : Except OpsError Unit × World Host :=
  playStart wireRuntime needsSite noFaults 5
    ⟨emptyLedger, ⟨handmadeTree, fun _ => none⟩, none, []⟩

def disableApproved : World Host :=
  playRequest wireRuntime needsSite noFaults 5
    (.approve operator .nginx ⟨"plan_0", "hash_0", "key_0"⟩)
    (playRequest wireRuntime needsSite noFaults 5 (.storePlan operator disablePlan)
      disableStarted.2)

/-- The disabling has just been rolled back. -/
def disableUndone : World Host :=
  playCrash wireRuntime needsSite noFaults 5 (.execute operator "op_00")
    (fun world => stageOf world.tables "op_00" == some .rolledBack) disableApproved

theorem needsSite_plays : Plays needsSite (aloneModel wireRuntime) := playTree_plays Same

/-- What the two worlds are looked at for; running them once is enough. -/
theorem disable_facts :
    disableStarted.1 = .ok () ∧
    storedAs "op_00" disablePlan .approved disableApproved = true ∧
    (Sites.discoverSite wireRuntime.toCodec wireRuntime.paths disableApproved.host.tree
      disablePlan.siteId).toOption.map NginxSite.basename = some "site" ∧
    disableApproved.host.tree.listing wireRuntime.paths.nginxAvailable = [.text "site"] ∧
    disableApproved.host.tree.lookup (linkPath wireRuntime "site") = some handmade ∧
    storedAs "op_00" disablePlan .rolledBack disableUndone = true ∧
    ranBefore "op_00" disableUndone = true ∧
    disableUndone.host.tree.lookup (linkPath wireRuntime "site") =
      some (.symlink (enabledLink "site")) := by
  decide +kernel

theorem reachable_disableApproved :
    Reachable wireRuntime (aloneModel wireRuntime) ⟨.serving, disableApproved⟩ := by
  apply reachable_playRequest needsSite_plays
  apply reachable_playRequest needsSite_plays
  exact reachable_playStart needsSite_plays ⟨_, .refl⟩ disable_facts.1

theorem steps_disableUndone :
    Relation.ReflTransGen (MachineStep wireRuntime (aloneModel wireRuntime))
      ⟨.serving, disableApproved⟩ ⟨.stopped, disableUndone⟩ :=
  .single (step_playCrash needsSite_plays _)

theorem accepted_handmade :
    Accepted wireRuntime disableApproved.host.tree disablePlan.siteId "site" := by
  obtain ⟨_, _, found, listed, _⟩ := disable_facts
  constructor
  · generalize Sites.discoverSite _ _ _ _ = result at found
    cases result with
    | error error => cases found
    | ok site => exact ⟨site, rfl, Option.some.inj found⟩
  · intro name member _ _
    rw [listed] at member
    simpa using member

/-- The operation before its execution, and just after its last transition. -/
theorem disable_ends :
    (∃ initial, loadOperationFrom disableApproved.tables "op_00" = .ok initial ∧
      initial.plan = disablePlan ∧ initial.stage = .approved) ∧
    (∃ final, Present "op_00" final disableUndone ∧ final.stage = .rolledBack) := by
  obtain ⟨_, approved, _, _, _, undone, ran, _⟩ := disable_facts
  obtain ⟨final, read, _, ended⟩ := storedAs_ok undone
  exact ⟨storedAs_ok approved, final, present_of_ranBefore ran read, ended⟩

theorem toggle_exact_of_disableUndone :
    ExactToggle wireRuntime "site" .disabled disableApproved.host.tree disableUndone.host.tree
        .rolledBack ↔
      (OperationStage.rolledBack = .rolledBack →
        disableApproved.host.tree.lookup (linkPath wireRuntime "site") = none ∨
        disableApproved.host.tree.lookup (linkPath wireRuntime "site") =
          some (.symlink (enabledLink "site")) ∨
        ¬Removed "site" (hostEvents disableApproved.log) (hostEvents disableUndone.log)) ∧
      (∀ path, OtherEntry wireRuntime "site" path → IsTemporary path →
        disableUndone.host.tree.lookup path = disableApproved.host.tree.lookup path) := by
  obtain ⟨⟨initial, stored, plan, stage⟩, final, present, ended⟩ := disable_ends
  have accepted := accepted_handmade
  have steps := steps_disableUndone
  have reachable := reachable_disableApproved
  -- the worlds are only to be looked at, not to be run again
  generalize disableApproved = first at *
  generalize disableUndone = last at *
  have exact_ := toggle_exact_iff (wireRuntime_readable .nginxLink) reachable steps stored
    (by rw [plan]; rfl) stage (by rw [plan]; exact accepted) present
  rw [plan, ended] at exact_
  exact exact_

/-- The link with the whole path is rolled back to one with a relative text. -/
theorem disable_changes_link :
    Reachable wireRuntime (aloneModel wireRuntime) ⟨.serving, disableApproved⟩ ∧
    Relation.ReflTransGen (MachineStep wireRuntime (aloneModel wireRuntime))
      ⟨.serving, disableApproved⟩ ⟨.stopped, disableUndone⟩ ∧
    Accepted wireRuntime disableApproved.host.tree disablePlan.siteId "site" ∧
    (∃ initial, loadOperationFrom disableApproved.tables "op_00" = .ok initial ∧
      initial.plan = disablePlan ∧ initial.stage = .approved) ∧
    (∃ final, Present "op_00" final disableUndone ∧ final.stage = .rolledBack) ∧
    disableApproved.host.tree.lookup (linkPath wireRuntime "site") = some handmade ∧
    disableUndone.host.tree.lookup (linkPath wireRuntime "site") =
      some (.symlink (enabledLink "site")) ∧
    handmade ≠ .symlink (enabledLink "site") := by
  obtain ⟨approved, undone⟩ := disable_ends
  obtain ⟨_, _, _, _, before, _, _, after⟩ := disable_facts
  exact ⟨reachable_disableApproved, steps_disableUndone, accepted_handmade, approved, undone,
    before, after, by decide⟩

end JwOps.Lifecycle.Links
