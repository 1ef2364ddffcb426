import ChangeTracking.Proofs.Lifecycle
import ChangeTracking.Proofs.Ownership

/-! No change is missed. A notification that returns has reached every session that waited for it,
in its own turn or inside another notification, whatever the callbacks did meanwhile; only a
session that was cancelled in between goes without. -/
namespace ChangeTracking
variable {H : Host} {discipline : Discipline H}

/-- A world in which a client has its turn. -/
def Reachable (discipline : Discipline H) (world : World H) : Prop :=
  ∃ (α : Type) (act : Act H α) (host : H.State), Client discipline act ∧
    world ∈ act.trail (World.initial host) ∧ world.due = none

theorem Reachable.evolution {world : World H} (reachable : Reachable discipline world) :
    ∃ past, Evolution discipline (world :: past) := by
  obtain ⟨_, _, host, client, passed, _⟩ := reachable
  obtain ⟨past, evolution, _⟩ := (client.trail_evolution host).of_mem passed
  exact ⟨past, evolution⟩

theorem Reachable.inStep {world : World H} (reachable : Reachable discipline world) :
    world.tracker.InStep := by
  obtain ⟨past, evolution⟩ := reachable.evolution
  exact evolution.inStep world List.mem_cons_self

theorem Reachable.settled {world : World H} (reachable : Reachable discipline world) :
    world.Settled := by
  obtain ⟨_, _, _, _, _, idle⟩ := reachable
  exact World.settled_iff.mpr idle

/-- Nothing is left to deliver to a session for a phase: it got it, or it was cancelled. -/
def World.Done (world : World H) (id : SessionId) (phase : Phase) : Prop :=
  id.index < world.tracker.sessions.size ∧
    (phase ∈ (world.firings id).map (·.phase) ∨ (world.tracker.session id).status = .cancelled)

theorem World.Done.later {earlier later : World H} {id : SessionId} {phase : Phase}
    (done : earlier.Done id phase) (order : Later earlier later) : later.Done id phase := by
  obtain ⟨created, delivered | cancelled⟩ := done
  · obtain ⟨event, member, rfl⟩ := List.mem_map.mp delivered
    have kept := (order.firings id).subset member
    exact ⟨Nat.lt_of_lt_of_le created order.size, .inl (List.mem_map.mpr ⟨event, kept, rfl⟩)⟩
  · have same := (order.ended id created (by rw [cancelled]; rfl)).1
    exact ⟨Nat.lt_of_lt_of_le created order.size, .inr (by rw [same, cancelled])⟩

theorem Evolution.later_run {α : Type} {act : Act H α} {world : World H} {past : List (World H)}
    (evolution : Evolution discipline ((act.run world).2 :: act.history world past)) :
    Later world (act.run world).2 :=
  Act.related_of_mem_trail (fun later earlier => Later earlier later) .refl evolution.later
    List.mem_cons_self

section Deliveries
variable {call : Call H} (answers : ∀ callback event, Evolves discipline (call callback event))
  {world : World H} {past : List (World H)} {id : SessionId}
include answers

private theorem fire_done (event : ChangeEvent) (before : Evolution discipline (world :: past))
    (settled : world.Settled)
    (told : Told (world :: past) (.session id event.registrar event.phase) event.key)
    (waits : world.tracker.Awaits id event.phase ∨ world.Done id event.phase) :
    ((fire (discipline.announced call) id event).run world).2.Done id event.phase := by
  have run := (Evolves.fire answers before settled told).1
  rcases due : world.tracker.fire? id event with _ | firing
  · have done := waits.resolve_left (Tracker.fire?_eq_none_iff.mp due)
    exact done.later run.later_run
  · have fired := Tracker.of_fire? due
    obtain ⟨removed, report⟩ := fired.report
    have step := Evolution.fire before settled told due
    have events : (world.advance (some firing.report) firing.tracker).events id =
        world.events id ++ [firing.report] :=
      SessionStep.events_of_turn (World.advance_log ..) (by rw [report]; rfl) id |>.trans (by simp)
    have done : (world.advance (some firing.report) firing.tracker).Done id event.phase := by
      refine ⟨?_, .inl ?_⟩
      · have kept := step.sessionStep.size_le
        exact Nat.lt_of_lt_of_le (Tracker.index_lt_of_status (by simp [fired.installed])) kept
      · rw [World.firings, events, report]
        simp [List.filterMap_append, TraceEvent.delivered?]
    rw [run_fire_some due, history_fire_some due] at run
    rw [run_fire_some due]
    exact done.later run.later_run

private theorem deliverAll_done (event : ChangeEvent) {perceivers : List (Perceiver H.Callback)}
    (before : Evolution discipline (world :: past)) (settled : world.Settled)
    (told : ∀ perceiver ∈ perceivers, Told (world :: past) perceiver event.key)
    (returned : ((deliverAll (discipline.announced call) event perceivers).run world).1 = .ok ())
    (listed : .session id event.registrar event.phase ∈ perceivers)
    (waits : world.tracker.Awaits id event.phase ∨ world.Done id event.phase) :
    ((deliverAll (discipline.announced call) event perceivers).run world).2.Done id event.phase := by
  induction perceivers generalizing world past with
  | nil => cases listed
  | cons perceiver rest ih =>
    have first := Evolves.deliver answers before settled (told perceiver (by simp))
    have order := first.1.later_run
    have kept := Act.suffix_history (deliver (discipline.announced call) event perceiver) world past
    rw [deliverAll, Act.run_bind] at returned ⊢
    rcases ending : (deliver (discipline.announced call) event perceiver).run world
      with ⟨result, after⟩
    rw [Act.Carries, ending] at first
    rw [ending] at order kept returned
    cases result with
    | error panic => cases returned
    | ok =>
      have toldAfter : ∀ other ∈ rest, Told _ other event.key := fun other member =>
        (told other (by simp [member])).mono kept
      have run := (Evolves.deliverAll answers first.1 first.2 toldAfter).1
      rcases List.mem_cons.mp listed with rfl | later
      · have done := fire_done answers event before settled (told _ (by simp)) waits
        have same : (fire (discipline.announced call) id event).run world = (.ok (), after) := ending
        rw [same] at done
        exact done.later run.later_run
      · refine ih first.1 first.2 toldAfter returned later ?_
        rcases waits with awaits | done
        · rcases order.awaited id event.phase awaits with still | done
          · exact .inl still
          · exact .inr ⟨Nat.lt_of_lt_of_le awaits.index_lt order.size, done⟩
        · exact .inr (done.later order)

/-- A notification that returns leaves a session for which it finds a subscription nothing to wait
for. -/
theorem notify_done {registrar : RegistrarId} {key : Key} {phase : Phase}
    (before : Evolution discipline (world :: past)) (settled : world.Settled)
    (returned : ((notify (discipline.announced call) registrar key phase).run world).1 = .ok ())
    (listed : .session id registrar phase ∈ world.tracker.snapshot registrar key phase)
    (waits : world.tracker.Awaits id phase) :
    ((notify (discipline.announced call) registrar key phase).run world).2.Done id phase := by
  have start := Evolves.notified before settled registrar key phase
  rw [run_notify] at returned ⊢
  exact deliverAll_done answers ⟨registrar, key, phase⟩ start.1 start.2
    (fun perceiver member => ⟨world, by simp, registrar, phase, member⟩) returned listed (.inl waits)

end Deliveries

/-- Between two worlds, the callback that a session had for a phase was called exactly once. -/
def World.CalledOnce (discipline : Discipline H) (world after : World H) (id : SessionId)
    (phase : Phase) : Prop :=
  ∃ callback event more, (world.tracker.session id).callbacks.find? phase = some callback ∧
    event.phase = phase ∧ after.calls discipline = world.calls discipline ++ more ∧
    (more.filter fun call => call.owner = some id ∧ call.event.phase = phase) =
      [⟨some id, callback, event⟩]

private theorem calledOnce {world after : World H} {past later : List (World H)}
    (before : Evolution discipline (world :: past)) (idle : world.due = none)
    (run : Evolution discipline (after :: later)) (settled : after.due = none)
    (kept : world :: past <:+ after :: later) (order : Later world after) {id : SessionId}
    {phase : Phase} (waits : world.tracker.Awaits id phase)
    (delivered : phase ∈ (after.firings id).map (·.phase)) :
    world.CalledOnce discipline after id phase := by
  obtain ⟨callback, found⟩ := Option.isSome_iff_exists.mp waits.2
  have life := (before.lived id world past rfl).life waits.index_lt
  rw [waits.1] at life
  obtain ⟨more, log⟩ := order.log
  have calls : after.calls discipline = world.calls discipline ++ discipline.calls none more := by
    rw [World.calls_append log.symm, idle]
    rfl
  have own : after.callsOf discipline id = world.callsOf discipline id ++
      (discipline.calls none more).filter fun call => call.owner = some id := by
    rw [World.callsOf, calls, List.filter_append, World.callsOf]
  have firings : after.firings id = (after.callsOf discipline id).map (·.event) := by
    rw [(run.answered after later rfl).fired, World.dueTo, settled]
    simp
  have earlier : world.firings id = (world.callsOf discipline id).map (·.event) := by
    rw [(before.answered world past rfl).fired, World.dueTo, idle]
    simp
  have nodup : ((after.firings id).map (·.phase)).Nodup := by
    obtain ⟨_, _, life⟩ := run.events_life List.mem_cons_self id
    exact life.nodup
  have undelivered : phase ∉ (world.firings id).map (·.phase) := life.undelivered waits.2
  rw [firings, own, List.map_map, List.map_append] at nodup delivered
  rw [earlier, List.map_map] at undelivered
  rcases List.mem_append.mp delivered with old | new
  · exact absurd old undelivered
  · obtain ⟨call, member, rfl⟩ := List.mem_map.mp new
    obtain ⟨heard, owner⟩ := List.mem_filter.mp member
    have single := filter_of_nodup_map (List.nodup_append.mp nodup).2.1 member
    refine ⟨callback, call.event, _, found, rfl, calls, ?_⟩
    have owner : call.owner = some id := by simpa using owner
    -- The callback that was called and the one that waited were both given when it was armed.
    obtain ⟨all, given, mine⟩ := (run.answered after later rfl).given call
      (calls ▸ List.mem_append_right _ heard) id owner
    obtain ⟨others, givenBefore, waiting⟩ := life.given_of_find? found
    have waiting : others.find? call.event.phase = some callback := waiting
    rw [run.given_unique given (givenBefore.mono kept), waiting] at mine
    obtain rfl := Option.some.inj mine
    have same : (⟨some id, call.callback, call.event⟩ : Invocation H.Callback) = call := by
      rw [← owner]
    rw [List.filter_filter] at single
    rw [same]
    simpa [Bool.and_comm] using single

/-- A notification that returns has called the callback of each session that had a subscription for
it exactly once, unless the session was cancelled in the meantime. -/
theorem Reachable.delivered {world : World H} (reachable : Reachable discipline world)
    {call : Call H} (answers : ∀ callback event, Client discipline (call callback event))
    {registrar : RegistrarId} {key : Key} {phase : Phase}
    (returned : ((notify (discipline.announced call) registrar key phase).run world).1 = .ok ())
    {subscription : Subscription H.Callback}
    (subscribed : subscription ∈ (world.tracker.table registrar).subscriptions)
    (covers : key ∈ subscription.keys) (wanted : subscription.phase = phase)
    {id : SessionId} {source : RegistrarId} {other : Phase}
    (perceiver : subscription.perceiver = .session id source other) :
    (world.tracker.session id).status = .installed ∧
      (world.CalledOnce discipline
          ((notify (discipline.announced call) registrar key phase).run world).2 id phase ∨
        (((notify (discipline.announced call) registrar key phase).run world).2.tracker.session
          id).status = .cancelled) := by
  obtain ⟨past, before⟩ := reachable.evolution
  obtain ⟨_, _, _, _, _, idle⟩ := reachable
  have settled := World.settled_iff.mpr idle
  have answers := fun callback event => (answers callback event).evolves
  have inStep := before.inStep world List.mem_cons_self
  obtain ⟨rfl, rfl, holds, _⟩ :=
    inStep.owned registrar subscription subscribed id source other perceiver
  subst wanted
  have waits : world.tracker.Awaits id subscription.phase :=
    (inStep.sessions id).waits_of_holds holds
  refine ⟨waits.1, ?_⟩
  have run := Evolves.notify answers source key subscription.phase world past before settled
  have kept := Act.suffix_history
    (notify (discipline.announced call) source key subscription.phase) world past
  have order := run.1.later_run
  have done := notify_done answers before settled returned
    ((inStep.sound.tables source).mem_snapshot_iff.mpr
      ⟨subscription, subscribed, covers, rfl, perceiver⟩) waits
  rcases done.2 with delivered | cancelled
  · exact .inl (calledOnce before idle run.1 (World.settled_iff.mp run.2) kept order waits delivered)
  · exact .inr cancelled

/-- The session that tracks a key is called once when the key is about to change. -/
theorem Reachable.delivered_of_trackBoth :
    World.CalledOnce Discipline.plain (trackBoth.run (World.initial ())).2
      ((notify (Discipline.plain.announced fun _ _ => pure ()) ⟨0⟩ ⟨"a"⟩ .willChange).run
        (trackBoth.run (World.initial ())).2).2 ⟨0⟩ .willChange := by
  have reachable : Reachable Discipline.plain (trackBoth.run (World.initial ())).2 :=
    ⟨_, trackBoth, (), client_trackBoth, List.mem_cons_self, rfl⟩
  have returned : ((notify (Discipline.plain.announced fun _ _ => pure ()) ⟨0⟩ ⟨"a"⟩
      .willChange).run (trackBoth.run (World.initial ())).2).1 = .ok () := rfl
  have subscribed : ⟨0, .willChange, .ofList [⟨"a"⟩], .session ⟨0⟩ ⟨0⟩ .willChange⟩ ∈
      ((trackBoth.run (World.initial ())).2.tracker.table ⟨0⟩).subscriptions := .head _
  have delivered := reachable.delivered (fun _ _ => .done ()) returned subscribed (by decide) rfl rfl
  exact delivered.2.resolve_right (by decide)

end ChangeTracking
