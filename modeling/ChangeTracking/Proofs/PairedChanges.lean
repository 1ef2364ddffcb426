import ChangeTracking.Proofs.Delivery
import ChangeTracking.Proofs.Provenance

/-! Sessions that wait for both phases of a change. Each phase is delivered by the first
notification that comes, whichever of the tracked properties it is about. So the two events are
those of one mutation only if nobody else notifies about a tracked property in the meantime. -/
namespace ChangeTracking
variable {H : Host} {discipline : Discipline H}

namespace World

/-- How many notifications about what was read were reported since an earlier world. -/
def noticesSince (after world : World H) (reads : AccessList) : Nat :=
  ((after.log.toList.drop world.log.size).filterMap LogEntry.notified?).countP fun event =>
    reads.contains event.registrar event.key

/-- A session has a subscription that is for an event. -/
def Subscribed (world : World H) (id : SessionId) (event : ChangeEvent) : Prop :=
  ∃ subscription ∈ (world.tracker.table event.registrar).subscriptions,
    event.key ∈ subscription.keys ∧
      subscription.perceiver = .session id event.registrar event.phase

theorem Subscribed.waits {world : World H} {id : SessionId} {event : ChangeEvent}
    (subscribed : world.Subscribed id event) (inStep : world.tracker.InStep) :
    world.tracker.Awaits id event.phase ∧
      .session id event.registrar event.phase ∈
        world.tracker.snapshot event.registrar event.key event.phase ∧
      world.HasRead id event.registrar event.key := by
  obtain ⟨subscription, member, covers, perceiver⟩ := subscribed
  obtain ⟨_, wanted, holds, _⟩ :=
    inStep.owned event.registrar subscription member id _ _ perceiver
  refine ⟨?_, ?_, inStep.hasRead member covers perceiver⟩
  · rw [wanted]
    exact (inStep.sessions id).waits_of_holds holds
  · exact (inStep.sound.tables event.registrar).mem_snapshot_iff.mpr
      ⟨subscription, member, covers, wanted.symm, perceiver⟩

end World

private theorem firings_alone {world after : World H} {id : SessionId} {own : ChangeEvent}
    {report : LogEntry H} {entries : List (LogEntry H)} {reads : AccessList}
    (log : after.log.toList = world.log.toList ++ report :: entries)
    (notified : report.notified? = some own) (sourced : Sourced (· = own) entries)
    (concerns : reads.contains own.registrar own.key = true)
    (alone : after.noticesSince world reads ≤ 1) (fires : after.FiresRead)
    (same : (after.tracker.session id).reads = reads) :
    ∃ more, after.firings id = world.firings id ++ more ∧ ∀ event ∈ more, event = own := by
  have quiet : ∀ event ∈ entries.filterMap LogEntry.notified?,
      ¬ reads.contains event.registrar event.key = true := by
    have stretch : after.log.toList.drop world.log.size = report :: entries := by
      rw [log, ← Array.length_toList, List.drop_left]
    rw [World.noticesSince, stretch, List.filterMap_cons_some notified, List.countP_cons,
      concerns] at alone
    exact List.countP_eq_zero.mp (by simpa using alone)
  refine ⟨_, by rw [World.firings, World.events_append log, List.filterMap_append]; rfl, ?_⟩
  intro event member
  obtain ⟨entry, present, fired⟩ := mem_delivered_iff.mp member
  rcases List.mem_cons.mp present with rfl | inside
  · rw [LogEntry.firing?_of_notified notified] at fired
    cases fired
  · rcases sourced entry inside id event fired with rfl | ⟨other, reported, source⟩
    · rfl
    · have read := fires entry (log ▸ List.mem_append_right _ present) id event fired
      rw [World.HasRead, same] at read
      exact absurd read.2 (quiet event (List.mem_filterMap.mpr ⟨other, reported, source⟩))

private theorem nil_or_single {own : ChangeEvent} {front more : List ChangeEvent}
    (all : ∀ event ∈ more, event = own) (once : ((front ++ more).map (·.phase)).Nodup) :
    more = [] ∨ more = [own] := by
  cases more with
  | nil => exact .inl rfl
  | cons first rest =>
    have here : first = own := all first (by simp)
    cases rest with
    | nil => exact .inr (by rw [here])
    | cons second others =>
      have again : second = own := all second (by simp)
      have twice := (List.nodup_append.mp (List.map_append ▸ once)).2.1
      simp [here, again] at twice

private theorem undelivered {world : World H} {past : List (World H)} {id : SessionId}
    {phase : Phase} (before : Evolution discipline (world :: past))
    (waits : world.tracker.Awaits id phase) : phase ∉ (world.firings id).map (·.phase) := by
  have life := (before.lived id world past rfl).life waits.index_lt
  rw [waits.1] at life
  exact life.undelivered waits.2

/-- What a session gets from a notification and from what comes right after it. -/
structure TakesUp (outcome : Except Panic Unit) (world ended : World H) (id : SessionId)
    (event : ChangeEvent) (more : List ChangeEvent) : Prop where
  firings : ended.firings id = world.firings id ++ more
  own : more = [] ∨ more = [event]
  told : outcome = .ok () → world.Subscribed id event →
    more = [event] ∨ (ended.tracker.session id).status = .cancelled
  cancelled : (world.tracker.session id).status = .cancelled →
    more = [] ∧ (ended.tracker.session id).status = .cancelled

section Notifications
variable {call : Call H} (answers : ∀ callback event, Composed discipline (call callback event))
  {α : Type} {act : Act H α} (composed : Composed discipline act)
  {world : World H} {past : List (World H)} (before : Evolution discipline (world :: past))
  (settled : world.Settled) {id : SessionId} {registrar : RegistrarId} {key : Key} {phase : Phase}
  {outcome : Except Panic Unit} {begun : World H} {result : Except Panic α} {ended : World H}
  (notified : (notify (discipline.announced call) registrar key phase).run world = (outcome, begun))
  (inside : act.run begun = (result, ended))
include answers composed before settled notified inside

private theorem evolution_since_notify : ∃ past, Evolution discipline (ended :: past) ∧
    ended.Settled ∧ Later begun ended ∧ Later world ended ∧ ended.KeepsReads world := by
  have evolves := fun callback event => (answers callback event).evolves
  have first := Evolves.notify evolves registrar key phase world past before settled
  have order := first.1.later_run
  have kept := first.1.keepsReads_run
  rw [Act.Carries, notified] at first
  rw [notified] at order kept
  have second := composed.evolves begun _ first.1 first.2
  have after := second.1.later_run
  have still := second.1.keepsReads_run
  rw [Act.Carries, inside] at second
  rw [inside] at after still
  refine ⟨_, second.1, second.2, after, order.trans after, fun id created => ?_⟩
  exact (still id (Nat.lt_of_lt_of_le created order.size)).trans (kept id created)

private theorem firings_since_notify (read : world.HasRead id registrar key)
    (reached : world.tracker.snapshot registrar key phase ≠ [] ∨ ended = begun)
    (alone : ended.noticesSince world (world.tracker.session id).reads ≤ 1) :
    ∃ more, ended.firings id = world.firings id ++ more ∧
      (more = [] ∨ more = [⟨registrar, key, phase⟩]) := by
  have evolves := fun callback event => (answers callback event).evolves
  have sources := fun callback event => (answers callback event).sources
  obtain ⟨later, run, _, _, _, same⟩ :=
    evolution_since_notify answers composed before settled notified inside
  have first := Evolves.notify evolves registrar key phase world past before settled
  have log := log_notify answers sources before settled registrar key phase
  rw [Act.Carries, notified] at first
  rw [notified] at log
  rcases log with ⟨nobody, log⟩ | ⟨report, entries, reported, sourced, log⟩
  · rw [reached.resolve_left (not_not_intro nobody)]
    refine ⟨[], ?_, .inl rfl⟩
    rw [World.firings, World.events, log, List.append_nil]
    rfl
  · obtain ⟨rest, longer, others⟩ := composed.sources begun _ first.1 first.2
    rw [inside] at longer
    have log : ended.log.toList = world.log.toList ++ report :: (entries ++ rest) := by
      rw [longer, log, List.append_assoc]
      rfl
    obtain ⟨more, firings, all⟩ := firings_alone log reported (sourced.append others.weaken)
      read.2 alone (run.firesRead _ List.mem_cons_self) (same id read.1)
    obtain ⟨_, _, life⟩ := run.events_life List.mem_cons_self id
    have once : ((ended.firings id).map (·.phase)).Nodup := life.nodup
    rw [firings] at once
    exact ⟨more, firings, nil_or_single all once⟩

private theorem takesUp (read : world.HasRead id registrar key)
    (reached : world.tracker.snapshot registrar key phase ≠ [] ∨ ended = begun)
    (alone : ended.noticesSince world (world.tracker.session id).reads ≤ 1) :
    ∃ more, TakesUp outcome world ended id ⟨registrar, key, phase⟩ more := by
  have evolves := fun callback event => (answers callback event).evolves
  obtain ⟨_, _, _, after, order, _⟩ :=
    evolution_since_notify answers composed before settled notified inside
  obtain ⟨more, firings, own⟩ :=
    firings_since_notify answers composed before settled notified inside read reached alone
  refine ⟨more, firings, own, ?_, ?_⟩
  · intro returned subscribed
    obtain ⟨waits, listed, _⟩ := subscribed.waits (before.inStep world List.mem_cons_self)
    have told := notify_done evolves before settled
      ((congrArg Prod.fst notified).trans returned) listed waits
    rw [notified] at told
    refine (told.later after).2.imp_left fun delivered => ?_
    rw [firings, List.map_append] at delivered
    rcases own with rfl | own
    · exact absurd (by simpa using delivered) (undelivered before waits)
    · exact own
  · intro cancelled
    obtain ⟨session, events⟩ := order.ended id read.1 (by rw [cancelled]; rfl)
    rw [World.firings, events] at firings
    exact ⟨List.append_right_eq_self.mp firings.symm, by rw [session, cancelled]⟩

end Notifications

private theorem takesUp_closing {call : Call H}
    (answers : ∀ callback event, Composed discipline (call callback event)) {α : Type}
    {ended after : World H} {past : List (World H)} (before : Evolution discipline (ended :: past))
    (settled : ended.Settled) {result : Except Panic α} {outcome : Except Panic Unit}
    {id : SessionId} {registrar : RegistrarId} {key : Key} {phase : Phase}
    (read : ended.HasRead id registrar key)
    (notified : (notify (discipline.announced call) registrar key phase).run
      (ended.closing result) = (outcome, after))
    (alone : after.noticesSince ended (ended.tracker.session id).reads ≤ 1) :
    ∃ more, TakesUp outcome ended after id ⟨registrar, key, phase⟩ more := by
  cases result with
  | ok value => exact takesUp answers (.done ()) before settled notified rfl read (.inr rfl) alone
  | error panic =>
    have unwinding := before.move settled (.thread { ended.thread with unwinding := true })
    obtain ⟨more, takes⟩ :=
      takesUp answers (.done ()) unwinding settled notified rfl read (.inr rfl) alone
    exact ⟨more, takes.firings, takes.own, takes.told, takes.cancelled⟩

/-- A mutation whose first notification returns gives a subscribed session its will-change event and,
as long as nobody else notifies about what the session has read, no other event before the body has
ended. After that it gives the did-change event of the same property and no other, and it does give
it if it returns and the session is still subscribed when the body has ended. A session that is
cancelled in between goes without what was left. -/
theorem Reachable.changes_paired {world : World H} (reachable : Reachable discipline world)
    {call : Call H} (answers : ∀ callback event, Client discipline (call callback event))
    {α : Type} {body : Act H α} (client : Client discipline body) {id : SessionId}
    {registrar : RegistrarId} {key : Key}
    (subscribed : ∀ phase, world.Subscribed id ⟨registrar, key, phase⟩)
    {begun ended closed : World H} {result final : Except Panic α}
    (announced : (notify (discipline.announced call) registrar key .willChange).run world =
      (.ok (), begun))
    (inside : body.run begun = (result, ended))
    (finished : (withMutation (discipline.announced call) registrar key body).run world =
      (final, closed))
    (alone : ended.noticesSince world (world.tracker.session id).reads ≤ 1)
    (quiet : closed.noticesSince ended (world.tracker.session id).reads ≤ 1) :
    ended.firings id <+: [⟨registrar, key, .willChange⟩] ∧
      (ended.firings id = [⟨registrar, key, .willChange⟩] ∨
        (ended.tracker.session id).status = .cancelled) ∧
      closed.firings id <+: [⟨registrar, key, .willChange⟩, ⟨registrar, key, .didChange⟩] ∧
      (∀ value, final = .ok value → ended.Subscribed id ⟨registrar, key, .didChange⟩ →
        closed.firings id = [⟨registrar, key, .willChange⟩, ⟨registrar, key, .didChange⟩] ∨
          (closed.tracker.session id).status = .cancelled) := by
  obtain ⟨past, before⟩ := reachable.evolution
  obtain ⟨_, _, _, _, _, idle⟩ := reachable
  have settled := World.settled_iff.mpr idle
  have composed := fun callback event => (answers callback event).composed
  have waits (phase : Phase) := (subscribed phase).waits (before.inStep world List.mem_cons_self)
  have read := (waits .willChange).2.2
  have reached := List.ne_nil_of_mem (waits .willChange).2.1
  have blank : world.firings id = [] := by
    apply List.eq_nil_iff_forall_not_mem.mpr
    intro event member
    have awaits : world.tracker.Awaits id event.phase := (waits event.phase).1
    exact undelivered before awaits (List.mem_map_of_mem member)
  -- The first notification and the body.
  obtain ⟨_, during, still, _, order, kept⟩ :=
    evolution_since_notify composed client.composed before settled announced inside
  obtain ⟨will, first⟩ := takesUp composed client.composed before settled announced inside read
    (.inl reached) alone
  have firings : ended.firings id = will := by rw [first.firings, blank, List.nil_append]
  -- The second notification.
  obtain ⟨thread, run⟩ := run_withMutation announced inside
  rcases ending : (notify (discipline.announced call) registrar key .didChange).run
    (ended.closing result) with ⟨outcome, after⟩
  rw [finished, ending] at run
  obtain ⟨rfl, rfl⟩ := Prod.mk.inj run
  have readStill : ended.HasRead id registrar key :=
    ⟨Nat.lt_of_lt_of_le read.1 order.size, kept id read.1 ▸ read.2⟩
  rw [← kept id read.1] at quiet
  obtain ⟨did, second⟩ := takesUp_closing composed during still readStill ending quiet
  have both : ({ after with thread } : World H).firings id = will ++ did :=
    firings ▸ second.firings
  rw [both, firings]
  refine ⟨?_, first.told rfl (subscribed .willChange), ?_, ?_⟩
  · rcases first.own with rfl | rfl <;> simp
  · rcases first.told rfl (subscribed .willChange) with rfl | cancelled
    · rcases second.own with rfl | rfl <;> simp
    · rw [(second.cancelled cancelled).1, List.append_nil]
      rcases first.own with rfl | rfl <;> simp
  · intro value returned listed
    have returned : outcome = .ok () := by
      cases outcome with
      | ok => rfl
      | error panic => cases returned
    rcases first.told rfl (subscribed .willChange) with rfl | cancelled
    · exact (second.told returned listed).imp_left fun own => congrArg _ own
    · exact .inr (second.cancelled cancelled).2

/-- A callback that does nothing but leave its note. -/
def Call.silent : Call Host.plain := Discipline.plain.announced fun _ _ => pure ()

/-- The session that tracks a key gets both of its events from a mutation with an inert body. -/
theorem Reachable.changes_paired_of_trackBoth :
    ((withMutation Call.silent ⟨0⟩ ⟨"a"⟩ (pure ())).run
      (trackBoth.run (World.initial ())).2).2.firings ⟨0⟩ =
        [⟨⟨0⟩, ⟨"a"⟩, .willChange⟩, ⟨⟨0⟩, ⟨"a"⟩, .didChange⟩] := by
  have reachable : Reachable Discipline.plain (trackBoth.run (World.initial ())).2 :=
    ⟨_, trackBoth, (), client_trackBoth, List.mem_cons_self, rfl⟩
  have subscribed (phase : Phase) :
      (trackBoth.run (World.initial ())).2.Subscribed ⟨0⟩ ⟨⟨0⟩, ⟨"a"⟩, phase⟩ := by
    cases phase with
    | willChange =>
      exact ⟨⟨0, .willChange, .ofList [⟨"a"⟩], .session ⟨0⟩ ⟨0⟩ .willChange⟩, .head _,
        by decide, rfl⟩
    | didChange =>
      exact ⟨⟨1, .didChange, .ofList [⟨"a"⟩], .session ⟨0⟩ ⟨0⟩ .didChange⟩, .tail _ (.head _),
        by decide, rfl⟩
  obtain ⟨_, _, _, paired⟩ := reachable.changes_paired (fun _ _ => .done ()) (.done ()) subscribed
    rfl rfl rfl (by decide) (by decide)
  refine (paired () rfl ?_).resolve_right (by decide)
  exact ⟨⟨1, .didChange, .ofList [⟨"a"⟩], .session ⟨0⟩ ⟨0⟩ .didChange⟩, .head _, by decide, rfl⟩

def trackTwo : Act Host.plain RegistrarId := do
  let registrar ← Act.track (·.createRegistrar)
  let read : Act Host.plain Unit := do
    access registrar ⟨"a"⟩
    access registrar ⟨"b"⟩
  let _ ← trackSession read ⟨some (0 : Nat), some (1 : Nat)⟩
  return registrar

/-- When the body of the mutation that delivered the will-change event changes the other tracked key,
the session has fired before this body has ended, with the did-change event of that key. -/
theorem changes_unpaired_of_trackTwo :
    let world := (trackTwo.run (World.initial ())).2
    let body := withMutation Call.silent ⟨0⟩ ⟨"b"⟩ (pure ())
    let begun := ((notify Call.silent ⟨0⟩ ⟨"a"⟩ .willChange).run world).2
    let ended := (body.run begun).2
    let closed := ((withMutation Call.silent ⟨0⟩ ⟨"a"⟩ body).run world).2
    begun.firings ⟨0⟩ = [⟨⟨0⟩, ⟨"a"⟩, .willChange⟩] ∧
      (ended.tracker.session ⟨0⟩).status = .fired ∧
      ended.firings ⟨0⟩ = [⟨⟨0⟩, ⟨"a"⟩, .willChange⟩, ⟨⟨0⟩, ⟨"b"⟩, .didChange⟩] ∧
      closed.firings ⟨0⟩ = ended.firings ⟨0⟩ := by
  decide

end ChangeTracking
