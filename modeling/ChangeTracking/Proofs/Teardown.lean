import ChangeTracking.Proofs.Lifecycle
import ChangeTracking.Proofs.Ownership

namespace ChangeTracking

namespace Tracker
variable {κ : Type} {tracker : Tracker κ} {id : SessionId}

/-- What a session has left when its callback for an event starts, compared with the state in which
the notification reached the session. -/
structure TornDown (id : SessionId) (event : ChangeEvent) (finished : Prop)
    (reached after : Tracker κ) : Prop where
  delivered : ∀ registrar, ∀ subscription ∈ (after.table registrar).subscriptions,
    subscription.perceiver.isFor id event.phase = false
  changed : (after.session id).changed = some event.key
  ended : finished → (after.session id).status = .fired ∧ after.sessionSubscriptions id = 0 ∧
    ∀ registrar, ∀ subscription ∈ (after.table registrar).subscriptions,
      subscription.perceiver.isOf id = false
  waiting : ¬ finished → (after.session id).status = .installed ∧
    ∀ registrar phase, phase ≠ event.phase →
      ((after.table registrar).subscriptions.filter fun subscription =>
        subscription.perceiver.isFor id phase) =
      (reached.table registrar).subscriptions.filter fun subscription =>
        subscription.perceiver.isFor id phase

theorem TornDown.congr {event : ChangeEvent} {finished other : Prop} {reached after : Tracker κ}
    (tornDown : TornDown id event finished reached after) (same : other ↔ finished) :
    TornDown id event other reached after := propext same ▸ tornDown

/-- The teardown is done when a firing hands its callback over. -/
theorem InStep.tornDown (inStep : tracker.InStep) {event : ChangeEvent} {firing : Firing κ}
    (fired : tracker.FiredBy id event firing) :
    TornDown id event ((tracker.session id).isLast event.phase = true) tracker firing.tracker := by
  have left := inStep.subscriptions_fire fired
  have session : firing.tracker.session id = (tracker.session id).fire event := by
    rw [fired.session, if_pos rfl]
  refine ⟨?_, by rw [session]; rfl, ?_, ?_⟩
  · intro registrar subscription member
    rw [left] at member
    simpa using (List.mem_filter.mp member).2
  · intro last
    refine ⟨by simp [session, Session.fire, last],
      by simp [sessionSubscriptions, session, Session.fire, last, countTokens], ?_⟩
    · intro registrar subscription member
      rw [left] at member
      obtain ⟨there, other⟩ := List.mem_filter.mp member
      rw [Bool.eq_false_iff]
      intro mine
      obtain ⟨phase, wanted⟩ := Perceiver.isOf_iff.mp mine
      have waits := (inStep.sessions id).waits_of_holds ((inStep.holds_iff there).mpr wanted)
      rw [Session.phase_of_isLast last waits.2] at wanted
      simp [wanted] at other
  · intro more
    refine ⟨by simp [session, Session.fire, more], ?_⟩
    intro registrar phase different
    rw [left, List.filter_filter]
    refine List.filter_congr fun subscription _ => ?_
    by_cases mine : subscription.perceiver.isFor id phase = true
    · simp [mine, Perceiver.isFor_of_ne different mine]
    · simp [mine]

end Tracker

variable {H : Host} {discipline : Discipline H} {after before : World H} {past : List (World H)}
  {id : SessionId} {callback : H.Callback} {event : ChangeEvent}

private theorem SessionStep.due_of_called (step : SessionStep discipline past before after)
    (called : after.calls discipline =
      before.calls discipline ++ [⟨some id, callback, event⟩]) : before.due = some (id, event) := by
  have unheard {entries : List (LogEntry H)} (log : after.log.toList = before.log.toList ++ entries)
      (silent : ∀ entry ∈ entries, discipline.call? entry = none) : False := by
    rw [World.calls_of_unheard log silent] at called
    simp at called
  cases step with
  | quiet _ _ log silent => exact (unheard log fun entry member => (silent entry member).2.1).elim
  | created _ _ _ _ log => exact (unheard (log.trans (List.append_nil _).symm) (by simp)).elim
  | turn _ _ _ _ log => exact (unheard log (by simp [Discipline.call?])).elim
  | direct idle _ _ log =>
    rw [World.calls_append_note log, idle] at called
    simp at called
  | answer due _ _ _ _ log =>
    rw [World.calls_append_note log, due] at called
    cases List.append_cancel_left called
    exact due

private theorem Evolution.settled_of_due
    (evolution : Evolution discipline (after :: before :: past)) (due : after.due ≠ none) :
    before.Settled := by
  cases evolution with
  | move _ settled => exact settled
  | fire _ settled => exact settled
  | call => exact absurd (World.due_hear _ _) due

/-- What led to the call of a session's callback: one world back the session was reached, and its
teardown stands between. -/
theorem Evolution.firing_of_called (evolution : Evolution discipline (after :: before :: past))
    (called : after.calls discipline =
      before.calls discipline ++ [⟨some id, callback, event⟩]) :
    ∃ reached earlier firing, past = reached :: earlier ∧ reached.due = none ∧
      reached.tracker.fire? id event = some firing ∧ firing.callback = callback ∧
      before = reached.advance (some firing.report) firing.tracker ∧
      after.tracker = before.tracker := by
  have due := evolution.sessionStep.due_of_called called
  cases evolution with
  | move _ settled =>
    rw [World.settled_iff.mp settled] at due
    cases due
  | fire _ settled =>
    rw [World.settled_iff.mp settled] at due
    cases due
  | @call world earlier owner other firing taken found =>
    have settled := taken.settled_of_due (by simp [due])
    obtain ⟨removed, report⟩ := (Tracker.of_fire? found).report
    have reported : (world.advance (some firing.report) firing.tracker).due =
        some (owner, other) := by
      rw [World.due_append (World.advance_log ..), report]
      rfl
    cases reported.symm.trans due
    rw [World.calls_append_note (World.log_hear ..), due] at called
    cases List.append_cancel_left called
    exact ⟨world, earlier, firing, rfl, World.settled_iff.mp settled, found, rfl, rfl, rfl⟩

private theorem Evolution.left_of_installed (evolution : Evolution discipline (before :: past))
    (idle : before.due = none) (installed : (before.tracker.session id).status = .installed) :
    ∃ requested, Given (before :: past) id requested ∧
      ∀ phase, (before.tracker.session id).callbacks.find? phase =
        if phase ∈ (before.callsOf discipline id).map (·.event.phase) then none
        else requested.find? phase := by
  have life := (evolution.lived id before past rfl).life
    (Tracker.index_lt_of_status (by simp [installed]))
  rw [installed] at life
  have delivered : ((before.events id).filterMap TraceEvent.delivered?).map (·.phase) =
      (before.callsOf discipline id).map (·.event.phase) := by
    have answered := (evolution.answered before past rfl).fired id
    rw [World.dueTo, idle] at answered
    rw [← World.firings, answered]
    simp
  exact delivered ▸ life.left_of_installed

private theorem Session.isLast_iff {κ : Type} {session : Session κ} {requested : PerPhase κ}
    {delivered : List Phase} (left : ∀ phase, session.callbacks.find? phase =
      if phase ∈ delivered then none else requested.find? phase) (phase : Phase) :
    session.isLast phase = true ↔
      ∀ other, other ≠ phase → requested.find? other = none ∨ other ∈ delivered := by
  rw [Session.isLast, PerPhase.isEmpty_iff]
  refine forall_congr' fun other => ?_
  rw [PerPhase.find?_erase, left]
  by_cases same : other = phase
  · simp [same]
  · by_cases earlier : other ∈ delivered <;> simp [same, earlier]

/-- Before any callback of a session is run, the session is torn down for its phase, and altogether
unless a phase that was asked for is still to come. -/
theorem Client.torn_down {α : Type} {act : Act H α} (client : Client discipline act)
    (host : H.State) (passed : after :: before :: past <:+ act.trail (World.initial host))
    (called : after.calls discipline =
      before.calls discipline ++ [⟨some id, callback, event⟩]) :
    ∃ reached earlier firing requested, past = reached :: earlier ∧
      reached.tracker.fire? id event = some firing ∧ firing.callback = callback ∧
      before = reached.advance (some firing.report) firing.tracker ∧
      Given (act.trail (World.initial host)) id requested ∧
      requested.find? event.phase = some callback ∧
      Tracker.TornDown id event
        (∀ other, other ≠ event.phase → requested.find? other = none ∨
          other ∈ (before.callsOf discipline id).map (·.event.phase))
        reached.tracker after.tracker := by
  have evolution := (client.trail_evolution host).of_suffix passed
  obtain ⟨reached, earlier, firing, rfl, idle, found, rfl, rfl, same⟩ :=
    evolution.firing_of_called called
  have fired := Tracker.of_fire? found
  have course : Evolution discipline (reached :: earlier) := evolution.tail.tail
  have inStep := course.inStep reached List.mem_cons_self
  obtain ⟨requested, given, left⟩ := course.left_of_installed idle fired.installed
  refine ⟨reached, earlier, firing, requested, rfl, found, rfl, rfl, ?_, ?_, ?_⟩
  · exact given.mono (((List.suffix_cons _ _).trans (List.suffix_cons _ _)).trans passed)
  · have here := left event.phase
    rw [fired.callback] at here
    split at here
    · cases here
    · exact here.symm
  · rw [same, World.callsOf, World.calls_advance, ← World.callsOf]
    exact (inStep.tornDown fired).congr (Session.isLast_iff left event.phase).symm

/-- The last callback of a session that waits for both phases finds the session torn down. -/
theorem Client.torn_down_of_trackAndChange :
    ∃ reached requested, Given (trackAndChange.trail (World.initial ())) ⟨0⟩ requested ∧
      requested.find? .didChange = some (1 : Nat) ∧
      Tracker.TornDown ⟨0⟩ ⟨⟨0⟩, ⟨"a"⟩, .didChange⟩
        (∀ other, other ≠ .didChange → requested.find? other = none ∨ other ∈ [Phase.willChange])
        reached (trackAndChange.run (World.initial ())).2.tracker := by
  obtain ⟨reached, _, _, requested, _, _, _, _, given, found, tornDown⟩ :=
    client_trackAndChange.torn_down () (List.suffix_refl _) rfl
  exact ⟨reached.tracker, requested, given, found, tornDown⟩

end ChangeTracking
