import ChangeTracking.Proofs.SessionTurns

/-! Sessions live once. In every run, the reports on a session form the beginning of one life,
each phase is delivered at most once and to the callback that the session was given for it, and
nothing happens any more to a session that has ended. -/
namespace ChangeTracking
variable {H : Host} {discipline : Discipline H}

/-- The callbacks that a session was given at the step that installed it. -/
def Given (worlds : List (World H)) (id : SessionId) (callbacks : PerPhase H.Callback) : Prop :=
  ∃ after before past, after :: before :: past <:+ worlds ∧
    (before.tracker.session id).status = .pending ∧
    (after.tracker.session id).status = .installed ∧
    (after.tracker.session id).callbacks = callbacks

theorem Given.mono {worlds later : List (World H)} {id : SessionId}
    {callbacks : PerPhase H.Callback} (given : Given worlds id callbacks)
    (kept : worlds <:+ later) : Given later id callbacks := by
  obtain ⟨after, before, past, suffix, step⟩ := given
  exact ⟨after, before, past, suffix.trans kept, step⟩

/-- The reports on a session go with its state, and there are none before it is created. -/
structure Lived (worlds : List (World H)) (world : World H) (id : SessionId) : Prop where
  life : id.index < world.tracker.sessions.size →
    Life id (Given worlds id) (world.tracker.session id).status
      (world.tracker.session id).callbacks (world.events id)
  unborn : world.tracker.sessions.size ≤ id.index → world.events id = []

theorem Evolution.lived {worlds : List (World H)} (evolution : Evolution discipline worlds)
    (id : SessionId) : ∀ world past, worlds = world :: past → Lived worlds world id := by
  refine evolution.stepwise
    (motive := fun worlds => ∀ world past, worlds = world :: past → Lived worlds world id) ?_ ?_
  · intro host world past latest
    cases latest
    exact ⟨fun created => absurd created (Nat.not_lt_zero _), fun _ => rfl⟩
  · intro earlier after past _ step ih world rest latest
    cases latest
    have before := ih earlier past rfl
    have more : earlier :: past <:+ after :: earlier :: past := List.suffix_cons _ _
    cases step.fate id with
    | kept session created events =>
      refine ⟨?_, ?_⟩
      · intro inside
        rw [session, events]
        exact (before.life (created.mp inside)).mono fun _ given => given.mono more
      · intro outside
        rw [events]
        exact before.unborn (Nat.le_of_not_lt fun inside => absurd (created.mpr inside) (by omega))
    | created reads fresh session events =>
      have none := before.unborn (Nat.le_of_eq fresh.symm)
      refine ⟨?_, fun _ => events.trans none⟩
      intro _
      rw [session, events, none]
      exact .created _
    | turn event turn events =>
      have running : (earlier.tracker.session id).status ≠ .cancelled := by
        intro cancelled
        have running := turn.running
        rw [cancelled] at running
        cases running
      have created := Tracker.index_lt_of_status running
      refine ⟨?_, ?_⟩
      · intro _
        rw [events]
        refine ((before.life created).mono fun _ given => given.mono more).turn turn ?_
        exact fun pending installed => ⟨after, earlier, past, List.suffix_refl _, pending,
          installed, rfl⟩
      · intro outside
        have := step.size_le
        omega

/-- Each firing has its call, and each call its firing or a subscription of its own. -/
structure Answered (discipline : Discipline H) (worlds : List (World H)) (world : World H) :
    Prop where
  fired : ∀ id, world.firings id =
    (world.callsOf discipline id).map (·.event) ++ world.dueTo id
  given : ∀ call ∈ world.calls discipline, ∀ id, call.owner = some id →
    ∃ callbacks, Given worlds id callbacks ∧
      callbacks.find? call.event.phase = some call.callback
  direct : ∀ call ∈ world.calls discipline, call.owner = none →
    Told worlds (.direct call.callback) call.event.key

namespace Answered
variable {past : List (World H)} {world after : World H}

private theorem of_same (answered : Answered discipline (world :: past) world)
    (calls : after.calls discipline = world.calls discipline)
    (fired : ∀ id, after.firings id = world.firings id ++ after.dueTo id)
    (idle : world.due = none) : Answered discipline (after :: world :: past) after := by
  have more : world :: past <:+ after :: world :: past := List.suffix_cons _ _
  refine ⟨?_, ?_, ?_⟩
  · intro id
    have before := answered.fired id
    rw [World.dueTo, idle] at before
    rw [fired, before, World.callsOf, World.callsOf, calls]
    simp
  · intro call member id owner
    rw [calls] at member
    obtain ⟨callbacks, given, found⟩ := answered.given call member id owner
    exact ⟨callbacks, given.mono more, found⟩
  · intro call member owner
    rw [calls] at member
    exact (answered.direct call member owner).mono more

private theorem of_call (answered : Answered discipline (world :: past) world)
    {callback : H.Callback} {event : ChangeEvent}
    (log : after.log.toList = world.log.toList ++ [.note (discipline.note callback event)])
    (due : ∀ id, world.dueTo id = if world.due.map (·.1) = some id then [event] else [])
    (given : ∀ id, world.due.map (·.1) = some id →
      ∃ callbacks, Given (after :: world :: past) id callbacks ∧
        callbacks.find? event.phase = some callback)
    (direct : world.due.map (·.1) = none →
      Told (after :: world :: past) (.direct callback) event.key) :
    Answered discipline (after :: world :: past) after := by
  have more : world :: past <:+ after :: world :: past := List.suffix_cons _ _
  have calls := World.calls_append_note log
  have idle (id : SessionId) : after.dueTo id = [] := by
    rw [World.dueTo, World.due_append log]
    rfl
  refine ⟨?_, ?_, ?_⟩
  · intro id
    have events : after.events id = world.events id :=
      SessionStep.events_of_silent log (by simp [LogEntry.lifeEvent?])
    rw [World.firings, events, ← World.firings, answered.fired, idle, due, World.callsOf, World.callsOf, calls]
    by_cases mine : world.due.map (·.1) = some id <;> simp [List.filter_append, mine]
  · intro call member id owner
    rw [calls] at member
    rcases List.mem_append.mp member with old | new
    · obtain ⟨callbacks, given, found⟩ := answered.given call old id owner
      exact ⟨callbacks, given.mono more, found⟩
    · obtain rfl := List.mem_singleton.mp new
      exact given id owner
  · intro call member owner
    rw [calls] at member
    rcases List.mem_append.mp member with old | new
    · exact (answered.direct call old owner).mono more
    · obtain rfl := List.mem_singleton.mp new
      exact direct owner

end Answered

private theorem Evolution.given_of_find? {world earlier : World H} {past : List (World H)}
    (evolution : Evolution discipline (world :: past)) (previous : past.head? = some earlier)
    {id : SessionId} (installed : (earlier.tracker.session id).status = .installed) {phase : Phase}
    {callback : H.Callback}
    (found : (earlier.tracker.session id).callbacks.find? phase = some callback) :
    ∃ callbacks, Given (world :: past) id callbacks ∧ callbacks.find? phase = some callback := by
  obtain ⟨rest, rfl⟩ : ∃ rest, past = earlier :: rest := List.head?_eq_some_iff.mp previous
  have life := (evolution.tail.lived id earlier rest rfl).life
    (Tracker.index_lt_of_status (by simp [installed]))
  rw [installed] at life
  obtain ⟨callbacks, given, mine⟩ := life.given_of_find? found
  exact ⟨callbacks, given.mono (List.suffix_cons _ _), mine⟩

private theorem SessionStep.answered {world after : World H} {past : List (World H)}
    (step : SessionStep discipline past world after)
    (evolution : Evolution discipline (world :: past))
    (before : Answered discipline (world :: past) world) :
    Answered discipline (after :: world :: past) after := by
  have more : world :: past <:+ after :: world :: past := List.suffix_cons _ _
  cases step with
  | quiet idle sessions log silent =>
    have due : after.due = none := by
      rw [World.due_append log, idle,
        dueAfter_eq_none fun entry member => (silent entry member).2.2]
    refine before.of_same ?_ ?_ idle
    · exact World.calls_of_unheard log fun entry member => (silent entry member).2.1
    · intro id
      rw [World.firings, SessionStep.events_of_silent log fun entry member =>
        (silent entry member).1 id, World.dueTo, due]
      simp [World.firings]
  | created idle reads size sessions log =>
    refine before.of_same (by rw [World.calls, log, World.calls]) ?_ idle
    intro id
    rw [World.firings, World.events, log, World.dueTo, World.due, log, ← World.due, idle]
    simp [World.firings, World.events]
  | @turn id session event idle turn size sessions log =>
    refine before.of_same ?_ ?_ idle
    · exact World.calls_of_unheard log (by simp [Discipline.call?])
    · intro other
      rw [World.firings, SessionStep.events_of_turn log turn.session?, List.filterMap_append,
        World.dueTo, World.due_append log]
      congr 1
      by_cases same : other = id
      · subst same
        cases turn <;>
          simp [dueAfter, LogEntry.firing?, TraceEvent.delivered?, Option.filter]
      · cases turn <;>
          simp [dueAfter, LogEntry.firing?, Option.filter, same, Ne.symm same]
  | direct idle told sessions log =>
    refine before.of_call log ?_ ?_ fun _ => told.mono more
    · intro id
      simp [World.dueTo, idle]
    · simp [idle]
  | @answer id callback event earlier due previous installed found sessions log =>
    refine before.of_call log ?_ ?_ ?_
    · intro other
      by_cases same : id = other <;> simp [World.dueTo, due, same]
    · intro other mine
      obtain rfl : id = other := by simpa [due] using mine
      obtain ⟨all, given, mine⟩ := evolution.given_of_find? previous installed found
      exact ⟨all, given.mono more, mine⟩
    · simp [due]

theorem Evolution.answered {worlds : List (World H)} (evolution : Evolution discipline worlds) :
    ∀ world past, worlds = world :: past → Answered discipline worlds world := by
  refine evolution.stepwise (motive := fun worlds =>
    ∀ world past, worlds = world :: past → Answered discipline worlds world) ?_ ?_
  · intro host world past latest
    cases latest
    exact ⟨fun _ => rfl, by simp [World.calls, World.initial, Discipline.calls],
      by simp [World.calls, World.initial, Discipline.calls]⟩
  · intro world after past evolution step ih _ _ latest
    cases latest
    exact step.answered evolution (ih world past rfl)

/-- A session is given callbacks at one step only. -/
theorem Evolution.given_unique {worlds : List (World H)} (evolution : Evolution discipline worlds)
    {id : SessionId} {first second : PerPhase H.Callback} (one : Given worlds id first)
    (other : Given worlds id second) : first = second := by
  obtain ⟨after, before, past, suffix, pending, installed, rfl⟩ := one
  obtain ⟨after', before', past', suffix', pending', installed', rfl⟩ := other
  have stays : worlds.Pairwise fun later earlier => earlier.Begun id → later.Begun id :=
    evolution.later.imp fun order begun => begun.later order
  have same := World.moment_unique stays suffix suffix' (.of_installed installed)
    (fun begun => begun.2 pending) (.of_installed installed') (fun begun => begun.2 pending')
  cases same
  rfl

/-- What holds of the sessions throughout a run, whose worlds stand from the last to the first. -/
structure Orderly (discipline : Discipline H) (trail : List (World H)) : Prop where
  life : ∀ world ∈ trail, ∀ id, ∃ word, WholeLife id word ∧ world.events id <+: word
  both : ∀ world ∈ trail, ∀ id event removed, .fired id event removed false ∈ world.events id →
    ∃ callbacks, Given trail id callbacks ∧ ∀ phase, (callbacks.find? phase).isSome = true
  unique : ∀ id first second, Given trail id first → Given trail id second → first = second
  once : ∀ world ∈ trail, ∀ id, ((world.firings id).map (·.phase)).Nodup
  /-- Its callbacks are called with just the events that it took up, in this order; behind the
  last of these the call may be due. -/
  answered : ∀ world ∈ trail, ∀ id,
    world.firings id = (world.callsOf discipline id).map (·.event) ++ world.dueTo id
  /-- What is called on its behalf is the callback that it was given for the phase. -/
  given : ∀ world ∈ trail, ∀ id, ∀ call ∈ world.callsOf discipline id,
    ∃ callbacks, Given trail id callbacks ∧ callbacks.find? call.event.phase = some call.callback
  direct : ∀ world ∈ trail, ∀ call ∈ world.calls discipline, call.owner = none →
    Told trail (.direct call.callback) call.event.key
  /-- Once a session has ended, its status, its last change and its reports stay, and but for a
  call that is due none of its callbacks is called. -/
  ended : trail.Pairwise fun later earlier => ∀ id : SessionId,
    id.index < earlier.tracker.sessions.size →
      (earlier.tracker.session id).status.isTerminal = true →
        (later.tracker.session id).status = (earlier.tracker.session id).status ∧
          (later.tracker.session id).changed = (earlier.tracker.session id).changed ∧
          later.events id = earlier.events id ∧
          (earlier.dueTo id = [] →
            later.callsOf discipline id = earlier.callsOf discipline id)
  settled : ∀ world ∈ trail.head?, world.due = none

namespace Evolution
variable {worlds : List (World H)}

theorem events_life (evolution : Evolution discipline worlds) {world : World H}
    (member : world ∈ worlds) (id : SessionId) :
    ∃ status callbacks, Life id (Given worlds id) status callbacks (world.events id) := by
  obtain ⟨past, before, suffix⟩ := evolution.of_mem member
  have lived := before.lived id world past rfl
  by_cases created : id.index < world.tracker.sessions.size
  · exact ⟨_, _, (lived.life created).mono fun _ given => given.mono suffix⟩
  · rw [lived.unborn (Nat.le_of_not_lt created)]
    exact ⟨_, _, .created ∅⟩

theorem answered_of_mem (evolution : Evolution discipline worlds) {world : World H}
    (member : world ∈ worlds) : Answered discipline worlds world := by
  obtain ⟨past, before, suffix⟩ := evolution.of_mem member
  have answered := before.answered world past rfl
  refine ⟨answered.fired, ?_, ?_⟩
  · intro call member id owner
    obtain ⟨callbacks, given, found⟩ := answered.given call member id owner
    exact ⟨callbacks, given.mono suffix, found⟩
  · intro call member owner
    exact (answered.direct call member owner).mono suffix

private theorem callsOf_of_ended {earlier later : World H} (order : Later earlier later)
    {id : SessionId} (before : earlier.firings id =
      (earlier.callsOf discipline id).map (·.event) ++ earlier.dueTo id)
    (after : later.firings id = (later.callsOf discipline id).map (·.event) ++ later.dueTo id)
    (same : later.events id = earlier.events id) (idle : earlier.dueTo id = []) :
    later.callsOf discipline id = earlier.callsOf discipline id := by
  have calls : earlier.callsOf discipline id <+: later.callsOf discipline id := order.callsOf id
  obtain ⟨more, calls⟩ := calls
  rw [World.firings, same, ← World.firings, before, idle, ← calls] at after
  have lengths := congrArg List.length after
  simp only [List.length_append, List.length_map, List.length_nil] at lengths
  rw [← calls, List.append_right_eq_self]
  exact List.length_eq_zero_iff.mp (by omega)

theorem orderly_of_settled (evolution : Evolution discipline worlds)
    (settled : ∀ world ∈ worlds.head?, world.due = none) : Orderly discipline worlds where
  life world member id := by
    obtain ⟨_, _, life⟩ := evolution.events_life member id
    exact life.whole
  both world member id event removed unfinished := by
    obtain ⟨_, _, life⟩ := evolution.events_life member id
    exact life.both_of_unfinished unfinished
  unique _ _ _ one other := evolution.given_unique one other
  once world member id := by
    obtain ⟨_, _, life⟩ := evolution.events_life member id
    exact life.nodup
  answered world member id := (evolution.answered_of_mem member).fired id
  given world member id call called := by
    obtain ⟨heard, owner⟩ := List.mem_filter.mp called
    exact (evolution.answered_of_mem member).given call heard id (by simpa using owner)
  direct world member := (evolution.answered_of_mem member).direct
  ended := by
    refine evolution.later.imp_of_mem fun {later earlier} laterMember earlierMember order id
      created terminal => ?_
    obtain ⟨session, events⟩ := order.ended id created terminal
    refine ⟨by rw [session], by rw [session], events, ?_⟩
    intro idle
    exact callsOf_of_ended order ((evolution.answered_of_mem earlierMember).fired id)
      ((evolution.answered_of_mem laterMember).fired id) events idle
  settled := settled

end Evolution

/-- Whatever a client does, its sessions live orderly. -/
theorem Client.orderly {α : Type} {act : Act H α} (client : Client discipline act)
    (host : H.State) : Orderly discipline (act.trail (World.initial host)) := by
  have run := client.evolves _ _ (.start host) (fun _ _ _ _ => by simp [World.initial])
  apply run.1.orderly_of_settled
  intro world last
  obtain rfl : (act.run (World.initial host)).2 = world := Option.some.inj last
  exact World.settled_iff.mp run.2

/-- A session that gets both phases of a change has fired and lived orderly. -/
theorem Client.orderly_of_trackAndChange :
    ((trackAndChange.run (World.initial ())).2.tracker.session ⟨0⟩).status = .fired ∧
      Orderly Discipline.plain (trackAndChange.trail (World.initial ())) :=
  ⟨by decide, client_trackAndChange.orderly ()⟩

end ChangeTracking
