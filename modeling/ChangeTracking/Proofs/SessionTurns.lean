import ChangeTracking.Proofs.Calls

namespace ChangeTracking
variable {H : Host} {discipline : Discipline H}

/-- What one step does to sessions and calls, after a past. -/
inductive SessionStep (discipline : Discipline H) (past : List (World H)) (world after : World H) :
    Prop where
  | quiet {entries : List (LogEntry H)} (idle : world.due = none)
      (sessions : after.tracker.sessions = world.tracker.sessions)
      (log : after.log.toList = world.log.toList ++ entries)
      (silent : ∀ entry ∈ entries, entry.IsSilent discipline)
  | created (idle : world.due = none) (reads : AccessList)
      (size : after.tracker.sessions.size = world.tracker.sessions.size + 1)
      (sessions : ∀ id : SessionId, after.tracker.session id =
        if id.index = world.tracker.sessions.size then Session.create reads
        else world.tracker.session id)
      (log : after.log.toList = world.log.toList)
  | turn {id : SessionId} {session : Session H.Callback} {event : TraceEvent}
      (idle : world.due = none) (turn : Turn id (world.tracker.session id) session event)
      (size : after.tracker.sessions.size = world.tracker.sessions.size)
      (sessions : ∀ other, after.tracker.session other =
        if other = id then session else world.tracker.session other)
      (log : after.log.toList = world.log.toList ++ [.trace event])
  | direct {callback : H.Callback} {event : ChangeEvent} (idle : world.due = none)
      (told : Told (world :: past) (.direct callback) event.key)
      (sessions : after.tracker.sessions = world.tracker.sessions)
      (log : after.log.toList = world.log.toList ++ [.note (discipline.note callback event)])
  | answer {id : SessionId} {callback : H.Callback} {event : ChangeEvent} {earlier : World H}
      (due : world.due = some (id, event)) (previous : past.head? = some earlier)
      (installed : (earlier.tracker.session id).status = .installed)
      (found : (earlier.tracker.session id).callbacks.find? event.phase = some callback)
      (sessions : after.tracker.sessions = world.tracker.sessions)
      (log : after.log.toList = world.log.toList ++ [.note (discipline.note callback event)])

private theorem sessionStep_of_move {past : List (World H)} {world after : World H}
    (settled : world.Settled) (move : Move discipline (world :: past) world after) :
    SessionStep discipline past world after := by
  have idle := World.settled_iff.mp settled
  have unseen {after : World H} (sessions : after.tracker.sessions = world.tracker.sessions)
      (log : after.log = world.log) : SessionStep discipline past world after := by
    have log : after.log.toList = world.log.toList ++ [] := by simp [log]
    exact .quiet idle sessions log (by simp)
  cases move with
  | own own =>
    obtain ⟨tracker, _, entries, own, log⟩ := own
    exact .quiet idle (by rw [tracker]) log fun entry member => (own entry member).isSilent
  | thread => exact unseen rfl rfl
  | createRegistrar => exact unseen rfl rfl
  | retain => exact unseen rfl rfl
  | release => exact unseen rfl rfl
  | register => exact unseen rfl rfl
  | cancel => exact unseen (Tracker.untouched_cancel .. |>.1) rfl
  | cancelAll => exact unseen rfl rfl
  | createSession reads =>
    refine .created idle reads (Array.size_push _) ?_ rfl
    intro id
    rw [Tracker.session_createSession]
    simp only [Tracker.createSession, ← SessionId.index_inj]
  | arm pending given =>
    exact .turn idle (.arm _ _ _ pending given) (by simp [Tracker.armOver])
      (Tracker.session_armOver pending _ _) (World.advance_log ..)
  | cancelSession ended =>
    have ended := Tracker.of_cancelSession? ended
    obtain ⟨removed, rfl⟩ := ended.report
    obtain ⟨totals, left⟩ := ended.tracker
    exact .turn idle (.cancel removed ended.running) (by simp [left])
      ended.session (World.advance_log ..)
  | notified =>
    exact .quiet idle rfl (World.advance_log ..) (by
      intro entry member
      rw [List.mem_singleton.mp member]
      exact ⟨fun _ => rfl, rfl, rfl⟩)
  | call told => exact .direct idle told rfl (World.log_hear ..)

theorem Evolution.tail {world after : World H} {past : List (World H)}
    (evolution : Evolution discipline (after :: world :: past)) :
    Evolution discipline (world :: past) := by
  cases evolution with
  | move before => exact before
  | fire before => exact before
  | call before => exact before

/-- Each world of a run is the latest of a run that led to it. -/
theorem Evolution.of_mem {worlds : List (World H)} (evolution : Evolution discipline worlds)
    {world : World H} (member : world ∈ worlds) :
    ∃ past, Evolution discipline (world :: past) ∧ world :: past <:+ worlds := by
  induction worlds with
  | nil => cases member
  | cons head rest ih =>
    rcases List.mem_cons.mp member with rfl | member
    · exact ⟨rest, evolution, List.suffix_refl _⟩
    · cases rest with
      | nil => cases member
      | cons next past =>
        obtain ⟨earlier, before, suffix⟩ := ih evolution.tail member
        exact ⟨earlier, before, suffix.trans (List.suffix_cons _ _)⟩

theorem Evolution.of_suffix {worlds past : List (World H)} {world : World H}
    (evolution : Evolution discipline worlds) (earlier : world :: past <:+ worlds) :
    Evolution discipline (world :: past) := by
  induction worlds with
  | nil => cases List.suffix_nil.mp earlier
  | cons head rest ih =>
    rcases List.suffix_cons_iff.mp earlier with same | inside
    · rwa [same]
    · cases rest with
      | nil => cases List.suffix_nil.mp inside
      | cons next past => exact ih evolution.tail inside

theorem Evolution.sessionStep {world after : World H} {past : List (World H)}
    (evolution : Evolution discipline (after :: world :: past)) :
    SessionStep discipline past world after := by
  cases evolution with
  | move _ settled move => exact sessionStep_of_move settled move
  | fire _ settled _ due =>
    have fired := Tracker.of_fire? due
    obtain ⟨removed, report⟩ := fired.report
    obtain ⟨totals, left⟩ := fired.tracker
    refine .turn (World.settled_iff.mp settled) (.fire removed fired.installed fired.callback)
      (by simp [left]) fired.session ?_
    rw [World.advance_log, report]
    rfl
  | call before due =>
    have fired := Tracker.of_fire? due
    obtain ⟨removed, report⟩ := fired.report
    refine .answer ?_ rfl fired.installed fired.callback rfl (World.log_hear ..)
    rw [World.due_append (World.advance_log ..), report]
    rfl

/-- What holds at the start and is kept by each step holds of all evolutions. -/
theorem Evolution.stepwise {motive : List (World H) → Prop}
    (start : ∀ host, motive [World.initial host])
    (step : ∀ world after past, Evolution discipline (world :: past) →
      SessionStep discipline past world after → motive (world :: past) →
        motive (after :: world :: past))
    {worlds : List (World H)} (evolution : Evolution discipline worlds) : motive worlds := by
  induction evolution with
  | start host => exact start host
  | move before settled move ih =>
    exact step _ _ _ before (Evolution.move before settled move).sessionStep ih
  | fire before settled told due ih =>
    exact step _ _ _ before (Evolution.fire before settled told due).sessionStep ih
  | call before due ih =>
    exact step _ _ _ before (Evolution.call before due).sessionStep ih

/-- What carries over from step to step, all worlds of a run have in common with those before. -/
theorem Evolution.ordered {related : World H → World H → Prop}
    (trans : ∀ first second third, related second first → related third second →
      related third first)
    (step : ∀ world after past, Evolution discipline (after :: world :: past) →
      related after world)
    {worlds : List (World H)} (evolution : Evolution discipline worlds) :
    worlds.Pairwise related := by
  induction worlds with
  | nil => exact .nil
  | cons after rest ih =>
    cases rest with
    | nil => exact List.pairwise_singleton _ _
    | cons world past =>
      have order := ih evolution.tail
      have last := step world after past evolution
      refine List.pairwise_cons.mpr ⟨List.forall_mem_cons.mpr ⟨last, ?_⟩, order⟩
      intro earlier member
      exact trans _ _ _ ((List.pairwise_cons.mp order).1 earlier member) last

theorem Turn.session? {κ : Type} {id : SessionId} {session after : Session κ} {event : TraceEvent}
    (turn : Turn id session after event) : event.session? = some id := by
  cases turn <;> rfl

theorem Turn.running {κ : Type} {id : SessionId} {session after : Session κ} {event : TraceEvent}
    (turn : Turn id session after event) : session.status.isTerminal = false := by
  cases turn with
  | arm _ _ _ pending => rw [pending]; rfl
  | fire _ installed => rw [installed]; rfl
  | cancel _ running => exact running

theorem Turn.begun {κ : Type} {id : SessionId} {session after : Session κ} {event : TraceEvent}
    (turn : Turn id session after event) : after.status ≠ .pending := by
  cases turn with
  | arm => simp [Session.arm]
  | fire =>
    unfold Session.fire
    dsimp only
    split <;> simp
  | cancel => simp [Session.cancel]

namespace SessionStep
variable {past : List (World H)} {world after : World H}

/-- A step extends the log by entries of which at most one is about a session. -/
theorem log_prefix (step : SessionStep discipline past world after) :
    world.log.toList <+: after.log.toList := by
  cases step with
  | quiet _ _ log => exact ⟨_, log.symm⟩
  | created _ _ _ _ log => exact ⟨[], by rw [log, List.append_nil]⟩
  | turn _ _ _ _ log => exact ⟨_, log.symm⟩
  | direct _ _ _ log => exact ⟨_, log.symm⟩
  | answer _ _ _ _ _ log => exact ⟨_, log.symm⟩

theorem events_of_silent {entries : List (LogEntry H)}
    (log : after.log.toList = world.log.toList ++ entries) {id : SessionId}
    (silent : ∀ entry ∈ entries, entry.lifeEvent? id = none) : after.events id = world.events id := by
  rw [World.events_append log, List.filterMap_eq_nil_iff.mpr silent, List.append_nil]

theorem events_of_turn {event : TraceEvent} {id : SessionId}
    (log : after.log.toList = world.log.toList ++ [.trace event]) (mine : event.session? = some id)
    (other : SessionId) :
    after.events other = world.events other ++ if other = id then [event] else [] := by
  rw [World.events_append log]
  by_cases same : other = id
  · subst same
    simp [LogEntry.lifeEvent?, mine]
  · simp [LogEntry.lifeEvent?, mine, same, Ne.symm same]

theorem size_le (step : SessionStep discipline past world after) :
    world.tracker.sessions.size ≤ after.tracker.sessions.size := by
  cases step with
  | quiet _ sessions => exact Nat.le_of_eq (by rw [sessions])
  | created _ _ size => omega
  | turn _ _ size => omega
  | direct _ _ sessions => exact Nat.le_of_eq (by rw [sessions])
  | answer _ _ _ _ sessions => exact Nat.le_of_eq (by rw [sessions])

/-- What a step means to one session. -/
inductive Fate (world after : World H) (id : SessionId) : Prop where
  | kept (session : after.tracker.session id = world.tracker.session id)
      (created : id.index < after.tracker.sessions.size ↔ id.index < world.tracker.sessions.size)
      (events : after.events id = world.events id)
  | created (reads : AccessList) (fresh : id.index = world.tracker.sessions.size)
      (session : after.tracker.session id = Session.create reads)
      (events : after.events id = world.events id)
  | turn (event : TraceEvent)
      (turn : Turn id (world.tracker.session id) (after.tracker.session id) event)
      (events : after.events id = world.events id ++ [event])

theorem fate (step : SessionStep discipline past world after) (id : SessionId) :
    Fate world after id := by
  have kept {entries : List (LogEntry H)}
      (same : after.tracker.sessions = world.tracker.sessions)
      (log : after.log.toList = world.log.toList ++ entries)
      (silent : ∀ entry ∈ entries, entry.lifeEvent? id = none) : Fate world after id :=
    .kept (by rw [Tracker.session, same, Tracker.session]) (by rw [same])
      (events_of_silent log silent)
  cases step with
  | quiet _ sessions log silent =>
    exact kept sessions log fun entry member => (silent entry member).1 id
  | created _ reads size sessions log =>
    have same : after.events id = world.events id := by rw [World.events, log, World.events]
    have session := sessions id
    split at session
    · rename_i fresh
      exact .created reads fresh session same
    · rename_i old
      exact .kept session (by omega) same
  | @turn other session event _ turn size sessions log =>
    have events := events_of_turn log turn.session? id
    by_cases same : id = other
    · subst same
      refine .turn event ?_ (by simpa using events)
      simpa [sessions] using turn
    · exact .kept (by simp [sessions, same]) (by rw [size]) (by simpa [same] using events)
  | direct _ _ sessions log => exact kept sessions log (by simp [LogEntry.lifeEvent?])
  | answer _ _ _ _ sessions log => exact kept sessions log (by simp [LogEntry.lifeEvent?])

end SessionStep

/-- What stays of an earlier world in later ones: the log, the sessions that have begun or ended,
and that a session gets what it waits for unless it is cancelled. -/
structure Later (earlier later : World H) : Prop where
  log : earlier.log.toList <+: later.log.toList
  size : earlier.tracker.sessions.size ≤ later.tracker.sessions.size
  begun : ∀ id : SessionId, id.index < earlier.tracker.sessions.size →
    (earlier.tracker.session id).status ≠ .pending → (later.tracker.session id).status ≠ .pending
  ended : ∀ id : SessionId, id.index < earlier.tracker.sessions.size →
    (earlier.tracker.session id).status.isTerminal = true →
      later.tracker.session id = earlier.tracker.session id ∧
        later.events id = earlier.events id
  awaited : ∀ id phase, earlier.tracker.Awaits id phase →
    later.tracker.Awaits id phase ∨ phase ∈ (later.firings id).map (·.phase) ∨
      (later.tracker.session id).status = .cancelled

theorem Later.firings {earlier later : World H} (order : Later earlier later) (id : SessionId) :
    earlier.firings id <+: later.firings id := by
  obtain ⟨more, log⟩ := order.log
  rw [World.firings, World.firings, World.events_append log.symm, List.filterMap_append]
  exact List.prefix_append _ _

theorem Later.callsOf {earlier later : World H} (order : Later earlier later) (id : SessionId) :
    earlier.callsOf discipline id <+: later.callsOf discipline id := by
  obtain ⟨more, log⟩ := order.log
  rw [World.callsOf, World.callsOf, World.calls_append log.symm, List.filter_append]
  exact List.prefix_append _ _

theorem Later.refl (world : World H) : Later world world :=
  ⟨List.prefix_refl _, Nat.le_refl _, fun _ _ begun => begun, fun _ _ _ => ⟨rfl, rfl⟩,
    fun _ _ awaits => .inl awaits⟩

theorem Later.trans {first second third : World H} (earlier : Later first second)
    (later : Later second third) : Later first third where
  log := earlier.log.trans later.log
  size := Nat.le_trans earlier.size later.size
  begun id created begun := later.begun id (Nat.lt_of_lt_of_le created earlier.size)
    (earlier.begun id created begun)
  ended id created terminal := by
    obtain ⟨session, events⟩ := earlier.ended id created terminal
    obtain ⟨next, more⟩ := later.ended id (Nat.lt_of_lt_of_le created earlier.size) (session ▸ terminal)
    exact ⟨next.trans session, more.trans events⟩
  awaited id phase awaits := by
    have created := Nat.lt_of_lt_of_le awaits.index_lt earlier.size
    rcases earlier.awaited id phase awaits with still | delivered | cancelled
    · exact later.awaited id phase still
    · obtain ⟨event, member, rfl⟩ := List.mem_map.mp delivered
      exact .inr (.inl (List.mem_map.mpr ⟨event, (later.firings id).subset member, rfl⟩))
    · refine .inr (.inr ?_)
      rw [(later.ended id created (by rw [cancelled]; rfl)).1, cancelled]

/-- A session was created and is not pending any more. -/
def World.Begun (world : World H) (id : SessionId) : Prop :=
  id.index < world.tracker.sessions.size ∧ (world.tracker.session id).status ≠ .pending

theorem World.Begun.of_installed {world : World H} {id : SessionId}
    (installed : (world.tracker.session id).status = .installed) : world.Begun id :=
  ⟨Tracker.index_lt_of_status (by simp [installed]), by simp [installed]⟩

theorem World.Begun.later {earlier later : World H} {id : SessionId} (begun : earlier.Begun id)
    (order : Later earlier later) : later.Begun id :=
  ⟨Nat.lt_of_lt_of_le begun.1 order.size, order.begun id begun.1 begun.2⟩

theorem SessionStep.later {past : List (World H)} {world after : World H}
    (step : SessionStep discipline past world after) : Later world after where
  log := step.log_prefix
  size := step.size_le
  begun id created begun := by
    cases step.fate id with
    | kept same => rwa [same]
    | created _ fresh => omega
    | turn _ turn => exact turn.begun
  ended id created terminal := by
    cases step.fate id with
    | kept same _ events => exact ⟨same, events⟩
    | created _ fresh => omega
    | turn _ turn =>
      rw [turn.running] at terminal
      cases terminal
  awaited id phase awaits := by
    have created := awaits.index_lt
    cases step.fate id with
    | kept same => exact .inl (by rw [Tracker.Awaits, same]; exact awaits)
    | created _ fresh => omega
    | turn event turn events =>
      rw [Tracker.Awaits, World.firings, events]
      generalize after.tracker.session id = session at turn
      cases turn with
      | arm _ _ _ pending =>
        rw [awaits.1] at pending
        cases pending
      | @fire event callback removed installed found =>
        by_cases same : phase = event.phase
        · subst same
          exact .inr (.inl (by simp [List.filterMap_append, TraceEvent.delivered?]))
        · left
          have more : ¬ (world.tracker.session id).isLast event.phase = true := fun last =>
            same (Session.phase_of_isLast last awaits.2)
          refine ⟨by simp [Session.fire, more], ?_⟩
          simpa [Session.fire, PerPhase.find?_erase, same] using awaits.2
      | cancel => exact .inr (.inr rfl)

theorem Evolution.later {worlds : List (World H)} (evolution : Evolution discipline worlds) :
    worlds.Pairwise fun later earlier => Later earlier later :=
  evolution.ordered (fun _ _ _ first second => first.trans second)
    fun _ _ _ next => next.sessionStep.later

theorem Evolution.later_of_mem {world earlier : World H} {past : List (World H)}
    (evolution : Evolution discipline (world :: past)) (member : earlier ∈ world :: past) :
    Later earlier world :=
  World.related_of_mem (fun later earlier => Later earlier later) .refl evolution.later member

end ChangeTracking
