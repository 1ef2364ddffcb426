import ChangeTracking.Proofs.Withdrawals

namespace ChangeTracking

namespace Tracker
variable {κ : Type}

/-- The tokens of the subscriptions that a session has in the tables. -/
def enrolled (tracker : Tracker κ) (id : SessionId) : Set Token :=
  {token | tracker.Enrolled id token.registrar token.id}

/-- A step by which a subscription is lost to its session: it is cancelled at its registrar, or the
registrar goes. -/
def LostAt (before after : Tracker κ) (token : Token) : Prop :=
  CancelledAt before after token.registrar token.id ∨ after.isLive token.registrar = false

end Tracker

variable {H : Host} {discipline : Discipline H}

/-- What one step does to the tracker, after a past. -/
inductive TrackerTurn (past : List (World H)) (world after : World H) : Prop where
  | others (sessions : after.tracker.sessions = world.tracker.sessions)
      (totals : after.tracker.totals = world.tracker.totals)
      (events : ∀ id, after.events id = world.events id)
      (fewer : ∀ id, after.tracker.enrolled id ⊆ world.tracker.enrolled id)
      (lost : ∀ id, ∀ token ∈ world.tracker.enrolled id,
        token ∈ after.tracker.enrolled id ∨ world.tracker.LostAt after.tracker token)
  | created (reads : AccessList) (tracker : after.tracker = (world.tracker.createSession reads).2)
      (log : after.log = world.log)
  | armed {id : SessionId} {callbacks : PerPhase H.Callback}
      (pending : (world.tracker.session id).status = .pending)
      (given : callbacks.isEmpty = false)
      (tracker : after.tracker =
        (world.tracker.armOver id callbacks (world.tracker.session id).reads.entries).2)
      (log : after.log.toList = world.log.toList ++ [.trace
        (world.tracker.armOver id callbacks (world.tracker.session id).reads.entries).1])
  | fired {id : SessionId} {event : ChangeEvent} {firing : Tracker.Firing H.Callback}
      (told : Told (world :: past) (.session id event.registrar event.phase) event.key)
      (due : world.tracker.fire? id event = some firing) (tracker : after.tracker = firing.tracker)
      (log : after.log.toList = world.log.toList ++ [.trace firing.report])
  | cancelled {id : SessionId} {report : TraceEvent}
      (ended : world.tracker.cancelSession? id = some (report, after.tracker))
      (log : after.log.toList = world.log.toList ++ [.trace report])

namespace TrackerTurn
variable {past : List (World H)} {world after : World H}

private theorem of_cleared (sessions : after.tracker.sessions = world.tracker.sessions)
    (totals : after.tracker.totals = world.tracker.totals)
    (events : ∀ id, after.events id = world.events id)
    (tables : ∀ registrar, after.tracker.table registrar = world.tracker.table registrar ∨
      (after.tracker.table registrar).subscriptions = [] ∧
        ∀ number, world.tracker.LostAt after.tracker ⟨registrar, number⟩) :
    TrackerTurn past world after := by
  refine .others sessions totals events ?_ ?_
  · rintro id token ⟨subscription, member, mine⟩
    rcases tables token.registrar with same | ⟨empty, _⟩
    · exact ⟨subscription, same ▸ member, mine⟩
    · rw [empty] at member
      cases member
  · rintro id token ⟨subscription, member, mine⟩
    rcases tables token.registrar with same | ⟨_, lost⟩
    · exact .inl ⟨subscription, same ▸ member, mine⟩
    · exact .inr (lost token.id)

private theorem of_tables (sessions : after.tracker.sessions = world.tracker.sessions)
    (totals : after.tracker.totals = world.tracker.totals)
    (events : ∀ id, after.events id = world.events id)
    (tables : ∀ registrar, after.tracker.table registrar = world.tracker.table registrar) :
    TrackerTurn past world after :=
  of_cleared sessions totals events fun registrar => .inl (tables registrar)

private theorem of_release (source : RegistrarId) :
    TrackerTurn past world { world with tracker := world.tracker.release source } := by
  refine of_cleared rfl rfl (fun _ => rfl) fun registrar => ?_
  rcases world.tracker.release_cases source with kept | last
  · exact .inl (kept registrar).1
  · obtain ⟨table, live⟩ := last registrar
    by_cases same : registrar = source
    · refine .inr ⟨?_, fun number => .inr ?_⟩
      · rw [table, if_pos same]
        rfl
      · rw [live, decide_eq_false (not_not.mpr same), Bool.and_false]
    · exact .inl (by rw [table, if_neg same])

private theorem of_cancelAll (source : RegistrarId) :
    TrackerTurn past world { world with tracker := (world.tracker.cancelAll source).2 } := by
  refine of_cleared rfl rfl (fun _ => rfl) fun registrar => ?_
  have table := world.tracker.table_setTable source (world.tracker.table source).clear registrar
  split at table
  · rename_i written
    obtain ⟨rfl, _⟩ := written
    exact .inr ⟨congrArg Table.subscriptions table, fun _ => .inl (.inl rfl)⟩
  · exact .inl table

private theorem of_register (sound : world.tracker.Sound) (source : RegistrarId) (keys : KeySet)
    (phase : Phase) (callback : H.Callback) :
    TrackerTurn past world
      { world with tracker := (world.tracker.register source keys phase (.direct callback)).2 } := by
  by_cases live : world.tracker.isLive source = true
  · have added := Tracker.register_added sound live keys phase (.direct callback)
    refine .others added.sessions added.totals (fun _ => rfl) ?_ ?_
    · rintro id token ⟨subscription, member, same, mine⟩
      rw [added.subscriptions] at member
      rcases List.mem_append.mp member with old | new
      · exact ⟨subscription, old, same, mine⟩
      · split at new
        · obtain rfl := List.mem_singleton.mp new
          cases mine
        · cases new
    · rintro id token ⟨subscription, member, mine⟩
      refine .inl ⟨subscription, ?_, mine⟩
      rw [added.subscriptions]
      exact List.mem_append_left _ member
  · have same := Tracker.register_of_gone (by simpa using live) keys phase (.direct callback)
    exact of_tables (by rw [same]) (by rw [same]) (fun _ => rfl) fun _ => by rw [same]

private theorem of_cancel (sound : world.tracker.Sound) (source : RegistrarId) (token : Token) :
    TrackerTurn past world
      { world with tracker := (world.tracker.cancel source token).2 } := by
  have removed := Tracker.cancel_removed sound source token
  refine .others removed.sessions removed.totals (fun _ => rfl) ?_ ?_
  · rintro id other ⟨subscription, member, mine⟩
    exact ⟨subscription, (removed.mem_iff.mp member).1, mine⟩
  · rintro id other ⟨subscription, member, same, mine⟩
    by_cases cut : other.registrar = source ∧ token = ⟨other.registrar, other.id⟩
    · obtain ⟨rfl, rfl⟩ := cut
      exact .inr (.inl (.inr rfl))
    · refine .inl ⟨subscription, removed.mem_iff.mpr ⟨member, decide_eq_false ?_⟩, same, mine⟩
      rwa [same]

end TrackerTurn

private theorem Move.trackerTurn {past : List (World H)} {world after : World H}
    (move : Move discipline (world :: past) world after) (sound : world.tracker.Sound) :
    TrackerTurn past world after := by
  cases move with
  | own own =>
    obtain ⟨tracker, _, entries, own, log⟩ := own
    have events (id : SessionId) : after.events id = world.events id :=
      SessionStep.events_of_silent log fun entry member => (own entry member).isSilent.1 id
    exact .of_tables (by rw [tracker]) (by rw [tracker]) events fun _ => by rw [tracker]
  | thread => exact .of_tables rfl rfl (fun _ => rfl) fun _ => rfl
  | createRegistrar =>
    exact .of_tables rfl rfl (fun _ => rfl) world.tracker.table_createRegistrar
  | retain source => exact .of_tables rfl rfl (fun _ => rfl) (world.tracker.table_retain source)
  | release source => exact .of_release source
  | register source keys phase => exact .of_register sound source keys phase _
  | cancel source token => exact .of_cancel sound source token
  | cancelAll source => exact .of_cancelAll source
  | createSession reads => exact .created reads rfl rfl
  | arm pending given => exact .armed pending given rfl (World.advance_log ..)
  | cancelSession ended => exact .cancelled ended (World.advance_log ..)
  | notified =>
    refine .of_tables rfl rfl (fun id => ?_) fun _ => rfl
    exact SessionStep.events_of_silent (World.advance_log ..)
      (by simp [LogEntry.ofReport, LogEntry.lifeEvent?, TraceEvent.session?])
  | call =>
    refine .of_tables rfl rfl (fun id => ?_) fun _ => rfl
    exact SessionStep.events_of_silent (World.log_hear ..) (by simp [LogEntry.lifeEvent?])

theorem Evolution.trackerTurn {world after : World H} {past : List (World H)}
    (evolution : Evolution discipline (after :: world :: past)) : TrackerTurn past world after := by
  have sound := (evolution.inStep world (by simp)).sound
  cases evolution with
  | move _ _ move => exact move.trackerTurn sound
  | fire _ _ told due => exact .fired told due rfl (World.advance_log ..)
  | call =>
    refine .of_tables rfl rfl (fun id => ?_) fun _ => rfl
    exact SessionStep.events_of_silent (World.log_hear ..) (by simp [LogEntry.lifeEvent?])

end ChangeTracking
