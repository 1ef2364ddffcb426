import ChangeTracking.Proofs.ShadowDelivery

namespace ChangeTracking
variable {H : Host} {discipline : Discipline H} {n : Nat}
  {sessions : List (Tracked n H.Callback)} {world : World H}

private theorem run_readAll (reads : List (Fin n × Key)) (world : World H) :
    (readAll reads).run world = (.ok (), { world with thread :=
      { world.thread with recording := world.thread.recording.map (readList reads) } }) := by
  induction reads generalizing world with
  | nil =>
    obtain ⟨_, ⟨recording, _⟩, _⟩ := world
    cases recording <;> rfl
  | cons read rest ih =>
    obtain ⟨_, ⟨recording, _⟩, _⟩ := world
    exact (ih _).trans (by cases recording <;> rfl)

private theorem run_record (reads : List (Fin n × Key))
    (recording : world.thread.recording = none) :
    (record (readAll reads)).run world = (.ok ((), readList reads ∅), world) := by
  obtain ⟨_, ⟨outer, _⟩, _⟩ := world
  obtain rfl : outer = none := recording
  simp [record, Act.run_bind, Act.run_onThreadState, run_readAll]

/-- The world in which a session over what was read has been created and armed. -/
def World.armed (world : World H) (reads : AccessList) (callbacks : PerPhase H.Callback) :
    World H :=
  let (report, tracker) := world.tracker.armFresh reads callbacks
  world.advance (some report) tracker

theorem run_arm_created (world : World H) (reads : AccessList) (callbacks : PerPhase H.Callback) :
    (arm ⟨world.tracker.sessions.size⟩ callbacks).run
        { world with tracker := (world.tracker.createSession reads).2 } =
      (.ok (.ok ()), world.armed reads callbacks) := by
  rw [arm, Act.run_conduct, Tracker.arm_createSession]
  rfl

/-- A tracked read whose recording returns leaves a session that is armed over what was recorded. -/
theorem run_trackArmed {α : Type} {read : Act H α} {after : World H} {value : α}
    {reads : AccessList} (recorded : (record read).run world = (.ok (value, reads), after))
    (callbacks : PerPhase H.Callback) :
    (trackArmed read callbacks).run world =
      (.ok (value, ⟨after.tracker.sessions.size⟩), after.armed reads callbacks) := by
  rw [trackArmed, Act.run_bind_ok recorded, Act.run_bind_ok (Act.run_track _ _)]
  exact Act.run_bind_ok (run_arm_created after reads callbacks)

theorem run_trackSession {α : Type} {read : Act H α} {after : World H} {value : α}
    {reads : AccessList} {callbacks : PerPhase H.Callback} (given : callbacks.isEmpty = false)
    (recorded : (record read).run world = (.ok (value, reads), after)) :
    (trackSession read callbacks).run world =
      (.ok (.ok (value, ⟨after.tracker.sessions.size⟩)), after.armed reads callbacks) := by
  rw [trackSession, if_neg (by simp [given])]
  exact Act.run_bind_ok (run_trackArmed recorded callbacks)

namespace Simulates

theorem track (simulates : Simulates discipline sessions world) (reads : List (Fin n × Key))
    {callbacks : PerPhase H.Callback} (given : callbacks.isEmpty = false) :
    ∃ after, (trackSession (readAll reads) callbacks).run world =
        (.ok (.ok ((), ⟨world.tracker.sessions.size⟩)), after) ∧
      Simulates discipline (sessions ++ [.create reads callbacks]) after := by
  refine ⟨_, run_trackSession given (run_record reads simulates.recording), ?_⟩
  refine simulates.quiet (simulates.mirrors.track reads given) simulates.recording
    (World.advance_log ..) ?_ (by simp) ?_
  · intro entry member
    obtain rfl := List.mem_singleton.mp member
    exact ⟨rfl, rfl⟩
  · apply forall_getElem?_concat
    · intro index tracked found
      exact .inl ⟨tracked, found, rfl, rfl⟩
    · exact .inr ⟨Nat.le_refl _, rfl⟩

private theorem cancelSession_none (simulates : Simulates discipline sessions world)
    {id : SessionId} (ended : world.tracker.cancelSession? id = none) :
    sessions.modify id.index .cancel = sessions := by
  rw [List.modify_eq_set_getElem?]
  rcases found : sessions[id.index]? with _ | tracked
  · rfl
  · have terminal := Tracker.cancelSession?_eq_none_iff.mp ended
    rw [(simulates.mirrors.same id.index tracked found).status, Shadow.isTerminal_status] at terminal
    have same : tracked.cancel = tracked := by
      rw [Tracked.cancel, Shadow.cancel, if_neg (by simpa using terminal)]
    obtain ⟨below, here⟩ := List.getElem?_eq_some_iff.mp found
    change sessions.set id.index tracked.cancel = sessions
    rw [same, ← here, List.set_getElem_self]

theorem cancelSession (simulates : Simulates discipline sessions world) (id : SessionId) :
    ∃ after, (cancelSession id : Act H Unit).run world = (.ok (), after) ∧
      Simulates discipline (sessions.modify id.index .cancel) after := by
  refine ⟨_, Act.run_conduct _ _, ?_⟩
  rcases ended : world.tracker.cancelSession? id with _ | ⟨report, next⟩
  · rw [simulates.cancelSession_none ended]
    exact World.advance_none world ▸ simulates
  · have ended := Tracker.of_cancelSession? ended
    have below := Tracker.index_lt_of_status ended.not_cancelled
    rw [simulates.mirrors.size] at below
    have found := List.getElem?_eq_getElem below
    have live : sessions[id.index].shadow.live = true := by
      have running := ended.running
      rw [(simulates.mirrors.same id.index _ found).status, Shadow.isTerminal_status] at running
      simpa using running
    have cancelled : Mirrors (sessions.modify id.index .cancel) next := by
      rw [List.modify_eq_set_get _ below]
      exact simulates.mirrors.cancel found ended live
    refine simulates.quiet cancelled simulates.recording (World.advance_log ..) ?_ (by simp)
      ?_
    · intro entry member
      obtain rfl := List.mem_singleton.mp member
      obtain ⟨removed, rfl⟩ := ended.report
      exact ⟨rfl, rfl⟩
    · intro index tracked present
      rw [List.getElem?_modify] at present
      obtain ⟨before, there, rfl⟩ := Option.map_eq_some_iff.mp present
      refine .inl ⟨before, there, ?_⟩
      split <;> exact ⟨rfl, rfl⟩

end Simulates

namespace Op
variable (call : H.Callback → ChangeEvent → Bystander discipline)

theorem perform_simulates (op : Op discipline n) (simulates : Simulates discipline sessions world) :
    ∃ after, (op.perform call).run world = (.ok (), after) ∧
      Simulates discipline (op.model sessions) after := by
  cases op with
  | track reads callbacks =>
    by_cases given : callbacks.isEmpty = true
    · refine ⟨world, ?_, ?_⟩
      · rw [perform, trackSession, if_pos given]
        rfl
      · rwa [model, if_pos given]
    · obtain ⟨after, tracked, done⟩ := simulates.track reads (eq_false_of_ne_true given)
      refine ⟨after, Act.run_bind_ok tracked, ?_⟩
      rwa [model, if_neg given]
  | mutate registrar key body => exact simulates.withMutation call registrar key body
  | notify registrar key phase => exact simulates.notify call registrar key phase
  | cancel id => exact simulates.cancelSession id

theorem performAll_simulates (ops : List (Op discipline n))
    (simulates : Simulates discipline sessions world) :
    ∃ after, (performAll call ops).run world = (.ok (), after) ∧
      Simulates discipline (ops.foldl (fun sessions op => op.model sessions) sessions) after := by
  induction ops generalizing sessions world with
  | nil => exact ⟨world, rfl, simulates⟩
  | cons op rest ih =>
    obtain ⟨middle, first, step⟩ := op.perform_simulates call simulates
    obtain ⟨after, later, done⟩ := ih step
    exact ⟨after, (Act.run_bind_ok first).trans later, done⟩

end Op

/-- A tracker with a number of registrars, and nothing else in it. -/
structure Tracker.Unused {κ : Type} (count : Nat) (tracker : Tracker κ) : Prop where
  inStep : tracker.InStep
  size : tracker.registrars.size = count
  live : ∀ id : RegistrarId, id.index < count → tracker.isLive id = true
  tables : ∀ id, tracker.table id = ∅
  sessions : tracker.sessions = #[]
  totals : tracker.totals = ⟨0, 0, 0⟩

namespace Tracker.Unused
variable {κ : Type} {count : Nat} {tracker : Tracker κ}

theorem empty : (∅ : Tracker κ).Unused 0 :=
  ⟨.empty, rfl, fun _ below => absurd below (Nat.not_lt_zero _), fun _ => rfl, rfl, rfl⟩

theorem createRegistrar (unused : tracker.Unused count) :
    tracker.createRegistrar.2.Unused (count + 1) where
  inStep := unused.inStep.cleared tracker.createRegistrar_cleared
  size := by simp [Tracker.createRegistrar, unused.size]
  live id below := by
    rw [isLive_createRegistrar, Bool.or_eq_true, decide_eq_true_eq]
    by_cases old : id.index < count
    · exact .inl (unused.live id old)
    · refine .inr (RegistrarId.index_inj.mp ?_)
      rw [Tracker.createRegistrar, unused.size]
      exact Nat.le_antisymm (Nat.le_of_lt_succ below) (Nat.le_of_not_lt old)
  tables id := by rw [table_createRegistrar, unused.tables]
  sessions := unused.sessions
  totals := unused.totals

theorem mirrors (unused : tracker.Unused n) : Mirrors ([] : List (Tracked n κ)) tracker where
  inStep := unused.inStep
  live registrar := unused.live _ registrar.isLt
  size := by rw [unused.sessions]; rfl
  sound _ member := by cases member
  same _ _ found := by cases found
  perceivers registrar := by rw [unused.tables]; rfl
  totals := unused.totals

end Tracker.Unused

private theorem run_createRegistrars (host : H.State) (count : Nat) :
    ∃ tracker : Tracker H.Callback, tracker.Unused count ∧
      (createRegistrars count).run (World.initial host) =
        (.ok (), { World.initial host with tracker }) := by
  induction count with
  | zero => exact ⟨∅, .empty, rfl⟩
  | succ count ih =>
    obtain ⟨tracker, unused, run⟩ := ih
    exact ⟨_, unused.createRegistrar, Act.run_bind_ok run⟩

private theorem simulates_createRegistrars (discipline : Discipline H) (n : Nat)
    (host : H.State) : ∃ world, (createRegistrars n).run (World.initial host) = (.ok (), world) ∧
      Simulates discipline ([] : List (Tracked n H.Callback)) world := by
  obtain ⟨tracker, unused, run⟩ := run_createRegistrars host n
  refine ⟨_, run, unused.mirrors, rfl, rfl, ?_, ?_⟩
  · intro _ _ found
    cases found
  · intro call member
    cases member

theorem Mirrors.observes_iff {κ : Type} {sessions : List (Tracked n κ)} {tracker : Tracker κ}
    (mirrors : Mirrors sessions tracker) (registrar : Fin n) (key : Key) :
    tracker.observes ⟨registrar⟩ key = true ↔
      ∃ tracked ∈ sessions, (registrar, key) ∈ tracked.shadow.reads ∧
        ∃ phase, tracked.shadow.pending phase = true := by
  rw [Tracker.observes, (mirrors.inStep.sound.tables _).observes_iff]
  constructor
  · rintro ⟨subscription, member, covers⟩
    obtain ⟨index, tracked, found, pending, _, keys⟩ := mirrors.of_mem member
    exact ⟨tracked, List.mem_of_getElem? found, (keys key).mp covers, _, pending⟩
  · rintro ⟨tracked, member, read, phase, pending⟩
    obtain ⟨index, found⟩ := List.getElem?_of_mem member
    have waiting : .session ⟨0 + index⟩ ⟨registrar⟩ phase ∈ waitingFrom registrar 0 sessions :=
      mem_waitingFrom_iff.mpr
        ⟨index, tracked, phase, found, Shadow.touches_iff.mpr ⟨key, read⟩, pending, rfl⟩
    rw [← mirrors.perceivers] at waiting
    obtain ⟨subscription, there, perceiver⟩ := List.mem_map.mp waiting
    obtain ⟨other, same, present, _, mine, keys⟩ := mirrors.of_mem there
    rw [perceiver, Nat.zero_add] at mine
    cases mine
    obtain rfl := Option.some.inj (found.symm.trans present)
    exact ⟨subscription, there, (keys key).mpr read⟩

theorem Simulates.agrees (simulates : Simulates discipline sessions world) :
    Agrees discipline sessions world where
  size := simulates.mirrors.size
  called index tracked found := by
    obtain ⟨hits, own⟩ := simulates.called index tracked found
    have sound := simulates.mirrors.sound tracked (List.mem_of_getElem? found)
    refine ⟨?_, hits, own⟩
    intro phase
    rw [← sound.hits phase, ← hits, List.filter_map, List.length_map]
    rfl
  owned := simulates.owned
  status index tracked found := (simulates.mirrors.same index tracked found).status
  changed index tracked found := (simulates.mirrors.same index tracked found).changed
  held index tracked found :=
    (simulates.mirrors.same index tracked found).countTokens
      (simulates.mirrors.sound tracked (List.mem_of_getElem? found))
      (simulates.mirrors.inStep.sessions _) simulates.mirrors.live
  count registrar := by
    rw [Tracker.subscriptionCount, Table.size, ← List.length_map, simulates.mirrors.perceivers,
      length_waitingFrom]
  observed := simulates.mirrors.observes_iff
  totals := simulates.mirrors.totals

/-- After every sequence of operations whose callbacks and bodies do nothing to the library, the
library agrees with the model. -/
theorem Op.performAll_agrees (call : H.Callback → ChangeEvent → Bystander discipline)
    (n : Nat) (host : H.State) (ops : List (Op discipline n)) :
    ∃ world, (do createRegistrars n; Op.performAll call ops : Act H Unit).run
        (World.initial host) = (.ok (), world) ∧
      Agrees discipline (Op.modelAll ops) world := by
  obtain ⟨start, created, simulates⟩ := simulates_createRegistrars discipline n host
  obtain ⟨world, performed, done⟩ := Op.performAll_simulates call ops simulates
  exact ⟨world, (Act.run_bind_ok created).trans performed, done.agrees⟩

end ChangeTracking
