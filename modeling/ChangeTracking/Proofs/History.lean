import ChangeTracking.Tracking
import ChangeTracking.Notification

/-! What a computation passes through. Every world that a step leaves is kept in the history,
the most recent first, so that a statement about a run can speak of all its moments, also of
those inside callbacks and of those that a panic cut short. -/
namespace ChangeTracking

/-- The world in which a panic unwinds. -/
def World.unwindingNow {H : Host} (world : World H) : World H :=
  { world with thread := { world.thread with unwinding := true } }

namespace Act
variable {H : Host} {α β : Type}

/-- The worlds before the last one of a computation, the most recent first, on top of the
worlds before its own start. -/
def history : {α : Type} → Act H α → World H → List (World H) → List (World H)
  | _, .done _, _, past => past
  | _, .unwind _, _, past => past
  | _, .step change next, world, past =>
    (next (change world).1).history (change world).2 (world :: past)
  | _, .guarded body next, world, past =>
    (next (body.run world).1).history (body.run world).2 (body.history world past)

/-- All worlds that a computation passes through, from its last one back to its first one. -/
def trail (act : Act H α) (world : World H) : List (World H) :=
  (act.run world).2 :: act.history world []

theorem bind_eq (act : Act H α) (rest : α → Act H β) : act >>= rest = act.bind rest := rfl

theorem run_bind (act : Act H α) (rest : α → Act H β) (world : World H) :
    (act >>= rest).run world =
      match act.run world with
      | (.ok value, after) => (rest value).run after
      | (.error panic, after) => (.error panic, after) := by
  simp only [bind_eq]
  induction act generalizing world with
  | done value => rfl
  | unwind panic => rfl
  | step change next ih => exact ih _ rest _
  | guarded body next _ ih => exact ih _ rest _

protected theorem bind_assoc {γ : Type} (act : Act H α) (second : α → Act H β)
    (third : β → Act H γ) :
    act >>= second >>= third = act >>= fun value => second value >>= third := by
  simp only [bind_eq]
  induction act with
  | done value => rfl
  | unwind panic => rfl
  | step change next ih => exact congrArg (Act.step change) (funext fun value => ih value second)
  | guarded body next _ ih =>
    exact congrArg (Act.guarded body) (funext fun result => ih result second)

theorem history_bind (act : Act H α) (rest : α → Act H β) (world : World H)
    (past : List (World H)) :
    (act >>= rest).history world past =
      match act.run world with
      | (.ok value, after) => (rest value).history after (act.history world past)
      | (.error _, _) => act.history world past := by
  simp only [bind_eq]
  induction act generalizing world past with
  | done value => rfl
  | unwind panic => rfl
  | step change next ih => exact ih _ rest _ _
  | guarded body next _ ih => exact ih _ rest _ _

theorem run_bind_ok {act : Act H α} {rest : α → Act H β} {world after : World H} {value : α}
    (first : act.run world = (.ok value, after)) :
    (act >>= rest).run world = (rest value).run after := by
  rw [run_bind, first]

theorem history_bind_ok {act : Act H α} {rest : α → Act H β} {world after : World H} {value : α}
    (first : act.run world = (.ok value, after)) (past : List (World H)) :
    (act >>= rest).history world past = (rest value).history after (act.history world past) := by
  rw [history_bind, first]

@[simp] theorem run_pure (value : α) (world : World H) :
    (pure value : Act H α).run world = (.ok value, world) := rfl

@[simp] theorem history_pure (value : α) (world : World H) (past : List (World H)) :
    (pure value : Act H α).history world past = past := rfl

@[simp] theorem run_step (change : World H → α × World H) (world : World H) :
    (step change .done).run world = (.ok (change world).1, (change world).2) := rfl

@[simp] theorem history_step (change : World H → α × World H) (world : World H)
    (past : List (World H)) : (step change .done).history world past = world :: past := rfl

@[simp] theorem run_attempt (act : Act H α) (world : World H) :
    act.attempt.run world = (.ok (act.run world).1, (act.run world).2) := rfl

@[simp] theorem history_attempt (act : Act H α) (world : World H) (past : List (World H)) :
    act.attempt.history world past = act.history world past := rfl

@[simp] theorem run_resume (result : Except Panic α) (world : World H) :
    (resume result).run world = (result, world) := by
  cases result <;> rfl

@[simp] theorem history_resume (result : Except Panic α) (world : World H)
    (past : List (World H)) : (resume result).history world past = past := by
  cases result <;> rfl

theorem run_track (step : Tracker H.Callback → α × Tracker H.Callback) (world : World H) :
    (track step).run world =
      (.ok (step world.tracker).1, { world with tracker := (step world.tracker).2 }) := rfl

theorem run_onThreadState (step : ThreadState → α × ThreadState) (world : World H) :
    (onThreadState step).run world =
      (.ok (step world.thread).1, { world with thread := (step world.thread).2 }) := rfl

theorem run_conduct (step : Tracker H.Callback → α × Option TraceEvent × Tracker H.Callback)
    (world : World H) :
    (conduct step).run world =
      (.ok (step world.tracker).1,
        world.advance (step world.tracker).2.1 (step world.tracker).2.2) := rfl

theorem history_conduct (step : Tracker H.Callback → α × Option TraceEvent × Tracker H.Callback)
    (world : World H) (past : List (World H)) :
    (conduct step).history world past = world :: past := rfl

theorem run_onThread (act : Act H α) (world : World H) :
    act.onThread.run world =
      (.ok (act.run { world with thread := .fresh }).1,
        { (act.run { world with thread := .fresh }).2 with thread := world.thread }) := rfl

theorem history_onThread (act : Act H α) (world : World H) (past : List (World H)) :
    act.onThread.history world past =
      (act.run { world with thread := .fresh }).2 ::
        act.history { world with thread := .fresh } (world :: past) := rfl

theorem run_whileUnwinding (act : Act H α) (world : World H) :
    act.whileUnwinding.run world =
      ((act.run world.unwindingNow).1,
        { (act.run world.unwindingNow).2 with thread :=
          { (act.run world.unwindingNow).2.thread with unwinding := world.thread.unwinding } }) := by
  simp only [whileUnwinding, ensuring, run_bind, run_onThreadState, run_attempt, run_resume]
  rfl

theorem suffix_history (act : Act H α) (world : World H) (past : List (World H)) :
    world :: past <:+ (act.run world).2 :: act.history world past := by
  induction act generalizing world past with
  | done value => exact List.suffix_refl _
  | unwind panic => exact List.suffix_refl _
  | step change next ih => exact (List.suffix_cons _ _).trans (ih _ _ _)
  | guarded body next first second => exact (first world past).trans (second _ _ _)

theorem history_append (act : Act H α) (world : World H) (recent past : List (World H)) :
    act.history world (recent ++ past) = act.history world recent ++ past := by
  induction act generalizing world recent with
  | done value => rfl
  | unwind panic => rfl
  | step change next ih => exact ih _ _ (world :: recent)
  | guarded body next first second =>
    rw [history, first]
    exact second _ _ _

theorem history_eq_append (act : Act H α) (world : World H) (past : List (World H)) :
    act.history world past = act.history world [] ++ past := act.history_append world [] past

theorem trail_append (act : Act H α) (world : World H) (past : List (World H)) :
    act.trail world ++ past = (act.run world).2 :: act.history world past := by
  rw [trail, List.cons_append, ← history_append]
  rfl

/-- What later worlds have in common with earlier ones, all worlds of a computation have in common
with its first one. -/
theorem related_of_mem_trail (related : World H → World H → Prop)
    (refl : ∀ world, related world world) {act : Act H α} {world moment : World H}
    {past : List (World H)}
    (order : ((act.run world).2 :: act.history world past).Pairwise related)
    (passed : moment ∈ act.trail world) : related moment world := by
  obtain ⟨recent, trail⟩ := act.suffix_history world []
  have trail : act.trail world = recent ++ [world] := trail.symm
  rw [← trail_append, trail, List.append_assoc] at order
  rw [trail] at passed
  rcases List.mem_append.mp passed with later | start
  · exact (List.pairwise_append.mp order).2.2 moment later world (by simp)
  · rw [List.mem_singleton.mp start]
    exact refl world

end Act

namespace World
variable {H : Host}

@[simp] theorem advance_tracker (world : World H) (report : Option TraceEvent)
    (tracker : Tracker H.Callback) : (world.advance report tracker).tracker = tracker := rfl

@[simp] theorem advance_thread (world : World H) (report : Option TraceEvent)
    (tracker : Tracker H.Callback) : (world.advance report tracker).thread = world.thread := rfl

theorem advance_log (world : World H) (report : Option TraceEvent)
    (tracker : Tracker H.Callback) :
    (world.advance report tracker).log.toList = world.log.toList ++ LogEntry.ofReport report := by
  simp [advance]

theorem advance_none (world : World H) : world.advance none world.tracker = world := by
  simp [advance, LogEntry.ofReport]

theorem related_of_mem (related : World H → World H → Prop) (refl : ∀ world, related world world)
    {world earlier : World H} {past : List (World H)} (order : (world :: past).Pairwise related)
    (member : earlier ∈ world :: past) : related world earlier := by
  rcases List.mem_cons.mp member with rfl | member
  · exact refl earlier
  · exact (List.pairwise_cons.mp order).1 earlier member

/-- What comes about at one moment and stays so, comes about at no other moment. -/
theorem moment_unique {holds : World H → Prop} {worlds : List (World H)}
    (stays : worlds.Pairwise fun later earlier => holds earlier → holds later)
    {after before after' before' : World H} {past past' : List (World H)}
    (one : after :: before :: past <:+ worlds) (other : after' :: before' :: past' <:+ worlds)
    (comes : holds after) (fresh : ¬ holds before) (comes' : holds after') (fresh' : ¬ holds before') :
    after :: before :: past = after' :: before' :: past' := by
  have clash {first second latest : World H} {rest old : List (World H)}
      (inside : first :: rest <:+ second :: old) (suffix : latest :: second :: old <:+ worlds)
      (comes : holds first) (fresh : ¬ holds second) : False := by
    have order := (List.pairwise_cons.mp (stays.sublist suffix.sublist)).2
    exact fresh (related_of_mem (fun later earlier => holds earlier → holds later)
      (fun _ still => still) order (inside.subset List.mem_cons_self) comes)
  rcases List.suffix_or_suffix_of_suffix one other with inside | inside
  · rcases List.suffix_cons_iff.mp inside with same | inside
    · exact same
    · exact (clash inside other comes fresh').elim
  · rcases List.suffix_cons_iff.mp inside with same | inside
    · exact same.symm
    · exact (clash inside one comes' fresh).elim

end World

variable {H : Host} {call : Call H} {world : World H} {id : SessionId} {event : ChangeEvent}

theorem run_fire_none (idle : world.tracker.fire? id event = none) :
    (fire call id event).run world = (.ok (), world) := by
  rw [fire, Act.run_bind_ok (Act.run_conduct _ _)]
  simp [idle, World.advance_none]

theorem history_fire_none (idle : world.tracker.fire? id event = none) (past : List (World H)) :
    (fire call id event).history world past = world :: past := by
  rw [fire, Act.history_bind_ok (Act.run_conduct _ _), Act.history_conduct]
  simp [idle]

theorem run_fire_some {firing : Tracker.Firing H.Callback}
    (due : world.tracker.fire? id event = some firing) :
    (fire call id event).run world =
      (call firing.callback event).run (world.advance (some firing.report) firing.tracker) := by
  rw [fire, Act.run_bind_ok (Act.run_conduct _ _)]
  simp [due]

theorem history_fire_some {firing : Tracker.Firing H.Callback}
    (due : world.tracker.fire? id event = some firing) (past : List (World H)) :
    (fire call id event).history world past =
      (call firing.callback event).history (world.advance (some firing.report) firing.tracker)
        (world :: past) := by
  rw [fire, Act.history_bind_ok (Act.run_conduct _ _), Act.history_conduct]
  simp [due]

/-- The world in which a notification has found those whom it is to reach. -/
def World.notified (world : World H) (registrar : RegistrarId) (key : Key) (phase : Phase) :
    World H :=
  let perceivers := world.tracker.snapshot registrar key phase
  let report := TraceEvent.notified registrar key phase perceivers.length
  world.advance (if perceivers.isEmpty then none else some report) world.tracker

theorem run_notify (registrar : RegistrarId) (key : Key) (phase : Phase) :
    (notify call registrar key phase).run world =
      (deliverAll call ⟨registrar, key, phase⟩ (world.tracker.snapshot registrar key phase)).run
        (world.notified registrar key phase) := by
  rw [notify, Act.run_bind_ok (Act.run_conduct _ _)]
  rfl

theorem run_notify_of_nobody {registrar : RegistrarId} {key : Key} {phase : Phase}
    (nobody : world.tracker.snapshot registrar key phase = []) :
    (notify call registrar key phase).run world = (.ok (), world) := by
  have same : world.notified registrar key phase = world := by
    rw [World.notified, nobody]
    exact world.advance_none
  rw [run_notify, nobody, same]
  rfl

/-- The world in which the second notification of a mutation starts, after a body that ended so. -/
def World.closing {α : Type} (ended : World H) : Except Panic α → World H
  | .ok _ => ended
  | .error _ => ended.unwindingNow

/-- A mutation whose first notification returns ends with the second one, whatever its body does. -/
theorem run_withMutation {α : Type} {body : Act H α} {registrar : RegistrarId} {key : Key}
    {begun ended : World H} {result : Except Panic α}
    (first : (notify call registrar key .willChange).run world = (.ok (), begun))
    (inside : body.run begun = (result, ended)) :
    ∃ thread, (withMutation call registrar key body).run world =
      (((notify call registrar key .didChange).run (ended.closing result)).1.bind fun _ => result,
        { ((notify call registrar key .didChange).run (ended.closing result)).2 with thread }) := by
  have attempted : body.attempt.run begun = (.ok result, ended) := by
    rw [Act.run_attempt, inside]
  rw [withMutation, Act.run_bind_ok first, Act.run_bind_ok attempted]
  cases result with
  | ok value =>
    refine ⟨((notify call registrar key .didChange).run ended).2.thread, ?_⟩
    rw [Act.run_bind]
    rcases last : (notify call registrar key .didChange).run ended with ⟨_ | _, after⟩ <;>
      simp only [World.closing, last] <;> rfl
  | error panic =>
    refine ⟨{ ((notify call registrar key .didChange).run ended.unwindingNow).2.thread with
      unwinding := ended.thread.unwinding }, ?_⟩
    rw [Act.run_bind, Act.run_whileUnwinding]
    rcases last : (notify call registrar key .didChange).run ended.unwindingNow
      with ⟨_ | _, after⟩ <;> simp only [World.closing, last] <;> rfl

theorem history_notify (registrar : RegistrarId) (key : Key) (phase : Phase)
    (past : List (World H)) :
    (notify call registrar key phase).history world past =
      (deliverAll call ⟨registrar, key, phase⟩
        (world.tracker.snapshot registrar key phase)).history
          (world.notified registrar key phase) (world :: past) := by
  rw [notify, Act.history_bind_ok (Act.run_conduct _ _), Act.history_conduct]
  rfl

end ChangeTracking
