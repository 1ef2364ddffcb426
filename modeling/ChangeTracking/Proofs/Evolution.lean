import ChangeTracking.Proofs.Client
import ChangeTracking.Proofs.SessionSteps

/-! How worlds evolve under a client. Every run of a client is a chain of single moves, of which
there are few kinds; what holds of every world of a run is shown once for each kind of move. -/
namespace ChangeTracking
variable {H : Host}

namespace World

/-- No session has taken up an event without its callback having been called yet. -/
def Settled (world : World H) : Prop :=
  ∀ id event removed finished,
    world.log.toList.getLast? ≠ some (.trace (.fired id event removed finished))

def hear (world : World H) (note : H.Note) : World H :=
  { world with log := world.log.push (.note note) }

theorem log_hear (world : World H) (note : H.Note) :
    (world.hear note).log.toList = world.log.toList ++ [.note note] := Array.toList_push ..

end World

/-- Somebody who stood among those whom an earlier notification of the key was to reach. -/
def Told (past : List (World H)) (perceiver : Perceiver H.Callback) (key : Key) : Prop :=
  ∃ world ∈ past, ∃ registrar phase, perceiver ∈ world.tracker.snapshot registrar key phase

theorem Told.mono {past later : List (World H)} {perceiver : Perceiver H.Callback} {key : Key}
    (told : Told past perceiver key) (kept : past <:+ later) : Told later perceiver key := by
  obtain ⟨world, member, registrar, phase, present⟩ := told
  exact ⟨world, kept.subset member, registrar, phase, present⟩

/-- What can happen at one stroke while no callback is due. -/
inductive Move (discipline : Discipline H) (past : List (World H)) (world : World H) :
    World H → Prop where
  | own {after : World H} (own : discipline.Own world after) : Move discipline past world after
  | thread (thread : ThreadState) : Move discipline past world { world with thread }
  | createRegistrar :
      Move discipline past world { world with tracker := world.tracker.createRegistrar.2 }
  | retain (id : RegistrarId) :
      Move discipline past world { world with tracker := world.tracker.retain id }
  | release (id : RegistrarId) :
      Move discipline past world { world with tracker := world.tracker.release id }
  | register (id : RegistrarId) (keys : KeySet) (phase : Phase) {callback : H.Callback}
      (direct : discipline.direct callback) :
      Move discipline past world
        { world with tracker := (world.tracker.register id keys phase (.direct callback)).2 }
  | cancel (id : RegistrarId) (token : Token) :
      Move discipline past world { world with tracker := (world.tracker.cancel id token).2 }
  | cancelAll (id : RegistrarId) :
      Move discipline past world { world with tracker := (world.tracker.cancelAll id).2 }
  | createSession (reads : AccessList) :
      Move discipline past world { world with tracker := (world.tracker.createSession reads).2 }
  | arm {id : SessionId} {callbacks : PerPhase H.Callback}
      (pending : (world.tracker.session id).status = .pending)
      (given : callbacks.isEmpty = false) :
      Move discipline past world (world.advance
        (some (world.tracker.armOver id callbacks (world.tracker.session id).reads.entries).1)
        (world.tracker.armOver id callbacks (world.tracker.session id).reads.entries).2)
  | cancelSession {id : SessionId} {report : TraceEvent} {tracker : Tracker H.Callback}
      (ended : world.tracker.cancelSession? id = some (report, tracker)) :
      Move discipline past world (world.advance (some report) tracker)
  | notified (registrar : RegistrarId) (key : Key) (phase : Phase) (perceivers : Nat) :
      Move discipline past world
        (world.advance (some (.notified registrar key phase perceivers)) world.tracker)
  | call {callback : H.Callback} {event : ChangeEvent}
      (told : Told past (.direct callback) event.key) :
      Move discipline past world (world.hear (discipline.note callback event))

/-- The course of a run, the most recent world first. When a session takes up an event, the
next thing is the call of the callback that it gave up for it. -/
inductive Evolution (discipline : Discipline H) : List (World H) → Prop where
  | start (host : H.State) : Evolution discipline [World.initial host]
  | move {world after : World H} {past : List (World H)}
      (before : Evolution discipline (world :: past)) (settled : world.Settled)
      (move : Move discipline (world :: past) world after) :
      Evolution discipline (after :: world :: past)
  | fire {world : World H} {past : List (World H)} {id : SessionId} {event : ChangeEvent}
      {firing : Tracker.Firing H.Callback}
      (before : Evolution discipline (world :: past)) (settled : world.Settled)
      (told : Told (world :: past) (.session id event.registrar event.phase) event.key)
      (due : world.tracker.fire? id event = some firing) :
      Evolution discipline (world.advance (some firing.report) firing.tracker :: world :: past)
  | call {world : World H} {past : List (World H)} {id : SessionId} {event : ChangeEvent}
      {firing : Tracker.Firing H.Callback}
      (before : Evolution discipline
        (world.advance (some firing.report) firing.tracker :: world :: past))
      (due : world.tracker.fire? id event = some firing) :
      Evolution discipline
        ((world.advance (some firing.report) firing.tracker).hear
            (discipline.note firing.callback event) ::
          world.advance (some firing.report) firing.tracker :: world :: past)

variable {discipline : Discipline H}

private theorem Discipline.IsOwn.not_fired {entry : LogEntry H} (own : discipline.IsOwn entry)
    (id : SessionId) (event : ChangeEvent) (removed : Nat) (finished : Bool) :
    entry ≠ .trace (.fired id event removed finished) := by
  rintro rfl
  exact own

theorem World.Settled.of_log_eq {world after : World H} (settled : world.Settled)
    (same : after.log = world.log) : after.Settled := by
  intro id event removed finished
  rw [same]
  exact settled id event removed finished

theorem World.settled_of_log_append {world after : World H} {entries : List (LogEntry H)}
    {last : LogEntry H} (log : after.log.toList = world.log.toList ++ (entries ++ [last]))
    (other : ∀ id event removed finished, last ≠ .trace (.fired id event removed finished)) :
    after.Settled := by
  intro id event removed finished
  rw [log, ← List.append_assoc, List.getLast?_concat]
  simpa using other id event removed finished

theorem World.settled_hear (world : World H) (note : H.Note) : (world.hear note).Settled := by
  have log : (world.hear note).log.toList = world.log.toList ++ ([] ++ [.note note]) :=
    world.log_hear note
  exact World.settled_of_log_append log (by simp)

private theorem settled_advance (world : World H) {report : TraceEvent}
    (tracker : Tracker H.Callback)
    (other : ∀ id event removed finished, report ≠ .fired id event removed finished) :
    (world.advance (some report) tracker).Settled := by
  have log : (world.advance (some report) tracker).log.toList =
      world.log.toList ++ ([] ++ [.trace report]) := World.advance_log ..
  exact World.settled_of_log_append log (by simpa using other)

theorem Move.settled {past : List (World H)} {world after : World H}
    (move : Move discipline past world after) (settled : world.Settled) : after.Settled := by
  cases move with
  | own own =>
    obtain ⟨_, _, entries, allOwn, log⟩ := own
    rcases List.eq_nil_or_concat entries with rfl | ⟨front, last, rfl⟩
    · intro id event removed finished
      rw [log, List.append_nil]
      exact settled id event removed finished
    · rw [List.concat_eq_append] at log allOwn
      exact World.settled_of_log_append log (allOwn last (by simp)).not_fired
  | arm => exact settled_advance _ _ (by simp [Tracker.armOver])
  | cancelSession ended =>
    obtain ⟨removed, rfl⟩ := (Tracker.of_cancelSession? ended).report
    exact settled_advance _ _ (by simp)
  | notified => exact settled_advance _ _ (by simp)
  | call => exact World.settled_hear _ _
  | _ => exact settled.of_log_eq rfl

theorem run_arm (id : SessionId) (callbacks : PerPhase H.Callback) (world : World H) :
    ((arm id callbacks).run world).2 = world ∨
      (world.tracker.session id).status = .pending ∧
        ((arm id callbacks).run world).2 = world.advance
          (some (world.tracker.armOver id callbacks (world.tracker.session id).reads.entries).1)
          (world.tracker.armOver id callbacks (world.tracker.session id).reads.entries).2 := by
  rw [arm, Act.run_conduct]
  simp only [Tracker.arm]
  cases (world.tracker.session id).status with
  | pending => exact .inr ⟨rfl, rfl⟩
  | _ => exact .inl world.advance_none

theorem run_cancelSession (id : SessionId) (world : World H) :
    ((cancelSession id).run world).2 = world ∨
      ∃ report tracker, world.tracker.cancelSession? id = some (report, tracker) ∧
        ((cancelSession id).run world).2 = world.advance (some report) tracker := by
  rw [cancelSession, Act.run_conduct]
  rcases world.tracker.cancelSession? id with _ | ⟨report, tracker⟩
  · exact .inl world.advance_none
  · exact .inr ⟨report, tracker, rfl, rfl⟩

theorem Move.stay {past : List (World H)} {world after : World H} (same : after = world) :
    Move discipline past world after :=
  .own (by subst same; exact ⟨rfl, rfl, [], by simp, by simp⟩)

theorem Move.of_notified (past : List (World H)) (world : World H) (id : RegistrarId) (key : Key)
    (phase : Phase) : Move discipline past world (world.notified id key phase) := by
  unfold World.notified
  by_cases empty : (world.tracker.snapshot id key phase).isEmpty = true
  · simpa [empty] using Move.stay (World.advance_none world)
  · simpa [empty] using Move.notified id key phase _

/-- A computation put together from single moves and notifications. -/
inductive Composed (discipline : Discipline H) : {α : Type} → Act H α → Prop where
  | done {α : Type} (value : α) : Composed discipline (.done value)
  | unwind {α : Type} (panic : Panic) : Composed discipline (.unwind panic : Act H α)
  | step {α : Type} {change : World H → α × World H}
      (moves : ∀ world past, Move discipline (world :: past) world (change world).2) :
      Composed discipline (.step change .done)
  | bind {α β : Type} {act : Act H α} {rest : α → Act H β} (first : Composed discipline act)
      (second : ∀ value, Composed discipline (rest value)) : Composed discipline (act >>= rest)
  | attempt {α : Type} {act : Act H α} (body : Composed discipline act) :
      Composed discipline act.attempt
  | notify {call : Call H} (answers : ∀ callback event, Composed discipline (call callback event))
      (id : RegistrarId) (key : Key) (phase : Phase) :
      Composed discipline (notify (discipline.announced call) id key phase)

namespace Composed
variable {α β : Type}

theorem resume (result : Except Panic α) : Composed discipline (Act.resume result : Act H α) := by
  cases result with
  | ok value => exact done value
  | error panic => exact unwind panic

theorem onThreadState (change : ThreadState → α × ThreadState) :
    Composed discipline (Act.onThreadState change : Act H α) :=
  step fun _ _ => .thread _

theorem ensuring {act : Act H α} {last : Act H Unit} (body : Composed discipline act)
    (after : Composed discipline last) : Composed discipline (act.ensuring last) :=
  body.attempt.bind fun result => after.bind fun _ => resume result

theorem whileUnwinding {act : Act H α} (body : Composed discipline act) :
    Composed discipline act.whileUnwinding :=
  (onThreadState _).bind fun _ => body.ensuring (onThreadState _)

theorem onThread {act : Act H α} (body : Composed discipline act) :
    Composed discipline act.onThread :=
  (onThreadState _).bind fun _ => body.attempt.bind fun _ => (onThreadState _).bind fun _ => done _

theorem record {act : Act H α} (body : Composed discipline act) :
    Composed discipline (record act) :=
  (onThreadState _).bind fun _ => body.attempt.bind fun result =>
    (onThreadState _).bind fun _ => (resume result).bind fun _ => done _

theorem arm (id : SessionId) {callbacks : PerPhase H.Callback}
    (given : callbacks.isEmpty = false) : Composed discipline (arm id callbacks : Act H _) := by
  have moves (world : World H) (past : List (World H)) :
      Move discipline (world :: past) world ((ChangeTracking.arm id callbacks).run world).2 := by
    rcases run_arm id callbacks world with same | ⟨pending, armed⟩
    · exact .stay same
    · exact armed ▸ .arm pending given
  exact step moves

theorem install (id : SessionId) (callbacks : PerPhase H.Callback) :
    Composed discipline (install id callbacks : Act H _) := by
  unfold ChangeTracking.install
  split
  · exact done _
  · rename_i given
    exact arm id (by simpa using given)

theorem cancelSession (id : SessionId) :
    Composed discipline (cancelSession id : Act H _) := by
  have moves (world : World H) (past : List (World H)) :
      Move discipline (world :: past) world ((ChangeTracking.cancelSession id).run world).2 := by
    rcases run_cancelSession id world with same | ⟨report, tracker, ended, left⟩
    · exact .stay same
    · exact left ▸ .cancelSession ended
  exact step moves

theorem trackSession {act : Act H α} (body : Composed discipline act)
    (callbacks : PerPhase H.Callback) : Composed discipline (trackSession act callbacks) := by
  unfold ChangeTracking.trackSession
  split
  · exact done _
  · rename_i given
    refine bind (bind body.record fun _ => bind ?_ fun id => ?_) fun _ => done _
    · exact step fun _ _ => .createSession _
    · exact (arm id (by simpa using given)).bind fun _ => done _

theorem withMutation {call : Call H} {act : Act H α}
    (answers : ∀ callback event, Composed discipline (call callback event))
    (body : Composed discipline act) (id : RegistrarId) (key : Key) :
    Composed discipline (withMutation (discipline.announced call) id key act) := by
  refine (notify answers id key .willChange).bind fun _ => body.attempt.bind fun result => ?_
  cases result with
  | ok value => exact (notify answers id key .didChange).bind fun _ => done _
  | error panic =>
    exact (notify answers id key .didChange).whileUnwinding.bind fun _ => resume _

end Composed

theorem Client.composed {α : Type} {act : Act H α} (client : Client discipline act) :
    Composed discipline act := by
  induction client with
  | done value => exact .done value
  | panic panic => exact .unwind panic
  | bind _ _ first second => exact first.bind second
  | attempt _ body => exact body.attempt
  | onThread _ body => exact body.onThread
  | whileUnwinding _ body => exact body.whileUnwinding
  | own change own => exact .step fun world _ => .own (own world)
  | createRegistrar => exact .step fun _ _ => .createRegistrar
  | retain id => exact .step fun _ _ => .retain id
  | release id => exact .step fun _ _ => .release id
  | register id keys phase direct => exact .step fun _ _ => .register id keys phase direct
  | cancel id token => exact .step fun _ _ => .cancel id token
  | cancelAll id => exact .step fun _ _ => .cancelAll id
  | access id key => exact .onThreadState _
  | record _ body => exact body.record
  | createSession reads => exact .step fun _ _ => .createSession reads
  | install id callbacks => exact .install id callbacks
  | cancelSession id => exact .cancelSession id
  | trackSession _ callbacks body => exact body.trackSession callbacks
  | notify _ id key phase answers => exact .notify answers id key phase
  | withMutation _ _ id key answers body => exact .withMutation answers body id key

namespace Act
variable {good : List (World H) → Prop} {α β : Type}

/-- From a world on, a computation carries on what holds of the worlds so far, and it ends with no
callback due. -/
def Carries (good : List (World H) → Prop) (act : Act H α) (world : World H)
    (past : List (World H)) : Prop :=
  good ((act.run world).2 :: act.history world past) ∧ (act.run world).2.Settled

/-- From every world in which it has its turn, a computation carries on what holds of the worlds so
far. -/
def Keeps (good : List (World H) → Prop) (act : Act H α) : Prop :=
  ∀ world past, good (world :: past) → world.Settled → act.Carries good world past

theorem Carries.bind {act : Act H α} {rest : α → Act H β} {world : World H}
    {past : List (World H)} (first : act.Carries good world past)
    (second : ∀ value after, act.run world = (.ok value, after) →
      good (after :: act.history world past) → after.Settled →
        (rest value).Carries good after (act.history world past)) :
    (act >>= rest).Carries good world past := by
  unfold Carries at *
  rw [run_bind, history_bind]
  rcases ending : act.run world with ⟨result, after⟩
  rw [ending] at first
  cases result with
  | ok value => exact second value after ending first.1 first.2
  | error panic => exact first

namespace Keeps

theorem done (value : α) : (.done value : Act H α).Keeps good :=
  fun _ _ before settled => ⟨before, settled⟩

theorem unwind (panic : Panic) : (.unwind panic : Act H α).Keeps good :=
  fun _ _ before settled => ⟨before, settled⟩

theorem bind {act : Act H α} {rest : α → Act H β} (first : act.Keeps good)
    (second : ∀ value, (rest value).Keeps good) : (act >>= rest).Keeps good := by
  intro world past before settled
  exact (first world past before settled).bind fun value after _ => second value after _

theorem attempt {act : Act H α} (body : act.Keeps good) : act.attempt.Keeps good := body

theorem resume (result : Except Panic α) : (Act.resume result : Act H α).Keeps good := by
  cases result with
  | ok value => exact done value
  | error panic => exact unwind panic

theorem announced {call : Call H} (answers : ∀ callback event, (call callback event).Keeps good)
    {world : World H} {past : List (World H)} {callback : H.Callback} {event : ChangeEvent}
    (called : good (world.hear (discipline.note callback event) :: world :: past)) :
    (discipline.announced call callback event).Carries good world past :=
  answers callback event _ _ called (World.settled_hear _ _)

end Keeps

/-- Whatever a computation does, it is cleared up after it. -/
theorem Carries.ensuring {act : Act H α} {last : Act H Unit} {world : World H}
    {past : List (World H)} (body : act.Carries good world past) (after : last.Keeps good) :
    (act.ensuring last).Carries good world past := by
  have attempted : act.attempt.Carries good world past := body
  exact attempted.bind fun result ended _ => (after.bind fun _ => Keeps.resume result) ended _

/-- Deliveries carry on what each of them does, if those who are to be told remain so meanwhile. -/
theorem Carries.deliverAll (told : List (World H) → Perceiver H.Callback → Prop) {call : Call H} {event : ChangeEvent}
    (mono : ∀ {past later perceiver}, told past perceiver → past <:+ later → told later perceiver)
    (each : ∀ world past perceiver, good (world :: past) → world.Settled →
      told (world :: past) perceiver → (deliver call event perceiver).Carries good world past)
    {perceivers : List (Perceiver H.Callback)} {world : World H} {past : List (World H)}
    (before : good (world :: past)) (settled : world.Settled)
    (all : ∀ perceiver ∈ perceivers, told (world :: past) perceiver) :
    (deliverAll call event perceivers).Carries good world past := by
  induction perceivers generalizing world past with
  | nil => exact ⟨before, settled⟩
  | cons perceiver rest ih =>
    have first := each world past perceiver before settled (all perceiver (by simp))
    have kept := Act.suffix_history (deliver call event perceiver) world past
    refine first.bind fun _ after ending good settled => ?_
    rw [ending] at kept
    exact ih good settled fun other member => mono (all other (by simp [member])) kept

end Act

/-- From a world in which it has its turn, a computation carries the evolution on. -/
def Evolves (discipline : Discipline H) {α : Type} (act : Act H α) : Prop :=
  act.Keeps (Evolution discipline)

namespace Evolves
variable {α β : Type}

theorem step {change : World H → α × World H}
    (moves : ∀ world past, Move discipline (world :: past) world (change world).2) :
    Evolves discipline (.step change .done) :=
  fun world past before settled =>
    ⟨.move before settled (moves world past), (moves world past).settled settled⟩

theorem fire {call : Call H} (answers : ∀ callback event, Evolves discipline (call callback event))
    {world : World H} {past : List (World H)} (before : Evolution discipline (world :: past))
    (settled : world.Settled) {id : SessionId} {event : ChangeEvent}
    (told : Told (world :: past) (.session id event.registrar event.phase) event.key) :
    (fire (discipline.announced call) id event).Carries (Evolution discipline) world past := by
  rcases due : world.tracker.fire? id event with _ | firing
  · rw [Act.Carries, run_fire_none due, history_fire_none due]
    exact ⟨.move before settled (.stay rfl), settled⟩
  · rw [Act.Carries, run_fire_some due, history_fire_some due]
    exact Act.Keeps.announced answers (.call (.fire before settled told due) due)

theorem deliver {call : Call H} (answers : ∀ callback event, Evolves discipline (call callback event))
    {world : World H} {past : List (World H)} (before : Evolution discipline (world :: past))
    (settled : world.Settled) {event : ChangeEvent} {perceiver : Perceiver H.Callback}
    (told : Told (world :: past) perceiver event.key) :
    (deliver (discipline.announced call) event perceiver).Carries (Evolution discipline) world
      past := by
  cases perceiver with
  | direct callback => exact Act.Keeps.announced answers (.move before settled (.call told))
  | session id registrar phase => exact fire answers before settled told

theorem deliverAll {call : Call H}
    (answers : ∀ callback event, Evolves discipline (call callback event))
    {event : ChangeEvent} {perceivers : List (Perceiver H.Callback)} {world : World H}
    {past : List (World H)} (before : Evolution discipline (world :: past))
    (settled : world.Settled)
    (told : ∀ perceiver ∈ perceivers, Told (world :: past) perceiver event.key) :
    (deliverAll (discipline.announced call) event perceivers).Carries (Evolution discipline) world
      past :=
  Act.Carries.deliverAll (fun past perceiver => Told past perceiver event.key) Told.mono
    (fun _ _ _ before settled told => deliver answers before settled told) before settled told

theorem notified {world : World H} {past : List (World H)}
    (before : Evolution discipline (world :: past)) (settled : world.Settled)
    (id : RegistrarId) (key : Key) (phase : Phase) :
    Evolution discipline (world.notified id key phase :: world :: past) ∧
      (world.notified id key phase).Settled := by
  have moves : Move discipline (world :: past) world (world.notified id key phase) :=
    .of_notified ..
  exact ⟨.move before settled moves, moves.settled settled⟩

theorem notify {call : Call H} (answers : ∀ callback event, Evolves discipline (call callback event))
    (id : RegistrarId) (key : Key) (phase : Phase) :
    Evolves discipline (notify (discipline.announced call) id key phase) := by
  intro world past before settled
  have start := notified before settled id key phase
  rw [Act.Carries, run_notify, history_notify]
  exact deliverAll answers start.1 start.2 fun perceiver member =>
    ⟨world, by simp, id, phase, member⟩

end Evolves

theorem Composed.evolves {α : Type} {act : Act H α} (composed : Composed discipline act) :
    Evolves discipline act := by
  induction composed with
  | done value => exact Act.Keeps.done value
  | unwind panic => exact Act.Keeps.unwind panic
  | step moves => exact .step moves
  | bind _ _ first second => exact Act.Keeps.bind first second
  | attempt _ body => exact Act.Keeps.attempt body
  | notify _ id key phase answers => exact .notify answers id key phase

/-- Every run of a client is an evolution, and ends with no callback due. -/
theorem Client.evolves {α : Type} {act : Act H α} (client : Client discipline act) :
    Evolves discipline act := client.composed.evolves

/-- All worlds that a client passes through from the beginning form an evolution. -/
theorem Client.trail_evolution {α : Type} {act : Act H α} (client : Client discipline act)
    (host : H.State) : Evolution discipline (act.trail (World.initial host)) :=
  (client.evolves _ _ (.start host) (fun _ _ _ _ => by simp [World.initial])).1

end ChangeTracking
