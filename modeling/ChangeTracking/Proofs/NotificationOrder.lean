import ChangeTracking.Proofs.Delivery
import ChangeTracking.Proofs.TableHistory

/-! Whom a notification tells, and in which order. Those who were subscribed when it started have
their turns, one after the other, whatever becomes of the subscriptions meanwhile; only a panic
keeps the rest from theirs. -/
namespace ChangeTracking
variable {H : Host} {discipline : Discipline H}

/-- What is heard at once when a perceiver is told of an event: its callback, or that of a session
which waits for the event behind the report that the session takes it up. -/
def Discipline.opening (discipline : Discipline H) (world : World H) (event : ChangeEvent) :
    Perceiver H.Callback → List (LogEntry H)
  | .direct callback => [.note (discipline.note callback event)]
  | .session id registrar phase =>
    match world.tracker.fire? id ⟨registrar, event.key, phase⟩ with
    | none => []
    | some firing => [.trace firing.report,
        .note (discipline.note firing.callback ⟨registrar, event.key, phase⟩)]

section Turns
variable (discipline) (call : Call H) (event : ChangeEvent)

/-- A perceiver has its turn, from one world to another. -/
structure HasTurn (world : World H) (perceiver : Perceiver H.Callback) (result : Except Panic Unit)
    (after : World H) : Prop where
  run : (deliver (discipline.announced call) event perceiver).run world = (result, after)
  heard : world.log.toList ++ discipline.opening world event perceiver <+: after.log.toList
  passed : discipline.opening world event perceiver = [] → result = .ok () ∧ after = world

/-- Perceivers have their turns one after the other, each in the world that the one before left.
The last of them may have panicked. -/
inductive HaveTurns : World H → List (Perceiver H.Callback) → Except Panic Unit → World H → Prop
  where
  | nobody (world : World H) : HaveTurns world [] (.ok ()) world
  | next {world middle after : World H} {perceiver : Perceiver H.Callback}
      {others : List (Perceiver H.Callback)} {result : Except Panic Unit}
      (first : HasTurn discipline call event world perceiver (.ok ()) middle)
      (rest : HaveTurns middle others result after) :
      HaveTurns world (perceiver :: others) result after
  | panicked {world after : World H} {perceiver : Perceiver H.Callback} {panic : Panic}
      (last : HasTurn discipline call event world perceiver (.error panic) after) :
      HaveTurns world [perceiver] (.error panic) after

end Turns

section Client
variable {call : Call H} (answers : ∀ callback event, Evolves discipline (call callback event))
  {world : World H} {past : List (World H)} {event : ChangeEvent}
include answers

private theorem log_announced {callback : H.Callback}
    (called : Evolution discipline (world.hear (discipline.note callback event) :: world :: past)) :
    world.log.toList ++ [.note (discipline.note callback event)] <+:
      ((discipline.announced call callback event).run world).2.log.toList := by
  have run : Later (world.hear (discipline.note callback event))
      ((discipline.announced call callback event).run world).2 :=
    (answers callback event _ _ called (World.settled_hear _ _)).1.later_run
  exact world.log_hear _ ▸ run.log

private theorem hasTurn (before : Evolution discipline (world :: past)) (settled : world.Settled)
    {perceiver : Perceiver H.Callback} (told : Told (world :: past) perceiver event.key) :
    HasTurn discipline call event world perceiver
      ((deliver (discipline.announced call) event perceiver).run world).1
      ((deliver (discipline.announced call) event perceiver).run world).2 := by
  cases perceiver with
  | direct callback =>
    exact ⟨rfl, log_announced answers (.move before settled (.call told)),
      fun silent => by cases silent⟩
  | session id registrar phase =>
    rcases due : world.tracker.fire? id ⟨registrar, event.key, phase⟩ with _ | firing
    · refine ⟨rfl, ?_, fun _ => ?_⟩
      · simp only [deliver, run_fire_none due, Discipline.opening, due, List.append_nil]
        exact List.prefix_refl _
      · rw [deliver, run_fire_none due]
        exact ⟨rfl, rfl⟩
    · refine ⟨rfl, ?_, fun silent => by simp [Discipline.opening, due] at silent⟩
      have heard := log_announced answers (.call (.fire before settled told due) due)
      rw [World.advance_log] at heard
      simp only [deliver, run_fire_some due, Discipline.opening, due]
      simpa [LogEntry.ofReport] using heard

private theorem haveTurns (event : ChangeEvent) (perceivers : List (Perceiver H.Callback))
    (before : Evolution discipline (world :: past)) (settled : world.Settled)
    (told : ∀ perceiver ∈ perceivers, Told (world :: past) perceiver event.key) :
    ∃ count, HaveTurns discipline call event world (perceivers.take count)
        ((deliverAll (discipline.announced call) event perceivers).run world).1
        ((deliverAll (discipline.announced call) event perceivers).run world).2 ∧
      (((deliverAll (discipline.announced call) event perceivers).run world).1 = .ok () →
        count = perceivers.length) := by
  induction perceivers generalizing world past with
  | nil => exact ⟨0, .nobody world, fun _ => rfl⟩
  | cons perceiver rest ih =>
    have first := Evolves.deliver answers before settled (told perceiver (by simp))
    have turn := hasTurn answers before settled (told perceiver (by simp))
    have kept := Act.suffix_history (deliver (discipline.announced call) event perceiver) world past
    rw [deliverAll, Act.run_bind]
    rcases ending : (deliver (discipline.announced call) event perceiver).run world
      with ⟨result, middle⟩
    rw [Act.Carries, ending] at first
    rw [ending] at turn kept
    cases result with
    | ok =>
      obtain ⟨count, turns, all⟩ := ih first.1 first.2 fun other member =>
        (told other (by simp [member])).mono kept
      exact ⟨count + 1, .next turn turns, fun returned => congrArg (· + 1) (all returned)⟩
    | error panic => exact ⟨1, .panicked turn, fun returned => by cases returned⟩

end Client

/-- The subscriptions of a registrar for one phase of changes to a key. -/
def World.subscribed (world : World H) (event : ChangeEvent) : List (Subscription H.Callback) :=
  (world.tracker.table event.registrar).subscriptions.filter fun subscription =>
    event.key ∈ subscription.keys ∧ subscription.phase = event.phase

/-- The course of a notification whose turns are those of certain subscriptions. -/
structure Course (discipline : Discipline H) (call : Call H) (world : World H) (event : ChangeEvent)
    (told : List (Subscription H.Callback)) : Prop where
  turns : HaveTurns discipline call event
    (world.notified event.registrar event.key event.phase) (told.map (·.perceiver))
    ((notify (discipline.announced call) event.registrar event.key event.phase).run world).1
    ((notify (discipline.announced call) event.registrar event.key event.phase).run world).2
  front : told <+: world.subscribed event
  all : ((notify (discipline.announced call) event.registrar event.key event.phase).run world).1 =
    .ok () → told = world.subscribed event
  order : (told.map (·.id)).Pairwise (· < ·)
  /-- What was subscribed in the meantime has no turn. -/
  fresh : ∀ moment ∈
      (notify (discipline.announced call) event.registrar event.key event.phase).trail world,
    ∀ subscription ∈ (moment.tracker.table event.registrar).subscriptions,
      subscription ∈ (world.tracker.table event.registrar).subscriptions ∨
        ∀ other ∈ told, other.id < subscription.id

/-- At every moment of a run at which no callback is due, a notification has a course. -/
theorem Evolution.exists_course {world : World H} {past : List (World H)}
    (before : Evolution discipline (world :: past)) (settled : world.Settled) {call : Call H}
    (answers : ∀ callback event, Evolves discipline (call callback event)) (event : ChangeEvent) :
    ∃ told, Course discipline call world event told := by
  obtain ⟨registrar, key, phase⟩ := event
  have sound := (before.inStep world (by simp)).sound.tables registrar
  have start := Evolves.notified before settled registrar key phase
  obtain ⟨count, turns, all⟩ := haveTurns answers ⟨registrar, key, phase⟩
    (world.tracker.snapshot registrar key phase) start.1 start.2
    fun perceiver member => ⟨world, by simp, registrar, phase, member⟩
  have snapshot : world.tracker.snapshot registrar key phase =
      (world.subscribed ⟨registrar, key, phase⟩).map (·.perceiver) := sound.snapshot_eq key phase
  have front : (world.subscribed ⟨registrar, key, phase⟩).take count <+:
      world.subscribed ⟨registrar, key, phase⟩ := List.take_prefix _ _
  rw [← run_notify, snapshot] at turns all
  refine ⟨(world.subscribed ⟨registrar, key, phase⟩).take count, ?_, front, ?_, ?_, ?_⟩
  · rw [List.map_take]
    exact turns
  · intro returned
    rw [List.take_of_length_le]
    simp [all returned]
  · have ascending := sound.ascending.sublist (front.sublist.trans List.filter_sublist)
    exact List.pairwise_map.mpr ascending
  · intro moment passed subscription member
    have run := (Evolves.notify answers registrar key phase world past before settled).1
    rcases (run.grown_of_mem_trail passed).old registrar subscription member with old | fresh
    · exact .inl old
    · refine .inr fun other taken => Nat.lt_of_lt_of_le ?_ fresh
      exact sound.bounded other (List.mem_of_mem_filter (front.subset taken))

/-- A notification gives its turns to those who were subscribed when it started, in the order of
registration; to all of them, unless one panics, and then to those up to this one. -/
theorem Reachable.notify_course {world : World H} (reachable : Reachable discipline world)
    {call : Call H} (answers : ∀ callback event, Client discipline (call callback event))
    (event : ChangeEvent) : ∃ told, Course discipline call world event told := by
  obtain ⟨past, before⟩ := reachable.evolution
  have answers := fun callback event => (answers callback event).evolves
  exact before.exists_course reachable.settled answers event

def subscribeTwo : Act Host.plain RegistrarId := do
  let registrar ← Act.track (·.createRegistrar)
  let _ ← Act.track (·.register registrar (.ofList [⟨"a"⟩]) .willChange (.direct (0 : Nat)))
  let _ ← Act.track (·.register registrar (.ofList [⟨"a"⟩]) .willChange (.direct (1 : Nat)))
  return registrar

theorem client_subscribeTwo : Client Discipline.plain subscribeTwo :=
  .bind .createRegistrar fun _ =>
    .bind (.register _ _ _ trivial) fun _ => .bind (.register _ _ _ trivial) fun _ => .done _

/-- The first callback takes the place of the second one away and subscribes a third one. -/
def relieve : Call Host.plain := fun (callback : Nat) _ =>
  if callback = 0 then do
    let _ ← Act.track (·.cancel ⟨0⟩ ⟨⟨0⟩, 1⟩)
    let _ ← Act.track (·.register ⟨0⟩ (.ofList [⟨"a"⟩]) .willChange (.direct (2 : Nat)))
    return
  else return

theorem client_relieve (callback : Host.plain.Callback) (event : ChangeEvent) :
    Client Discipline.plain (relieve callback event) := by
  unfold relieve
  split
  · exact .bind (.cancel _ _) fun _ => .bind (.register _ _ _ trivial) fun _ => .done _
  · exact .done _

/-- The callback that was taken away has its turn, the one that came instead has none. -/
theorem Reachable.notify_course_of_relieve :
    ∃ told, Course Discipline.plain relieve (subscribeTwo.run (World.initial ())).2
        ⟨⟨0⟩, ⟨"a"⟩, .willChange⟩ told ∧ told.map (·.id) = [0, 1] ∧
      ((((notify (Discipline.plain.announced relieve) ⟨0⟩ ⟨"a"⟩ .willChange).run
        (subscribeTwo.run (World.initial ())).2).2.tracker.table ⟨0⟩).subscriptions.map (·.id)) =
        [0, 2] := by
  have reachable : Reachable Discipline.plain (subscribeTwo.run (World.initial ())).2 :=
    ⟨_, subscribeTwo, (), client_subscribeTwo, List.mem_cons_self, rfl⟩
  obtain ⟨told, course⟩ := reachable.notify_course client_relieve ⟨⟨0⟩, ⟨"a"⟩, .willChange⟩
  refine ⟨told, course, ?_, by rfl⟩
  rw [course.all (by rfl)]
  rfl

end ChangeTracking
