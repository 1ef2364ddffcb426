import ChangeTracking.Proofs.Ownership
import ChangeTracking.Proofs.SessionTurns

namespace ChangeTracking
variable {H : Host} {discipline : Discipline H}

/-- The event of a notification that an entry reports. -/
def LogEntry.notified? : LogEntry H → Option ChangeEvent
  | .trace (.notified registrar key phase _) => some ⟨registrar, key, phase⟩
  | _ => none

theorem LogEntry.firing?_of_notified {report : LogEntry H} {event : ChangeEvent}
    (notified : report.notified? = some event) : report.firing? = none := by
  unfold notified? at notified
  split at notified
  · rfl
  · cases notified

/-- In a stretch of a log, the events that sessions take up are those of the notifications that it
reports, or were given before. -/
def Sourced (given : ChangeEvent → Prop) (entries : List (LogEntry H)) : Prop :=
  ∀ entry ∈ entries, ∀ id event, entry.firing? = some (id, event) →
    given event ∨ ∃ report ∈ entries, report.notified? = some event

namespace Sourced
variable {given : ChangeEvent → Prop} {entries more : List (LogEntry H)}

theorem of_idle (idle : ∀ entry ∈ entries, entry.firing? = none) : Sourced given entries := by
  intro entry member id event fires
  rw [idle entry member] at fires
  cases fires

theorem append (first : Sourced given entries) (second : Sourced given more) :
    Sourced given (entries ++ more) := by
  intro entry member id event fires
  rcases List.mem_append.mp member with here | later
  · exact (first entry here id event fires).imp_right fun ⟨report, reported, same⟩ =>
      ⟨report, List.mem_append_left _ reported, same⟩
  · exact (second entry later id event fires).imp_right fun ⟨report, reported, same⟩ =>
      ⟨report, List.mem_append_right _ reported, same⟩

theorem weaken (sourced : Sourced (fun _ => False) entries) : Sourced given entries :=
  fun entry member id event fires =>
    .inr ((sourced entry member id event fires).resolve_left not_false)

/-- The report of a notification accounts for the event that it was given. -/
theorem reported {report : LogEntry H} {event : ChangeEvent} (notified : report.notified? = some event)
    (sourced : Sourced (· = event) entries) : Sourced (fun _ => False) (report :: entries) := by
  intro entry member id other fires
  rcases List.mem_cons.mp member with rfl | member
  · rw [LogEntry.firing?_of_notified notified] at fires
    cases fires
  · rcases sourced entry member id other fires with rfl | ⟨source, present, same⟩
    · exact .inr ⟨report, List.mem_cons_self, notified⟩
    · exact .inr ⟨source, List.mem_cons_of_mem _ present, same⟩

end Sourced

/-- What was added to the log since an earlier world is sourced. -/
def World.SourcedSince (given : ChangeEvent → Prop) (world after : World H) : Prop :=
  ∃ entries, after.log.toList = world.log.toList ++ entries ∧ Sourced given entries

namespace World.SourcedSince
variable {given : ChangeEvent → Prop} {world middle after : World H}

theorem refl (world : World H) : SourcedSince given world world :=
  ⟨[], (List.append_nil _).symm, .of_idle (by simp)⟩

theorem trans (first : SourcedSince given world middle) (second : SourcedSince given middle after) :
    SourcedSince given world after := by
  obtain ⟨entries, log, sourced⟩ := first
  obtain ⟨more, later, others⟩ := second
  exact ⟨entries ++ more, by rw [later, log, List.append_assoc], sourced.append others⟩

theorem weaken (sourced : SourcedSince (fun _ => False) world after) :
    SourcedSince given world after := by
  obtain ⟨entries, log, sourced⟩ := sourced
  exact ⟨entries, log, sourced.weaken⟩

end World.SourcedSince

theorem Move.log {past : List (World H)} {world after : World H}
    (move : Move discipline past world after) :
    ∃ entries, after.log.toList = world.log.toList ++ entries ∧
      ∀ entry ∈ entries, entry.firing? = none := by
  have single {after : World H} {entry : LogEntry H} (idle : entry.firing? = none)
      (log : after.log.toList = world.log.toList ++ [entry]) :
      ∃ entries, after.log.toList = world.log.toList ++ entries ∧
        ∀ entry ∈ entries, entry.firing? = none :=
    ⟨[entry], log, fun other member => List.mem_singleton.mp member ▸ idle⟩
  cases move with
  | own own =>
    obtain ⟨_, _, entries, own, log⟩ := own
    exact ⟨entries, log, fun entry member => (own entry member).isSilent.2.2⟩
  | arm => exact single rfl (World.advance_log ..)
  | cancelSession ended =>
    obtain ⟨removed, rfl⟩ := (Tracker.of_cancelSession? ended).report
    exact single rfl (World.advance_log ..)
  | notified => exact single rfl (World.advance_log ..)
  | call => exact single rfl (World.log_hear ..)
  | _ => exact ⟨[], (List.append_nil _).symm, by simp⟩

theorem Move.sourcedSince {past : List (World H)} {world after : World H}
    (move : Move discipline past world after) : World.SourcedSince (fun _ => False) world after := by
  obtain ⟨entries, log, idle⟩ := move.log
  exact ⟨entries, log, .of_idle idle⟩

/-- From a world in which it has its turn, what a computation adds to the log is sourced. -/
def Sources (discipline : Discipline H) {α : Type} (act : Act H α) : Prop :=
  ∀ world past, Evolution discipline (world :: past) → world.Settled →
    World.SourcedSince (fun _ => False) world (act.run world).2

section Notifications
variable {call : Call H} (answers : ∀ callback event, Composed discipline (call callback event))
  (sources : ∀ callback event, Sources discipline (call callback event))
  {world : World H} {past : List (World H)} {event : ChangeEvent}
include sources

private theorem sourced_announced {callback : H.Callback} {given : ChangeEvent → Prop}
    (called : Evolution discipline (world.hear (discipline.note callback event) :: world :: past)) :
    World.SourcedSince given world ((discipline.announced call callback event).run world).2 := by
  have heard : World.SourcedSince given world (world.hear (discipline.note callback event)) :=
    ⟨[.note (discipline.note callback event)], World.log_hear ..,
      .of_idle (by simp [LogEntry.firing?])⟩
  exact heard.trans (sources callback event _ _ called (World.settled_hear _ _)).weaken

private theorem sourced_deliver (before : Evolution discipline (world :: past))
    (settled : world.Settled) {perceiver : Perceiver H.Callback}
    (told : Told (world :: past) perceiver event.key)
    (right : ∀ id registrar phase, perceiver = .session id registrar phase →
      registrar = event.registrar ∧ phase = event.phase) :
    World.SourcedSince (· = event) world
      ((deliver (discipline.announced call) event perceiver).run world).2 := by
  cases perceiver with
  | direct callback => exact sourced_announced sources (.move before settled (.call told))
  | session id registrar phase =>
    obtain ⟨rfl, rfl⟩ := right id registrar phase rfl
    rw [deliver]
    rcases due : world.tracker.fire? id event with _ | firing
    · rw [run_fire_none due]
      exact .refl world
    · rw [run_fire_some due]
      have fired : World.SourcedSince (· = event) world
          (world.advance (some firing.report) firing.tracker) := by
        obtain ⟨removed, report⟩ := (Tracker.of_fire? due).report
        refine ⟨[.trace firing.report], World.advance_log .., ?_⟩
        intro entry member other fresh fires
        rw [List.mem_singleton.mp member, report] at fires
        cases fires
        exact .inl rfl
      exact fired.trans (sourced_announced sources (.call (.fire before settled told due) due))

include answers

private theorem sourced_deliverAll {perceivers : List (Perceiver H.Callback)}
    (before : Evolution discipline (world :: past)) (settled : world.Settled)
    (told : ∀ perceiver ∈ perceivers, Told (world :: past) perceiver event.key)
    (right : ∀ perceiver ∈ perceivers, ∀ id registrar phase,
      perceiver = .session id registrar phase → registrar = event.registrar ∧ phase = event.phase) :
    World.SourcedSince (· = event) world
      ((deliverAll (discipline.announced call) event perceivers).run world).2 := by
  induction perceivers generalizing world past with
  | nil => exact .refl world
  | cons perceiver rest ih =>
    have evolves := fun callback event => (answers callback event).evolves
    have first := Evolves.deliver evolves before settled (told perceiver (by simp))
    have sourced := sourced_deliver sources before settled (told perceiver (by simp))
      (right perceiver (by simp))
    have kept := Act.suffix_history (deliver (discipline.announced call) event perceiver) world past
    rw [deliverAll, Act.run_bind]
    rcases ending : (deliver (discipline.announced call) event perceiver).run world
      with ⟨result, middle⟩
    rw [Act.Carries, ending] at first
    rw [ending] at sourced kept
    cases result with
    | ok =>
      exact sourced.trans (ih first.1 first.2
        (fun other member => (told other (by simp [member])).mono kept)
        fun other member => right other (by simp [member]))
    | error panic => exact sourced

private theorem sourced_notify (before : Evolution discipline (world :: past))
    (settled : world.Settled) (event : ChangeEvent) :
    World.SourcedSince (· = event) (world.notified event.registrar event.key event.phase)
      ((notify (discipline.announced call) event.registrar event.key event.phase).run world).2 := by
  have inStep := before.inStep world List.mem_cons_self
  have start := Evolves.notified before settled event.registrar event.key event.phase
  rw [run_notify]
  refine sourced_deliverAll answers sources start.1 start.2
    (fun perceiver member => ⟨world, by simp, event.registrar, event.phase, member⟩) ?_
  rintro _ member id registrar phase rfl
  exact inStep.eq_of_mem_snapshot member

/-- A notification leaves no trace if it reaches nobody. Otherwise it begins with its report, and
from then on sessions take up its own event, and others only as these are reported. -/
theorem log_notify (before : Evolution discipline (world :: past)) (settled : world.Settled)
    (registrar : RegistrarId) (key : Key) (phase : Phase) :
    world.tracker.snapshot registrar key phase = [] ∧
        ((notify (discipline.announced call) registrar key phase).run world).2.log.toList =
          world.log.toList ∨
      ∃ report entries, report.notified? = some ⟨registrar, key, phase⟩ ∧
        Sourced (· = ⟨registrar, key, phase⟩) entries ∧
        ((notify (discipline.announced call) registrar key phase).run world).2.log.toList =
          world.log.toList ++ report :: entries := by
  by_cases nobody : world.tracker.snapshot registrar key phase = []
  · left
    rw [run_notify, World.notified, nobody]
    exact ⟨rfl, congrArg (·.log.toList) world.advance_none⟩
  · right
    obtain ⟨entries, log, sourced⟩ :=
      sourced_notify answers sources before settled ⟨registrar, key, phase⟩
    let report := TraceEvent.notified registrar key phase
      (world.tracker.snapshot registrar key phase).length
    have start : (world.notified registrar key phase).log.toList =
        world.log.toList ++ [.trace report] := by
      rw [World.notified, if_neg (by simpa using nobody)]
      exact World.advance_log ..
    refine ⟨.trace report, entries, rfl, sourced, ?_⟩
    rw [log, start, List.append_assoc]
    rfl

end Notifications

theorem Composed.sources {α : Type} {act : Act H α} (composed : Composed discipline act) :
    Sources discipline act := by
  induction composed with
  | done value => exact fun world _ _ _ => .refl world
  | unwind panic => exact fun world _ _ _ => .refl world
  | step moves => exact fun world past _ _ => (moves world past).sourcedSince
  | bind first second firstIh secondIh =>
    intro world past before settled
    have middle := first.evolves world past before settled
    have sourced := firstIh world past before settled
    rw [Act.run_bind]
    rcases ending : (Act.run _ world) with ⟨result, after⟩
    rw [Act.Carries, ending] at middle
    rw [ending] at sourced
    cases result with
    | ok value => exact sourced.trans (secondIh value after _ middle.1 middle.2)
    | error panic => exact sourced
  | attempt body ih => exact ih
  | notify answers registrar key phase ih =>
    intro world past before settled
    rcases log_notify answers ih before settled registrar key phase with
      ⟨_, same⟩ | ⟨report, entries, notified, sourced, log⟩
    · exact ⟨[], by rw [same, List.append_nil], .of_idle (by simp)⟩
    · exact ⟨report :: entries, log, sourced.reported notified⟩

theorem SessionStep.reads_eq {past : List (World H)} {world after : World H}
    (step : SessionStep discipline past world after) {id : SessionId}
    (created : id.index < world.tracker.sessions.size) :
    (after.tracker.session id).reads = (world.tracker.session id).reads := by
  cases step.fate id with
  | kept same => rw [same]
  | created _ fresh => omega
  | turn event turn =>
    generalize after.tracker.session id = session at turn
    cases turn <;> rfl

/-- The sessions of an earlier world keep what they have read. -/
def World.KeepsReads (later earlier : World H) : Prop :=
  ∀ id : SessionId, id.index < earlier.tracker.sessions.size →
    (later.tracker.session id).reads = (earlier.tracker.session id).reads

theorem Evolution.keepsReads {worlds : List (World H)} (evolution : Evolution discipline worlds) :
    worlds.Pairwise World.KeepsReads := by
  have order : worlds.Pairwise fun later earlier => Later earlier later ∧ later.KeepsReads earlier := by
    refine evolution.ordered ?_ fun world after past next =>
      ⟨next.sessionStep.later, fun _ created => next.sessionStep.reads_eq created⟩
    rintro first second third ⟨earlier, same⟩ ⟨later, still⟩
    exact ⟨earlier.trans later, fun id created =>
      (still id (Nat.lt_of_lt_of_le created earlier.size)).trans (same id created)⟩
  exact order.imp And.right

theorem Evolution.keepsReads_of_mem {world earlier : World H} {past : List (World H)}
    (evolution : Evolution discipline (world :: past)) (member : earlier ∈ world :: past) :
    world.KeepsReads earlier :=
  World.related_of_mem World.KeepsReads (fun _ _ _ => rfl) evolution.keepsReads member

theorem Evolution.keepsReads_run {α : Type} {act : Act H α} {world : World H}
    {past : List (World H)}
    (evolution : Evolution discipline ((act.run world).2 :: act.history world past)) :
    (act.run world).2.KeepsReads world :=
  Act.related_of_mem_trail World.KeepsReads (fun _ _ _ => rfl) evolution.keepsReads
    List.mem_cons_self

/-- A session exists and has read a property. -/
def World.HasRead (world : World H) (id : SessionId) (registrar : RegistrarId) (key : Key) : Prop :=
  id.index < world.tracker.sessions.size ∧
    (world.tracker.session id).reads.contains registrar key = true

theorem World.HasRead.step {past : List (World H)} {world after : World H} {id : SessionId}
    {registrar : RegistrarId} {key : Key} (read : world.HasRead id registrar key)
    (step : SessionStep discipline past world after) : after.HasRead id registrar key :=
  ⟨Nat.lt_of_lt_of_le read.1 step.size_le, step.reads_eq read.1 ▸ read.2⟩

/-- What a session is subscribed to, it has read. -/
theorem Tracker.InStep.hasRead {world : World H} (inStep : world.tracker.InStep)
    {registrar : RegistrarId} {subscription : Subscription H.Callback} {key : Key}
    (subscribed : subscription ∈ (world.tracker.table registrar).subscriptions)
    (covers : key ∈ subscription.keys) {id : SessionId} {source : RegistrarId} {phase : Phase}
    (perceiver : subscription.perceiver = .session id source phase) :
    world.HasRead id registrar key := by
  obtain ⟨_, _, holds, keys⟩ :=
    inStep.owned registrar subscription subscribed id source phase perceiver
  have waits := (inStep.sessions id).waits_of_holds holds
  refine ⟨Tracker.Awaits.index_lt waits, ?_⟩
  rw [keys] at covers
  exact decide_eq_true covers

theorem Evolution.told_read {world : World H} {past : List (World H)} {id : SessionId}
    {registrar : RegistrarId} {phase : Phase} {key : Key}
    (evolution : Evolution discipline (world :: past))
    (told : Told (world :: past) (.session id registrar phase) key) :
    world.HasRead id registrar key := by
  obtain ⟨earlier, member, source, wanted, present⟩ := told
  have inStep := evolution.inStep earlier member
  obtain ⟨subscription, subscribed, covers, _, perceiver⟩ :=
    (inStep.sound.tables source).mem_snapshot_iff.mp present
  obtain ⟨rfl, _⟩ := inStep.owned source subscription subscribed id registrar phase perceiver
  have read := inStep.hasRead subscribed covers perceiver
  have same := evolution.keepsReads_of_mem member id read.1
  exact ⟨Nat.lt_of_lt_of_le read.1 (evolution.later_of_mem member).size, same ▸ read.2⟩

/-- All events that sessions took up so far are about what they have read. -/
def World.FiresRead (world : World H) : Prop :=
  ∀ entry ∈ world.log.toList, ∀ id event, entry.firing? = some (id, event) →
    world.HasRead id event.registrar event.key

/-- What is true of an event when its session is told of it, and stays true from then on, is true of
all events that sessions took up. -/
theorem Evolution.fires {good : World H → SessionId → ChangeEvent → Prop}
    (told : ∀ world past id event, Evolution discipline (world :: past) →
      Told (world :: past) (.session id event.registrar event.phase) event.key →
        good world id event)
    (stays : ∀ world after past id event, Evolution discipline (after :: world :: past) →
      good world id event → good after id event)
    {worlds : List (World H)} (evolution : Evolution discipline worlds) :
    ∀ world ∈ worlds, ∀ entry ∈ world.log.toList, ∀ id event,
      entry.firing? = some (id, event) → good world id event := by
  have step {world after : World H} {past : List (World H)} {entries : List (LogEntry H)}
      (next : Evolution discipline (after :: world :: past))
      (log : after.log.toList = world.log.toList ++ entries)
      (old : ∀ entry ∈ world.log.toList, ∀ id event,
        entry.firing? = some (id, event) → good world id event)
      (new : ∀ entry ∈ entries, ∀ id event,
        entry.firing? = some (id, event) → good world id event) :
      ∀ entry ∈ after.log.toList, ∀ id event,
        entry.firing? = some (id, event) → good after id event := by
    intro entry member id event fired
    rw [log] at member
    refine stays world after past id event next ?_
    rcases List.mem_append.mp member with before | member
    · exact old entry before id event fired
    · exact new entry member id event fired
  induction evolution with
  | start host =>
    intro world member
    rw [List.mem_singleton.mp member]
    exact fun entry absent => by cases absent
  | move before settled move ih =>
    refine List.forall_mem_cons.mpr ⟨?_, ih⟩
    obtain ⟨entries, log, idle⟩ := move.log
    refine step (.move before settled move) log (ih _ List.mem_cons_self) ?_
    intro entry member id event fired
    rw [idle entry member] at fired
    cases fired
  | fire before settled reached due ih =>
    refine List.forall_mem_cons.mpr ⟨?_, ih⟩
    refine step (.fire before settled reached due) (World.advance_log ..)
      (ih _ List.mem_cons_self) ?_
    obtain ⟨removed, report⟩ := (Tracker.of_fire? due).report
    intro entry member id event fired
    rw [List.mem_singleton.mp member, report] at fired
    cases fired
    exact told _ _ _ _ before reached
  | call before due ih =>
    refine List.forall_mem_cons.mpr ⟨?_, ih⟩
    refine step (.call before due) (World.log_hear ..) (ih _ List.mem_cons_self) ?_
    intro entry member id event fired
    rw [List.mem_singleton.mp member] at fired
    cases fired

theorem Evolution.firesRead {worlds : List (World H)} (evolution : Evolution discipline worlds) :
    ∀ world ∈ worlds, world.FiresRead :=
  evolution.fires (fun _ _ _ _ before told => before.told_read told)
    fun _ _ _ _ _ next read => read.step next.sessionStep

end ChangeTracking
