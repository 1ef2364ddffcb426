import ChangeTracking.Proofs.Evolution
import ChangeTracking.Proofs.SessionLife

namespace ChangeTracking
variable {H : Host}

namespace LogEntry

/-- The report on a session in an entry. -/
def lifeEvent? (id : SessionId) : LogEntry H → Option TraceEvent
  | .trace event => if event.session? = some id then some event else none
  | .note _ => none

def firing? : LogEntry H → Option (SessionId × ChangeEvent)
  | .trace (.fired id event ..) => some (id, event)
  | _ => none

end LogEntry

/-- A call of a callback, and the session to which it belongs, if any. -/
structure Invocation (κ : Type) where
  owner : Option SessionId
  callback : κ
  event : ChangeEvent

namespace Discipline
variable (discipline : Discipline H)

def call? : LogEntry H → Option (H.Callback × ChangeEvent)
  | .note note => discipline.heard note
  | .trace _ => none

/-- The calls heard in a log, given the session that has taken up an event right before it. -/
def calls (owner : Option SessionId) : List (LogEntry H) → List (Invocation H.Callback)
  | [] => []
  | entry :: rest =>
    ((discipline.call? entry).map fun call => ⟨owner, call.1, call.2⟩).toList ++
      calls (entry.firing?.map (·.1)) rest

end Discipline

/-- What a session has taken up at the end of a log with no call behind it. -/
def dueAfter (due : Option (SessionId × ChangeEvent)) (log : List (LogEntry H)) :
    Option (SessionId × ChangeEvent) := log.foldl (fun _ entry => entry.firing?) due

namespace World

def events (world : World H) (id : SessionId) : List TraceEvent :=
  world.log.toList.filterMap (LogEntry.lifeEvent? id)

def firings (world : World H) (id : SessionId) : List ChangeEvent :=
  (world.events id).filterMap TraceEvent.delivered?

/-- The event that a session has just taken up, while its callback has not been called. -/
def due (world : World H) : Option (SessionId × ChangeEvent) := dueAfter none world.log.toList

/-- The event that a certain session has just taken up, if it was this one. -/
def dueTo (world : World H) (id : SessionId) : List ChangeEvent :=
  (world.due.filter fun due => due.1 = id).toList.map (·.2)

def calls (world : World H) (discipline : Discipline H) : List (Invocation H.Callback) :=
  discipline.calls none world.log.toList

def callsOf (world : World H) (discipline : Discipline H) (id : SessionId) :
    List (Invocation H.Callback) :=
  (world.calls discipline).filter fun call => call.owner = some id

end World

theorem Discipline.calls_append (discipline : Discipline H) (due : Option (SessionId × ChangeEvent))
    (front back : List (LogEntry H)) :
    discipline.calls (due.map (·.1)) (front ++ back) =
      discipline.calls (due.map (·.1)) front ++
        discipline.calls ((dueAfter due front).map (·.1)) back := by
  induction front generalizing due with
  | nil => rfl
  | cons entry rest ih => simp only [List.cons_append, calls, ih, dueAfter, List.foldl_cons,
      List.append_assoc]

/-- An entry that tells of no session and no call. -/
def LogEntry.IsSilent (discipline : Discipline H) (entry : LogEntry H) : Prop :=
  (∀ id, entry.lifeEvent? id = none) ∧ discipline.call? entry = none ∧ entry.firing? = none

theorem Discipline.IsOwn.isSilent {discipline : Discipline H} {entry : LogEntry H}
    (own : discipline.IsOwn entry) : entry.IsSilent discipline := by
  cases entry with
  | note => exact ⟨fun _ => rfl, own, rfl⟩
  | trace event => cases event <;> first | exact ⟨fun _ => rfl, rfl, rfl⟩ | exact own.elim

theorem Discipline.calls_eq_nil {discipline : Discipline H} {entries : List (LogEntry H)}
    (unheard : ∀ entry ∈ entries, discipline.call? entry = none) (owner : Option SessionId) :
    discipline.calls owner entries = [] := by
  induction entries generalizing owner with
  | nil => rfl
  | cons entry rest ih =>
    rw [calls, unheard entry (by simp), ih fun entry member => unheard entry (by simp [member])]
    rfl

theorem dueAfter_eq_none {entries : List (LogEntry H)}
    (idle : ∀ entry ∈ entries, entry.firing? = none) : dueAfter none entries = none := by
  induction entries with
  | nil => rfl
  | cons entry rest ih =>
    rw [dueAfter, List.foldl_cons, idle entry (by simp)]
    exact ih fun entry member => idle entry (by simp [member])

namespace World
variable {world after : World H} {discipline : Discipline H} {more : List (LogEntry H)}

theorem due_append (log : after.log.toList = world.log.toList ++ more) :
    after.due = dueAfter world.due more := by
  rw [due, log, dueAfter, List.foldl_append]
  rfl

theorem events_append (log : after.log.toList = world.log.toList ++ more) (id : SessionId) :
    after.events id = world.events id ++ more.filterMap (LogEntry.lifeEvent? id) := by
  rw [events, log, List.filterMap_append, events]

theorem calls_append (log : after.log.toList = world.log.toList ++ more) :
    after.calls discipline =
      world.calls discipline ++ discipline.calls (world.due.map (·.1)) more := by
  rw [calls, log]
  exact discipline.calls_append none _ _

theorem calls_of_unheard (log : after.log.toList = world.log.toList ++ more)
    (unheard : ∀ entry ∈ more, discipline.call? entry = none) :
    after.calls discipline = world.calls discipline := by
  rw [calls_append log, Discipline.calls_eq_nil unheard, List.append_nil]

/-- Whoever is heard behind the report that a session took up an event is called on its behalf. -/
theorem calls_append_note {callback : H.Callback} {event : ChangeEvent}
    (log : after.log.toList = world.log.toList ++ [.note (discipline.note callback event)]) :
    after.calls discipline =
      world.calls discipline ++ [⟨world.due.map (·.1), callback, event⟩] := by
  rw [calls_append log]
  simp [Discipline.calls, Discipline.call?, discipline.heard_note]

theorem calls_advance (world : World H) (report : Option TraceEvent)
    (tracker : Tracker H.Callback) :
    (world.advance report tracker).calls discipline = world.calls discipline := by
  have unheard : ∀ entry ∈ (LogEntry.ofReport report : List (LogEntry H)),
      discipline.call? entry = none := by
    simp [LogEntry.ofReport, Discipline.call?]
  exact calls_of_unheard (advance_log ..) unheard

/-- What is reported of a notification itself tells of no session and no call. -/
theorem log_notified (world : World H) (discipline : Discipline H) (registrar : RegistrarId)
    (key : Key) (phase : Phase) : ∃ entries,
      (world.notified registrar key phase).log.toList = world.log.toList ++ entries ∧
        ∀ entry ∈ entries, entry.IsSilent discipline := by
  refine ⟨_, advance_log .., ?_⟩
  intro entry member
  split at member
  · cases member
  · rw [List.mem_singleton.mp member]
    exact ⟨fun _ => rfl, rfl, rfl⟩

theorem calls_notified (world : World H) (registrar : RegistrarId) (key : Key) (phase : Phase) :
    (world.notified registrar key phase).calls discipline = world.calls discipline :=
  world.calls_advance _ _

theorem due_notified (idle : world.due = none) (registrar : RegistrarId) (key : Key)
    (phase : Phase) : (world.notified registrar key phase).due = none := by
  rw [notified]
  split
  · rw [advance_none, idle]
  · rw [due_append (advance_log ..)]
    rfl

theorem due_hear (world : World H) (note : H.Note) : (world.hear note).due = none := by
  rw [due_append (log_hear ..)]
  rfl

theorem calls_hear (discipline : Discipline H) (world : World H) (id : SessionId)
    (event : ChangeEvent) (removed : Nat) (finished : Bool) (tracker : Tracker H.Callback)
    (callback : H.Callback) :
    ((world.advance (some (.fired id event removed finished)) tracker).hear
        (discipline.note callback event)).calls discipline =
      world.calls discipline ++ [⟨some id, callback, event⟩] := by
  rw [calls_append_note (log_hear ..), calls_advance, due_append (advance_log ..)]
  rfl

theorem settled_iff : world.Settled ↔ world.due = none := by
  rw [Settled, due, dueAfter]
  rcases List.eq_nil_or_concat world.log.toList with empty | ⟨front, last, concat⟩
  · simp [empty]
  · rw [concat, List.concat_eq_append, List.getLast?_concat, List.foldl_append]
    constructor
    · intro settled
      cases last with
      | note => rfl
      | trace event => cases event <;> first | rfl | exact absurd rfl (settled _ _ _ _)
    · rintro idle id event removed finished same
      cases same
      cases idle

end World

theorem mem_delivered_iff {entries : List (LogEntry H)} {id : SessionId}
    {event : ChangeEvent} :
    event ∈ (entries.filterMap (LogEntry.lifeEvent? id)).filterMap TraceEvent.delivered? ↔
      ∃ entry ∈ entries, entry.firing? = some (id, event) := by
  have each (entry : LogEntry H) : (entry.lifeEvent? id).bind TraceEvent.delivered? = some event ↔
      entry.firing? = some (id, event) := by
    cases entry with
    | note => simp [LogEntry.lifeEvent?, LogEntry.firing?]
    | trace report =>
      cases report with
      | fired other | installed other | cancelled other =>
        by_cases same : other = id <;>
          simp [LogEntry.lifeEvent?, LogEntry.firing?, TraceEvent.session?,
            TraceEvent.delivered?, same]
      | _ => simp [LogEntry.lifeEvent?, LogEntry.firing?, TraceEvent.session?]
  simp only [List.filterMap_filterMap, List.mem_filterMap, each]

end ChangeTracking
