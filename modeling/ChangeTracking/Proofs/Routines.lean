import ChangeTracking.Proofs.Calls

/-! Routines: finite scripts of operations of the library, as they are written down. Callbacks,
bodies and reads are routines in turn, and nobody but sessions is subscribed by them. What an
operation is applied to is worked out from a state of the host's own, into which what it yields is
worked. -/
namespace ChangeTracking

/-- What can be seen of a world: its sessions, registrars and totals, whether reads are being
recorded and the event that was delivered last. -/
structure Sight where
  status : SessionId → SessionStatus
  changed : SessionId → Option Key
  sessionSubscriptions : SessionId → Nat
  subscriptionCount : RegistrarId → Nat
  observes : RegistrarId → Key → Bool
  totals : Totals
  recording : Bool
  event : Option ChangeEvent

inductive Errand (σ : Type) where
  | look (keep : Sight → σ → σ)
  | createRegistrar (keep : RegistrarId → σ → σ)
  | retain (id : σ → RegistrarId)
  | release (id : σ → RegistrarId)
  | cancel (id : σ → RegistrarId) (token : σ → Token) (keep : Bool → σ → σ)
  | cancelAll (id : σ → RegistrarId) (keep : Nat → σ → σ)
  | access (id : σ → RegistrarId) (key : σ → Key)
  | createSession (reads : σ → AccessList) (keep : SessionId → σ → σ)
  | cancelSession (id : σ → SessionId)
  | panic (message : σ → String)

/-- Each operation stands at a place, by which it is known when it is executed. -/
inductive Routine (σ π : Type) where
  | skip
  | seq (first second : Routine σ π)
  | branch (condition : σ → Bool) (yes no : Routine σ π)
  | errand (place : π) (work : Errand σ)
  | notify (place : π) (id : σ → RegistrarId) (key : σ → Key) (phase : Phase)
  | withMutation (place : π) (id : σ → RegistrarId) (key : σ → Key) (body : Routine σ π)
  | record (place : π) (body : Routine σ π) (keep : AccessList → σ → σ)
  | install (place : π) (id : σ → SessionId) (callbacks : PerPhase (Routine σ π))
  | trackSession (place : π) (read : Routine σ π) (callbacks : PerPhase (Routine σ π))
      (keep : SessionId → σ → σ)
  | attempt (place : π) (body : Routine σ π)
  | onThread (place : π) (body : Routine σ π)

/-- What routines leave in the log: which operations are executed, which callbacks are called, which
were handed to an installation that succeeded, and where a callback does not run for want of room. -/
inductive RoutineNote (σ π : Type) where
  | executed (place : π)
  | called (callback : Routine σ π) (event : ChangeEvent)
  | handed (callbacks : PerPhase (Routine σ π))
  | cutShort

/-- What the host keeps: a state of its own and the event that was delivered last. -/
structure Memory (σ : Type) where
  own : σ
  event : Option ChangeEvent

/-- The host whose callbacks are routines. -/
abbrev Host.routines (σ π : Type) : Host := ⟨Routine σ π, RoutineNote σ π, Memory σ⟩

/-- No callback of it is subscribed by itself. -/
def Discipline.routines (σ π : Type) : Discipline (Host.routines σ π) where
  note := .called
  heard
    | .called callback event => some (callback, event)
    | _ => none
  heard_note _ _ := rfl
  direct _ := False

variable {σ π : Type}

mutual

/-- The places of all operations of a routine, with those in its bodies, reads and callbacks. -/
def Routine.places : Routine σ π → List π
  | .skip => []
  | .seq first second => first.places ++ second.places
  | .branch _ yes no => yes.places ++ no.places
  | .errand place _ => [place]
  | .notify place .. => [place]
  | .withMutation place _ _ body => place :: body.places
  | .record place body _ => place :: body.places
  | .install place _ callbacks => place :: placesOfBoth callbacks
  | .trackSession place read callbacks _ => place :: (read.places ++ placesOfBoth callbacks)
  | .attempt place body => place :: body.places
  | .onThread place body => place :: body.places

def Routine.placesOfBoth : PerPhase (Routine σ π) → List π
  | ⟨will, did⟩ => placesOfOne will ++ placesOfOne did

def Routine.placesOfOne : Option (Routine σ π) → List π
  | none => []
  | some routine => routine.places

end

theorem Routine.placesOfBoth_eq (callbacks : PerPhase (Routine σ π)) :
    placesOfBoth callbacks = callbacks.toList.flatMap places := by
  obtain ⟨will, did⟩ := callbacks
  cases will <;> cases did <;> simp [placesOfBoth, placesOfOne, PerPhase.toList]

def World.sight (world : World (Host.routines σ π)) : Sight where
  status id := (world.tracker.session id).status
  changed id := (world.tracker.session id).changed
  sessionSubscriptions := world.tracker.sessionSubscriptions
  subscriptionCount := world.tracker.subscriptionCount
  observes := world.tracker.observes
  totals := world.tracker.totals
  recording := world.thread.recording.isSome
  event := world.host.event

def consult {α : Type} (look : σ → α) : Act (Host.routines σ π) α := do
  return look (← get).host.own

def remember (keep : σ → σ) : Act (Host.routines σ π) Unit :=
  Act.modifyHost fun memory => { memory with own := keep memory.own }

def Errand.act : Errand σ → Act (Host.routines σ π) Unit
  | .look keep => do remember (keep (← get).sight)
  | .createRegistrar keep => do remember (keep (← Act.track (·.createRegistrar)))
  | .retain id => do
    let id ← consult id
    Act.modifyTracker (·.retain id)
  | .release id => do
    let id ← consult id
    Act.modifyTracker (·.release id)
  | .cancel id token keep => do
    let id ← consult id
    let token ← consult token
    remember (keep (← Act.track (·.cancel id token)))
  | .cancelAll id keep => do
    let id ← consult id
    remember (keep (← Act.track (·.cancelAll id)))
  | .access id key => do ChangeTracking.access (← consult id) (← consult key)
  | .createSession reads keep => do
    let reads ← consult reads
    remember (keep (← Act.track (·.createSession reads)))
  | .cancelSession id => do ChangeTracking.cancelSession (← consult id)
  | .panic message => do
    -- A panic on top of another one would end the process.
    unless (← Act.getThread).unwinding do Act.panic (← consult message)

/-- Installs a session and notes which callbacks were handed over, if the installation succeeds. -/
def handOver (id : SessionId) (callbacks : PerPhase (Routine σ π)) :
    Act (Host.routines σ π) Unit := do
  match ← install id callbacks with
  | .ok () => Act.note (.handed callbacks)
  | .error _ => return

/-- Tracks a read and notes which callbacks were handed over, if there were any. -/
def trackAndKeep (read : Act (Host.routines σ π) Unit) (callbacks : PerPhase (Routine σ π))
    (keep : SessionId → σ → σ) : Act (Host.routines σ π) Unit := do
  match ← trackSession read callbacks with
  | .ok ((), id) =>
    Act.note (.handed callbacks)
    remember (keep id)
  | .error _ => return

namespace Routine

/-- Runs a routine, given how callbacks are run. -/
def act (call : Call (Host.routines σ π)) : Routine σ π → Act (Host.routines σ π) Unit
  | .skip => return
  | .seq first second => do
    first.act call
    second.act call
  | .branch condition yes no => do if ← consult condition then yes.act call else no.act call
  | .errand place work => do
    Act.note (.executed place)
    work.act
  | .notify place id key phase => do
    Act.note (.executed place)
    ChangeTracking.notify ((Discipline.routines σ π).announced call) (← consult id) (← consult key)
      phase
  | .withMutation place id key body => do
    Act.note (.executed place)
    ChangeTracking.withMutation ((Discipline.routines σ π).announced call) (← consult id)
      (← consult key) (body.act call)
  | .record place body keep => do
    Act.note (.executed place)
    let ((), reads) ← ChangeTracking.record (body.act call)
    remember (keep reads)
  | .install place id callbacks => do
    Act.note (.executed place)
    handOver (← consult id) callbacks
  | .trackSession place read callbacks keep => do
    Act.note (.executed place)
    trackAndKeep (read.act call) callbacks keep
  | .attempt place body => do
    Act.note (.executed place)
    let _ ← (body.act call).attempt
  | .onThread place body => do
    Act.note (.executed place)
    let _ ← (body.act call).onThread

/-- Runs a callback, with room for so many callbacks within one another. Where there is no room, it
is noted that a callback did not run. -/
def answer : (room : Nat) → Call (Host.routines σ π)
  | 0 => fun _ _ => Act.note .cutShort
  | room + 1 => fun callback event => do
    Act.modifyHost fun memory => { memory with event := some event }
    callback.act (answer room)

/-- Runs routines one after the other, whether the ones before ended in a panic or not. -/
def playAll (room : Nat) : List (Routine σ π) → Act (Host.routines σ π) Unit
  | [] => return
  | routine :: rest => do
    let _ ← (routine.act (answer room)).attempt
    playAll room rest

end Routine

namespace RoutineNote

def places : RoutineNote σ π → List π
  | .executed place => [place]
  | _ => []

def callees : RoutineNote σ π → List (Routine σ π)
  | .called callback _ => [callback]
  | _ => []

def given : RoutineNote σ π → List (Routine σ π)
  | .handed callbacks => callbacks.toList
  | _ => []

end RoutineNote

namespace LogEntry

def note? {H : Host} : LogEntry H → Option H.Note
  | .note entry => some entry
  | .trace _ => none

end LogEntry

namespace World
variable (world : World (Host.routines σ π))

def notes : List (RoutineNote σ π) := world.log.toList.filterMap LogEntry.note?

/-- The places of the operations that were executed, in the order of time. -/
def executed : List π := world.notes.flatMap RoutineNote.places

def called : List (Routine σ π) := world.notes.flatMap RoutineNote.callees

/-- The callbacks that were handed to installations which succeeded. -/
def handed : List (Routine σ π) := world.notes.flatMap RoutineNote.given

/-- Whether a callback was left out for want of room. -/
def CutShort : Prop := .cutShort ∈ world.notes

theorem notes_hear (note : RoutineNote σ π) :
    (world.hear (note : (Host.routines σ π).Note)).notes = world.notes ++ [note] := by
  simp [notes, hear, LogEntry.note?]

theorem notes_advance (report : Option TraceEvent) (tracker : Tracker (Routine σ π)) :
    (world.advance report tracker).notes = world.notes := by
  cases report <;> simp [notes, advance, LogEntry.ofReport, LogEntry.note?]

theorem map_callback_calls :
    (world.calls (Discipline.routines σ π)).map (·.callback) = world.called := by
  rw [calls, called, notes]
  generalize none = owner
  induction world.log.toList generalizing owner with
  | nil => rfl
  | cons entry rest ih =>
    rw [Discipline.calls, List.map_append, ih]
    cases entry with
    | trace event => rfl
    | note note => cases note <;> rfl

end World
end ChangeTracking
