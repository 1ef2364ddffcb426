import ChangeTracking.Proofs.History

/-! Programs that use the library. A client is any computation put together from the operations
of the library, steps of its own, panics and the ways of containing them; its callbacks are
clients in turn. Nothing is said about what a client does with the answers that it gets. -/
namespace ChangeTracking

/-- How a host deals with its callbacks. Each call leaves a note by which it is heard, and some
callbacks are subscribed by themselves rather than handed to a session. -/
structure Discipline (H : Host) where
  note : H.Callback → ChangeEvent → H.Note
  heard : H.Note → Option (H.Callback × ChangeEvent)
  heard_note : ∀ callback event, heard (note callback event) = some (callback, event)
  direct : H.Callback → Prop

namespace Discipline
variable {H : Host} (discipline : Discipline H)

/-- Callbacks that leave their note before they do anything else. -/
def announced (call : Call H) : Call H := fun callback event => do
  Act.note (discipline.note callback event)
  call callback event

/-- What hosts write to the log by themselves: no reports of the library and no calls. -/
def IsOwn : LogEntry H → Prop
  | .note entry => discipline.heard entry = none
  | .trace (.viewInvalidated ..) | .trace (.runComplete ..) => True
  | .trace _ => False

/-- A step of the host leaves alone what is tracked and what belongs to the thread. -/
def Own (world after : World H) : Prop :=
  after.tracker = world.tracker ∧ after.thread = world.thread ∧
    ∃ entries : List (LogEntry H), (∀ entry ∈ entries, discipline.IsOwn entry) ∧
      after.log.toList = world.log.toList ++ entries

end Discipline

inductive Client {H : Host} (discipline : Discipline H) : {α : Type} → Act H α → Prop where
  | done {α : Type} (value : α) : Client discipline (.done value)
  | panic {α : Type} (panic : Panic) : Client discipline (.unwind panic : Act H α)
  | bind {α β : Type} {act : Act H α} {rest : α → Act H β} (first : Client discipline act)
      (second : ∀ value, Client discipline (rest value)) : Client discipline (act >>= rest)
  | attempt {α : Type} {act : Act H α} (body : Client discipline act) :
      Client discipline act.attempt
  | onThread {α : Type} {act : Act H α} (body : Client discipline act) :
      Client discipline act.onThread
  | whileUnwinding {α : Type} {act : Act H α} (body : Client discipline act) :
      Client discipline act.whileUnwinding
  | own {α : Type} (change : World H → α × World H)
      (own : ∀ world, discipline.Own world (change world).2) :
      Client discipline (.step change .done)
  | createRegistrar : Client discipline (Act.track (·.createRegistrar))
  | retain (id : RegistrarId) : Client discipline (Act.modifyTracker (·.retain id))
  | release (id : RegistrarId) : Client discipline (Act.modifyTracker (·.release id))
  | register (id : RegistrarId) (keys : KeySet) (phase : Phase) {callback : H.Callback}
      (direct : discipline.direct callback) :
      Client discipline (Act.track (·.register id keys phase (.direct callback)))
  | cancel (id : RegistrarId) (token : Token) : Client discipline (Act.track (·.cancel id token))
  | cancelAll (id : RegistrarId) : Client discipline (Act.track (·.cancelAll id))
  | access (id : RegistrarId) (key : Key) : Client discipline (access id key)
  | record {α : Type} {act : Act H α} (body : Client discipline act) :
      Client discipline (record act)
  | createSession (reads : AccessList) :
      Client discipline (Act.track (·.createSession reads))
  | install (id : SessionId) (callbacks : PerPhase H.Callback) :
      Client discipline (install id callbacks)
  | cancelSession (id : SessionId) : Client discipline (cancelSession id)
  | trackSession {α : Type} {act : Act H α} (body : Client discipline act)
      (callbacks : PerPhase H.Callback) : Client discipline (trackSession act callbacks)
  | notify {call : Call H} (answers : ∀ callback event, Client discipline (call callback event))
      (id : RegistrarId) (key : Key) (phase : Phase) :
      Client discipline (notify (discipline.announced call) id key phase)
  | withMutation {α : Type} {call : Call H} {act : Act H α}
      (answers : ∀ callback event, Client discipline (call callback event))
      (body : Client discipline act) (id : RegistrarId) (key : Key) :
      Client discipline (withMutation (discipline.announced call) id key act)

/-- A host whose callbacks are numbers that leave nothing but their note. -/
def Host.plain : Host := ⟨Nat, Nat × ChangeEvent, Unit⟩

def Discipline.plain : Discipline Host.plain where
  note callback event := (callback, event)
  heard := some
  heard_note _ _ := rfl
  direct _ := True

def trackBoth : Act Host.plain RegistrarId := do
  let registrar ← Act.track (·.createRegistrar)
  let _ ← trackSession (access registrar ⟨"a"⟩) ⟨some (0 : Nat), some (1 : Nat)⟩
  return registrar

theorem client_trackBoth : Client Discipline.plain trackBoth :=
  .bind .createRegistrar fun registrar =>
    .bind (.trackSession (.access registrar _) _) fun _ => .done registrar

def trackAndChange : Act Host.plain Unit := do
  let registrar ← trackBoth
  withMutation (Discipline.plain.announced fun _ _ => pure ()) registrar ⟨"a"⟩ (pure ())

theorem client_trackAndChange : Client Discipline.plain trackAndChange :=
  client_trackBoth.bind fun registrar =>
    .withMutation (fun _ _ => .done ()) (.done ()) registrar _

end ChangeTracking
