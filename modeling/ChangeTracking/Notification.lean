import ChangeTracking.Act

/-! Notifications and the mutations that they bracket. A notification reaches those who
were subscribed when it started, in order of registration, whatever the callbacks do to
the subscriptions meanwhile. -/
namespace ChangeTracking
variable {H : Host} {α : Type} (call : Call H)

/-- Hands an event to a session. The session gives up what it held for the phase before its
callback runs; nothing happens if it does not wait for the phase. -/
def fire (id : SessionId) (event : ChangeEvent) : Act H Unit := do
  let due ← Act.conduct fun tracker =>
    match tracker.fire? id event with
    | none => (none, none, tracker)
    | some firing => (some firing.callback, some firing.report, firing.tracker)
  match due with
  | none => return
  | some callback => call callback event

def deliver (event : ChangeEvent) : Perceiver H.Callback → Act H Unit
  | .direct callback => call callback event
  | .session id registrar phase => fire call id ⟨registrar, event.key, phase⟩

/-- Tells perceivers one after the other. A panic of one of them leaves out the rest. -/
def deliverAll (event : ChangeEvent) : List (Perceiver H.Callback) → Act H Unit
  | [] => return
  | perceiver :: rest => do
    deliver call event perceiver
    deliverAll event rest

/-- Tells everyone who is subscribed to a phase of changes of a key. -/
def notify (registrar : RegistrarId) (key : Key) (phase : Phase) : Act H Unit := do
  let perceivers ← Act.conduct fun tracker =>
    let perceivers := tracker.snapshot registrar key phase
    let report := TraceEvent.notified registrar key phase perceivers.length
    (perceivers, if perceivers.isEmpty then none else some report, tracker)
  deliverAll call ⟨registrar, key, phase⟩ perceivers

/-- Runs a body between the two notifications of a change. The second one comes however the
body ends; the body does not run if the first one panics. -/
def withMutation (registrar : RegistrarId) (key : Key) (body : Act H α) : Act H α := do
  notify call registrar key .willChange
  match ← Act.attempt body with
  | .ok value =>
    notify call registrar key .didChange
    return value
  | .error panic =>
    Act.whileUnwinding (notify call registrar key .didChange)
    Act.resume (.error panic)

/-- Writes a value as a mutation unless it is the same as the one that is there. Says whether
it was written. -/
def setIfChanged (registrar : RegistrarId) (key : Key) (same : α → α → Bool) (read : Act H α)
    (write : α → Act H Unit) (value : α) : Act H Bool := do
  if same (← read) value then return false
  withMutation call registrar key (write value)
  return true

end ChangeTracking
