import ChangeTracking.Recording

/-! Tracking: run a read, then wait once for a change to what it read. Subscriptions are made
after the read has returned, so what the read itself writes never reaches its own session. -/
namespace ChangeTracking
variable {H : Host} {α : Type}

/-- Gives a session its callbacks and subscriptions. The refusal of a session that is not
pending comes back as an error, and then nothing has happened. -/
def arm (id : SessionId) (callbacks : PerPhase H.Callback) : Act H (Except TrackingError Unit) :=
  Act.conduct fun tracker =>
    match tracker.arm id callbacks with
    | .error error => (.error error, none, tracker)
    | .ok (report, tracker) => (.ok (), report, tracker)

/-- Installs a session. At least one callback is required, whatever the state of the session. -/
def install (id : SessionId) (callbacks : PerPhase H.Callback) :
    Act H (Except TrackingError Unit) :=
  if callbacks.isEmpty then return .error .missingCallbacks else arm id callbacks

/-- Ends a session that has not ended yet: its subscriptions go and no callback runs any more. -/
def cancelSession (id : SessionId) : Act H Unit :=
  Act.conduct fun tracker =>
    match tracker.cancelSession? id with
    | none => ((), none, tracker)
    | some (report, tracker) => ((), some report, tracker)

/-- A read with a session over what it read, installed with callbacks. -/
def trackArmed (read : Act H α) (callbacks : PerPhase H.Callback) : Act H (α × SessionId) := do
  let (value, reads) ← record read
  let id ← Act.track (·.createSession reads)
  let _ ← arm id callbacks
  return (value, id)

/-- A tracked read whose callback gets the first notice of a change that is about to happen. -/
def trackWillChange (read : Act H α) (callback : H.Callback) : Act H α := do
  let (value, _) ← trackArmed read ⟨some callback, none⟩
  return value

/-- A tracked read. The callbacks are looked at before the read runs. -/
def trackSession (read : Act H α) (callbacks : PerPhase H.Callback) :
    Act H (Except TrackingError (α × SessionId)) := do
  if callbacks.isEmpty then return .error .missingCallbacks
  return .ok (← trackArmed read callbacks)

end ChangeTracking
