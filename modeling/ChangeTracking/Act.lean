import ChangeTracking.World

/-! Computations over the tracked world. A computation changes the world and ends with a value
or with a panic that unwinds through its callers; what it did until then stays done. It is kept
as the tree of its steps, so that not only its end but all it passes through can be spoken of. -/
namespace ChangeTracking

structure Panic where
  message : String
deriving DecidableEq

/-- A computation: it has ended, or it changes the world at one stroke and goes on, or it
tries out a body and goes on with how that ended. -/
inductive Act (H : Host) : Type → Type 1 where
  | done {α : Type} (value : α) : Act H α
  | unwind {α : Type} (panic : Panic) : Act H α
  | step {α β : Type} (change : World H → β × World H) (next : β → Act H α) : Act H α
  | guarded {α β : Type} (body : Act H β) (next : Except Panic β → Act H α) : Act H α

/-- How the host runs a callback that receives an event. -/
abbrev Call (H : Host) := H.Callback → ChangeEvent → Act H Unit

namespace Act
variable {H : Host} {α β γ : Type}

/-- One computation after the other; a panic of the first leaves out the second. -/
protected def bind : Act H α → (α → Act H β) → Act H β
  | .done value, rest => rest value
  | .unwind panic, _ => .unwind panic
  | .step change next, rest => .step change fun value => (next value).bind rest
  | .guarded body next, rest => .guarded body fun result => (next result).bind rest

instance : Monad (Act H) where
  pure := .done
  bind := Act.bind

instance : MonadStateOf (World H) (Act H) where
  get := .step (fun world => (world, world)) .done
  set world := .step (fun _ => ((), world)) .done
  modifyGet change := .step change .done

/-- How a computation ends, and the world that it leaves. -/
def run : {α : Type} → Act H α → World H → Except Panic α × World H
  | _, .done value, world => (.ok value, world)
  | _, .unwind panic, world => (.error panic, world)
  | _, .step change next, world => (next (change world).1).run (change world).2
  | _, .guarded body next, world => (next (body.run world).1).run (body.run world).2

/-- Runs a computation to its end and hands over how it ended. -/
def attempt (act : Act H α) : Act H (Except Panic α) := .guarded act .done

/-- Ends as an attempted computation did; a panic goes on unwinding. -/
def resume : Except Panic α → Act H α
  | .ok value => .done value
  | .error panic => .unwind panic

def panic (message : String) : Act H α := .unwind ⟨message⟩

/-- A last step that is taken however the computation ends. -/
def ensuring (act : Act H α) (last : Act H Unit) : Act H α := do
  let result ← attempt act
  last
  resume result

/-- A step of the library, which may report it. -/
def conduct (step : Tracker H.Callback → α × Option TraceEvent × Tracker H.Callback) : Act H α :=
  modifyGet fun world =>
    let (value, report, tracker) := step world.tracker
    (value, world.advance report tracker)

def track (step : Tracker H.Callback → α × Tracker H.Callback) : Act H α :=
  modifyGet fun world =>
    let (value, tracker) := step world.tracker
    (value, { world with tracker })

def modifyTracker (step : Tracker H.Callback → Tracker H.Callback) : Act H Unit :=
  modify fun world => { world with tracker := step world.tracker }

def log (entry : LogEntry H) : Act H Unit :=
  modify fun world => { world with log := world.log.push entry }

def report (event : TraceEvent) : Act H Unit := log (.trace event)

def note (entry : H.Note) : Act H Unit := log (.note entry)

def modifyHost (step : H.State → H.State) : Act H Unit :=
  modify fun world => { world with host := step world.host }

def getThread : Act H ThreadState := do return (← get).thread

/-- A step on what belongs to the thread. -/
def onThreadState (step : ThreadState → α × ThreadState) : Act H α :=
  modifyGet fun world =>
    let (value, thread) := step world.thread
    (value, { world with thread })

/-- Keeps a registrar alive while a computation runs. -/
def holding (registrar : RegistrarId) (act : Act H α) : Act H α := do
  modifyTracker (·.retain registrar)
  ensuring act (modifyTracker (·.release registrar))

/-- Runs a computation with the mark that a panic is unwinding. -/
def whileUnwinding (act : Act H α) : Act H α := do
  let before ← onThreadState fun thread => (thread.unwinding, { thread with unwinding := true })
  ensuring act (onThreadState fun thread => ((), { thread with unwinding := before }))

/-- Runs a computation on a thread of its own and waits for it. Its panic does not pass on. -/
def onThread (act : Act H α) : Act H (Except Panic α) := do
  let waiting ← onThreadState fun thread => (thread, .fresh)
  let result ← attempt act
  onThreadState fun _ => ((), waiting)
  return result

end Act
end ChangeTracking
