import ChangeTracking.Counter.View
import ChangeTracking.Counter.Failure
import ChangeTracking.Tracking
import ChangeTracking.Mail
import ChangeTracking.Text.Sink

/-! The counter application: a counter is written step by step, and its view is rendered
again when something that it shows is about to change. Each rendering is a tracked read
that posts the first change to a mailbox; the loop empties the mailbox after each write. -/
namespace ChangeTracking

/-- What a run is asked to do. -/
structure RenderConfig where
  steps : UInt32
  mode : RenderMode
  equalityGated : Bool
deriving DecidableEq

/-- What the runs did so far: the renderings, the changes delivered and the writes that were
left out because they would have changed nothing. The tallies are words of 32 bits and wrap. -/
structure RenderSummary where
  renders : UInt32
  notifications : UInt32
  skippedWrites : UInt32
deriving DecidableEq

def RenderSummary.zero : RenderSummary := ⟨0, 0, 0⟩

/-- The state of the application between two actions. The session is that of the last
rendering whose line was written. -/
structure RenderLoop where
  config : RenderConfig
  counter : CounterId
  mailbox : MailboxId
  session : Option SessionId
  summary : RenderSummary
  sink : Sink

/-- Actions of the application; one that fails leaves behind what was done until then. -/
abbrev Rendering (H : Host) := ExceptT Failure (StateT RenderLoop (Act H))

namespace RenderLoop
variable {H : Host}

def create (config : RenderConfig) (sink : Sink) : Act H RenderLoop := do
  let counter ← Counter.create
  let mailbox ← createMailbox
  return ⟨config, counter, mailbox, none, .zero, sink⟩

/-- Writes text; it is a failure if not all of it is taken. -/
def put (text : String) : Rendering H Unit := do
  let (complete, sink) := (← get).sink.write text
  modify fun loop => { loop with sink }
  unless complete do throw (.output "writer full")

def line (number : UInt32) (frame : String) : String :=
  "render #" ++ toString number ++ ": " ++ frame ++ "\n"

def countRender (loop : RenderLoop) : RenderLoop :=
  { loop with summary.renders := loop.summary.renders + 1 }

def countNotification (loop : RenderLoop) : RenderLoop :=
  { loop with summary.notifications := loop.summary.notifications + 1 }

def countSkippedWrite (loop : RenderLoop) : RenderLoop :=
  { loop with summary.skippedWrites := loop.summary.skippedWrites + 1 }

variable (posting : Posting H)

/-- Renders the view and waits for the first change to what it showed. -/
def render : Rendering H Unit := do
  let loop ← get
  let callbacks := (∅ : PerPhase H.Callback).insert .willChange (posting.callback loop.mailbox)
  match ← trackSession (Counter.view loop.counter loop.config.mode) callbacks with
  | .error error => throw (.tracking error)
  | .ok (frame, session) =>
    modify countRender
    put (line (← get).summary.renders frame)
    modify fun loop => { loop with session := some session }

/-- Writes a value through one of two setters. The gated one may leave the write out. -/
def setter (gated : Bool) (always : Act H Unit) (ifChanged : Act H Bool) : Act H Bool :=
  if gated then ifChanged
  else do
    always
    return true

/-- The write of a step: the count on even steps, the name on odd ones. Each value is written
twice before the next one. Says whether it was written. -/
def write (loop : RenderLoop) (step : Nat) : Act H Bool :=
  let generation := step / 4
  let name := "n" ++ toString generation
  if step % 2 = 0 then
    setter loop.config.equalityGated (Counter.setCount posting.call loop.counter generation)
      (Counter.setCountIfChanged posting.call loop.counter generation)
  else
    setter loop.config.equalityGated (Counter.setName posting.call loop.counter name)
      (Counter.setNameIfChanged posting.call loop.counter name)

def receive (step : Nat) : List ChangeEvent → Rendering H Unit
  | [] => return
  | event :: rest => do
    (Act.report (.viewInvalidated step event.key) : Act H Unit)
    modify countNotification
    receive step rest

/-- One step: a write, and a rendering if a change arrived. -/
def step (number : Nat) : Rendering H Unit := do
  let loop ← get
  unless ← write posting loop number do modify countSkippedWrite
  let events ← (collect loop.mailbox : Act H (List ChangeEvent))
  receive number events
  unless events.isEmpty do render posting

def steps : (remaining number : Nat) → Rendering H Unit
  | 0, _ => return
  | remaining + 1, number => do
    step posting number
    steps remaining (number + 1)

def close : Rendering H Unit := do
  match (← get).session with
  | none => return
  | some session =>
    modify fun loop => { loop with session := none }
    (cancelSession session : Act H Unit)

/-- A run from the first rendering to the end of the last session. A further run goes on with
the counter as it is and with the tallies of the runs before. -/
def run : Rendering H RenderSummary := do
  render posting
  steps posting (← get).config.steps.toNat 0
  close
  let summary := (← get).summary
  (Act.report (.runComplete summary.renders summary.notifications summary.skippedWrites) :
    Act H Unit)
  return summary

def discard (loop : RenderLoop) : Act H Unit := Counter.discard loop.counter

end RenderLoop
end ChangeTracking
