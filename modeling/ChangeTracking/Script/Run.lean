import ChangeTracking.Script.Perform

namespace ChangeTracking.Script
variable {V : Type}

/-- So many operations may be started. -/
def stepLimit : Nat := 1000

/-- So many scripts may be active within one another. -/
def depthLimit : Nat := 64

def start (enter : Enter V) (op : Op V) : Act (host V) (Outcome V) := do
  if stepLimit ≤ (← get).host.steps then return .error .stepLimit
  Act.modifyHost fun scene => { scene with steps := scene.steps + 1 }
  (perform enter op).run

def Outcome.isNothing : Outcome V → Bool
  | .ok reply => reply.isNothing
  | .error _ => false

/-- Runs a step and notes its outcome if there is something to note. -/
def runStep (enter : Enter V) (step : Step V) : Act (host V) Unit := do
  let outcome ← start enter step.op
  unless Outcome.isNothing outcome do Act.note (.outcome step.label outcome)

/-- Runs the steps of a script one after the other; a panic leaves out the rest. There has to be
room for the script itself and for each script that it enters. -/
def runScript : (room : Nat) → Enter V
  | _, [] => return
  | 0, _ :: _ => Act.note .depthLimit
  | room + 1, steps => steps.forM (runStep (runScript room))

/-- What can be seen of a registrar in a slot. -/
structure RegistrarView where
  slot : Slot
  id : RegistrarId
  subscriptions : Nat
  observed : List Key

structure SessionView where
  slot : Slot
  status : SessionStatus
  changed : Option Key
  subscriptions : Nat

structure CounterView where
  slot : Slot
  registrar : RegistrarId
  subscriptions : Nat
  outline : Outline

/-- What can be seen of a world between two steps; to look is not to read. -/
structure Snapshot where
  registrars : List RegistrarView
  sessions : List SessionView
  counters : List CounterView
  totals : Totals
  recording : Bool

/-- Looks at a world, with the keys for which observation is asked. -/
def Snapshot.of (watched : List Key) (world : World (host V)) : Snapshot :=
  let tracker := world.tracker
  { registrars := world.host.registrars.entries.map fun (slot, id) =>
      ⟨slot, id, tracker.subscriptionCount id, watched.filter (tracker.observes id)⟩
    sessions := world.host.sessions.entries.map fun (slot, id) =>
      ⟨slot, (tracker.session id).status, (tracker.session id).changed,
        tracker.sessionSubscriptions id⟩
    counters := world.host.counters.entries.map fun (slot, id) =>
      let counter := (world.counters[id.index]?).getD default
      ⟨slot, counter.registrar, tracker.subscriptionCount counter.registrar,
        counter.outline tracker⟩
    totals := tracker.totals
    recording := world.thread.recording.isSome }

/-- What a step did: how it ended, what was logged meanwhile and what can be seen afterwards. -/
structure StepReport (V : Type) where
  ending : Except Panic (Outcome V)
  log : List (LogEntry (host V))
  snapshot : Snapshot

/-- Whether an entry stands in a log that is kept with or without traces. -/
def isShown (traced : Bool) : LogEntry (host V) → Bool
  | .trace _ => traced
  | .note _ => true

/-- Plays the steps of a script in a world; each one has all the room there is. -/
def playFrom (traced : Bool) (watched : List Key) (world : World (host V)) :
    List (Step V) → List (StepReport V)
  | [] => []
  | step :: rest =>
    let quiet := { world with log := #[] }
    let (ending, after) := (start (runScript depthLimit) step.op).run quiet
    ⟨ending, after.log.toList.filter (isShown traced), .of watched after⟩ ::
      playFrom traced watched after rest

def play (traced : Bool) (watched : List Key) (steps : List (Step V)) : List (StepReport V) :=
  playFrom traced watched (World.initial Scene.empty) steps

end ChangeTracking.Script
