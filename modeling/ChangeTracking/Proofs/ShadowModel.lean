import ChangeTracking.Proofs.Calls
import Mathlib.Algebra.GroupWithZero.Nat
import Mathlib.Data.Finset.Card

/-! Tracking without tables and tokens. The model keeps for each session what it read and a few
flags, and for a change it asks each session in turn whether it is hit. The library is compared
with it over all sequences of operations in which callbacks do nothing to the library. -/
namespace ChangeTracking

/-- What the model keeps of a session: the pairs that it read, the phases that it wants and those
that it got, and whether it was cancelled. -/
structure Shadow (n : Nat) where
  reads : Finset (Fin n × Key)
  wants : Phase → Bool
  delivered : Phase → Bool
  cancelled : Bool

namespace Shadow
variable {n : Nat} (shadow : Shadow n)

def finished : Bool :=
  (!shadow.wants .willChange || shadow.delivered .willChange) &&
    (!shadow.wants .didChange || shadow.delivered .didChange)

def live : Bool := !shadow.cancelled && !shadow.finished

def pending (phase : Phase) : Bool :=
  shadow.live && shadow.wants phase && !shadow.delivered phase

def pendingCount : Nat := (shadow.pending .willChange).toNat + (shadow.pending .didChange).toNat

def status : SessionStatus :=
  if shadow.cancelled then .cancelled else if shadow.finished then .fired else .installed

def touches (registrar : Fin n) : Bool := registrar ∈ shadow.reads.image (·.1)

/-- Whether one phase of a change to a key is to be delivered. -/
def isHit (registrar : Fin n) (key : Key) (phase : Phase) : Bool :=
  shadow.pending phase && (registrar, key) ∈ shadow.reads

def deliver (phase : Phase) : Shadow n :=
  { shadow with delivered := fun other => other = phase || shadow.delivered other }

def cancel : Shadow n := if shadow.live then { shadow with cancelled := true } else shadow

end Shadow

/-- A session in the model, with the callbacks that it was given and the events that hit it. -/
structure Tracked (n : Nat) (κ : Type) where
  shadow : Shadow n
  callbacks : PerPhase κ
  hits : List ChangeEvent

namespace Tracked
variable {n : Nat} {κ : Type}

def create (reads : List (Fin n × Key)) (callbacks : PerPhase κ) : Tracked n κ where
  shadow := ⟨reads.toFinset, fun phase => (callbacks.find? phase).isSome, fun _ => false, false⟩
  callbacks := callbacks
  hits := []

def deliver (tracked : Tracked n κ) (event : ChangeEvent) : Tracked n κ :=
  { tracked with
    shadow := tracked.shadow.deliver event.phase, hits := tracked.hits ++ [event] }

/-- One phase of a change hits the session or passes it by. -/
def notify (registrar : Fin n) (key : Key) (phase : Phase) (tracked : Tracked n κ) :
    Tracked n κ :=
  if tracked.shadow.isHit registrar key phase then tracked.deliver ⟨⟨registrar⟩, key, phase⟩
  else tracked

def cancel (tracked : Tracked n κ) : Tracked n κ :=
  { tracked with shadow := tracked.shadow.cancel }

end Tracked

/-- A computation of the host that does nothing to the library. -/
structure Bystander {H : Host} (discipline : Discipline H) where
  act : Act H Unit
  inert : ∀ world, (act.run world).1 = .ok () ∧ discipline.Own world (act.run world).2

variable {H : Host} {discipline : Discipline H} {n : Nat}

/-- Callbacks that leave their note and do nothing to the library. -/
def Discipline.bystanders (discipline : Discipline H)
    (call : H.Callback → ChangeEvent → Bystander discipline) : Call H :=
  discipline.announced fun callback event => (call callback event).act

/-- The operations that are compared: on registrars that are all there, and on sessions by their
number. -/
inductive Op (discipline : Discipline H) (n : Nat) where
  | track (reads : List (Fin n × Key)) (callbacks : PerPhase H.Callback)
  | mutate (registrar : Fin n) (key : Key) (body : Bystander discipline)
  | notify (registrar : Fin n) (key : Key) (phase : Phase)
  | cancel (id : SessionId)

def readAll : List (Fin n × Key) → Act H Unit
  | [] => pure ()
  | read :: rest => do
    access ⟨read.1⟩ read.2
    readAll rest

namespace Op

def model : Op discipline n → List (Tracked n H.Callback) → List (Tracked n H.Callback)
  | .track reads callbacks, sessions =>
    if callbacks.isEmpty then sessions else sessions ++ [.create reads callbacks]
  | .mutate registrar key _, sessions =>
    (sessions.map (.notify registrar key .willChange)).map (.notify registrar key .didChange)
  | .notify registrar key phase, sessions => sessions.map (.notify registrar key phase)
  | .cancel id, sessions => sessions.modify id.index .cancel

def perform (call : H.Callback → ChangeEvent → Bystander discipline) :
    Op discipline n → Act H Unit
  | .track reads callbacks => do
    let _ ← trackSession (readAll reads) callbacks
    return
  | .mutate registrar key body =>
    withMutation (discipline.bystanders call) ⟨registrar⟩ key body.act
  | .notify registrar key phase =>
    ChangeTracking.notify (discipline.bystanders call) ⟨registrar⟩ key phase
  | .cancel id => cancelSession id

def modelAll (ops : List (Op discipline n)) : List (Tracked n H.Callback) :=
  ops.foldl (fun sessions op => op.model sessions) []

def performAll (call : H.Callback → ChangeEvent → Bystander discipline) :
    List (Op discipline n) → Act H Unit
  | [] => pure ()
  | op :: rest => do
    op.perform call
    performAll call rest

end Op

def createRegistrars : Nat → Act H Unit
  | 0 => pure ()
  | count + 1 => do
    createRegistrars count
    let _ ← Act.track (·.createRegistrar)
    return

/-- What the library has in common with the model. -/
structure Agrees (discipline : Discipline H) (sessions : List (Tracked n H.Callback))
    (world : World H) : Prop where
  size : world.tracker.sessions.size = sessions.length
  /-- The callback for a phase ran as often as the flag says, and with the events that hit. -/
  called : ∀ index tracked, sessions[index]? = some tracked →
    (∀ phase, ((world.callsOf discipline ⟨index⟩).filter fun call =>
      call.event.phase = phase).length = (tracked.shadow.delivered phase).toNat) ∧
    (world.callsOf discipline ⟨index⟩).map (·.event) = tracked.hits ∧
    ∀ call ∈ world.callsOf discipline ⟨index⟩,
      tracked.callbacks.find? call.event.phase = some call.callback
  owned : ∀ call ∈ world.calls discipline, ∃ index < sessions.length, call.owner = some ⟨index⟩
  status : ∀ index tracked, sessions[index]? = some tracked →
    (world.tracker.session ⟨index⟩).status = tracked.shadow.status
  changed : ∀ index tracked, sessions[index]? = some tracked →
    (world.tracker.session ⟨index⟩).changed = tracked.hits.getLast?.map (·.key)
  held : ∀ index tracked, sessions[index]? = some tracked →
    world.tracker.sessionSubscriptions ⟨index⟩ =
      (tracked.shadow.reads.image (·.1)).card * tracked.shadow.pendingCount
  count : ∀ registrar : Fin n, world.tracker.subscriptionCount ⟨registrar⟩ =
    (sessions.map fun tracked =>
      if tracked.shadow.touches registrar then tracked.shadow.pendingCount else 0).sum
  observed : ∀ (registrar : Fin n) key, world.tracker.observes ⟨registrar⟩ key = true ↔
    ∃ tracked ∈ sessions, (registrar, key) ∈ tracked.shadow.reads ∧
      ∃ phase, tracked.shadow.pending phase = true
  totals : world.tracker.totals =
    ⟨sessions.countP fun tracked => tracked.shadow.reads.Nonempty,
      sessions.countP fun tracked => tracked.shadow.status = .fired,
      sessions.countP fun tracked => tracked.shadow.status = .cancelled⟩

end ChangeTracking
