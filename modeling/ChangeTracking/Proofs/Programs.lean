import ChangeTracking.Proofs.History

/-! Programs over the library as they are written down. A computation is a tree of steps that do
not say what they are; a program says it, and so the reads that are executed in the course of its
run can be named without looking at what was recorded. -/
namespace ChangeTracking

/-- Programs out of reads, recordings, tracked reads, changes whose callbacks are programs in turn,
panics, ways of containing them, work on other threads and any other steps. -/
inductive Program (H : Host) : Type → Type 1 where
  | done {α : Type} (value : α) : Program H α
  | unwind {α : Type} (panic : Panic) : Program H α
  | bind {α β : Type} (first : Program H α) (next : α → Program H β) : Program H β
  | catching {α : Type} (body : Program H α) : Program H (Except Panic α)
  | onThread {α : Type} (body : Program H α) : Program H (Except Panic α)
  /-- A step that leaves alone what belongs to the thread, as the operations on registrars,
  subscriptions and sessions do. -/
  | step {α : Type} (change : World H → α × World H)
      (apart : ∀ world, (change world).2.thread = world.thread) : Program H α
  | access (registrar : RegistrarId) (key : Key) : Program H Unit
  | record {α : Type} (body : Program H α) : Program H (α × AccessList)
  | trackSession {α : Type} (body : Program H α) (callbacks : PerPhase H.Callback) :
      Program H (Except TrackingError (α × SessionId))
  | notify (answers : H.Callback → ChangeEvent → Program H Unit) (registrar : RegistrarId)
      (key : Key) (phase : Phase) : Program H Unit
  | withMutation {α : Type} (answers : H.Callback → ChangeEvent → Program H Unit)
      (registrar : RegistrarId) (key : Key) (body : Program H α) : Program H α

/-- One read: the registrar that was asked and the key. -/
abbrev Read := RegistrarId × Key

namespace World
variable {H : Host}

def recordingAnew (world : World H) : World H :=
  { world with thread := { world.thread with recording := some ∅ } }

end World

namespace Act
variable {H : Host} {α : Type}

/-- The reads of what comes after a computation, which nothing does after a panic. -/
def readsAfter (act : Act H α) (world : World H) (reads : α → World H → List Read) : List Read :=
  match act.run world with
  | (.ok value, after) => reads value after
  | (.error _, _) => []

end Act

section Callbacks
variable {H : Host} (call : Call H) (reads : H.Callback → ChangeEvent → World H → List Read)

/-- The reads that are executed when one perceiver is told, given those of each callback. -/
def readsOfTelling (event : ChangeEvent) (perceiver : Perceiver H.Callback) (world : World H) :
    List Read :=
  match perceiver with
  | .direct callback => reads callback event world
  | .session id registrar phase =>
    match world.tracker.fire? id ⟨registrar, event.key, phase⟩ with
    | none => []
    | some firing => reads firing.callback ⟨registrar, event.key, phase⟩
        (world.advance (some firing.report) firing.tracker)

def readsOfTellingAll (event : ChangeEvent) :
    List (Perceiver H.Callback) → World H → List Read
  | [], _ => []
  | perceiver :: rest, world =>
    readsOfTelling reads event perceiver world ++
      (deliver call event perceiver).readsAfter world fun _ after =>
        readsOfTellingAll event rest after

/-- The reads that are executed by the callbacks that a notification reaches. -/
def readsOfNotifying (event : ChangeEvent) (world : World H) : List Read :=
  readsOfTellingAll call reads event
    (world.tracker.snapshot event.registrar event.key event.phase)
    (world.notified event.registrar event.key event.phase)

/-- The reads that are executed by a mutation, given those of its body: first those of the callbacks
that are told before, and if these let the body run, its own and those of the callbacks after. -/
def readsOfMutation {α : Type} (registrar : RegistrarId) (key : Key) (body : Act H α)
    (bodyReads : World H → List Read) (world : World H) : List Read :=
  readsOfNotifying call reads ⟨registrar, key, .willChange⟩ world ++
    (notify call registrar key .willChange).readsAfter world fun _ middle =>
      bodyReads middle ++
        match body.run middle with
        | (.ok _, after) => readsOfNotifying call reads ⟨registrar, key, .didChange⟩ after
        | (.error _, after) =>
          readsOfNotifying call reads ⟨registrar, key, .didChange⟩ after.unwindingNow

end Callbacks

namespace Program
variable {H : Host}

def act : {α : Type} → Program H α → Act H α
  | _, .done value => .done value
  | _, .unwind panic => .unwind panic
  | _, .bind first next => first.act >>= fun value => (next value).act
  | _, .catching body => body.act.attempt
  | _, .onThread body => body.act.onThread
  | _, .step change _ => .step change .done
  | _, .access registrar key => ChangeTracking.access registrar key
  | _, .record body => ChangeTracking.record body.act
  | _, .trackSession body callbacks => ChangeTracking.trackSession body.act callbacks
  | _, .notify answers registrar key phase =>
    ChangeTracking.notify (fun callback event => (answers callback event).act) registrar key phase
  | _, .withMutation answers registrar key body =>
    ChangeTracking.withMutation (fun callback event => (answers callback event).act) registrar key
      body.act

/-- The reads that are executed on the thread of a program in the course of its run, in the order
of time and whether anything is being recorded or not. -/
def reads : {α : Type} → Program H α → World H → List Read
  | _, .done _, _ => []
  | _, .unwind _, _ => []
  | _, .bind first next, world =>
    first.reads world ++ first.act.readsAfter world fun value after => (next value).reads after
  | _, .catching body, world => body.reads world
  | _, .onThread _, _ => []
  | _, .step _ _, _ => []
  | _, .access registrar key, _ => [(registrar, key)]
  | _, .record body, world => body.reads world.recordingAnew
  | _, .trackSession body callbacks, world =>
    if callbacks.isEmpty then [] else body.reads world.recordingAnew
  | _, .notify answers registrar key phase, world =>
    readsOfNotifying (fun callback event => (answers callback event).act)
      (fun callback event => (answers callback event).reads) ⟨registrar, key, phase⟩ world
  | _, .withMutation answers registrar key body, world =>
    readsOfMutation (fun callback event => (answers callback event).act)
      (fun callback event => (answers callback event).reads) registrar key body.act body.reads world

end Program
end ChangeTracking
