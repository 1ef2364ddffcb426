import ChangeTracking.Proofs.Delivery
import ChangeTracking.Proofs.HashOrder
import ChangeTracking.Proofs.RecordedReads

/-! Nothing depends on the order of hash maps. Two runs of one program that arm their sessions in
different orders, from worlds that were armed in different orders before, pass through worlds which
differ only in what nobody can see: the order in which sessions keep their installations. -/
namespace ChangeTracking
variable {H : Host} {α β : Type}

/-- Gives a session its callbacks and subscriptions, with its access list gone through in some
order. -/
def armIn (order : HashOrder) (id : SessionId) (callbacks : PerPhase H.Callback) :
    Act H (Except TrackingError Unit) :=
  Act.conduct fun tracker =>
    match tracker.armIn order id callbacks with
    | .error error => (.error error, none, tracker)
    | .ok (report, tracker) => (.ok (), report, tracker)

def installIn (order : HashOrder) (id : SessionId) (callbacks : PerPhase H.Callback) :
    Act H (Except TrackingError Unit) :=
  if callbacks.isEmpty then return .error .missingCallbacks else armIn order id callbacks

def trackArmedIn (order : HashOrder) (read : Act H α) (callbacks : PerPhase H.Callback) :
    Act H (α × SessionId) := do
  let (value, reads) ← record read
  let id ← Act.track (·.createSession reads)
  let _ ← armIn order id callbacks
  return (value, id)

def trackSessionIn (order : HashOrder) (read : Act H α) (callbacks : PerPhase H.Callback) :
    Act H (Except TrackingError (α × SessionId)) := do
  if callbacks.isEmpty then return .error .missingCallbacks
  return .ok (← trackArmedIn order read callbacks)

theorem armIn_ascending (id : SessionId) (callbacks : PerPhase H.Callback) :
    (armIn .ascending id callbacks : Act H _) = arm id callbacks := by
  simp only [armIn, Tracker.armIn_ascending]
  rfl

theorem installIn_ascending (id : SessionId) (callbacks : PerPhase H.Callback) :
    (installIn .ascending id callbacks : Act H _) = install id callbacks := by
  rw [installIn, armIn_ascending]
  rfl

theorem trackSessionIn_ascending (read : Act H α) (callbacks : PerPhase H.Callback) :
    trackSessionIn .ascending read callbacks = trackSession read callbacks := by
  simp only [trackSessionIn, trackArmedIn, armIn_ascending]
  rfl

/-- Worlds that differ at most in the order of what sessions keep. -/
structure World.Alike (left right : World H) : Prop where
  tracker : left.tracker.Alike right.tracker
  rest : right = { left with tracker := right.tracker }

namespace World.Alike
variable {left right : World H} (alike : left.Alike right)
include alike

theorem withTracker {one other : Tracker H.Callback} (same : one.Alike other) :
    ({ left with tracker := one } : World H).Alike { right with tracker := other } :=
  ⟨same, by rw [alike.rest]⟩

theorem advance {one other : Tracker H.Callback} (same : one.Alike other)
    (report : Option TraceEvent) :
    (left.advance report one).Alike (right.advance report other) :=
  ⟨same, by rw [alike.rest]; rfl⟩

theorem withThread (step : ThreadState → ThreadState) :
    ({ left with thread := step left.thread } : World H).Alike
      { right with thread := step right.thread } :=
  ⟨alike.tracker, by rw [alike.rest]⟩

theorem thread : right.thread = left.thread := by rw [alike.rest]

theorem notified (registrar : RegistrarId) (key : Key) (phase : Phase) :
    (left.notified registrar key phase).Alike (right.notified registrar key phase) := by
  rw [World.notified, World.notified, alike.tracker.snapshot]
  exact alike.advance alike.tracker _

end World.Alike

namespace Act

/-- Two computations from two worlds that end alike and pass through worlds that are alike. -/
structure Alike (act act' : Act H α) (left right : World H) : Prop where
  result : (act.run left).1 = (act'.run right).1
  moments : List.Forall₂ World.Alike (act.trail left) (act'.trail right)

/-- From worlds that are alike, two computations go alike. -/
def Agree (act act' : Act H α) : Prop :=
  ∀ left right : World H, left.Alike right → act.Alike act' left right

theorem Alike.after {act act' : Act H α} {left right : World H}
    (alike : act.Alike act' left right) : (act.run left).2.Alike (act'.run right).2 := by
  have moments := alike.moments
  rw [trail, trail] at moments
  exact (List.forall₂_cons.mp moments).1

theorem Alike.history {act act' : Act H α} {left right : World H}
    (alike : act.Alike act' left right) :
    List.Forall₂ World.Alike (act.history left []) (act'.history right []) := by
  have moments := alike.moments
  rw [trail, trail] at moments
  exact (List.forall₂_cons.mp moments).2

namespace Agree

theorem done (value : α) : (.done value : Act H α).Agree (.done value) :=
  fun _ _ alike => ⟨rfl, .cons alike .nil⟩

theorem unwind (panic : Panic) : (.unwind panic : Act H α).Agree (.unwind panic) :=
  fun _ _ alike => ⟨rfl, .cons alike .nil⟩

theorem step {change change' : World H → α × World H}
    (same : ∀ left right : World H, left.Alike right →
      (change left).1 = (change' right).1 ∧ (change left).2.Alike (change' right).2) :
    (Act.step change .done).Agree (.step change' .done) := by
  intro left right alike
  obtain ⟨value, after⟩ := same left right alike
  exact ⟨congrArg Except.ok value, .cons after (.cons alike .nil)⟩

theorem bind {act act' : Act H α} {rest rest' : α → Act H β} (first : act.Agree act')
    (second : ∀ value, (rest value).Agree (rest' value)) :
    (act >>= rest).Agree (act' >>= rest') := by
  intro left right alike
  have here := first left right alike
  have result := here.result
  have after := here.after
  rcases one : act.run left with ⟨outcome, middle⟩
  rcases other : act'.run right with ⟨outcome', middle'⟩
  rw [one, other] at result after
  obtain rfl : outcome = outcome' := result
  cases outcome with
  | error panic =>
    have stopped : (act >>= rest).run left = (.error panic, middle) := by rw [run_bind, one]
    have stopped' : (act' >>= rest').run right = (.error panic, middle') := by
      rw [run_bind, other]
    refine ⟨by rw [stopped, stopped'], ?_⟩
    rw [trail, trail, stopped, stopped', history_bind, history_bind, one, other]
    exact .cons after here.history
  | ok value =>
    have there := second value middle middle' after
    refine ⟨by rw [run_bind_ok one, run_bind_ok other, there.result], ?_⟩
    rw [trail, trail, run_bind_ok one, run_bind_ok other, history_bind_ok one,
      history_bind_ok other, history_eq_append, (rest' value).history_eq_append]
    exact .cons there.after (List.rel_append there.history here.history)

theorem attempt {act act' : Act H α} (body : act.Agree act') : act.attempt.Agree act'.attempt := by
  intro left right alike
  have here := body left right alike
  exact ⟨congrArg Except.ok here.result, here.moments⟩

theorem resume (result : Except Panic α) :
    (Act.resume result : Act H α).Agree (Act.resume result) := by
  cases result with
  | ok value => exact done value
  | error panic => exact unwind panic

theorem onThreadState (change : ThreadState → α × ThreadState) :
    (Act.onThreadState change : Act H α).Agree (Act.onThreadState change) :=
  step fun left right alike =>
    ⟨by rw [alike.thread], alike.withThread fun thread => (change thread).2⟩

theorem whileUnwinding {act act' : Act H α} (body : act.Agree act') :
    act.whileUnwinding.Agree act'.whileUnwinding :=
  (onThreadState _).bind fun _ =>
    body.attempt.bind fun result => (onThreadState _).bind fun _ => resume result

theorem onThread {act act' : Act H α} (body : act.Agree act') :
    act.onThread.Agree act'.onThread :=
  (onThreadState _).bind fun _ => body.attempt.bind fun result =>
    (onThreadState _).bind fun _ => done result

theorem record {act act' : Act H α} (body : act.Agree act') :
    (record act).Agree (ChangeTracking.record act') :=
  (onThreadState _).bind fun _ => body.attempt.bind fun result =>
    (onThreadState _).bind fun reads => (resume result).bind fun value => done (value, reads)

theorem track {change : Tracker H.Callback → α × Tracker H.Callback}
    (framed : Tracker.Framed change) : (Act.track change : Act H α).Agree (Act.track change) :=
  step fun _ _ alike =>
    have same := alike.tracker.framed framed
    ⟨same.1, alike.withTracker same.2⟩

theorem modifyTracker {change : Tracker H.Callback → Tracker H.Callback}
    (framed : Tracker.Framed fun tracker => ((), change tracker)) :
    (Act.modifyTracker change : Act H Unit).Agree (Act.modifyTracker change) := track framed

theorem createSession (reads : AccessList) :
    (Act.track (·.createSession reads) : Act H _).Agree (Act.track (·.createSession reads)) :=
  step fun _ _ alike =>
    have same := alike.tracker.createSession reads
    ⟨same.1, alike.withTracker same.2⟩

theorem conduct {change change' : Tracker H.Callback → α × Option TraceEvent × Tracker H.Callback}
    (same : ∀ left right : Tracker H.Callback, left.Alike right →
      (change left).1 = (change' right).1 ∧ (change left).2.1 = (change' right).2.1 ∧
        (change left).2.2.Alike (change' right).2.2) :
    (Act.conduct change : Act H α).Agree (Act.conduct change') := by
  apply step
  intro left right alike
  obtain ⟨value, report, after⟩ := same _ _ alike.tracker
  refine ⟨value, ?_⟩
  dsimp only
  rw [report]
  exact alike.advance after _

theorem armIn (order other : HashOrder) (id : SessionId) (callbacks : PerPhase H.Callback) :
    (armIn order id callbacks : Act H _).Agree (ChangeTracking.armIn other id callbacks) := by
  apply conduct
  intro left right alike
  rcases alike.armIn order other id callbacks with
    ⟨error, one, two⟩ | ⟨report, after, after', one, two, same⟩
  · simp only [one, two]
    exact ⟨trivial, trivial, alike⟩
  · simp only [one, two]
    exact ⟨trivial, trivial, same⟩

theorem cancelSession (id : SessionId) :
    (cancelSession id : Act H Unit).Agree (ChangeTracking.cancelSession id) := by
  apply conduct
  intro left right alike
  have ended := alike.cancelSession? id
  cases one : left.cancelSession? id <;> cases other : right.cancelSession? id <;>
    rw [one, other] at ended <;> cases ended
  · exact ⟨rfl, rfl, alike⟩
  · rename_i same
    exact ⟨rfl, congrArg some same.1, same.2⟩

theorem installIn (order other : HashOrder) (id : SessionId) (callbacks : PerPhase H.Callback) :
    (installIn order id callbacks : Act H _).Agree (ChangeTracking.installIn other id callbacks) := by
  unfold ChangeTracking.installIn
  split
  · exact done _
  · exact armIn order other id callbacks

theorem trackSessionIn (order other : HashOrder) {act act' : Act H α} (body : act.Agree act')
    (callbacks : PerPhase H.Callback) :
    (trackSessionIn order act callbacks).Agree
      (ChangeTracking.trackSessionIn other act' callbacks) := by
  unfold ChangeTracking.trackSessionIn
  split
  · exact done _
  · refine bind (bind body.record fun result => ?_) fun _ => done _
    exact (createSession result.2).bind fun id =>
      (armIn order other id callbacks).bind fun _ => done (result.1, id)

section Callbacks
variable {call call' : Call H}
  (answers : ∀ callback event, (call callback event).Agree (call' callback event))
include answers

theorem fire (id : SessionId) (event : ChangeEvent) :
    (fire call id event).Agree (ChangeTracking.fire call' id event) := by
  refine bind (conduct fun left right alike => ?_) fun due => ?_
  · have fired := alike.fire? id event
    cases one : left.fire? id event <;> cases other : right.fire? id event <;>
      rw [one, other] at fired <;> cases fired
    · exact ⟨rfl, rfl, alike⟩
    · rename_i same
      exact ⟨congrArg some same.1, congrArg some same.2.1, same.2.2⟩
  · cases due with
    | none => exact done ()
    | some callback => exact answers callback event

theorem deliverAll (event : ChangeEvent) (perceivers : List (Perceiver H.Callback)) :
    (deliverAll call event perceivers).Agree (ChangeTracking.deliverAll call' event perceivers) := by
  induction perceivers with
  | nil => exact done ()
  | cons perceiver rest ih =>
    refine bind ?_ fun _ => ih
    cases perceiver with
    | direct callback => exact answers callback event
    | session id registrar phase => exact fire answers id _

theorem notify (registrar : RegistrarId) (key : Key) (phase : Phase) :
    (notify call registrar key phase).Agree (ChangeTracking.notify call' registrar key phase) := by
  refine bind (conduct fun left right alike => ?_) fun perceivers => deliverAll answers _ perceivers
  simp only [alike.snapshot]
  exact ⟨trivial, trivial, alike⟩

theorem withMutation {body body' : Act H α} (inside : body.Agree body') (registrar : RegistrarId)
    (key : Key) : (withMutation call registrar key body).Agree
      (ChangeTracking.withMutation call' registrar key body') := by
  have last := notify answers registrar key .didChange
  refine (notify answers registrar key .willChange).bind fun _ =>
    inside.attempt.bind fun result => ?_
  cases result with
  | ok value => exact last.bind fun _ => done value
  | error panic => exact last.whileUnwinding.bind fun _ => unwind panic

end Callbacks
end Agree
end Act

/-- Programs over the library, given the order in which they arm their sessions. Whatever else they
do, they do without a look at the order in which sessions keep their installations. -/
inductive Ordered {H : Host} : {α : Type} → (HashOrder → Act H α) → Prop where
  | done {α : Type} (value : α) : Ordered fun _ => .done value
  | panic {α : Type} (panic : Panic) : Ordered fun _ => (.unwind panic : Act H α)
  | bind {α β : Type} {act : HashOrder → Act H α} {rest : α → HashOrder → Act H β}
      (first : Ordered act) (second : ∀ value, Ordered (rest value)) :
      Ordered fun order => act order >>= fun value => rest value order
  | attempt {α : Type} {act : HashOrder → Act H α} (body : Ordered act) :
      Ordered fun order => (act order).attempt
  | onThread {α : Type} {act : HashOrder → Act H α} (body : Ordered act) :
      Ordered fun order => (act order).onThread
  | whileUnwinding {α : Type} {act : HashOrder → Act H α} (body : Ordered act) :
      Ordered fun order => (act order).whileUnwinding
  | own {α : Type} (change : World H → α × World H)
      (blind : ∀ left right : World H, left.Alike right →
        (change left).1 = (change right).1 ∧ (change left).2.Alike (change right).2) :
      Ordered fun _ => .step change .done
  | createRegistrar : Ordered fun _ => Act.track (·.createRegistrar)
  | retain (id : RegistrarId) : Ordered fun _ => Act.modifyTracker (·.retain id)
  | release (id : RegistrarId) : Ordered fun _ => Act.modifyTracker (·.release id)
  | register (id : RegistrarId) (keys : KeySet) (phase : Phase) (callback : H.Callback) :
      Ordered fun _ => Act.track (·.register id keys phase (.direct callback))
  | cancel (id : RegistrarId) (token : Token) : Ordered fun _ => Act.track (·.cancel id token)
  | cancelAll (id : RegistrarId) : Ordered fun _ => Act.track (·.cancelAll id)
  | access (id : RegistrarId) (key : Key) : Ordered fun _ => access id key
  | record {α : Type} {act : HashOrder → Act H α} (body : Ordered act) :
      Ordered fun order => record (act order)
  | createSession (reads : AccessList) : Ordered fun _ => Act.track (·.createSession reads)
  | install (id : SessionId) (callbacks : PerPhase H.Callback) :
      Ordered fun order => installIn order id callbacks
  | cancelSession (id : SessionId) : Ordered fun _ => cancelSession id
  | trackSession {α : Type} {act : HashOrder → Act H α} (body : Ordered act)
      (callbacks : PerPhase H.Callback) :
      Ordered fun order => trackSessionIn order (act order) callbacks
  | notify {call : HashOrder → Call H}
      (answers : ∀ callback event, Ordered fun order => call order callback event)
      (id : RegistrarId) (key : Key) (phase : Phase) :
      Ordered fun order => notify (call order) id key phase
  | withMutation {α : Type} {call : HashOrder → Call H} {act : HashOrder → Act H α}
      (answers : ∀ callback event, Ordered fun order => call order callback event)
      (body : Ordered act) (id : RegistrarId) (key : Key) :
      Ordered fun order => withMutation (call order) id key (act order)

private theorem framed_cancel {κ : Type} (id : RegistrarId) (token : Token) :
    Tracker.Framed fun tracker : Tracker κ => tracker.cancel id token := by
  intro tracker sessions
  have table : ({ tracker with sessions } : Tracker κ).table id = tracker.table id := rfl
  simp only [Tracker.cancel, table]
  split
  · split <;> rfl
  · rfl

/-- A program goes alike in any two orders. -/
theorem Ordered.agree {program : HashOrder → Act H α} (ordered : Ordered program)
    (first second : HashOrder) : (program first).Agree (program second) := by
  induction ordered with
  | done value => exact .done value
  | panic panic => exact .unwind panic
  | bind _ _ first second => exact first.bind second
  | attempt _ body => exact body.attempt
  | onThread _ body => exact body.onThread
  | whileUnwinding _ body => exact body.whileUnwinding
  | own change blind => exact .step blind
  | createRegistrar => exact .track fun _ _ => rfl
  | retain id => exact .modifyTracker fun _ _ => rfl
  | release id => exact .modifyTracker fun _ _ => rfl
  | register id keys phase callback => exact .track fun _ _ => rfl
  | cancel id token => exact .track (framed_cancel id token)
  | cancelAll id => exact .track fun _ _ => rfl
  | access id key => exact .onThreadState _
  | record _ body => exact body.record
  | createSession reads => exact .createSession reads
  | install id callbacks => exact .installIn first second id callbacks
  | cancelSession id => exact .cancelSession id
  | trackSession _ callbacks body => exact body.trackSessionIn first second callbacks
  | notify _ id key phase answers => exact .notify answers id key phase
  | withMutation _ _ id key answers body => exact .withMutation answers body id key

/-- Worlds in which everything looks the same: the tables with the numbers, phases, keys and perceivers
of their subscriptions, the sessions with what they count, the log with all calls and reports, and
all else. -/
structure World.LooksLike (left right : World H) : Prop where
  registrars : left.tracker.registrars = right.tracker.registrars
  totals : left.tracker.totals = right.tracker.totals
  sessions : left.tracker.sessions.size = right.tracker.sessions.size
  status : ∀ id, (left.tracker.session id).status = (right.tracker.session id).status
  callbacks : ∀ id, (left.tracker.session id).callbacks = (right.tracker.session id).callbacks
  changed : ∀ id, (left.tracker.session id).changed = (right.tracker.session id).changed
  reads : ∀ id, (left.tracker.session id).reads = (right.tracker.session id).reads
  subscriptions : ∀ id, left.tracker.sessionSubscriptions id = right.tracker.sessionSubscriptions id
  log : left.log = right.log
  thread : left.thread = right.thread
  counters : left.counters = right.counters
  mailboxes : left.mailboxes = right.mailboxes
  host : left.host = right.host

theorem World.Alike.looksLike {left right : World H} (alike : left.Alike right) :
    left.LooksLike right where
  registrars := alike.tracker.registrars.symm
  totals := alike.tracker.totals.symm
  sessions := alike.tracker.size.symm
  status id := (alike.tracker.sessions id).status.symm
  callbacks id := (alike.tracker.sessions id).callbacks.symm
  changed id := (alike.tracker.sessions id).changed.symm
  reads id := (alike.tracker.sessions id).reads.symm
  subscriptions id := (alike.tracker.sessionSubscriptions id).symm
  log := by rw [alike.rest]
  thread := by rw [alike.rest]
  counters := by rw [alike.rest]
  mailboxes := by rw [alike.rest]
  host := by rw [alike.rest]

theorem Reachable.alike {discipline : Discipline H} {world : World H}
    (reachable : Reachable discipline world) : world.Alike world := by
  refine ⟨⟨rfl, rfl, rfl, fun id => ?_⟩, rfl⟩
  exact ⟨rfl, rfl, rfl, rfl, .refl _, (reachable.inStep.sessions id).apart⟩

/-- A session that is armed in two orders answers the same and leaves worlds that look the same. So do
all worlds through which any program passes from there, in whatever orders it arms further sessions,
and it ends in the same way. -/
theorem Reachable.order_independent {discipline : Discipline H} {world : World H}
    (reachable : Reachable discipline world) (id : SessionId) (callbacks : PerPhase H.Callback)
    (one other : HashOrder) :
    let left := (armIn one id callbacks).run world
    let right := (armIn other id callbacks).run world
    left.1 = right.1 ∧ left.2.LooksLike right.2 ∧
      ∀ {α : Type} {program : HashOrder → Act H α}, Ordered program → ∀ first second : HashOrder,
        ((program first).run left.2).1 = ((program second).run right.2).1 ∧
          List.Forall₂ World.LooksLike ((program first).trail left.2)
            ((program second).trail right.2) := by
  intro left right
  have armed := Act.Agree.armIn one other id callbacks world world reachable.alike
  refine ⟨armed.result, armed.after.looksLike, ?_⟩
  intro α program ordered first second
  have later := ordered.agree first second left.2 right.2 armed.after
  exact ⟨later.result, later.moments.imp fun _ _ alike => alike.looksLike⟩

/-- Two keys of one registrar and one of another are read, for a session that is still to be armed. -/
def readTwo : Act Host.plain SessionId := do
  let first ← Act.track (·.createRegistrar)
  let second ← Act.track (·.createRegistrar)
  Act.track (·.createSession (.ofReads [(first, ⟨"a"⟩), (first, ⟨"b"⟩), (second, ⟨"a"⟩)]))

theorem reachable_readTwo : Reachable Discipline.plain (readTwo.run (World.initial ())).2 :=
  ⟨_, readTwo, (), .bind .createRegistrar fun _ => .bind .createRegistrar fun _ =>
    .createSession _, List.mem_cons_self, rfl⟩

/-- A change of the key of the second registrar, with callbacks that do nothing but be noted. -/
def changeSecond (_ : HashOrder) : Act Host.plain Unit :=
  withMutation (Discipline.plain.announced fun _ _ => pure ()) ⟨1⟩ ⟨"a"⟩ (pure ())

theorem ordered_changeSecond : Ordered changeSecond := by
  refine @Ordered.withMutation _ _ _ _ (fun callback event => ?_) (.done ()) ⟨1⟩ ⟨"a"⟩
  refine .bind (.own _ fun left right alike => ?_) fun _ => .done ()
  exact ⟨rfl, alike.tracker, by rw [alike.rest]⟩

theorem Reachable.order_independent_of_readTwo :
    let world := (readTwo.run (World.initial ())).2
    let left := ((armIn .ascending ⟨0⟩ ⟨some (0 : Nat), some (1 : Nat)⟩).run world).2
    let right := ((armIn .descending ⟨0⟩ ⟨some (0 : Nat), some (1 : Nat)⟩).run world).2
    (left.tracker.session ⟨0⟩).installed ≠ (right.tracker.session ⟨0⟩).installed ∧
      ((changeSecond .ascending).run left).1 = ((changeSecond .descending).run right).1 ∧
      List.Forall₂ World.LooksLike ((changeSecond .ascending).trail left)
        ((changeSecond .descending).trail right) := by
  refine ⟨by decide, ?_⟩
  exact (reachable_readTwo.order_independent ⟨0⟩ ⟨some (0 : Nat), some (1 : Nat)⟩
    .ascending .descending).2.2 ordered_changeSecond .ascending .descending

end ChangeTracking
