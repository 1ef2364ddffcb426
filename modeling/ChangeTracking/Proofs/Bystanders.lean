import ChangeTracking.Proofs.Ownership
import ChangeTracking.Proofs.ShadowModel

namespace ChangeTracking

namespace Perceiver
variable {κ : Type}

/-- Whether telling a perceiver of an event leads to a call. -/
def Waits (tracker : Tracker κ) (event : ChangeEvent) : Perceiver κ → Prop
  | .direct _ => True
  | .session id registrar phase =>
    registrar = event.registrar ∧ phase = event.phase ∧ tracker.Awaits id event.phase

/-- The call that telling a perceiver of an event leads to. -/
def answer? (tracker : Tracker κ) (event : ChangeEvent) : Perceiver κ → Option (Invocation κ)
  | .direct callback => some ⟨none, callback, event⟩
  | .session id _ _ => ((tracker.session id).callbacks.find? event.phase).map fun callback =>
    ⟨some id, callback, event⟩

/-- No session is told on behalf of two perceivers. -/
def Apart (left right : Perceiver κ) : Prop := ∀ id, left.isOf id = true → right.isOf id = false

end Perceiver

namespace Tracker
variable {κ : Type} {tracker : Tracker κ}

theorem InStep.waits_of_mem_snapshot (inStep : tracker.InStep) {event : ChangeEvent}
    {perceiver : Perceiver κ}
    (found : perceiver ∈ tracker.snapshot event.registrar event.key event.phase) :
    perceiver.Waits tracker event := by
  cases perceiver with
  | direct callback => trivial
  | session id registrar phase =>
    obtain ⟨here, same⟩ := inStep.eq_of_mem_snapshot found
    exact ⟨here, same, inStep.awaits_of_mem_snapshot found⟩

/-- A session has one subscription at most for a phase at a registrar, so that a notification finds
it once. -/
theorem InStep.snapshot_apart (inStep : tracker.InStep) (registrar : RegistrarId) (key : Key)
    (phase : Phase) : (tracker.snapshot registrar key phase).Pairwise Perceiver.Apart := by
  have sound := inStep.sound.tables registrar
  rw [snapshot, sound.snapshot_eq, List.pairwise_map]
  apply (sound.ascending.filter _).imp_of_mem
  intro left right leftMember rightMember before id first
  by_contra second
  rw [Bool.not_eq_false] at second
  obtain ⟨leftMember, leftWanted⟩ := List.mem_filter.mp leftMember
  obtain ⟨rightMember, rightWanted⟩ := List.mem_filter.mp rightMember
  have holds {subscription : Subscription κ}
      (member : subscription ∈ (tracker.table registrar).subscriptions)
      (wanted : subscription.phase = phase) (mine : subscription.perceiver.isOf id = true) :
      (tracker.session id).Holds registrar phase subscription.id := by
    rcases perceiver : subscription.perceiver with callback | ⟨other, source, named⟩
    · rw [perceiver] at mine
      cases mine
    · rw [perceiver] at mine
      obtain rfl : other = id := of_decide_eq_true mine
      rw [← wanted]
      exact (inStep.owned registrar subscription member other source named perceiver).2.2.1
  have same := (inStep.sessions id).holds_unique
    (holds leftMember (of_decide_eq_true leftWanted).2 first)
    (holds rightMember (of_decide_eq_true rightWanted).2 second)
  exact absurd same (Nat.ne_of_lt before)

end Tracker

variable {H : Host} {discipline : Discipline H} {world after : World H}

namespace Discipline.Own

theorem calls (own : discipline.Own world after) :
    after.calls discipline = world.calls discipline := by
  obtain ⟨_, _, entries, allOwn, log⟩ := own
  exact World.calls_of_unheard log fun entry member => (allOwn entry member).isSilent.2.1

theorem due (own : discipline.Own world after) (idle : world.due = none) : after.due = none := by
  obtain ⟨_, _, entries, allOwn, log⟩ := own
  rw [World.due_append log, idle]
  exact dueAfter_eq_none fun entry member => (allOwn entry member).isSilent.2.2

end Discipline.Own

/-- A bystander that does nothing at all. -/
def Bystander.idle : Bystander discipline := ⟨pure (), fun _ => ⟨rfl, rfl, rfl, [], by simp, by simp⟩⟩

/-- What is left of a world in which perceivers were told of an event: each was called, and each
session among them has taken up the event. -/
structure World.Served (discipline : Discipline H) (event : ChangeEvent)
    (perceivers : List (Perceiver H.Callback)) (world after : World H) : Prop where
  due : after.due = none
  calls : after.calls discipline =
    world.calls discipline ++ perceivers.filterMap (·.answer? world.tracker event)
  session : ∀ id, after.tracker.session id =
    if perceivers.any (·.isOf id) then (world.tracker.session id).fire event
    else world.tracker.session id

section Bystanders
variable (call : H.Callback → ChangeEvent → Bystander discipline) {event : ChangeEvent}

private theorem run_bystander (callback : H.Callback) (event : ChangeEvent) (world : World H) :
    ∃ after, (discipline.bystanders call callback event).run world = (.ok (), after) ∧
      discipline.Own (world.hear (discipline.note callback event)) after := by
  obtain ⟨returned, own⟩ :=
    (call callback event).inert (world.hear (discipline.note callback event))
  exact ⟨_, Prod.ext returned rfl, own⟩

theorem deliver_bystander {perceiver : Perceiver H.Callback} (idle : world.due = none)
    (waits : perceiver.Waits world.tracker event) :
    ∃ after, (deliver (discipline.bystanders call) event perceiver).run world = (.ok (), after) ∧
      world.Served discipline event [perceiver] after := by
  cases perceiver with
  | direct callback =>
    obtain ⟨after, run, own⟩ := run_bystander call callback event world
    refine ⟨after, run, own.due (World.due_hear ..), ?_, ?_⟩
    · rw [own.calls, World.calls_append_note (World.log_hear ..), idle]
      rfl
    · intro id
      rw [own.1]
      rfl
  | session id registrar phase =>
    obtain ⟨rfl, rfl, awaits⟩ := waits
    rcases due : world.tracker.fire? id event with _ | firing
    · exact absurd awaits (Tracker.fire?_eq_none_iff.mp due)
    · have fired := Tracker.of_fire? due
      obtain ⟨removed, report⟩ := fired.report
      obtain ⟨after, run, own⟩ := run_bystander call firing.callback event
        (world.advance (some firing.report) firing.tracker)
      have told : (deliver (discipline.bystanders call) event
          (.session id event.registrar event.phase)).run world = (.ok (), after) :=
        (run_fire_some due).trans run
      refine ⟨after, told, own.due (World.due_hear ..), ?_, ?_⟩
      · rw [own.calls, report, World.calls_hear]
        simp [Perceiver.answer?, fired.callback]
      · intro other
        rw [own.1]
        refine (fired.session other).trans ?_
        by_cases same : other = id <;> simp [same, Perceiver.isOf, eq_comm]

/-- Those who wait are told one after the other; who was told before a session did nothing to it. -/
theorem deliverAll_bystanders {perceivers : List (Perceiver H.Callback)}
    (idle : world.due = none)
    (waits : ∀ perceiver ∈ perceivers, perceiver.Waits world.tracker event)
    (apart : perceivers.Pairwise Perceiver.Apart) :
    ∃ after, (deliverAll (discipline.bystanders call) event perceivers).run world =
        (.ok (), after) ∧ world.Served discipline event perceivers after := by
  induction perceivers generalizing world with
  | nil => exact ⟨world, rfl, idle, by simp, by simp⟩
  | cons head rest ih =>
    obtain ⟨different, apart⟩ := List.pairwise_cons.mp apart
    obtain ⟨middle, first, served⟩ := deliver_bystander call idle (waits head (by simp))
    have untouched : ∀ perceiver ∈ rest, ∀ id, perceiver.isOf id = true →
        middle.tracker.session id = world.tracker.session id := by
      intro perceiver member id mine
      have other : head.isOf id = false := by
        by_contra same
        rw [different perceiver member id (by simpa using same)] at mine
        cases mine
      rw [served.session]
      simp [other]
    have still : ∀ perceiver ∈ rest, perceiver.Waits middle.tracker event := by
      intro perceiver member
      have before := waits perceiver (by simp [member])
      cases perceiver with
      | direct callback => trivial
      | session id registrar phase =>
        obtain ⟨here, wanted, awaits⟩ := before
        refine ⟨here, wanted, ?_⟩
        rw [Tracker.Awaits, untouched _ member id (by simp [Perceiver.isOf])]
        exact awaits
    obtain ⟨after, later, done⟩ := ih served.due still apart
    refine ⟨after, (Act.run_bind_ok first).trans later, done.due, ?_, ?_⟩
    · have answers : rest.filterMap (·.answer? middle.tracker event) =
          rest.filterMap (·.answer? world.tracker event) := by
        apply List.filterMap_congr
        intro perceiver member
        cases perceiver with
        | direct callback => rfl
        | session id registrar phase =>
          rw [Perceiver.answer?, untouched _ member id (by simp [Perceiver.isOf])]
          rfl
      rw [done.calls, served.calls, answers, List.append_assoc, ← List.filterMap_append]
      rfl
    · intro id
      rw [done.session, served.session]
      by_cases mine : head.isOf id = true
      · have others : rest.any (·.isOf id) = false := by
          rw [List.any_eq_false]
          intro perceiver member
          simp [different perceiver member id mine]
        simp [mine, others]
      · simp [mine]

/-- A notification calls each of those whom it finds, in their order, and nobody else. -/
theorem notify_bystanders (idle : world.due = none) (inStep : world.tracker.InStep)
    (event : ChangeEvent) :
    ∃ after, (notify (discipline.bystanders call) event.registrar event.key event.phase).run
        world = (.ok (), after) ∧
      world.Served discipline event
        (world.tracker.snapshot event.registrar event.key event.phase) after := by
  have begun := World.due_notified idle event.registrar event.key event.phase
  obtain ⟨after, run, served⟩ := deliverAll_bystanders call begun
    (fun _ => inStep.waits_of_mem_snapshot) (inStep.snapshot_apart ..)
  rw [run_notify]
  refine ⟨after, run, served.due, ?_, served.session⟩
  rw [served.calls, World.calls_notified]
  rfl

end Bystanders
end ChangeTracking
