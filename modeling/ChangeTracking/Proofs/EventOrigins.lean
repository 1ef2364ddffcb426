import ChangeTracking.Perceptible
import ChangeTracking.Proofs.Delivery
import ChangeTracking.Proofs.Provenance
import ChangeTracking.Proofs.RegistrarHistory

namespace ChangeTracking
variable {H : Host} {discipline : Discipline H}

/-- Callbacks that are given a certain event, whatever event they are called with. -/
def Call.fixed (call : Call H) (event : ChangeEvent) : Call H := fun callback _ =>
  call callback event

private theorem deliver_fixed (call : Call H) {event : ChangeEvent}
    {perceiver : Perceiver H.Callback}
    (own : ∀ id registrar phase, perceiver = .session id registrar phase →
      registrar = event.registrar ∧ phase = event.phase) :
    deliver call event perceiver = deliver (call.fixed event) event perceiver := by
  cases perceiver with
  | direct callback => rfl
  | session id registrar phase =>
    obtain ⟨rfl, rfl⟩ := own id registrar phase rfl
    rfl

private theorem deliverAll_fixed (call : Call H) {event : ChangeEvent}
    {perceivers : List (Perceiver H.Callback)}
    (own : ∀ perceiver ∈ perceivers, ∀ id registrar phase,
      perceiver = .session id registrar phase → registrar = event.registrar ∧ phase = event.phase) :
    deliverAll call event perceivers = deliverAll (call.fixed event) event perceivers := by
  induction perceivers with
  | nil => rfl
  | cons perceiver rest ih =>
    rw [deliverAll, deliverAll, deliver_fixed call (own perceiver List.mem_cons_self),
      ih fun other member => own other (List.mem_cons_of_mem _ member)]

/-- Two computations go the same way from a world and end there in the same way. -/
def SameWay {α : Type} (act other : Act H α) (world : World H) : Prop :=
  act.run world = other.run world ∧ act.trail world = other.trail world

/-- Every callback that a notification calls is given the registrar, the key and the phase of it. -/
theorem Tracker.InStep.notify_fixed {world : World H} (inStep : world.tracker.InStep)
    (call : Call H) (event : ChangeEvent) :
    SameWay (notify call event.registrar event.key event.phase)
      (notify (call.fixed event) event.registrar event.key event.phase) world := by
  obtain ⟨registrar, key, phase⟩ := event
  have same : deliverAll call ⟨registrar, key, phase⟩ (world.tracker.snapshot registrar key phase) =
      deliverAll (call.fixed ⟨registrar, key, phase⟩) ⟨registrar, key, phase⟩
        (world.tracker.snapshot registrar key phase) := by
    refine deliverAll_fixed call ?_
    rintro _ member id source wanted rfl
    exact inStep.eq_of_mem_snapshot member
  refine ⟨?_, ?_⟩
  · rw [run_notify, run_notify, same]
  · rw [Act.trail, Act.trail, run_notify, run_notify, history_notify, history_notify, same]

namespace Evolution
variable {worlds : List (World H)}

private theorem told_known {world : World H} {past : List (World H)} {id : SessionId}
    {registrar : RegistrarId} {phase : Phase} {key : Key}
    (evolution : Evolution discipline (world :: past))
    (told : Told (world :: past) (.session id registrar phase) key) :
    registrar.index < world.tracker.registrars.size := by
  obtain ⟨earlier, member, source, wanted, present⟩ := told
  have inStep := evolution.inStep earlier member
  obtain ⟨rfl, rfl⟩ := inStep.eq_of_mem_snapshot present
  obtain ⟨subscription, subscribed, _⟩ :=
    (inStep.sound.tables registrar).mem_snapshot_iff.mp present
  have known := Tracker.index_lt_of_isLive (inStep.sound.live_of_mem subscribed)
  exact Nat.lt_of_lt_of_le known (evolution.registrars_le_of_mem member)

private theorem firesKnown (evolution : Evolution discipline worlds) :
    ∀ world ∈ worlds, ∀ entry ∈ world.log.toList, ∀ id event,
      entry.firing? = some (id, event) → event.registrar.index < world.tracker.registrars.size := by
  refine evolution.fires (fun _ _ _ _ before told => before.told_known told) ?_
  intro world after past _ _ next known
  exact Nat.lt_of_lt_of_le known
    (next.registrars_le_of_mem (List.mem_cons_of_mem _ List.mem_cons_self))

private theorem entry_of_called (evolution : Evolution discipline worlds) {world : World H}
    (member : world ∈ worlds) {id : SessionId} {call : Invocation H.Callback}
    (called : call ∈ world.callsOf discipline id) :
    ∃ entry ∈ world.log.toList, entry.firing? = some (id, call.event) := by
  refine mem_delivered_iff.mp ?_
  change call.event ∈ world.firings id
  rw [(evolution.answered_of_mem member).fired id]
  exact List.mem_append_left _ (List.mem_map_of_mem called)

end Evolution

/-- What holds of the events of a run, in one of its worlds. -/
structure Attributed (discipline : Discipline H) (worlds : List (World H)) (world : World H) :
    Prop where
  /-- A notification that begins here gives its own registrar, key and phase to all callbacks that it
  calls: whatever they do, it takes the same way if they are given these in any case. -/
  own : ∀ (call : Call H) (event : ChangeEvent),
    SameWay (notify call event.registrar event.key event.phase)
      (notify (call.fixed event) event.registrar event.key event.phase) world
  read : ∀ id, ∀ call ∈ world.callsOf discipline id,
    (world.tracker.session id).reads.contains call.event.registrar call.event.key = true
  /-- The registrar of such an event was created at one moment of the run. Of all owners whose
  registrars are created in the run, whether these are still there or not, those of this one have
  raised the event, and nobody else has. -/
  raised : ∀ id, ∀ call ∈ world.callsOf discipline id,
    ∃ moment, CreatedAt worlds moment call.event.registrar ∧
      ∀ (P : Type) [Perceptible P] (owner : P) (other : List (World H)),
        CreatedAt worlds other (Perceptible.registrar owner) →
          (Perceptible.raised owner call.event = true ↔ other = moment) ∧
          (Perceptible.raised (⟨owner⟩ : Borrowed P) call.event = true ↔ other = moment) ∧
          (Perceptible.raised (⟨owner⟩ : Shared P) call.event = true ↔ other = moment)

theorem Evolution.attributed_of_mem {worlds : List (World H)} (evolution : Evolution discipline worlds)
    {world : World H} (member : world ∈ worlds) : Attributed discipline worlds world where
  own := (evolution.inStep world member).notify_fixed
  read id call called := by
    obtain ⟨entry, present, fired⟩ := evolution.entry_of_called member called
    exact (evolution.firesRead world member entry present id call.event fired).2
  raised id call called := by
    obtain ⟨entry, present, fired⟩ := evolution.entry_of_called member called
    obtain ⟨past, before, suffix⟩ := evolution.of_mem member
    obtain ⟨moment, inside, created⟩ :=
      before.exists_createdAt (evolution.firesKnown world member entry present id call.event fired)
    have created : CreatedAt worlds moment call.event.registrar := ⟨inside.trans suffix, created⟩
    refine ⟨moment, created, fun P _ owner other owned => ?_⟩
    have own : Perceptible.raised owner call.event = true ↔ other = moment := by
      rw [Perceptible.raised, RegistrarId.raised, beq_iff_eq]
      constructor
      · intro same
        exact evolution.createdAt_unique owned (same ▸ created)
      · rintro rfl
        obtain ⟨_, _, _, _, here, one⟩ := owned
        obtain ⟨_, _, _, _, again, another⟩ := created
        cases here.symm.trans again
        exact congrArg Prod.fst (another.symm.trans one)
    exact ⟨own, own, own⟩

/-- In every run, the events that callbacks receive are those of the notifications that call them, they
are about what the sessions have read, and they are raised by the owner of the one registrar that
notified and by no other. -/
theorem Client.events_attributed {α : Type} {act : Act H α} (client : Client discipline act)
    (host : H.State) {world : World H} (passed : world ∈ act.trail (World.initial host)) :
    Attributed discipline (act.trail (World.initial host)) world :=
  (client.trail_evolution host).attributed_of_mem passed

/-- The session that tracks a key got the two events of the registrar that notified. -/
theorem Client.events_attributed_of_trackAndChange :
    ((trackAndChange.run (World.initial ())).2.callsOf Discipline.plain ⟨0⟩).map (·.event) =
        [⟨⟨0⟩, ⟨"a"⟩, .willChange⟩, ⟨⟨0⟩, ⟨"a"⟩, .didChange⟩] ∧
      Attributed Discipline.plain (trackAndChange.trail (World.initial ()))
        (trackAndChange.run (World.initial ())).2 :=
  ⟨by decide, client_trackAndChange.events_attributed () List.mem_cons_self⟩

end ChangeTracking
