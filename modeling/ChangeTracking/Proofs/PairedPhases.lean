import ChangeTracking.Proofs.Mutations

namespace ChangeTracking

namespace Tracker
variable {κ : Type} {before after : Tracker κ}

/-- A session has a subscription for a phase at a registrar. -/
def Subscribes (tracker : Tracker κ) (id : SessionId) (registrar : RegistrarId) (phase : Phase) :
    Prop :=
  ∃ subscription ∈ (tracker.table registrar).subscriptions,
    subscription.perceiver.isFor id phase = true

/-- A session that waits for will-change is subscribed for it wherever it is for did-change. -/
def Paired (tracker : Tracker κ) : Prop :=
  ∀ id registrar, tracker.Awaits id .willChange → tracker.Subscribes id registrar .didChange →
    tracker.Subscribes id registrar .willChange

namespace Paired

theorem empty : (∅ : Tracker κ).Paired := by
  rintro _ _ _ ⟨_, member, _⟩
  cases member

private theorem of_sessions (paired : before.Paired) (sessions : after.sessions = before.sessions)
    (did : ∀ id registrar, after.Subscribes id registrar .didChange →
      before.Subscribes id registrar .didChange ∧
        (before.Subscribes id registrar .willChange → after.Subscribes id registrar .willChange)) :
    after.Paired := by
  intro id registrar awaits subscribes
  have awaits : before.Awaits id .willChange := by
    rwa [Awaits, Tracker.session, sessions] at awaits
  obtain ⟨there, stays⟩ := did id registrar subscribes
  exact stays (paired id registrar awaits there)

theorem cleared (paired : before.Paired) (cleared : Cleared before after) : after.Paired := by
  refine paired.of_sessions cleared.sessions fun id registrar subscribes => ?_
  rcases cleared.tables registrar with same | empty
  · rw [Subscribes, same] at subscribes
    exact ⟨subscribes, fun there => by rwa [Subscribes, same]⟩
  · obtain ⟨_, member, _⟩ := subscribes
    rw [empty] at member
    cases member

theorem register (paired : before.Paired) (sound : before.Sound) (id : RegistrarId) (keys : KeySet)
    (phase : Phase) (callback : κ) :
    (before.register id keys phase (.direct callback)).2.Paired := by
  by_cases live : before.isLive id = true
  · have added := register_added sound live keys phase (.direct callback)
    refine paired.of_sessions added.sessions fun other registrar subscribes => ?_
    obtain ⟨subscription, member, mine⟩ := subscribes
    rw [added.subscriptions] at member
    refine ⟨⟨subscription, ?_, mine⟩, ?_⟩
    · rcases List.mem_append.mp member with old | new
      · exact old
      · split at new
        · rw [List.mem_singleton.mp new] at mine
          cases mine
        · cases new
    · rintro ⟨will, there, own⟩
      exact ⟨will, added.subscriptions registrar ▸ List.mem_append_left _ there, own⟩
  · rw [register_of_gone (by simpa using live)]
    exact paired

theorem cancel (paired : before.Paired) (sound : before.Sound) {id : RegistrarId} {token : Token}
    (known : before.mayBeKnown id token = true) : (before.cancel id token).2.Paired := by
  have removed := cancel_removed sound id token
  refine paired.of_sessions removed.sessions fun other registrar subscribes => ?_
  obtain ⟨subscription, member, mine⟩ := subscribes
  refine ⟨⟨subscription, (removed.mem_iff.mp member).1, mine⟩, ?_⟩
  rintro ⟨will, there, own⟩
  refine ⟨will, removed.mem_iff.mpr ⟨there, ?_⟩, own⟩
  rw [decide_eq_false_iff_not]
  rintro ⟨rfl, rfl⟩
  have found := (sound.tables registrar).find?_eq_some_iff.mpr ⟨there, rfl⟩
  obtain ⟨number, wanted, keys, perceiver⟩ := will
  cases perceiver with
  | direct callback => cases own
  | session => simp [mayBeKnown, found] at known

theorem createSession (paired : before.Paired) (reads : AccessList) :
    (before.createSession reads).2.Paired := by
  intro id registrar awaits subscribes
  rw [Awaits, session_createSession] at awaits
  split at awaits
  · cases awaits.1
  · exact paired id registrar awaits subscribes

private theorem subscribes_iff {cut : Perceiver κ → Bool}
    (left : ∀ registrar, (after.table registrar).subscriptions =
      (before.table registrar).subscriptions.filter fun subscription => !cut subscription.perceiver)
    {id : SessionId} {registrar : RegistrarId} {phase : Phase} :
    after.Subscribes id registrar phase ↔
      ∃ subscription ∈ (before.table registrar).subscriptions,
        subscription.perceiver.isFor id phase = true ∧ cut subscription.perceiver = false := by
  simp only [Subscribes, left, List.mem_filter, Bool.not_eq_true', and_assoc]
  exact exists_congr fun subscription => and_congr_right fun _ => and_comm

private theorem eq_of_isFor {perceiver : Perceiver κ} {id : SessionId} {phase : Phase}
    (mine : perceiver.isFor id phase = true) :
    ∃ registrar, perceiver = .session id registrar phase := by
  cases perceiver with
  | direct callback => cases mine
  | session other registrar wanted =>
    obtain ⟨rfl, rfl⟩ := of_decide_eq_true mine
    exact ⟨registrar, rfl⟩

theorem cancelSession (paired : before.Paired) (inStep : before.InStep) {id : SessionId}
    {report : TraceEvent} (ended : before.CancelledBy id report after) : after.Paired := by
  have left := inStep.subscriptions_cancelSession ended
  intro other registrar awaits subscribes
  rw [Awaits, ended.session] at awaits
  split at awaits
  · cases awaits.1
  · rename_i different
    obtain ⟨did, member, mine, _⟩ := (subscribes_iff left).mp subscribes
    obtain ⟨will, there, own⟩ := paired other registrar awaits ⟨did, member, mine⟩
    refine (subscribes_iff left).mpr ⟨will, there, own, ?_⟩
    obtain ⟨_, same⟩ := eq_of_isFor own
    simpa [same, Perceiver.isOf] using different

theorem fire (paired : before.Paired) (inStep : before.InStep) {id : SessionId}
    {event : ChangeEvent} {firing : Firing κ} (fired : before.FiredBy id event firing) :
    firing.tracker.Paired := by
  have left := inStep.subscriptions_fire fired
  intro other registrar awaits subscribes
  obtain ⟨did, member, mine, spared⟩ := (subscribes_iff left).mp subscribes
  rw [Awaits, fired.session] at awaits
  split at awaits
  · -- The session waits on, so did-change was delivered, and nothing for it is left.
    rename_i same
    subst same
    have waits := awaits.2
    rw [Session.fire, PerPhase.find?_erase] at waits
    cases phase : event.phase with
    | willChange => simp [phase] at waits
    | didChange =>
      rw [phase, mine] at spared
      cases spared
  · rename_i different
    obtain ⟨will, there, own⟩ := paired other registrar awaits ⟨did, member, mine⟩
    refine (subscribes_iff left).mpr ⟨will, there, own, ?_⟩
    obtain ⟨_, same⟩ := eq_of_isFor own
    simp [same, Perceiver.isFor, different]

/-- A session that is armed for both phases gets its subscriptions two by two. -/
theorem arm (paired : before.Paired) (inStep : before.InStep) {id : SessionId}
    (pending : (before.session id).status = .pending) {callbacks : PerPhase κ}
    (given : callbacks.isEmpty = false) :
    (before.armOver id callbacks (before.session id).reads.entries).2.Paired := by
  have armed := inStep.arm pending given
  intro other registrar awaits subscribes
  obtain ⟨did, member, mine⟩ := subscribes
  by_cases same : other = id
  · subst same
    obtain ⟨entry, present, rfl, _⟩ := (armed.holds_iff member).mpr mine
    have wanted := (armed.sessions other).tokens entry present .willChange
    rw [awaits.2] at wanted
    obtain ⟨⟨source, number⟩, found⟩ := Option.isSome_iff_exists.mp wanted
    obtain rfl : source = entry.registrar :=
      (armed.sessions other).own entry present .willChange _ found
    obtain ⟨read, _, here, there⟩ :=
      inStep.mem_of_holds_armOver pending callbacks ⟨entry, present, rfl, found⟩
    exact ⟨_, there, by simp [ownSubscription, Perceiver.isFor]⟩
  · obtain ⟨_, added⟩ :=
      installEntries_added inStep.sound id callbacks (before.session id).reads.apart
    rw [Awaits, session_armOver pending, if_neg same] at awaits
    rw [table_armOver, added.subscriptions] at member
    rcases List.mem_append.mp member with old | new
    · obtain ⟨will, there, own⟩ := paired other registrar awaits ⟨did, old, mine⟩
      refine ⟨will, ?_, own⟩
      rw [table_armOver, added.subscriptions]
      exact List.mem_append_left _ there
    · obtain ⟨read, _, made⟩ := List.mem_flatMap.mp new
      rw [(of_mem_ownSubscriptions made).2.1] at mine
      exact absurd (of_decide_eq_true mine).1.symm same

/-- A session that waits for will-change is found by a notification of will-change wherever it is by
one of did-change. -/
theorem found (paired : before.Paired) (inStep : before.InStep) {id : SessionId}
    {registrar : RegistrarId} {key : Key} (awaits : before.Awaits id .willChange)
    (second : .session id registrar .didChange ∈ before.snapshot registrar key .didChange) :
    .session id registrar .willChange ∈ before.snapshot registrar key .willChange := by
  have table := inStep.sound.tables registrar
  obtain ⟨did, member, covers, _, tells⟩ := table.mem_snapshot_iff.mp second
  obtain ⟨will, there, own⟩ :=
    paired id registrar awaits ⟨did, member, by simp [tells, Perceiver.isFor]⟩
  obtain ⟨source, same⟩ := eq_of_isFor own
  obtain ⟨rfl, phase, _, keys⟩ := inStep.owned registrar will there id source _ same
  obtain ⟨_, _, _, others⟩ := inStep.owned source did member id source _ tells
  exact table.mem_snapshot_iff.mpr ⟨will, there, by rwa [keys, ← others], phase.symm, same⟩

end Paired
end Tracker

variable {H : Host} {discipline : Discipline H} {ledger : Ledger discipline}

theorem QuietMove.paired {world after : World H} (quiet : QuietMove ledger world after)
    (inStep : world.tracker.InStep) (paired : world.tracker.Paired) : after.tracker.Paired := by
  cases quiet with
  | own own => rw [own.1]; exact paired
  | thread => exact paired
  | createRegistrar => exact paired.cleared world.tracker.createRegistrar_cleared
  | retain id => exact paired.cleared (world.tracker.retain_cleared id)
  | release id => exact paired.cleared (world.tracker.release_cleared id)
  | register id keys phase => exact paired.register inStep.sound id keys phase _
  | cancel known => exact paired.cancel inStep.sound known
  | cancelAll id => exact paired.cleared (world.tracker.cancelAll_cleared id)
  | createSession reads => exact paired.createSession reads
  | arm pending given => exact paired.arm inStep pending given
  | cancelSession ended => exact paired.cancelSession inStep (Tracker.of_cancelSession? ended)

/-- A session that is installed gets no further subscriptions. -/
def World.HoldsLess (later earlier : World H) : Prop :=
  ∀ id registrar phase number, earlier.Begun id →
    (later.tracker.session id).Holds registrar phase number →
      (earlier.tracker.session id).Holds registrar phase number

private theorem SessionStep.holdsLess {past : List (World H)} {world after : World H}
    (step : SessionStep discipline past world after) (inStep : world.tracker.InStep) :
    after.HoldsLess world := by
  intro id registrar phase number begun holds
  cases step.fate id with
  | kept same => rwa [same] at holds
  | created _ fresh => exact absurd fresh (Nat.ne_of_lt begun.1)
  | turn event turn =>
    generalize after.tracker.session id = session at turn holds
    cases turn with
    | arm _ _ _ pending => exact absurd pending begun.2
    | fire => exact ((inStep.sessions id).holds_fire_iff _ |>.mp holds).1
    | cancel => exact absurd holds (Session.not_holds_of_nil rfl)

theorem Evolution.holdsLess {worlds : List (World H)} (evolution : Evolution discipline worlds) :
    worlds.Pairwise World.HoldsLess := by
  have order : worlds.Pairwise fun later earlier => Later earlier later ∧ later.HoldsLess earlier := by
    refine evolution.ordered ?_ fun world after past next => ⟨next.sessionStep.later,
      next.sessionStep.holdsLess (next.inStep world (List.mem_cons_of_mem _ List.mem_cons_self))⟩
    rintro first second third ⟨earlier, less⟩ ⟨later, still⟩
    exact ⟨earlier.trans later, fun id registrar phase number begun holds =>
      less id registrar phase number begun
        (still id registrar phase number (begun.later earlier) holds)⟩
  exact order.imp And.right

/-- A session that a notification reaches would have been reached by it at any moment since it was
installed. -/
theorem Evolution.found_before {world earlier : World H} {past : List (World H)}
    (evolution : Evolution discipline (world :: past)) (member : earlier ∈ world :: past)
    {id : SessionId} (begun : earlier.Begun id) {registrar : RegistrarId} {key : Key} {phase : Phase}
    (found : .session id registrar phase ∈ world.tracker.snapshot registrar key phase) :
    .session id registrar phase ∈ earlier.tracker.snapshot registrar key phase := by
  have inStep := evolution.inStep world List.mem_cons_self
  have started := evolution.inStep earlier member
  obtain ⟨subscription, subscribed, covers, same, tells⟩ :=
    (inStep.sound.tables registrar).mem_snapshot_iff.mp found
  obtain ⟨_, _, holds, _⟩ := inStep.owned registrar subscription subscribed id _ _ tells
  have held := World.related_of_mem World.HoldsLess (fun _ _ _ _ _ _ holds => holds)
    evolution.holdsLess member id registrar _ _ begun holds
  have issued := (started.issued id registrar _ _ held).1
  have grown := evolution.grown_of_mem member
  have there := (grown.old registrar subscription subscribed).resolve_right (Nat.not_le.mpr issued)
  exact (started.sound.tables registrar).mem_snapshot_iff.mpr
    ⟨subscription, there, covers, same, tells⟩

end ChangeTracking
