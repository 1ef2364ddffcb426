import ChangeTracking.Proofs.ShadowArming

namespace ChangeTracking
variable {n : Nat} {κ : Type}

/-- The sessions that one phase of a change hits, numbered on from an index. -/
def hitFrom (registrar : Fin n) (key : Key) (phase : Phase) :
    Nat → List (Tracked n κ) → List (Perceiver κ)
  | _, [] => []
  | index, tracked :: rest =>
    if tracked.shadow.isHit registrar key phase
    then .session ⟨index⟩ ⟨registrar⟩ phase :: hitFrom registrar key phase (index + 1) rest
    else hitFrom registrar key phase (index + 1) rest

/-- Whether somebody who waits is told: a session that read the key and waits for the phase. -/
def toldOf (sessions : List (Tracked n κ)) (registrar : Fin n) (key : Key) (phase : Phase) :
    Perceiver κ → Bool
  | .direct _ => false
  | .session id _ other =>
    ((sessions[id.index]?).any fun tracked => (registrar, key) ∈ tracked.shadow.reads) ∧
      other = phase

section Hits
variable {registrar : Fin n} {key : Key} {phase : Phase}

private theorem filter_perceivers {index : Nat} {tracked : Tracked n κ}
    {hit : Perceiver κ → Bool}
    (same : ∀ other, hit (.session ⟨index⟩ ⟨registrar⟩ other) =
      decide ((registrar, key) ∈ tracked.shadow.reads ∧ other = phase)) :
    (tracked.perceivers registrar index).filter hit =
      if tracked.shadow.isHit registrar key phase then [.session ⟨index⟩ ⟨registrar⟩ phase]
      else [] := by
  by_cases read : (registrar, key) ∈ tracked.shadow.reads
  · have touched : tracked.shadow.touches registrar = true :=
      Shadow.touches_iff.mpr ⟨key, read⟩
    have wanted : hit ∘ (.session ⟨index⟩ ⟨registrar⟩ ·) = fun other => decide (other = phase) := by
      funext other
      simp [same, read]
    rw [Tracked.perceivers, if_pos touched, List.filter_map, wanted, Shadow.pendingPhases,
      List.filter_filter, Shadow.isHit]
    cases phase <;> cases will : tracked.shadow.pending .willChange <;>
      cases did : tracked.shadow.pending .didChange <;> simp [will, did, read]
  · rw [Shadow.isHit, decide_eq_false read, Bool.and_false, if_neg Bool.false_ne_true]
    apply List.filter_eq_nil_iff.mpr
    intro perceiver member
    obtain ⟨other, _, _, rfl⟩ := mem_perceivers_iff.mp member
    simp [same, read]

private theorem filter_waitingFrom_hits {start : Nat} {sessions : List (Tracked n κ)}
    {hit : Perceiver κ → Bool}
    (same : ∀ index tracked, sessions[index]? = some tracked → ∀ other,
      hit (.session ⟨start + index⟩ ⟨registrar⟩ other) =
        decide ((registrar, key) ∈ tracked.shadow.reads ∧ other = phase)) :
    (waitingFrom registrar start sessions).filter hit =
      hitFrom registrar key phase start sessions := by
  induction sessions generalizing start with
  | nil => rfl
  | cons head rest ih =>
    have later : (waitingFrom registrar (start + 1) rest).filter hit =
        hitFrom registrar key phase (start + 1) rest := by
      apply ih
      intro index tracked found other
      rw [Nat.add_right_comm]
      exact same (index + 1) tracked found other
    have first := filter_perceivers (same 0 head rfl)
    rw [Nat.add_zero] at first
    rw [waitingFrom, List.filter_append, first, later, hitFrom]
    split <;> rfl

end Hits

namespace Mirrors
variable {sessions : List (Tracked n κ)} {tracker : Tracker κ}

/-- A subscription stands for a pending phase of one session and covers what that session read. -/
theorem of_mem (mirrors : Mirrors sessions tracker) {registrar : Fin n}
    {subscription : Subscription κ}
    (member : subscription ∈ (tracker.table ⟨registrar⟩).subscriptions) :
    ∃ index tracked, sessions[index]? = some tracked ∧
      tracked.shadow.pending subscription.phase = true ∧
      subscription.perceiver = .session ⟨index⟩ ⟨registrar⟩ subscription.phase ∧
      ∀ key, key ∈ subscription.keys ↔ (registrar, key) ∈ tracked.shadow.reads := by
  have waiting : subscription.perceiver ∈ waitingFrom registrar 0 sessions :=
    mirrors.perceivers registrar ▸ List.mem_map_of_mem member
  obtain ⟨index, tracked, phase, found, _, pending, perceiver⟩ := mem_waitingFrom_iff.mp waiting
  rw [Nat.zero_add] at perceiver
  obtain ⟨_, rfl, _, keys⟩ := mirrors.inStep.owned _ _ member _ _ _ perceiver
  refine ⟨index, tracked, found, pending, perceiver, ?_⟩
  intro key
  rw [keys]
  exact (mirrors.same index tracked found).mem_keys_iff

theorem snapshot (mirrors : Mirrors sessions tracker) (registrar : Fin n) (key : Key)
    (phase : Phase) :
    tracker.snapshot ⟨registrar⟩ key phase = hitFrom registrar key phase 0 sessions := by
  have perceived : ∀ subscription ∈ (tracker.table ⟨registrar⟩).subscriptions,
      decide (key ∈ subscription.keys ∧ subscription.phase = phase) =
        toldOf sessions registrar key phase subscription.perceiver := by
    intro subscription member
    obtain ⟨index, tracked, found, _, perceiver, keys⟩ := mirrors.of_mem member
    simp [perceiver, toldOf, found, keys]
  have hits : (waitingFrom registrar 0 sessions).filter (toldOf sessions registrar key phase) =
      hitFrom registrar key phase 0 sessions := by
    apply filter_waitingFrom_hits
    intro index tracked found other
    simp [toldOf, found]
  rw [Tracker.snapshot, (mirrors.inStep.sound.tables _).snapshot_eq,
    List.filter_congr perceived, ← hits, ← mirrors.perceivers, List.filter_map]
  rfl

end Mirrors

variable {H : Host} {discipline : Discipline H} {sessions : List (Tracked n H.Callback)}
  {world after : World H}

/-- A world that keeps what the model keeps, with nothing going on in it. -/
structure Simulates (discipline : Discipline H) (sessions : List (Tracked n H.Callback))
    (world : World H) : Prop where
  mirrors : Mirrors sessions world.tracker
  recording : world.thread.recording = none
  settled : world.due = none
  called : ∀ index tracked, sessions[index]? = some tracked →
    (world.callsOf discipline ⟨index⟩).map (·.event) = tracked.hits ∧
      ∀ call ∈ world.callsOf discipline ⟨index⟩,
        tracked.callbacks.find? call.event.phase = some call.callback
  owned : ∀ call ∈ world.calls discipline, ∃ index < sessions.length, call.owner = some ⟨index⟩

namespace Simulates

theorem callsOf_eq_nil (simulates : Simulates discipline sessions world) {index : Nat}
    (absent : sessions.length ≤ index) : world.callsOf discipline ⟨index⟩ = [] := by
  apply List.filter_eq_nil_iff.mpr
  intro call member mine
  obtain ⟨other, below, owner⟩ := simulates.owned call member
  rw [owner] at mine
  obtain rfl : other = index := by simpa using mine
  exact absurd below (Nat.not_lt.mpr absent)

theorem quiet (simulates : Simulates discipline sessions world)
    {later : List (Tracked n H.Callback)} (mirrors : Mirrors later after.tracker)
    (recording : after.thread.recording = none) {entries : List (LogEntry H)}
    (log : after.log.toList = world.log.toList ++ entries)
    (silent : ∀ entry ∈ entries, discipline.call? entry = none ∧ entry.firing? = none)
    (longer : sessions.length ≤ later.length)
    (kept : ∀ index tracked, later[index]? = some tracked →
      (∃ before, sessions[index]? = some before ∧ tracked.hits = before.hits ∧
        tracked.callbacks = before.callbacks) ∨
      (sessions.length ≤ index ∧ tracked.hits = [])) :
    Simulates discipline later after := by
  have calls : after.calls discipline = world.calls discipline :=
    World.calls_of_unheard log fun entry member => (silent entry member).1
  have callsOf (id : SessionId) : after.callsOf discipline id = world.callsOf discipline id := by
    rw [World.callsOf, calls, World.callsOf]
  refine ⟨mirrors, recording, ?_, ?_, ?_⟩
  · rw [World.due_append log, simulates.settled]
    exact dueAfter_eq_none fun entry member => (silent entry member).2
  · intro index tracked found
    rw [callsOf]
    rcases kept index tracked found with ⟨before, present, hits, callbacks⟩ | ⟨absent, hits⟩
    · rw [hits, callbacks]
      exact simulates.called index before present
    · rw [simulates.callsOf_eq_nil absent, hits]
      exact ⟨rfl, fun _ member => absurd member List.not_mem_nil⟩
  · intro call member
    rw [calls] at member
    obtain ⟨index, below, owner⟩ := simulates.owned call member
    exact ⟨index, Nat.lt_of_lt_of_le below longer, owner⟩

theorem own (simulates : Simulates discipline sessions world)
    (own : discipline.Own world after) : Simulates discipline sessions after := by
  obtain ⟨tracker, thread, entries, allOwn, log⟩ := own
  refine simulates.quiet (tracker ▸ simulates.mirrors) (thread ▸ simulates.recording) log
    (fun entry member => (allOwn entry member).isSilent.2) (Nat.le_refl _) ?_
  exact fun index tracked found => .inl ⟨tracked, found, rfl, rfl⟩

private theorem hear (simulates : Simulates discipline sessions world) {index : Nat}
    {tracked : Tracked n H.Callback} (found : sessions[index]? = some tracked)
    {event : ChangeEvent} {firing : Tracker.Firing H.Callback}
    (fired : world.tracker.FiredBy ⟨index⟩ event firing)
    (pending : tracked.shadow.pending event.phase = true)
    (given : tracked.callbacks.find? event.phase = some firing.callback) :
    Simulates discipline (sessions.set index (tracked.deliver event))
      ((world.advance (some firing.report) firing.tracker).hear
        (discipline.note firing.callback event)) := by
  obtain ⟨removed, report⟩ := fired.report
  rw [report]
  have calls := World.calls_hear discipline world ⟨index⟩ event removed
    ((world.tracker.session ⟨index⟩).isLast event.phase) firing.tracker firing.callback
  refine ⟨simulates.mirrors.fire found fired pending, simulates.recording, World.due_hear .., ?_, ?_⟩
  · apply forall_getElem?_set
    · intro position other elsewhere present
      rw [World.callsOf, calls, List.filter_append, ← World.callsOf]
      simpa [Ne.symm elsewhere] using simulates.called position other present
    · obtain ⟨hits, own⟩ := simulates.called index tracked found
      rw [World.callsOf, calls, List.filter_append, ← World.callsOf]
      refine ⟨by simp [hits, Tracked.deliver], ?_⟩
      intro call member
      rcases List.mem_append.mp member with old | new
      · exact own call old
      · obtain rfl := List.mem_singleton.mp (List.mem_of_mem_filter new)
        exact given
  · intro call member
    rw [calls] at member
    rw [List.length_set]
    rcases List.mem_append.mp member with old | new
    · exact simulates.owned call old
    · obtain rfl := List.mem_singleton.mp new
      exact ⟨index, (List.getElem?_eq_some_iff.mp found).1, rfl⟩

section Notifications
variable (call : H.Callback → ChangeEvent → Bystander discipline) {registrar : Fin n} {key : Key}
  {phase : Phase}

theorem fire (simulates : Simulates discipline sessions world) {index : Nat}
    {tracked : Tracked n H.Callback} (found : sessions[index]? = some tracked)
    {event : ChangeEvent} (pending : tracked.shadow.pending event.phase = true) :
    ∃ after, (fire (discipline.bystanders call) ⟨index⟩ event).run world = (.ok (), after) ∧
      Simulates discipline (sessions.set index (tracked.deliver event)) after := by
  have same := simulates.mirrors.same index tracked found
  obtain ⟨callback, waiting, given⟩ :=
    same.awaits (simulates.mirrors.sound tracked (List.mem_of_getElem? found)) pending
  rcases due : world.tracker.fire? ⟨index⟩ event with _ | firing
  · have awaits : world.tracker.Awaits ⟨index⟩ event.phase :=
      ⟨same.status.trans (Shadow.status_of_pending pending), by rw [waiting]; rfl⟩
    exact absurd awaits (Tracker.fire?_eq_none_iff.mp due)
  · have fired := Tracker.of_fire? due
    obtain rfl : callback = firing.callback := Option.some.inj (waiting.symm.trans fired.callback)
    have heard := simulates.hear found fired pending given
    obtain ⟨returned, own⟩ := (call firing.callback event).inert
      ((world.advance (some firing.report) firing.tracker).hear
        (discipline.note firing.callback event))
    refine ⟨_, ?_, heard.own own⟩
    rw [run_fire_some due]
    exact Prod.ext returned rfl

/-- Those who are hit are told one after the other; the ones behind are not touched meanwhile. -/
theorem deliverAll {front todo : List (Tracked n H.Callback)}
    (simulates : Simulates discipline (front ++ todo) world) :
    ∃ after, (deliverAll (discipline.bystanders call) ⟨⟨registrar⟩, key, phase⟩
        (hitFrom registrar key phase front.length todo)).run world = (.ok (), after) ∧
      Simulates discipline (front ++ todo.map (.notify registrar key phase)) after := by
  induction todo generalizing front world with
  | nil => exact ⟨world, rfl, simulates⟩
  | cons head rest ih =>
    -- Either way, the head joins the front before the rest is told.
    by_cases hit : head.shadow.isHit registrar key phase = true
    · have pending : head.shadow.pending (⟨⟨registrar⟩, key, phase⟩ : ChangeEvent).phase = true :=
        (Bool.and_eq_true_iff.mp hit).1
      have found : (front ++ head :: rest)[front.length]? = some head := by simp
      obtain ⟨middle, first, told⟩ := simulates.fire call found pending
      have first : (deliver (discipline.bystanders call) ⟨⟨registrar⟩, key, phase⟩
          (.session ⟨front.length⟩ ⟨registrar⟩ phase)).run world = (.ok (), middle) := first
      rw [List.set_append_right _ _ (Nat.le_refl _), Nat.sub_self, List.set_cons_zero,
        List.append_cons] at told
      obtain ⟨after, later, done⟩ := ih told
      refine ⟨after, ?_, by simpa [Tracked.notify, hit] using done⟩
      rw [hitFrom, if_pos hit, ChangeTracking.deliverAll, Act.run_bind_ok first]
      simpa using later
    · rw [List.append_cons] at simulates
      obtain ⟨after, later, done⟩ := ih simulates
      refine ⟨after, ?_, by simpa [Tracked.notify, hit] using done⟩
      rw [hitFrom, if_neg hit]
      simpa using later

private theorem notified (simulates : Simulates discipline sessions world) :
    Simulates discipline sessions (world.notified ⟨registrar⟩ key phase) := by
  obtain ⟨entries, log, silent⟩ := world.log_notified discipline ⟨registrar⟩ key phase
  exact simulates.quiet simulates.mirrors simulates.recording log
    (fun entry member => (silent entry member).2) (Nat.le_refl _)
    fun index tracked found => .inl ⟨tracked, found, rfl, rfl⟩

theorem notify (simulates : Simulates discipline sessions world) (registrar : Fin n) (key : Key)
    (phase : Phase) :
    ∃ after, (notify (discipline.bystanders call) ⟨registrar⟩ key phase).run world =
        (.ok (), after) ∧
      Simulates discipline (sessions.map (.notify registrar key phase)) after := by
  have started : Simulates discipline ([] ++ sessions)
      (world.notified ⟨registrar⟩ key phase) := simulates.notified
  rw [run_notify, simulates.mirrors.snapshot]
  exact started.deliverAll call

/-- A mutation whose body does nothing to the library is its two notifications. -/
theorem withMutation (simulates : Simulates discipline sessions world) (registrar : Fin n)
    (key : Key) (body : Bystander discipline) :
    ∃ after, (withMutation (discipline.bystanders call) ⟨registrar⟩ key body.act).run world =
        (.ok (), after) ∧
      Simulates discipline ((sessions.map (.notify registrar key .willChange)).map
        (.notify registrar key .didChange)) after := by
  obtain ⟨before, first, announced⟩ := simulates.notify call registrar key .willChange
  obtain ⟨returned, own⟩ := body.inert before
  obtain ⟨after, second, done⟩ := (announced.own own).notify call registrar key .didChange
  refine ⟨after, ?_, done⟩
  rw [ChangeTracking.withMutation, Act.run_bind_ok first, Act.run_bind_ok (Act.run_attempt ..),
    returned]
  exact Act.run_bind_ok second

end Notifications
end Simulates
end ChangeTracking
