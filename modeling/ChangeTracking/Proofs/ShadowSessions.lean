import ChangeTracking.Proofs.Ownership
import ChangeTracking.Proofs.ShadowModel

namespace ChangeTracking
variable {n : Nat} {κ : Type}

namespace Shadow
variable {shadow : Shadow n} {phase : Phase}

theorem pending_iff : shadow.pending phase = true ↔
    shadow.cancelled = false ∧ shadow.wants phase = true ∧ shadow.delivered phase = false := by
  cases phase <;> simp only [pending, live, finished] <;>
    cases shadow.cancelled <;> cases shadow.wants .willChange <;>
    cases shadow.wants .didChange <;> cases shadow.delivered .willChange <;>
    cases shadow.delivered .didChange <;> decide

theorem finished_iff : shadow.finished = true ↔
    ∀ phase, shadow.wants phase = true → shadow.delivered phase = true := by
  constructor
  · intro finished phase
    simp only [Shadow.finished, Bool.and_eq_true, Bool.or_eq_true, Bool.not_eq_true'] at finished
    cases phase <;> grind
  · intro all
    have will := all .willChange
    have did := all .didChange
    simp only [Shadow.finished, Bool.and_eq_true, Bool.or_eq_true, Bool.not_eq_true']
    grind

theorem pending_deliver (other : Phase) : (shadow.deliver phase).pending other =
    (shadow.pending other && decide (other ≠ phase)) := by
  rw [Bool.eq_iff_iff, Bool.and_eq_true, pending_iff, pending_iff]
  by_cases same : other = phase <;> simp [deliver, same]

theorem status_of_pending (pending : shadow.pending phase = true) :
    shadow.status = .installed := by
  obtain ⟨running, wanted, missing⟩ := pending_iff.mp pending
  have unfinished : shadow.finished = false := by
    by_contra finished
    have delivered := finished_iff.mp (by simpa using finished) phase wanted
    rw [missing] at delivered
    cases delivered
  simp [status, running, unfinished]

theorem touches_iff {registrar : Fin n} :
    shadow.touches registrar = true ↔ ∃ key, (registrar, key) ∈ shadow.reads := by
  rw [touches, decide_eq_true_iff, Finset.mem_image]
  constructor
  · rintro ⟨⟨_, key⟩, member, rfl⟩
    exact ⟨key, member⟩
  · rintro ⟨key, member⟩
    exact ⟨(registrar, key), member, rfl⟩

theorem isTerminal_status : shadow.status.isTerminal = !shadow.live := by
  unfold live status
  cases shadow.cancelled <;> cases shadow.finished <;> rfl

theorem live_iff : shadow.live = true ↔ shadow.status = .installed := by
  unfold live status
  cases shadow.cancelled <;> cases shadow.finished <;> simp

end Shadow

/-- What keeps the parts of a session in the model together. -/
structure Tracked.Sound (tracked : Tracked n κ) : Prop where
  wants : ∀ phase, tracked.shadow.wants phase = (tracked.callbacks.find? phase).isSome
  hits : ∀ phase, (tracked.hits.filter fun event => event.phase = phase).length =
    (tracked.shadow.delivered phase).toNat

namespace Tracked.Sound
variable {tracked : Tracked n κ}

theorem create (reads : List (Fin n × Key)) (callbacks : PerPhase κ) :
    (Tracked.create reads callbacks).Sound :=
  ⟨fun _ => rfl, fun _ => rfl⟩

theorem deliver (sound : tracked.Sound) {event : ChangeEvent}
    (pending : tracked.shadow.pending event.phase = true) : (tracked.deliver event).Sound where
  wants := sound.wants
  hits phase := by
    have missing := (Shadow.pending_iff.mp pending).2.2
    have before := sound.hits phase
    by_cases same : phase = event.phase
    · subst same
      rw [missing] at before
      simp [Tracked.deliver, Shadow.deliver, List.filter_append, before]
    · simp [Tracked.deliver, Shadow.deliver, List.filter_append, before, same, Ne.symm same]

theorem cancel (sound : tracked.Sound) : tracked.cancel.Sound := by
  unfold Tracked.cancel Shadow.cancel
  split
  · exact ⟨sound.wants, sound.hits⟩
  · exact sound

end Tracked.Sound

/-- How a session looks beside its shadow. -/
structure Matches (tracked : Tracked n κ) (session : Session κ) : Prop where
  status : session.status = tracked.shadow.status
  callbacks : ∀ phase, session.callbacks.find? phase =
    if tracked.shadow.pending phase then tracked.callbacks.find? phase else none
  reads : ∀ (registrar : Fin n) key, session.reads.contains ⟨registrar⟩ key = true ↔
    (registrar, key) ∈ tracked.shadow.reads
  registrars : ∀ id, id ∈ session.reads.registrars ↔
    ∃ registrar : Fin n, id = ⟨registrar⟩ ∧ registrar ∈ tracked.shadow.reads.image (·.1)
  installed : session.status = .installed →
    session.installed.map (·.registrar) = session.reads.registrars
  changed : session.changed = tracked.hits.getLast?.map (·.key)

namespace Matches
variable {tracked : Tracked n κ} {session : Session κ} {event : ChangeEvent}

theorem awaits (same : Matches tracked session) (sound : tracked.Sound) {phase : Phase}
    (pending : tracked.shadow.pending phase = true) :
    ∃ callback, session.callbacks.find? phase = some callback ∧
      tracked.callbacks.find? phase = some callback := by
  have wanted := (Shadow.pending_iff.mp pending).2.1
  rw [sound.wants] at wanted
  obtain ⟨callback, found⟩ := Option.isSome_iff_exists.mp wanted
  exact ⟨callback, by rw [same.callbacks, if_pos pending, found], found⟩

theorem mem_keys_iff (same : Matches tracked session) {registrar : Fin n} {key : Key} :
    key ∈ session.reads.keys ⟨registrar⟩ ↔ (registrar, key) ∈ tracked.shadow.reads := by
  rw [← same.reads, AccessList.contains, decide_eq_true_iff]

theorem isSome_find? (same : Matches tracked session) (sound : tracked.Sound)
    (phase : Phase) :
    (session.callbacks.find? phase).isSome = tracked.shadow.pending phase := by
  rw [same.callbacks]
  split
  · rename_i pending
    rw [← sound.wants, (Shadow.pending_iff.mp pending).2.1, pending]
  · rename_i idle
    simpa using idle

private theorem isLast_eq (same : Matches tracked session) (sound : tracked.Sound)
    (pending : tracked.shadow.pending event.phase = true) :
    session.isLast event.phase = (tracked.shadow.deliver event.phase).finished := by
  obtain ⟨running, _, _⟩ := Shadow.pending_iff.mp pending
  rw [Bool.eq_iff_iff, Session.isLast, PerPhase.isEmpty_iff, Shadow.finished_iff]
  apply forall_congr'
  intro phase
  have waits := same.isSome_find? sound phase
  rw [PerPhase.find?_erase]
  by_cases here : phase = event.phase
  · simp [here, Shadow.deliver]
  · rw [if_neg here, ← Option.not_isSome_iff_eq_none, waits, Shadow.pending_iff]
    simp [Shadow.deliver, here, running]

theorem deliver (same : Matches tracked session) (sound : tracked.Sound)
    (pending : tracked.shadow.pending event.phase = true) :
    Matches (tracked.deliver event) (session.fire event) where
  status := by
    have running := (Shadow.pending_iff.mp pending).1
    have last := same.isLast_eq sound pending
    simp only [Session.fire, Tracked.deliver, Shadow.status, last]
    simp [Shadow.deliver, running]
  callbacks phase := by
    rw [Session.fire, PerPhase.find?_erase, same.callbacks, Tracked.deliver,
      Shadow.pending_deliver]
    by_cases here : phase = event.phase <;> simp [here]
  reads := same.reads
  registrars := same.registrars
  installed after := by
    have before : session.status = .installed :=
      same.status.trans (Shadow.status_of_pending pending)
    by_cases last : session.isLast event.phase = true
    · simp [Session.fire, last] at after
    · simp only [Session.fire, last, Bool.false_eq_true, if_false, Session.withoutPhase,
        List.map_map]
      exact same.installed before
  changed := by simp [Session.fire, Tracked.deliver]

theorem cancel (same : Matches tracked session) (live : tracked.shadow.live = true) :
    Matches tracked.cancel session.cancel := by
  have ended : tracked.cancel.shadow = { tracked.shadow with cancelled := true } := by
    rw [Tracked.cancel, Shadow.cancel, if_pos live]
  refine ⟨?_, ?_, ?_, ?_, ?_, same.changed⟩
  · rw [ended]
    rfl
  · intro phase
    have idle : tracked.cancel.shadow.pending phase = false := by
      rw [ended]
      simp [Shadow.pending, Shadow.live]
    rw [idle]
    cases phase <;> rfl
  · rw [ended]
    exact same.reads
  · rw [ended]
    exact same.registrars
  · intro installed
    cases installed

end Matches
end ChangeTracking
