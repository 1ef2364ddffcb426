import ChangeTracking.Proofs.SessionSteps

namespace ChangeTracking

namespace TraceEvent

def session? : TraceEvent → Option SessionId
  | .installed id .. | .fired id .. | .cancelled id .. => some id
  | .notified .. | .viewInvalidated .. | .runComplete .. => none

def delivered? : TraceEvent → Option ChangeEvent
  | .fired _ event .. => some event
  | _ => none

end TraceEvent

variable {κ : Type} {id : SessionId} {given : PerPhase κ → Prop}

/-- One turn of a session with its report. -/
inductive Turn (id : SessionId) (session : Session κ) : Session κ → TraceEvent → Prop where
  | arm {callbacks : PerPhase κ} (installed : List Installation) (registrars subscriptions : Nat)
      (pending : session.status = .pending) (wanted : callbacks.isEmpty = false) :
      Turn id session (session.arm callbacks installed) (.installed id registrars subscriptions)
  | fire {event : ChangeEvent} {callback : κ} (removed : Nat) (installed : session.status = .installed)
      (found : session.callbacks.find? event.phase = some callback) :
      Turn id session (session.fire event)
        (.fired id event removed (session.isLast event.phase))
  | cancel (removed : Nat) (running : session.status.isTerminal = false) :
      Turn id session session.cancel (.cancelled id removed)

/-- The reports on a session, by its status and the callbacks that it has left, where it may
have been given certain callbacks only. -/
inductive Life (id : SessionId) (given : PerPhase κ → Prop) :
    SessionStatus → PerPhase κ → List TraceEvent → Prop where
  | created (callbacks : PerPhase κ) : Life id given .pending callbacks []
  | dropped (callbacks : PerPhase κ) (removed : Nat) :
      Life id given .cancelled callbacks [.cancelled id removed]
  | armed {callbacks : PerPhase κ} (registrars subscriptions : Nat) (mine : given callbacks) :
      Life id given .installed callbacks [.installed id registrars subscriptions]
  | advanced {callbacks : PerPhase κ} (registrars subscriptions : Nat) (event : ChangeEvent)
      (removed : Nat) (mine : given callbacks)
      (both : ∀ phase, (callbacks.find? phase).isSome = true) :
      Life id given .installed (callbacks.erase event.phase)
        [.installed id registrars subscriptions, .fired id event removed false]
  | fired {callbacks : PerPhase κ} {events : List TraceEvent} (left : PerPhase κ)
      {event : ChangeEvent} (removed : Nat) (before : Life id given .installed callbacks events)
      (awaited : (callbacks.find? event.phase).isSome = true) :
      Life id given .fired left (events ++ [.fired id event removed true])
  | cancelled {callbacks : PerPhase κ} {events : List TraceEvent} (left : PerPhase κ)
      (removed : Nat) (before : Life id given .installed callbacks events) :
      Life id given .cancelled left (events ++ [.cancelled id removed])

/-- All that the reports on a session can become. -/
inductive WholeLife (id : SessionId) : List TraceEvent → Prop where
  | dropped (removed : Nat) : WholeLife id [.cancelled id removed]
  | lived (registrars subscriptions : Nat) {first last : List TraceEvent}
      (half : first = [] ∨ ∃ event removed, first = [.fired id event removed false])
      (done : last = [] ∨ (∃ event removed, last = [.fired id event removed true]) ∨
        ∃ removed, last = [.cancelled id removed]) :
      WholeLife id (.installed id registrars subscriptions :: (first ++ last))

namespace Life
variable {status : SessionStatus} {callbacks : PerPhase κ} {events : List TraceEvent}

theorem mono {other : PerPhase κ → Prop} (life : Life id given status callbacks events)
    (more : ∀ callbacks, given callbacks → other callbacks) :
    Life id other status callbacks events := by
  induction life with
  | created => exact .created _
  | dropped => exact .dropped _ _
  | armed _ _ mine => exact .armed _ _ (more _ mine)
  | advanced _ _ _ _ mine both => exact .advanced _ _ _ _ (more _ mine) both
  | fired left removed _ awaited before => exact .fired left removed before awaited
  | cancelled left removed _ before => exact .cancelled left removed before

private theorem of_installed (life : Life id given .installed callbacks events) :
    ∃ registrars subscriptions first, events = .installed id registrars subscriptions :: first ∧
      (first = [] ∨ ∃ event removed, first = [.fired id event removed false]) := by
  cases life with
  | armed registrars subscriptions => exact ⟨_, _, _, rfl, .inl rfl⟩
  | advanced registrars subscriptions event removed => exact ⟨_, _, _, rfl, .inr ⟨_, _, rfl⟩⟩

/-- What was reported so far is the beginning of a whole life. -/
theorem whole (life : Life id given status callbacks events) :
    ∃ word, WholeLife id word ∧ events <+: word := by
  cases life with
  | created => exact ⟨_, .dropped 0, List.nil_prefix⟩
  | dropped _ removed => exact ⟨_, .dropped removed, List.prefix_refl _⟩
  | armed registrars subscriptions =>
    exact ⟨_, .lived registrars subscriptions (.inl rfl) (.inl rfl), List.prefix_refl _⟩
  | advanced registrars subscriptions event removed =>
    exact ⟨_, .lived registrars subscriptions (.inr ⟨event, removed, rfl⟩) (.inl rfl),
      List.prefix_refl _⟩
  | fired _ removed before =>
    obtain ⟨registrars, subscriptions, first, rfl, shape⟩ := of_installed before
    exact ⟨_, .lived registrars subscriptions shape (.inr (.inl ⟨_, removed, rfl⟩)),
      List.prefix_refl _⟩
  | cancelled _ removed before =>
    obtain ⟨registrars, subscriptions, first, rfl, shape⟩ := of_installed before
    exact ⟨_, .lived registrars subscriptions shape (.inr (.inr ⟨removed, rfl⟩)),
      List.prefix_refl _⟩

theorem both_of_unfinished (life : Life id given status callbacks events) {event : ChangeEvent}
    {removed : Nat} (unfinished : .fired id event removed false ∈ events) :
    ∃ all, given all ∧ ∀ phase, (all.find? phase).isSome = true := by
  induction life with
  | created => cases unfinished
  | dropped => simp at unfinished
  | armed => simp at unfinished
  | advanced _ _ _ _ mine both => exact ⟨_, mine, both⟩
  | fired _ _ _ _ earlier => exact earlier (by simpa using unfinished)
  | cancelled _ _ _ earlier => exact earlier (by simpa using unfinished)

/-- An installed session has the callbacks left that it was given, but for the phases that were
delivered. -/
theorem left_of_installed (life : Life id given .installed callbacks events) :
    ∃ all, given all ∧ ∀ phase, callbacks.find? phase =
      if phase ∈ (events.filterMap TraceEvent.delivered?).map (·.phase) then none
      else all.find? phase := by
  cases life with
  | armed _ _ mine => exact ⟨_, mine, fun phase => by simp [TraceEvent.delivered?]⟩
  | advanced _ _ event _ mine =>
    refine ⟨_, mine, fun phase => ?_⟩
    rw [PerPhase.find?_erase]
    simp [TraceEvent.delivered?, eq_comm]

theorem given_of_find? (life : Life id given .installed callbacks events) {phase : Phase}
    {callback : κ} (found : callbacks.find? phase = some callback) :
    ∃ all, given all ∧ all.find? phase = some callback := by
  obtain ⟨all, mine, left⟩ := life.left_of_installed
  rw [left] at found
  split at found
  · cases found
  · exact ⟨all, mine, found⟩

theorem undelivered (life : Life id given .installed callbacks events) {phase : Phase}
    (awaited : (callbacks.find? phase).isSome = true) :
    phase ∉ (events.filterMap TraceEvent.delivered?).map (·.phase) := by
  obtain ⟨_, _, left⟩ := life.left_of_installed
  intro delivered
  rw [left, if_pos delivered] at awaited
  cases awaited

theorem nodup (life : Life id given status callbacks events) :
    ((events.filterMap TraceEvent.delivered?).map (·.phase)).Nodup := by
  induction life with
  | created => exact .nil
  | dropped => exact .nil
  | armed => exact .nil
  | advanced => exact List.nodup_singleton _
  | fired _ _ before awaited earlier =>
    have fresh := before.undelivered awaited
    rw [List.filterMap_append, List.map_append]
    refine List.nodup_append.mpr ⟨earlier, List.nodup_singleton _, ?_⟩
    intro phase member last here
    obtain rfl := List.mem_singleton.mp here
    rintro rfl
    exact fresh member
  | cancelled _ _ _ earlier =>
    rw [List.filterMap_append]
    exact (List.append_nil _).symm ▸ earlier

private theorem advance (life : Life id given .installed callbacks events) {event : ChangeEvent}
    (removed : Nat) (awaited : (callbacks.find? event.phase).isSome = true)
    (more : ¬ (callbacks.erase event.phase).isEmpty = true) :
    Life id given .installed (callbacks.erase event.phase)
      (events ++ [.fired id event removed false]) := by
  obtain ⟨phase, left⟩ := (PerPhase.isEmpty_eq_false_iff _).mp (Bool.not_eq_true _ ▸ more)
  rw [PerPhase.find?_erase] at left
  obtain ⟨different, found⟩ : phase ≠ event.phase ∧ (callbacks.find? phase).isSome = true := by
    split at left
    · cases left
    · exact ⟨by assumption, left⟩
  cases life with
  | armed registrars subscriptions mine =>
    apply Life.advanced registrars subscriptions event removed mine
    intro any
    cases any <;> cases here : event.phase <;> cases there : phase <;> simp_all
  | advanced _ _ earlier =>
    -- The one phase was delivered, so only one is left.
    rw [PerPhase.find?_erase] at awaited found
    cases here : event.phase <;> cases there : phase <;> cases gone : earlier.phase <;> simp_all

/-- A turn carries the life of a session on. -/
theorem turn {session after : Session κ} {event : TraceEvent}
    (life : Life id given session.status session.callbacks events)
    (turn : Turn id session after event)
    (mine : session.status = .pending → after.status = .installed → given after.callbacks) :
    Life id given after.status after.callbacks (events ++ [event]) := by
  cases turn with
  | arm installed registrars subscriptions pending wanted =>
    have mine := mine pending rfl
    rw [pending] at life
    cases life
    exact .armed registrars subscriptions mine
  | fire removed installed found =>
    rename_i event callback
    have awaited : (session.callbacks.find? event.phase).isSome = true := by rw [found]; rfl
    rw [installed] at life
    by_cases last : session.isLast event.phase = true
    · simp only [Session.fire, last, if_true]
      exact .fired _ removed life awaited
    · simp only [Session.fire, last, Bool.false_eq_true, if_false]
      exact life.advance removed awaited last
  | cancel removed running =>
    obtain ⟨reads, status, callbacks, installed, changed⟩ := session
    cases status with
    | pending =>
      cases life
      exact .dropped _ removed
    | installed => exact .cancelled _ removed life
    | fired => cases running
    | cancelled => cases running

end Life
end ChangeTracking
