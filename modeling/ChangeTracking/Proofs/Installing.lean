import ChangeTracking.Proofs.Delivery

namespace ChangeTracking

def PerPhase.phases {α : Type} (slots : PerPhase α) : List Phase :=
  [Phase.willChange, .didChange].filter fun phase => (slots.find? phase).isSome

namespace Tracker
variable {κ : Type} {tracker before after : Tracker κ} {id : SessionId}

/-- What a session that held nothing gets in the tables: at each registrar that is alive and was
read from, behind all that is there, one subscription for each phase that is wanted, to all keys
read from it. -/
structure Enlisted (id : SessionId) (reads : AccessList) (wanted : PerPhase κ)
    (before after : Tracker κ) : Prop where
  absent : ∀ registrar, ∀ subscription ∈ (before.table registrar).subscriptions,
    subscription.perceiver.isOf id = false
  gained : ∀ registrar, ∃ new,
    (after.table registrar).subscriptions = (before.table registrar).subscriptions ++ new ∧
      new.map (·.phase) =
        (if before.isLive registrar = true ∧ registrar ∈ reads.registrars
          then wanted.phases else []) ∧
      ∀ subscription ∈ new, subscription.keys = reads.keys registrar ∧
        subscription.perceiver = .session id registrar subscription.phase

theorem phases_ownSubscriptions (id : SessionId) (wanted : PerPhase κ) (read : AccessEntry)
    (next : Nat) : (ownSubscriptions id wanted read next).map (·.phase) = wanted.phases := by
  obtain ⟨will, did⟩ := wanted
  cases will <;> cases did <;> rfl

theorem InStep.enlisted_armOver (inStep : tracker.InStep)
    (pending : (tracker.session id).status = .pending) (callbacks : PerPhase κ)
    (reads : AccessList) :
    Enlisted id reads callbacks tracker (tracker.armOver id callbacks reads.entries).2 := by
  refine ⟨fun _ _ => inStep.absent_of_idle (by simp [pending]), fun registrar => ?_⟩
  refine ⟨_, subscriptions_armOver inStep.sound callbacks reads registrar, ?_, ?_⟩
  · split
    · exact phases_ownSubscriptions ..
    · rfl
  · split
    · intro subscription member
      obtain ⟨keys, perceiver, _⟩ := of_mem_ownSubscriptions member
      exact ⟨keys, perceiver⟩
    · simp

/-- A session that held nothing is installed over certain reads, and nothing else has happened. -/
structure Installed (id : SessionId) (reads : AccessList) (wanted : PerPhase κ)
    (before after : Tracker κ) : Prop where
  status : (after.session id).status = .installed
  read : (after.session id).reads = reads
  callbacks : (after.session id).callbacks = wanted
  others : ∀ other, other ≠ id → after.session other = before.session other
  live : ∀ registrar, after.isLive registrar = before.isLive registrar
  enlisted : Enlisted id reads wanted before after

theorem InStep.installed_armOver (inStep : tracker.InStep)
    (pending : (tracker.session id).status = .pending) (callbacks : PerPhase κ) :
    Installed id (tracker.session id).reads callbacks tracker
      (tracker.armOver id callbacks (tracker.session id).reads.entries).2 := by
  have sessions := session_armOver pending callbacks (tracker.session id).reads.entries
  have armed := sessions id
  rw [if_pos rfl] at armed
  refine ⟨by rw [armed]; rfl, by rw [armed]; rfl, by rw [armed]; rfl, ?_,
    isLive_armOver inStep.sound callbacks _, inStep.enlisted_armOver pending callbacks _⟩
  intro other different
  rw [sessions, if_neg different]

end Tracker

variable {H : Host} {discipline : Discipline H} {α : Type}

/-- A computation that answers and does nothing else: whatever follows runs as if the answer had
been there without it. -/
structure Act.Answers (act : Act H α) (answer : α) (world : World H) : Prop where
  run : act.run world = (.ok answer, world)
  follows : ∀ {β : Type} (rest : α → Act H β),
    (act >>= rest).run world = (rest answer).run world
  passes : ∀ {β : Type} (rest : α → Act H β) (moment : World H),
    moment ∈ (act >>= rest).trail world ↔ moment ∈ (rest answer).trail world

theorem Act.Answers.of_run {act : Act H α} {answer : α} {world : World H}
    (run : act.run world = (.ok answer, world))
    (stays : ∀ moment ∈ act.history world [], moment = world) : act.Answers answer world := by
  refine ⟨run, fun rest => run_bind_ok run, fun rest moment => ?_⟩
  have trail : (act >>= rest).trail world = (rest answer).trail world ++ act.history world [] := by
    rw [Act.trail, run_bind_ok run, history_bind_ok run, trail_append]
  have start : world ∈ (rest answer).trail world :=
    ((rest answer).suffix_history world []).subset List.mem_cons_self
  rw [trail, List.mem_append]
  constructor
  · rintro (passed | before)
    · exact passed
    · exact stays moment before ▸ start
  · exact .inl

section Runs
variable {id : SessionId} {callbacks : PerPhase H.Callback} {world : World H}

theorem install_of_empty (empty : callbacks.isEmpty = true) :
    (install id callbacks : Act H _) = .done (.error .missingCallbacks) := if_pos empty

theorem install_of_given (given : callbacks.isEmpty = false) :
    (install id callbacks : Act H _) = arm id callbacks := if_neg (by simp [given])

theorem run_install_of_pending (given : callbacks.isEmpty = false)
    (pending : (world.tracker.session id).status = .pending) :
    (install id callbacks).run world = (.ok (.ok ()), world.advance
      (some (world.tracker.armOver id callbacks (world.tracker.session id).reads.entries).1)
      (world.tracker.armOver id callbacks (world.tracker.session id).reads.entries).2) := by
  rw [install_of_given given, arm, Act.run_conduct]
  simp only [Tracker.arm, pending]

theorem answers_install_of_begun (given : callbacks.isEmpty = false)
    (begun : (world.tracker.session id).status ≠ .pending) :
    (install id callbacks : Act H _).Answers
      (if (world.tracker.session id).status = .cancelled then .ok ()
        else .error .alreadyInstalled) world := by
  rw [install_of_given given]
  refine .of_run ?_ (by simp [arm, Act.history_conduct])
  rw [arm, Act.run_conduct]
  simp only [Tracker.arm]
  cases status : (world.tracker.session id).status with
  | pending => exact absurd status begun
  | _ => simp [World.advance_none]

end Runs

/-- What an attempt to install a session answers and does. -/
structure Attempted (id : SessionId) (callbacks : PerPhase H.Callback) (world : World H)
    (answer : Except TrackingError Unit) (after : World H) : Prop where
  missing : answer = .error .missingCallbacks ↔ ∀ phase, callbacks.find? phase = none
  already : answer = .error .alreadyInstalled ↔
    (∃ phase, (callbacks.find? phase).isSome = true) ∧
      ((world.tracker.session id).status = .installed ∨
        (world.tracker.session id).status = .fired)
  accepted : answer = .ok () ↔
    (∃ phase, (callbacks.find? phase).isSome = true) ∧
      ((world.tracker.session id).status = .pending ∨
        (world.tracker.session id).status = .cancelled)
  /-- Refused or for a cancelled session, the attempt has no effect, now or later. -/
  vain : answer ≠ .ok () ∨ (world.tracker.session id).status = .cancelled →
    after = world ∧ (install id callbacks : Act H _).Answers answer world
  installs : answer = .ok () → (world.tracker.session id).status = .pending →
    world.tracker.Installed id (world.tracker.session id).reads callbacks after.tracker
  again : (world.tracker.session id).status = .pending → answer = .error .missingCallbacks →
    ∀ wanted : PerPhase H.Callback, (∃ phase, (wanted.find? phase).isSome = true) →
      ∃ later, (install id callbacks >>= fun _ => install id wanted).run world =
          (.ok (.ok ()), later) ∧
        world.tracker.Installed id (world.tracker.session id).reads wanted later.tracker

namespace Attempted
variable {id : SessionId} {callbacks : PerPhase H.Callback} {world : World H}

private theorem of_empty (empty : callbacks.isEmpty = true) (inStep : world.tracker.InStep) :
    Attempted id callbacks world (.error .missingCallbacks) world := by
  have none := callbacks.isEmpty_iff.mp empty
  have absent : ¬ ∃ phase, (callbacks.find? phase).isSome = true := by simp [none]
  refine ⟨iff_of_true rfl none, iff_of_false (by simp) fun both => absent both.1,
    iff_of_false (by simp) fun both => absent both.1, ?_, nofun, ?_⟩
  · rw [install_of_empty empty]
    exact fun _ => ⟨rfl, .of_run rfl (by simp [Act.history])⟩
  · intro pending _ wanted given
    rw [install_of_empty empty]
    exact ⟨_, run_install_of_pending (wanted.isEmpty_eq_false_iff.mpr given) pending,
      inStep.installed_armOver pending wanted⟩

private theorem of_pending (given : callbacks.isEmpty = false) (inStep : world.tracker.InStep)
    (pending : (world.tracker.session id).status = .pending) :
    Attempted id callbacks world (.ok ()) (world.advance
      (some (world.tracker.armOver id callbacks (world.tracker.session id).reads.entries).1)
      (world.tracker.armOver id callbacks (world.tracker.session id).reads.entries).2) := by
  have some := callbacks.isEmpty_eq_false_iff.mp given
  have present := callbacks.isEmpty_iff.not.mp (by simp [given])
  exact ⟨iff_of_false (by simp) present, iff_of_false (by simp) (by simp [pending]),
    iff_of_true rfl ⟨some, .inl pending⟩, by simp [pending],
    fun _ _ => inStep.installed_armOver pending callbacks, nofun⟩

private theorem of_begun (given : callbacks.isEmpty = false)
    (begun : (world.tracker.session id).status ≠ .pending) :
    Attempted id callbacks world
      (if (world.tracker.session id).status = .cancelled then .ok ()
        else .error .alreadyInstalled) world := by
  have some := callbacks.isEmpty_eq_false_iff.mp given
  have present := callbacks.isEmpty_iff.not.mp (by simp [given])
  refine ⟨iff_of_false (by split <;> simp) present, ?_, ?_,
    fun _ => ⟨rfl, answers_install_of_begun given begun⟩, fun _ pending => absurd pending begun,
    fun pending => absurd pending begun⟩
  all_goals
    simp only [some, true_and]
    cases status : (world.tracker.session id).status <;> simp_all

end Attempted

/-- Whoever attempts to install a session, in whatever callback it may be, is told that a callback
was missing, or that the session was installed before, just when it is so; then nothing has
happened. -/
theorem Reachable.install_attempted {world : World H} (reachable : Reachable discipline world)
    (id : SessionId) (callbacks : PerPhase H.Callback) :
    ∃ answer after, (install id callbacks).run world = (.ok answer, after) ∧
      Attempted id callbacks world answer after := by
  obtain ⟨past, before⟩ := reachable.evolution
  have inStep := before.inStep world List.mem_cons_self
  rcases empty : callbacks.isEmpty with _ | _
  · by_cases pending : (world.tracker.session id).status = .pending
    · exact ⟨_, _, run_install_of_pending empty pending, .of_pending empty inStep pending⟩
    · exact ⟨_, _, (answers_install_of_begun empty pending).run, .of_begun empty pending⟩
  · exact ⟨_, _, by rw [install_of_empty empty]; rfl, .of_empty empty inStep⟩

def readFirst : Act Host.plain Unit := do
  let registrar ← Act.track (·.createRegistrar)
  let recorded ← record (access registrar ⟨"a"⟩)
  let _ ← Act.track (·.createSession recorded.2)

theorem client_readFirst : Client Discipline.plain readFirst :=
  .bind .createRegistrar fun registrar => .bind (.record (.access registrar _)) fun recorded =>
    .bind (.createSession recorded.2) fun _ => .done ()

/-- A session that was first given no callback is installed with one. -/
theorem Reachable.install_attempted_of_readFirst :
    let world := (readFirst.run (World.initial ())).2
    ∃ later, (install ⟨0⟩ ∅ >>= fun _ => install ⟨0⟩ ⟨some (0 : Nat), none⟩).run world =
        (.ok (.ok ()), later) ∧
      world.tracker.Installed ⟨0⟩ (.ofReads [(⟨0⟩, ⟨"a"⟩)]) ⟨some (0 : Nat), none⟩
        later.tracker := by
  have reachable : Reachable Discipline.plain (readFirst.run (World.initial ())).2 :=
    ⟨_, readFirst, (), client_readFirst, List.mem_cons_self, rfl⟩
  obtain ⟨answer, after, _, attempted⟩ := reachable.install_attempted ⟨0⟩ ∅
  have refused := attempted.missing.mpr fun phase => by cases phase <;> rfl
  exact attempted.again rfl refused ⟨some (0 : Nat), none⟩ ⟨.willChange, rfl⟩

end ChangeTracking
