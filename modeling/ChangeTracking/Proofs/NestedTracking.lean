import ChangeTracking.Proofs.Bystanders
import ChangeTracking.Proofs.TrackedReads

/-! Tracked reads inside tracked reads. A read hands its accesses on to the reads around it, and its
session is armed when it returns, so that inner sessions stand before outer ones and earlier ones
before later ones. A change calls those in whose part of the tree its key was read, in this order. -/
namespace ChangeTracking

/-- What the body of a read does: it reads keys, and it tracks reads of the same kind. -/
inductive Reading (κ : Type) where
  | access (registrar : RegistrarId) (key : Key)
  | track (callback : κ) (body : List (Reading κ))

/-- A tracked read: its callback, and what was read until it returned. -/
structure Observer (κ : Type) where
  callback : κ
  reads : List Read

namespace Reading
variable {κ : Type}

mutual
/-- All that is read, by the reading itself and inside it. -/
def reads : Reading κ → List Read
  | .access registrar key => [(registrar, key)]
  | .track _ body => readsAll body
termination_by structural reading => reading

def readsAll : List (Reading κ) → List Read
  | [] => []
  | reading :: rest => reading.reads ++ readsAll rest
termination_by structural readings => readings
end

mutual
def observers : Reading κ → List (Observer κ)
  | .access .. => []
  | .track callback body => observersAll body ++ [⟨callback, readsAll body⟩]
termination_by structural reading => reading

def observersAll : List (Reading κ) → List (Observer κ)
  | [] => []
  | reading :: rest => reading.observers ++ observersAll rest
termination_by structural readings => readings
end

mutual
def act {H : Host} : Reading H.Callback → Act H Unit
  | .access registrar key => ChangeTracking.access registrar key
  | .track callback body => trackWillChange (actAll body) callback
termination_by structural reading => reading

def actAll {H : Host} : List (Reading H.Callback) → Act H Unit
  | [] => pure ()
  | reading :: rest => do
    reading.act
    actAll rest
termination_by structural readings => readings
end

end Reading

variable {H : Host} {discipline : Discipline H}

namespace World
variable (world : World H)

def observed (world : World H) (observers : List (Observer H.Callback)) : World H :=
  observers.foldl (fun world observer => world.tracked observer.reads observer.callback) world

theorem observed_append (observers more : List (Observer H.Callback)) :
    world.observed (observers ++ more) = (world.observed observers).observed more :=
  List.foldl_append

theorem observed_gained (observers : List (Observer H.Callback)) (reads : List Read) :
    (world.gained reads).observed observers = (world.observed observers).gained reads := by
  induction observers generalizing world with
  | nil => rfl
  | cons observer rest ih => exact ih (world.tracked observer.reads observer.callback)

theorem observed_recordingAnew (observers : List (Observer H.Callback)) :
    world.recordingAnew.observed observers = (world.observed observers).recordingAnew := by
  induction observers generalizing world with
  | nil => rfl
  | cons observer rest ih => exact ih (world.tracked observer.reads observer.callback)

theorem thread_observed (observers : List (Observer H.Callback)) :
    (world.observed observers).thread = world.thread := by
  induction observers generalizing world with
  | nil => rfl
  | cons observer rest ih => exact ih (world.tracked observer.reads observer.callback)

end World

namespace Reading

mutual
/-- A reading arms its observers and leaves its reads to the recording around it. -/
theorem run_act (reading : Reading H.Callback) (world : World H) :
    reading.act.run world =
      (.ok (), (world.observed reading.observers).gained reading.reads) := by
  cases reading with
  | access registrar key => exact run_access registrar key world
  | track callback body =>
    have inside := run_actAll body world.recordingAnew
    rw [World.observed_recordingAnew] at inside
    rw [act, run_trackWillChange (World.thread_observed world _) inside, observers, reads,
      World.observed_append]
    rfl
termination_by structural reading

theorem run_actAll (readings : List (Reading H.Callback)) (world : World H) :
    (actAll readings).run world =
      (.ok (), (world.observed (observersAll readings)).gained (readsAll readings)) := by
  cases readings with
  | nil =>
    rw [readsAll, World.gained_nil]
    rfl
  | cons reading rest =>
    rw [actAll, Act.run_bind_ok (run_act reading world), run_actAll rest, World.observed_gained,
      ← World.gained_append, ← World.observed_append]
    rfl
termination_by structural readings
end

end Reading

namespace World
variable {world : World H} (observers : List (Observer H.Callback))

theorem calls_observed : (world.observed observers).calls discipline = world.calls discipline := by
  induction observers generalizing world with
  | nil => rfl
  | cons observer rest ih => exact ih.trans (calls_tracked ..)

theorem due_observed (idle : world.due = none) : (world.observed observers).due = none := by
  induction observers generalizing world with
  | nil => exact idle
  | cons observer rest ih => exact ih (due_tracked ..)

theorem inStep_observed (inStep : world.tracker.InStep) :
    (world.observed observers).tracker.InStep := by
  induction observers generalizing world with
  | nil => exact inStep
  | cons observer rest ih => exact ih (inStep_tracked _ _ inStep)

theorem size_observed : (world.observed observers).tracker.sessions.size =
    world.tracker.sessions.size + observers.length := by
  induction observers generalizing world with
  | nil => rfl
  | cons observer rest ih =>
    refine ih.trans ?_
    rw [size_tracked, List.length_cons]
    omega

theorem session_observed_of_lt {id : SessionId} (old : id.index < world.tracker.sessions.size) :
    (world.observed observers).tracker.session id = world.tracker.session id := by
  induction observers generalizing world with
  | nil => rfl
  | cons observer rest ih =>
    have later : id.index < (world.tracked observer.reads observer.callback).tracker.sessions.size :=
      by
      rw [size_tracked]
      exact Nat.lt_succ_of_lt old
    exact (ih later).trans (session_tracked_of_ne _ _ (Nat.ne_of_lt old))

theorem session_observed {session : Observer H.Callback × Nat}
    (member : session ∈ observers.zipIdx world.tracker.sessions.size) :
    ((world.observed observers).tracker.session ⟨session.2⟩).status = .installed ∧
      ((world.observed observers).tracker.session ⟨session.2⟩).callbacks =
        ⟨some session.1.callback, none⟩ := by
  induction observers generalizing world with
  | nil => cases member
  | cons observer rest ih =>
    rw [List.zipIdx_cons] at member
    rcases List.mem_cons.mp member with rfl | later
    · have inside : world.tracker.sessions.size <
          (world.tracked observer.reads observer.callback).tracker.sessions.size := by
        rw [size_tracked]
        exact Nat.lt_succ_self _
      have kept := @session_observed_of_lt H _ rest ⟨world.tracker.sessions.size⟩ inside
      rw [observed, List.foldl_cons, ← observed, kept]
      exact session_tracked ..
    · rw [← size_tracked observer.reads observer.callback] at later
      exact ih later

/-- A notification finds those observers who have read its key, behind all who were there. -/
theorem snapshot_observed (inStep : world.tracker.InStep) {registrar : RegistrarId}
    (live : world.tracker.isLive registrar = true) (key : Key) :
    (world.observed observers).tracker.snapshot registrar key .willChange =
      world.tracker.snapshot registrar key .willChange ++
        ((observers.zipIdx world.tracker.sessions.size).filter fun session =>
          (registrar, key) ∈ session.1.reads).map fun session =>
            .session ⟨session.2⟩ registrar .willChange := by
  induction observers generalizing world with
  | nil => exact (List.append_nil _).symm
  | cons observer rest ih =>
    have still := (isLive_tracked observer.reads observer.callback inStep registrar).trans live
    rw [observed, List.foldl_cons, ← observed, ih (inStep_tracked _ _ inStep) still, size_tracked,
      snapshot_tracked _ _ inStep live, List.append_assoc, List.zipIdx_cons]
    congr 1
    by_cases read : (registrar, key) ∈ observer.reads <;> simp [read]

theorem any_snapshot_observed (inStep : world.tracker.InStep) {registrar : RegistrarId}
    (live : world.tracker.isLive registrar = true) (key : Key) {session : Observer H.Callback × Nat}
    (member : session ∈ observers.zipIdx world.tracker.sessions.size) :
    ((world.observed observers).tracker.snapshot registrar key .willChange).any
        (·.isOf ⟨session.2⟩) = decide ((registrar, key) ∈ session.1.reads) := by
  obtain ⟨new, place⟩ := List.mk_mem_zipIdx_iff_le_and_getElem?_sub.mp member
  rw [snapshot_observed observers inStep live, Bool.eq_iff_iff, List.any_eq_true,
    decide_eq_true_eq]
  constructor
  · rintro ⟨perceiver, found, mine⟩
    rcases List.mem_append.mp found with old | observer
    · cases perceiver with
      | direct callback => cases mine
      | session id source phase =>
        obtain rfl := of_decide_eq_true mine
        exact absurd (inStep.awaits_of_mem_snapshot old).index_lt (Nat.not_lt.mpr new)
    · obtain ⟨other, hit, rfl⟩ := List.mem_map.mp observer
      obtain ⟨listed, read⟩ := List.mem_filter.mp hit
      have same : other.2 = session.2 := congrArg SessionId.index (of_decide_eq_true mine)
      obtain ⟨_, there⟩ := List.mk_mem_zipIdx_iff_le_and_getElem?_sub.mp listed
      rw [same, place] at there
      rw [Option.some.inj there]
      exact of_decide_eq_true read
  · intro read
    refine ⟨.session ⟨session.2⟩ registrar .willChange, ?_, by simp [Perceiver.isOf]⟩
    refine List.mem_append_right _ (List.mem_map.mpr ⟨session, ?_, rfl⟩)
    exact List.mem_filter.mpr ⟨member, decide_eq_true read⟩

end World

/-- Once a tracked read has returned, a change calls the callbacks of just those tracked reads, it and
those inside it, in which its key was read: each once, inner ones before outer ones and earlier ones
before later ones. These have fired then, and the others still wait. -/
theorem Reachable.nested_in_postorder {world : World H} (reachable : Reachable discipline world)
    (call : H.Callback → ChangeEvent → Bystander discipline) (callback : H.Callback)
    (body : List (Reading H.Callback)) {registrar : RegistrarId}
    (live : world.tracker.isLive registrar = true) (key : Key) :
    let observers := (Reading.track callback body).observers
    let sessions := observers.zipIdx world.tracker.sessions.size
    let change : Act H Unit := notify (discipline.bystanders call) registrar key .willChange
    ∃ tracked after,
      (Reading.track callback body).act.run world = (.ok (), tracked) ∧
      tracked.tracker.sessions.size = world.tracker.sessions.size + observers.length ∧
      change.run tracked = (.ok (), after) ∧
      after.calls discipline = (change.run world).2.calls discipline ++
        (sessions.filter fun session => (registrar, key) ∈ session.1.reads).map (fun session =>
          ⟨some ⟨session.2⟩, session.1.callback, ⟨registrar, key, .willChange⟩⟩) ∧
      ∀ session ∈ sessions, (after.tracker.session ⟨session.2⟩).status =
        if (registrar, key) ∈ session.1.reads then .fired else .installed := by
  intro observers sessions change
  obtain ⟨past, evolution⟩ := reachable.evolution
  obtain ⟨_, _, _, _, _, idle⟩ := reachable
  have inStep := evolution.inStep world List.mem_cons_self
  let event : ChangeEvent := ⟨registrar, key, .willChange⟩
  let tracked := (world.observed observers).gained (Reading.track callback body).reads
  have due : tracked.due = none := World.due_observed observers idle
  have ready : tracked.tracker.InStep := World.inStep_observed observers inStep
  obtain ⟨alone, changed, before⟩ := notify_bystanders call idle inStep event
  obtain ⟨after, run, served⟩ := notify_bystanders call due ready event
  have found : tracked.tracker.snapshot registrar key .willChange = _ :=
    World.snapshot_observed observers inStep live key
  have armed : ∀ session ∈ sessions, (tracked.tracker.session ⟨session.2⟩).status = .installed ∧
      (tracked.tracker.session ⟨session.2⟩).callbacks = ⟨some session.1.callback, none⟩ :=
    fun _ member => World.session_observed observers member
  have changed : change.run world = (.ok (), alone) := changed
  refine ⟨tracked, after, Reading.run_act _ world, World.size_observed observers, run, ?_, ?_⟩
  · have old : (world.tracker.snapshot registrar key .willChange).filterMap
        (·.answer? tracked.tracker event) =
        (world.tracker.snapshot registrar key .willChange).filterMap
          (·.answer? world.tracker event) := by
      apply List.filterMap_congr
      intro perceiver member
      cases perceiver with
      | direct callback => rfl
      | session id source phase =>
        have kept : tracked.tracker.session id = world.tracker.session id :=
          World.session_observed_of_lt observers (inStep.awaits_of_mem_snapshot member).index_lt
        rw [Perceiver.answer?, kept]
        rfl
    have calls : tracked.calls discipline = world.calls discipline :=
      World.calls_observed observers
    rw [served.calls, found, List.filterMap_append, old, calls, ← List.append_assoc, changed,
      before.calls]
    congr 1
    rw [List.filterMap_map, ← List.filterMap_eq_map]
    apply List.filterMap_congr
    intro each member
    obtain ⟨_, given⟩ := armed each (List.mem_of_mem_filter member)
    simp [Perceiver.answer?, given, event, PerPhase.find?]
  · intro each member
    obtain ⟨waiting, given⟩ := armed each member
    have last : (tracked.tracker.session ⟨each.2⟩).isLast event.phase = true := by
      rw [Session.isLast, given]
      rfl
    have told : (tracked.tracker.snapshot registrar key .willChange).any (·.isOf ⟨each.2⟩) = _ :=
      World.any_snapshot_observed observers inStep live key member
    rw [served.session, told]
    by_cases read : (registrar, key) ∈ each.1.reads <;> simp [read, waiting, Session.fire, last]

/-- A read that tracks two others: all of them but the first inner one read the key that changes. -/
def readings : List (Reading Nat) :=
  [.track 1 [.access ⟨0⟩ ⟨"b"⟩], .access ⟨0⟩ ⟨"a"⟩, .track 2 [.access ⟨0⟩ ⟨"a"⟩]]

theorem Reachable.nested_in_postorder_of_readings :
    oneRegistrar.tracker.isLive ⟨0⟩ = true ∧ ∃ tracked after,
      (Reading.track (0 : Nat) readings).act.run oneRegistrar = (.ok (), tracked) ∧
      (notify (Discipline.plain.bystanders fun _ _ => .idle) ⟨0⟩ ⟨"a"⟩ .willChange).run tracked =
        (.ok (), after) ∧
      after.calls Discipline.plain =
        [⟨some ⟨1⟩, (2 : Nat), ⟨⟨0⟩, ⟨"a"⟩, .willChange⟩⟩,
          ⟨some ⟨2⟩, (0 : Nat), ⟨⟨0⟩, ⟨"a"⟩, .willChange⟩⟩] ∧
      (after.tracker.session ⟨0⟩).status = .installed := by
  have live : oneRegistrar.tracker.isLive ⟨0⟩ = true := rfl
  obtain ⟨tracked, after, read, _, changed, calls, statuses⟩ :=
    reachable_oneRegistrar.nested_in_postorder (fun _ _ => .idle) (0 : Nat) readings live ⟨"a"⟩
  exact ⟨live, tracked, after, read, changed, calls, statuses (⟨(1 : Nat), _⟩, 0) (.head _)⟩

end ChangeTracking
