import ChangeTracking.Proofs.Delivery
import ChangeTracking.Proofs.ShadowRefinement
import ChangeTracking.Proofs.RecordedReads

namespace ChangeTracking
variable {H : Host} {discipline : Discipline H} {α : Type}

def readEach : List Read → Act H Unit
  | [] => pure ()
  | read :: rest => do
    access read.1 read.2
    readEach rest

namespace World

/-- The world with further reads in the list that is being recorded, if one is. -/
def gained (world : World H) (reads : List Read) : World H :=
  { world with thread := { world.thread with
    recording := world.thread.recording.map (·.merge (.ofReads reads)) } }

/-- The world after a read that was tracked for the first will-change of what it read. -/
def tracked (world : World H) (reads : List Read) (callback : H.Callback) : World H :=
  world.armed (.ofReads reads) ⟨some callback, none⟩

theorem gained_nil (world : World H) : world.gained [] = world := by
  obtain ⟨_, ⟨recording, _⟩, _⟩ := world
  cases recording <;> rfl

theorem gained_append (world : World H) (reads more : List Read) :
    world.gained (reads ++ more) = (world.gained reads).gained more := by
  rw [gained, AccessList.ofReads_append, gained, gained]
  simp only [Option.map_map, Function.comp_def, AccessList.merge_assoc]

end World

theorem run_access (registrar : RegistrarId) (key : Key) (world : World H) :
    (access registrar key).run world = (.ok (), world.gained [(registrar, key)]) := by
  obtain ⟨_, ⟨recording, _⟩, _⟩ := world
  cases recording with
  | none => rfl
  | some list =>
    have same : list.merge (.ofReads [(registrar, key)]) = list.add registrar key :=
      (list.add_eq_merge registrar key).symm
    rw [World.gained, Option.map_some, same]
    rfl

theorem run_readEach (reads : List Read) (world : World H) :
    (readEach reads).run world = (.ok (), world.gained reads) := by
  induction reads generalizing world with
  | nil => rw [world.gained_nil]; rfl
  | cons read rest ih =>
    rw [readEach, Act.run_bind_ok (run_access read.1 read.2 world), ih, ← World.gained_append]
    rfl

/-- A recording whose body gains reads hands them over, and the recording around it gains them. -/
theorem run_record_gained {body : Act H α} {world after : World H} {value : α} {reads : List Read}
    (thread : after.thread = world.thread)
    (inside : body.run world.recordingAnew = (.ok value, after.recordingAnew.gained reads)) :
    (record body).run world = (.ok (value, .ofReads reads), after.gained reads) := by
  have recorded : (after.recordingAnew.gained reads).recorded = .ofReads reads :=
    AccessList.empty_merge _
  rw [Act.run_record, inside, World.resumeRecording, recorded, ← thread]
  simp only [AccessList.absorb_eq_merge]
  rfl

theorem run_trackWillChange {read : Act H α} {world after : World H} {value : α}
    {reads : List Read} (thread : after.thread = world.thread)
    (inside : read.run world.recordingAnew = (.ok value, after.recordingAnew.gained reads))
    (callback : H.Callback) :
    (trackWillChange read callback).run world =
      (.ok value, (after.tracked reads callback).gained reads) := by
  have recorded := run_record_gained thread inside
  exact Act.run_bind_ok (run_trackArmed recorded ⟨some callback, none⟩)

namespace World
variable {world : World H} (reads : List Read) (callback : H.Callback)

theorem log_tracked (world : World H) : ∃ registrars subscriptions,
    (world.tracked reads callback).log.toList = world.log.toList ++
      [.trace (.installed ⟨world.tracker.sessions.size⟩ registrars subscriptions)] :=
  ⟨_, _, advance_log ..⟩

theorem calls_tracked :
    (world.tracked reads callback).calls discipline = world.calls discipline :=
  world.calls_advance _ _

theorem due_tracked : (world.tracked reads callback).due = none := by
  obtain ⟨registrars, subscriptions, log⟩ := log_tracked reads callback world
  rw [due_append log]
  rfl

theorem size_tracked :
    (world.tracked reads callback).tracker.sessions.size = world.tracker.sessions.size + 1 :=
  Tracker.size_armFresh ..

theorem inStep_tracked (inStep : world.tracker.InStep) :
    (world.tracked reads callback).tracker.InStep :=
  inStep.armFresh (.ofReads reads) rfl

theorem isLive_tracked (inStep : world.tracker.InStep) (id : RegistrarId) :
    (world.tracked reads callback).tracker.isLive id = world.tracker.isLive id :=
  Tracker.isLive_armFresh inStep ..

theorem session_tracked :
    ((world.tracked reads callback).tracker.session ⟨world.tracker.sessions.size⟩).status =
        .installed ∧
      ((world.tracked reads callback).tracker.session ⟨world.tracker.sessions.size⟩).callbacks =
        ⟨some callback, none⟩ := by
  have armed : (world.tracked reads callback).tracker.session ⟨world.tracker.sessions.size⟩ = _ :=
    Tracker.session_armFresh ..
  rw [armed, if_pos rfl]
  exact ⟨rfl, rfl⟩

theorem session_tracked_of_ne {id : SessionId} (other : id.index ≠ world.tracker.sessions.size) :
    (world.tracked reads callback).tracker.session id = world.tracker.session id := by
  have armed : (world.tracked reads callback).tracker.session id = _ :=
    Tracker.session_armFresh ..
  rw [armed, if_neg]
  exact fun same => other (congrArg SessionId.index same)

theorem subscriptions_tracked (inStep : world.tracker.InStep) {id : RegistrarId}
    (live : world.tracker.isLive id = true) :
    ((world.tracked reads callback).tracker.table id).subscriptions =
      (world.tracker.table id).subscriptions ++
        if id ∈ reads.map (·.1)
        then [⟨(world.tracker.table id).nextId, .willChange, (AccessList.ofReads reads).keys id,
          .session ⟨world.tracker.sessions.size⟩ id .willChange⟩]
        else [] := by
  have armed : ((world.tracked reads callback).tracker.table id).subscriptions = _ :=
    Tracker.subscriptions_armFresh inStep (.ofReads reads) ⟨some callback, none⟩ live
  rw [armed]
  simp only [AccessList.mem_registrars_ofReads]
  rfl

/-- A notification reaches the session after all who were there, if it is about a key that was
read. -/
theorem snapshot_tracked (inStep : world.tracker.InStep) {id : RegistrarId}
    (live : world.tracker.isLive id = true) (key : Key) (phase : Phase) :
    (world.tracked reads callback).tracker.snapshot id key phase =
      world.tracker.snapshot id key phase ++
        if (id, key) ∈ reads ∧ phase = .willChange
        then [.session ⟨world.tracker.sessions.size⟩ id .willChange] else [] := by
  have covers : key ∈ (AccessList.ofReads reads).keys id ↔ (id, key) ∈ reads :=
    AccessList.mem_keys_ofReads
  have after := inStep_tracked reads callback inStep
  rw [Tracker.snapshot, (inStep.sound.tables id).snapshot_append (after.sound.tables id)
    (subscriptions_tracked reads callback inStep live)]
  congr 1
  by_cases read : (id, key) ∈ reads
  · have touched : id ∈ reads.map (·.1) := List.mem_map_of_mem (f := (·.1)) read
    rw [if_pos touched]
    cases phase <;> simp [covers, read]
  · have unread : ¬ ((id, key) ∈ reads ∧ phase = .willChange) := fun both => read both.1
    rw [if_neg unread]
    split <;> simp [covers, read]

end World

/-- The world of a client that has created a registrar. -/
def oneRegistrar : World Host.plain := ((Act.track (·.createRegistrar)).run (World.initial ())).2

theorem reachable_oneRegistrar : Reachable Discipline.plain oneRegistrar :=
  ⟨_, Act.track (·.createRegistrar), (), .createRegistrar, List.mem_cons_self, rfl⟩

theorem snapshot_oneRegistrar (registrar : RegistrarId) (key : Key) (phase : Phase) :
    oneRegistrar.tracker.snapshot registrar key phase = [] := by
  have fresh : oneRegistrar.tracker.table registrar = (∅ : Tracker Nat).table registrar :=
    Tracker.table_createRegistrar ∅ registrar
  rw [Tracker.snapshot, fresh]
  rfl

end ChangeTracking
