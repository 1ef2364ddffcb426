import ChangeTracking.Proofs.Installing
import ChangeTracking.Proofs.TrackedReads

namespace ChangeTracking
variable {H : Host} {discipline : Discipline H} {α : Type}

/-- A recording that began with nothing is the list of the reads that were executed. -/
theorem Recorded.recorded_eq {reads : List Read} {world : World H}
    (recorded : Recorded reads (some ∅) world.thread.recording) :
    world.recorded = .ofReads reads := by
  rw [World.recorded]
  cases found : world.thread.recording with
  | none =>
    rw [found] at recorded
    exact recorded.elim
  | some list =>
    rw [found] at recorded
    have blank : (∅ : AccessList).registrars = [] ∧
        ∀ registrar key, (∅ : AccessList).contains registrar key = false := ⟨rfl, fun _ _ => rfl⟩
    refine AccessList.ext_pairs (fun registrar => ?_) fun registrar key => ?_
    · rw [Option.getD_some, recorded.registrars, blank.1, AccessList.mem_registrars_ofReads]
      simp
    · rw [Option.getD_some, recorded.contains, blank.2, AccessList.contains_ofReads]
      simp

theorem Tracker.InStep.installed_armFresh {κ : Type} {tracker : Tracker κ}
    (inStep : tracker.InStep) (reads : AccessList) (callbacks : PerPhase κ) :
    tracker.Installed ⟨tracker.sessions.size⟩ reads callbacks
      (tracker.armFresh reads callbacks).2 := by
  have sessions := fun id => tracker.session_armFresh reads callbacks id
  have armed := sessions ⟨tracker.sessions.size⟩
  rw [if_pos rfl] at armed
  have enlisted := (inStep.createSession reads).enlisted_armOver (pending_fresh tracker reads)
    callbacks reads
  refine ⟨by rw [armed]; rfl, by rw [armed]; rfl, by rw [armed]; rfl, ?_,
    isLive_armFresh inStep reads callbacks, enlisted.absent, enlisted.gained⟩
  intro other different
  rw [sessions, if_neg different]

/-- How the call of a tracked read can go: its outcome, the world that it leaves and the worlds
before that one. -/
inductive TrackedCall (discipline : Discipline H) (read : Program H α)
    (callbacks : PerPhase H.Callback) (world : World H) :
    Except Panic (Except TrackingError (α × SessionId)) → World H → List (World H) → Prop where
  | refused (empty : ∀ phase, callbacks.find? phase = none) :
      TrackedCall discipline read callbacks world (.ok (.error .missingCallbacks)) world []
  /-- A read that panics is recorded, and that is all: no session is there that the read did not
  create by itself, and the callbacks, whatever they are, play no part. -/
  | unwound {panic : Panic} {ended after : World H}
      (wanted : ∃ phase, (callbacks.find? phase).isSome = true)
      (inside : read.act.run world.recordingAnew = (.error panic, ended))
      (alone : (record read.act).run world = (.error panic, after))
      (tracker : after.tracker = ended.tracker)
      (recorded : Recorded (read.reads world.recordingAnew) world.thread.recording
        after.thread.recording) :
      TrackedCall discipline read callbacks world (.error panic) after
        ((record read.act).history world [])
  /-- A read that returns leaves a new session, installed over just the reads that were executed,
  of which no callback was called at any moment of the call. -/
  | returned {value : α} {ended after : World H} {moments : List (World H)}
      (wanted : ∃ phase, (callbacks.find? phase).isSome = true)
      (inside : read.act.run world.recordingAnew = (.ok value, ended))
      (installed : ended.tracker.Installed ⟨ended.tracker.sessions.size⟩
        (.ofReads (read.reads world.recordingAnew)) callbacks after.tracker)
      (silent : ∀ moment ∈ after :: moments,
        moment.callsOf discipline ⟨ended.tracker.sessions.size⟩ = [])
      (recorded : Recorded (read.reads world.recordingAnew) world.thread.recording
        after.thread.recording) :
      TrackedCall discipline read callbacks world
        (.ok (.ok (value, ⟨ended.tracker.sessions.size⟩))) after moments

section Runs
variable {read : Act H α} {callbacks : PerPhase H.Callback} {world after : World H} {panic : Panic}

theorem trackSession_of_empty (empty : callbacks.isEmpty = true) :
    trackSession read callbacks = .done (.error .missingCallbacks) := if_pos empty

theorem trackSession_of_unwound (given : callbacks.isEmpty = false)
    (recording : (record read).run world = (.error panic, after)) (past : List (World H)) :
    (trackSession read callbacks).run world = (.error panic, after) ∧
      (trackSession read callbacks).history world past = (record read).history world past := by
  rw [trackSession, if_neg (by simp [given]), trackArmed, Act.bind_assoc, Act.run_bind,
    Act.history_bind, recording]
  exact ⟨rfl, rfl⟩

end Runs

private theorem callsOf_of_unborn {ended : World H} {past : List (World H)}
    (evolution : Evolution discipline (ended :: past)) :
    ended.callsOf discipline ⟨ended.tracker.sessions.size⟩ = [] := by
  have lived := evolution.lived ⟨ended.tracker.sessions.size⟩ ended past rfl
  have unborn := lived.unborn (Nat.le_refl _)
  have answered := (evolution.answered ended past rfl).fired ⟨ended.tracker.sessions.size⟩
  rw [World.firings, unborn] at answered
  exact List.map_eq_nil_iff.mp (List.append_eq_nil_iff.mp answered.symm).1

private theorem Evolution.callsOf_eq_nil {act : Act H α} {world moment : World H}
    {past : List (World H)} {id : SessionId}
    (evolution : Evolution discipline ((act.run world).2 :: act.history world past))
    (none : (act.run world).2.callsOf discipline id = [])
    (passed : moment ∈ act.trail world) : moment.callsOf discipline id = [] := by
  have earlier := List.mem_append_left past passed
  rw [Act.trail_append] at earlier
  have calls : moment.callsOf discipline id <+: (act.run world).2.callsOf discipline id :=
    (evolution.later_of_mem earlier).callsOf id
  rw [none] at calls
  exact List.prefix_nil.mp calls

theorem World.callsOf_armed (world : World H) (reads : AccessList) (callbacks : PerPhase H.Callback)
    (id : SessionId) :
    (world.armed reads callbacks).callsOf discipline id = world.callsOf discipline id :=
  congrArg (List.filter _) (world.calls_advance _ _)

section Call
variable {world ended : World H} {past : List (World H)} {read : Program H α}
  {callbacks : PerPhase H.Callback}

private theorem trackedCall_of_unwound (given : callbacks.isEmpty = false) {panic : Panic}
    (inside : read.act.run world.recordingAnew = (.error panic, ended)) :
    TrackedCall discipline read callbacks world ((trackSession read.act callbacks).run world).1
      ((trackSession read.act callbacks).run world).2
      ((trackSession read.act callbacks).history world []) := by
  have alone : (record read.act).run world =
      (.error panic, ended.resumeRecording world.thread.recording) := by
    rw [Act.run_record, inside]
    rfl
  have recorded := read.records.record world
  rw [alone] at recorded
  obtain ⟨run, history⟩ := trackSession_of_unwound given alone []
  rw [run, history]
  exact .unwound (callbacks.isEmpty_eq_false_iff.mp given) inside alone rfl recorded

private theorem trackedCall_of_returned (given : callbacks.isEmpty = false)
    (client : Client discipline read.act) (before : Evolution discipline (world :: past))
    (settled : world.Settled) {value : α}
    (inside : read.act.run world.recordingAnew = (.ok value, ended)) :
    TrackedCall discipline read callbacks world ((trackSession read.act callbacks).run world).1
      ((trackSession read.act callbacks).run world).2
      ((trackSession read.act callbacks).history world []) := by
  have inner := read.records world.recordingAnew
  rw [inside] at inner
  have recording : (record read.act).run world =
      (.ok (value, .ofReads (read.reads world.recordingAnew)),
        ended.resumeRecording world.thread.recording) := by
    rw [Act.run_record, inside, ← Recorded.recorded_eq inner]
    rfl
  have run : (trackSession read.act callbacks).run world =
      (.ok (.ok (value, ⟨ended.tracker.sessions.size⟩)),
        (ended.resumeRecording world.thread.recording).armed
          (.ofReads (read.reads world.recordingAnew)) callbacks) :=
    run_trackSession given recording
  have begins : Evolution discipline (world.recordingAnew :: world :: past) :=
    .move before settled (.thread _)
  have body := (client.evolves _ _ begins (settled.of_log_eq rfl)).1
  rw [inside] at body
  have whole := ((client.trackSession callbacks).evolves world past before settled).1
  have silent : ∀ moment ∈ (trackSession read.act callbacks).trail world,
      moment.callsOf discipline ⟨ended.tracker.sessions.size⟩ = [] := by
    intro moment passed
    refine whole.callsOf_eq_nil ?_ passed
    rw [run]
    have unborn : ended.callsOf discipline ⟨ended.tracker.sessions.size⟩ = [] :=
      callsOf_of_unborn body
    exact (World.callsOf_armed ..).trans unborn
  have recorded := read.records.record world
  rw [recording] at recorded
  rw [Act.trail, run] at silent
  rw [run]
  exact .returned (callbacks.isEmpty_eq_false_iff.mp given) inside
    ((body.inStep ended List.mem_cons_self).installed_armFresh _ callbacks) silent recorded

end Call

/-- A tracked read is refused without a callback, passes the panic of its read on, or leaves a
session that waits for changes to just what was read. -/
theorem Reachable.tracked_call {world : World H} (reachable : Reachable discipline world)
    {read : Program H α} (client : Client discipline read.act) (callbacks : PerPhase H.Callback) :
    TrackedCall discipline read callbacks world ((trackSession read.act callbacks).run world).1
      ((trackSession read.act callbacks).run world).2
      ((trackSession read.act callbacks).history world []) := by
  obtain ⟨past, before⟩ := reachable.evolution
  rcases empty : callbacks.isEmpty with _ | _
  · rcases inside : read.act.run world.recordingAnew with ⟨_ | value, ended⟩
    · exact trackedCall_of_unwound empty inside
    · exact trackedCall_of_returned empty client before reachable.settled inside
  · rw [trackSession_of_empty empty]
    exact .refused (callbacks.isEmpty_iff.mp empty)

/-- Callbacks, written down as programs, that leave their note before they do anything else. -/
def Program.announced (discipline : Discipline H)
    (answers : H.Callback → ChangeEvent → Program H Unit) (callback : H.Callback)
    (event : ChangeEvent) : Program H Unit :=
  .bind (.step (fun world => ((), world.hear (discipline.note callback event))) fun _ => rfl)
    fun _ => answers callback event

def readAndChange : Program Host.plain Unit :=
  .bind (.access ⟨0⟩ ⟨"a"⟩) fun _ =>
    .withMutation (.announced Discipline.plain fun _ _ => .done ()) ⟨0⟩ ⟨"a"⟩ (.done ())

theorem client_readAndChange : Client Discipline.plain readAndChange.act :=
  .bind (.access _ _) fun _ => .withMutation (fun _ _ => .done ()) (.done ()) _ _

/-- The change inside the read does not reach the session, which then waits for the next one. -/
theorem Reachable.tracked_call_of_readAndChange :
    let call := trackSession readAndChange.act ⟨some (0 : Nat), some (1 : Nat)⟩
    (call.run oneRegistrar).1 = .ok (.ok ((), ⟨0⟩)) ∧
      TrackedCall Discipline.plain readAndChange ⟨some (0 : Nat), some (1 : Nat)⟩ oneRegistrar
        (call.run oneRegistrar).1 (call.run oneRegistrar).2 (call.history oneRegistrar []) :=
  ⟨rfl, reachable_oneRegistrar.tracked_call client_readAndChange _⟩

end ChangeTracking
