import ChangeTracking.Proofs.Client
import ChangeTracking.Proofs.RecordedReads

/-! Recording changes nothing. Whether the reads of a computation are recorded, and what was recorded
before, has no influence on what it does: run from worlds that differ in this only, it passes through
worlds that differ in this only, and each of the lists gains the same reads. -/
namespace ChangeTracking
variable {H : Host} {α β : Type}

/-- The world with other reads recorded on the thread, or with none being recorded. -/
def World.withRecording (world : World H) (slot : Option AccessList) : World H :=
  { world with thread := { world.thread with recording := slot } }

namespace Act

/-- How a computation runs from a world, whatever is recorded on the thread there. -/
structure Lockstep (act : Act H α) (world : World H) (result : Except Panic α) (after : World H)
    (reads : AccessList) (moments : List (World H)) : Prop where
  run : ∀ slot, act.run (world.withRecording slot) =
    (result, after.withRecording (slot.map (·.merge reads)))
  history : ∀ slot,
    (act.history (world.withRecording slot) []).map (·.withRecording none) = moments

/-- From every world, all runs that differ in what is recorded go in lockstep. -/
def Transparent (act : Act H α) : Prop :=
  ∀ world, ∃ result after reads moments, act.Lockstep world result after reads moments

namespace Transparent

theorem done (value : α) : (.done value : Act H α).Transparent := fun world =>
  ⟨.ok value, world, ∅, [], fun slot => by cases slot <;> rfl, fun _ => rfl⟩

theorem unwind (panic : Panic) : (.unwind panic : Act H α).Transparent := fun world =>
  ⟨.error panic, world, ∅, [], fun slot => by cases slot <;> rfl, fun _ => rfl⟩

theorem step {change : World H → α × World H}
    (blind : ∀ world slot, change (world.withRecording slot) =
      ((change world).1, (change world).2.withRecording slot)) :
    (Act.step change .done).Transparent := by
  intro world
  refine ⟨.ok (change world).1, (change world).2, ∅, [world.withRecording none], fun slot => ?_,
    fun _ => rfl⟩
  rw [run_step, blind]
  cases slot <;> rfl

theorem bind {act : Act H α} {rest : α → Act H β} (first : act.Transparent)
    (second : ∀ value, (rest value).Transparent) : (act >>= rest).Transparent := by
  intro world
  obtain ⟨result, middle, reads, moments, here⟩ := first world
  cases result with
  | error panic =>
    refine ⟨.error panic, middle, reads, moments, fun slot => ?_, fun slot => ?_⟩
    · rw [run_bind, here.run]
    · rw [history_bind, here.run]
      exact here.history slot
  | ok value =>
    obtain ⟨result, after, more, later, there⟩ := second value middle
    refine ⟨result, after, reads.merge more, later ++ moments, fun slot => ?_, fun slot => ?_⟩
    · rw [run_bind_ok (here.run slot), there.run, Option.map_map]
      congr 3
      funext list
      exact list.merge_assoc reads more
    · rw [history_bind_ok (here.run slot), history_eq_append, List.map_append, here.history,
        there.history]

theorem attempt {act : Act H α} (body : act.Transparent) : act.attempt.Transparent := by
  intro world
  obtain ⟨result, after, reads, moments, here⟩ := body world
  refine ⟨.ok result, after, reads, moments, fun slot => ?_, here.history⟩
  rw [run_attempt, here.run]

theorem resume (result : Except Panic α) : (Act.resume result : Act H α).Transparent := by
  cases result with
  | ok value => exact done value
  | error panic => exact unwind panic

theorem whileUnwinding {act : Act H α} (body : act.Transparent) :
    act.whileUnwinding.Transparent :=
  (step fun _ _ => rfl).bind fun _ =>
    body.attempt.bind fun result => (step fun _ _ => rfl).bind fun _ => resume result

theorem conduct (step : Tracker H.Callback → α × Option TraceEvent × Tracker H.Callback) :
    (Act.conduct step : Act H α).Transparent :=
  Transparent.step fun _ _ => rfl

theorem access (registrar : RegistrarId) (key : Key) :
    (access registrar key : Act H Unit).Transparent := by
  intro world
  refine ⟨.ok (), world, (∅ : AccessList).add registrar key, [world.withRecording none],
    fun slot => ?_, fun _ => rfl⟩
  cases slot with
  | none => rfl
  | some list =>
    rw [Option.map_some, ← list.add_eq_merge]
    rfl

private theorem moments_eq (act : Act H α) (world start : World H) (slot : Option AccessList) :
    (act.history start [world.withRecording slot]).map (·.withRecording none) =
      (act.history start [world]).map (·.withRecording none) := by
  rw [history_eq_append, act.history_eq_append start [world], List.map_append, List.map_append]
  rfl

/-- What runs on another thread knows nothing of the recording on this one. -/
theorem onThread (act : Act H α) : act.onThread.Transparent := by
  intro world
  let start : World H := { world with thread := .fresh }
  refine ⟨.ok (act.run start).1, { (act.run start).2 with thread := world.thread }, ∅,
    ((act.run start).2 :: act.history start [world]).map (·.withRecording none), fun slot => ?_,
    fun slot => ?_⟩
  · rw [run_onThread]
    cases slot <;> rfl
  · rw [history_onThread, List.map_cons, List.map_cons]
    congr 1
    exact moments_eq act world start slot

/-- What a recording holds at its end does not depend on what is recorded around it. -/
theorem record (body : Act H α) : (record body).Transparent := by
  intro world
  refine ⟨(body.run world.recordingAnew).1.map fun value =>
      (value, (body.run world.recordingAnew).2.recorded),
    (body.run world.recordingAnew).2, (body.run world.recordingAnew).2.recorded,
    ((body.run world.recordingAnew).2 :: body.history world.recordingAnew [world]).map
      (·.withRecording none), fun slot => ?_, fun slot => ?_⟩
  · have same : (world.withRecording slot).recordingAnew = world.recordingAnew := rfl
    rw [run_record, same]
    simp only [World.resumeRecording, AccessList.absorb_eq_merge]
    rfl
  · have same : (world.withRecording slot).recordingAnew = world.recordingAnew := rfl
    rw [history_record, same, List.map_cons, List.map_cons]
    congr 1
    exact moments_eq body world world.recordingAnew slot

theorem trackSession (body : Act H α) (callbacks : PerPhase H.Callback) :
    (trackSession body callbacks).Transparent := by
  unfold ChangeTracking.trackSession
  split
  · exact done _
  · refine ((record body).bind fun result => ?_).bind fun _ => done _
    exact (step fun _ _ => rfl).bind fun id => (conduct _).bind fun _ => done _

section Callbacks
variable {call : Call H} (answers : ∀ callback event, (call callback event).Transparent)
include answers

theorem deliver (event : ChangeEvent) (perceiver : Perceiver H.Callback) :
    (deliver call event perceiver).Transparent := by
  cases perceiver with
  | direct callback => exact answers callback event
  | session id registrar phase =>
    refine (conduct _).bind fun due => ?_
    cases due with
    | none => exact done ()
    | some callback => exact answers callback _

theorem deliverAll (event : ChangeEvent) (perceivers : List (Perceiver H.Callback)) :
    (deliverAll call event perceivers).Transparent := by
  induction perceivers with
  | nil => exact done ()
  | cons perceiver rest ih => exact (deliver answers event perceiver).bind fun _ => ih

theorem notify (registrar : RegistrarId) (key : Key) (phase : Phase) :
    (notify call registrar key phase).Transparent :=
  (conduct _).bind fun perceivers => deliverAll answers ⟨registrar, key, phase⟩ perceivers

theorem withMutation {body : Act H α} (inside : body.Transparent) (registrar : RegistrarId)
    (key : Key) : (withMutation call registrar key body).Transparent := by
  refine (notify answers registrar key .willChange).bind fun _ => inside.attempt.bind fun result => ?_
  have last := notify answers registrar key .didChange
  cases result with
  | ok value => exact last.bind fun _ => done value
  | error panic => exact last.whileUnwinding.bind fun _ => unwind panic

end Callbacks

end Transparent
end Act

/-- A program does not ask whether reads are being recorded. In a recording of its own and on a thread
of its own it may ask, for there the answer does not depend on what is recorded around. -/
def Program.Oblivious : {α : Type} → Program H α → Prop
  | _, .done _ | _, .unwind _ | _, .access .. => True
  | _, .bind first next => first.Oblivious ∧ ∀ value, (next value).Oblivious
  | _, .catching body => body.Oblivious
  | _, .onThread _ | _, .record _ | _, .trackSession .. => True
  | _, .step change _ => ∀ world slot, change (world.withRecording slot) =
      ((change world).1, (change world).2.withRecording slot)
  | _, .notify answers _ _ _ => ∀ callback event, (answers callback event).Oblivious
  | _, .withMutation answers _ _ body =>
    (∀ callback event, (answers callback event).Oblivious) ∧ body.Oblivious

/-- Who asks is not oblivious. -/
example : ¬ (Program.step (fun world => (world.thread.recording.isSome, world)) fun _ => rfl :
    Program Host.plain Bool).Oblivious := by
  intro oblivious
  cases congrArg Prod.fst (oblivious (World.initial ()) (some ∅))

/-- Recording does not show. A program that does not ask for it ends in the same way and in the same
world, by way of the same worlds, whatever is being recorded around it; and a list that is being
recorded is in the end united with the same reads, whatever it held. -/
theorem Program.transparent {program : Program H α} (oblivious : program.Oblivious) :
    program.act.Transparent := by
  induction program with
  | done value => exact .done value
  | unwind panic => exact .unwind panic
  | bind first next firstIh nextIh =>
    exact (firstIh oblivious.1).bind fun value => nextIh value (oblivious.2 value)
  | catching body ih => exact (ih oblivious).attempt
  | onThread body => exact .onThread body.act
  | step change apart => exact .step oblivious
  | access registrar key => exact .access registrar key
  | record body => exact .record body.act
  | trackSession body callbacks => exact .trackSession body.act callbacks
  | notify answers registrar key phase ih =>
    exact .notify (fun callback event => ih callback event (oblivious callback event))
      registrar key phase
  | withMutation answers registrar key body answersIh ih =>
    exact .withMutation (fun callback event => answersIh callback event (oblivious.1 callback event))
      (ih oblivious.2) registrar key

/-- One key is read, another one is tracked and changes, and the callback reads a third one. -/
def readAndTrack : Program Host.plain Unit :=
  .bind (.step (fun world => (world.tracker.createRegistrar.1,
      { world with tracker := world.tracker.createRegistrar.2 })) fun _ => rfl) fun registrar =>
    .bind (.access registrar ⟨"a"⟩) fun _ =>
      .bind (.trackSession (.access registrar ⟨"b"⟩) ⟨some (0 : Nat), none⟩) fun _ =>
        .withMutation (fun _ _ => .access registrar ⟨"c"⟩) registrar ⟨"b"⟩ (.done ())

theorem oblivious_readAndTrack : readAndTrack.Oblivious :=
  ⟨fun _ _ => rfl, fun _ => ⟨trivial, fun _ => ⟨trivial, fun _ => ⟨fun _ _ => trivial, trivial⟩⟩⟩⟩

/-- It reads three keys on its way, and does so in lockstep whether they are recorded or not. -/
theorem Program.transparent_of_readAndTrack :
    ((readAndTrack.act.run ((World.initial ()).withRecording (some ∅))).2.thread.recording.map
        (·.accessCount) = some 3 ∧
      (readAndTrack.act.run (World.initial ())).2.thread.recording = none) ∧
      readAndTrack.act.Transparent :=
  ⟨⟨by decide, by decide⟩, Program.transparent oblivious_readAndTrack⟩

end ChangeTracking
