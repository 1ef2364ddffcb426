import ChangeTracking.Proofs.Programs
import ChangeTracking.Proofs.ReadSets

/-! What is recorded is what is read. However recordings are nested, and wherever panics start and
are caught, the list of a recording holds just the reads that were executed on its thread while it
lasted, and the recording around it gains just these. -/
namespace ChangeTracking
variable {H : Host} {α β : Type}

theorem AccessList.absorb_eq_merge (outer inner : AccessList) :
    outer.absorb inner = outer.merge inner := by
  rw [AccessList.absorb]
  split
  · rename_i empty
    rw [AccessList.merge, List.isEmpty_iff.mp empty]
    rfl
  · rfl

/-- A list is another one united with reads, registrar by registrar. -/
structure AccessList.Gained (outer list : AccessList) (reads : List Read) : Prop where
  contains : ∀ registrar key, list.contains registrar key = true ↔
    outer.contains registrar key = true ∨ (registrar, key) ∈ reads
  registrars : ∀ registrar, registrar ∈ list.registrars ↔
    registrar ∈ outer.registrars ∨ ∃ key, (registrar, key) ∈ reads

/-- What becomes of a recording, if there is one, while reads are executed. -/
def Recorded (reads : List Read) : Option AccessList → Option AccessList → Prop
  | none, none => True
  | some outer, some list => outer.Gained list reads
  | _, _ => False

namespace Recorded
variable {before middle after : Option AccessList} {reads more : List Read}

theorem nothing (recording : Option AccessList) : Recorded [] recording recording := by
  cases recording with
  | none => trivial
  | some list => exact ⟨by simp, by simp⟩

theorem trans (first : Recorded reads before middle) (second : Recorded more middle after) :
    Recorded (reads ++ more) before after := by
  cases before <;> cases middle <;> cases after <;> try trivial
  refine ⟨fun registrar key => ?_, fun registrar => ?_⟩
  · rw [second.contains, first.contains, List.mem_append, or_assoc]
  · rw [second.registrars, first.registrars, or_assoc, ← exists_or]
    simp only [List.mem_append]

theorem access (recording : Option AccessList) (registrar : RegistrarId) (key : Key) :
    Recorded [(registrar, key)] recording (recording.map (·.add registrar key)) := by
  cases recording with
  | none => trivial
  | some list =>
    refine ⟨fun other key => ?_, fun other => ?_⟩
    · rw [AccessList.contains_add, or_comm]
      simp
    · rw [AccessList.mem_registrars_add, or_comm]
      simp

theorem absorb (outer : Option AccessList) {inner : Option AccessList}
    (recorded : Recorded reads (some ∅) inner) :
    Recorded reads outer (outer.map (·.absorb (inner.getD ∅))) := by
  cases inner with
  | none => exact recorded.elim
  | some inner =>
    cases outer with
    | none => trivial
    | some outer =>
      simp only [Option.map_some, Option.getD_some, AccessList.absorb_eq_merge]
      refine ⟨fun registrar key => ?_, fun registrar => ?_⟩
      · have blank : (∅ : AccessList).contains registrar key = false := rfl
        rw [AccessList.contains_merge, recorded.contains, blank]
        simp
      · have blank : (∅ : AccessList).registrars = [] := rfl
        rw [AccessList.mem_registrars_merge, recorded.registrars, blank]
        simp

theorem isSome (recorded : Recorded reads before after) : after.isSome = before.isSome := by
  cases before <;> cases after <;> first | rfl | exact recorded.elim

end Recorded

namespace World

def recorded (world : World H) : AccessList := world.thread.recording.getD ∅

/-- The world in which the recording around one that ends goes on, with the reads of that. -/
def resumeRecording (outer : Option AccessList) (world : World H) : World H :=
  { world with thread :=
    { world.thread with recording := outer.map fun outer => outer.absorb world.recorded } }

end World

namespace Act

theorem readsAfter_nil (act : Act H α) (world : World H) :
    act.readsAfter world (fun _ _ => []) = [] := by
  unfold readsAfter
  split <;> rfl

/-- A recording returns if its body does, with the value of that and what was recorded. -/
theorem run_record (body : Act H α) (world : World H) :
    (record body).run world =
      ((body.run world.recordingAnew).1.map fun value =>
          (value, (body.run world.recordingAnew).2.recorded),
        (body.run world.recordingAnew).2.resumeRecording world.thread.recording) := by
  rcases ending : body.run world.recordingAnew with ⟨result, after⟩
  have attempted : body.attempt.run world.recordingAnew = (.ok result, after) := by
    rw [run_attempt, ending]
  rw [record, run_bind_ok (run_onThreadState _ _)]
  change (body.attempt >>= _).run world.recordingAnew = _
  rw [run_bind_ok attempted, run_bind_ok (run_onThreadState _ _), run_bind, run_resume]
  cases result <;> rfl

theorem history_record (body : Act H α) (world : World H) (past : List (World H)) :
    (record body).history world past =
      (body.run world.recordingAnew).2 :: body.history world.recordingAnew (world :: past) := by
  rw [record, history_bind_ok (run_onThreadState _ _)]
  change (body.attempt >>= _).history world.recordingAnew (world :: past) = _
  rw [history_bind_ok (run_attempt _ _), history_bind_ok (run_onThreadState _ _), history_bind,
    run_resume, history_resume]
  cases (body.run world.recordingAnew).1 <;> rfl

end Act

/-- In every run, the recording of the thread gains the reads that are executed. -/
def Act.Records (act : Act H α) (reads : World H → List Read) : Prop :=
  ∀ world, Recorded (reads world) world.thread.recording (act.run world).2.thread.recording

namespace Act.Records

theorem step {change : World H → α × World H}
    (apart : ∀ world, (change world).2.thread.recording = world.thread.recording) :
    (Act.step change .done).Records fun _ => [] := by
  intro world
  rw [Act.run_step, apart]
  exact .nothing _

theorem done (value : α) : (.done value : Act H α).Records fun _ => [] := fun _ => .nothing _

theorem unwind (panic : Panic) : (.unwind panic : Act H α).Records fun _ => [] :=
  fun _ => .nothing _

theorem bind {act : Act H α} {rest : α → Act H β} {reads : World H → List Read}
    {more : α → World H → List Read} (first : act.Records reads)
    (second : ∀ value, (rest value).Records (more value)) :
    (act >>= rest).Records fun world => reads world ++ act.readsAfter world more := by
  intro world
  have recorded := first world
  simp only [Act.run_bind, Act.readsAfter]
  rcases ending : act.run world with ⟨result, middle⟩
  rw [ending] at recorded
  cases result with
  | ok value => exact recorded.trans (second value middle)
  | error panic => exact recorded.trans (.nothing _)

theorem andThen {act : Act H α} {rest : α → Act H β} {reads : World H → List Read}
    (first : act.Records reads) (second : ∀ value, (rest value).Records fun _ => []) :
    (act >>= rest).Records reads := by
  intro world
  have recorded := first.bind second world
  simp only [Act.readsAfter_nil, List.append_nil] at recorded
  exact recorded

theorem onThread (act : Act H α) : act.onThread.Records fun _ => [] := by
  intro world
  rw [Act.run_onThread]
  exact .nothing _

theorem whileUnwinding {act : Act H α} {reads : World H → List Read} (body : act.Records reads) :
    act.whileUnwinding.Records fun world => reads world.unwindingNow := by
  intro world
  rw [Act.run_whileUnwinding]
  exact body world.unwindingNow

theorem record {act : Act H α} {reads : World H → List Read} (body : act.Records reads) :
    (record act).Records fun world => reads world.recordingAnew := by
  intro world
  rw [Act.run_record]
  exact (body world.recordingAnew).absorb world.thread.recording

theorem conduct (step : Tracker H.Callback → α × Option TraceEvent × Tracker H.Callback) :
    (Act.conduct step : Act H α).Records fun _ => [] :=
  Act.Records.step fun _ => rfl

theorem trackSession {act : Act H α} {reads : World H → List Read} (body : act.Records reads)
    (callbacks : PerPhase H.Callback) :
    (trackSession act callbacks).Records fun world =>
      if callbacks.isEmpty then [] else reads world.recordingAnew := by
  unfold ChangeTracking.trackSession
  split
  · exact done _
  · refine (body.record.andThen fun result => ?_).andThen fun _ => done _
    exact (step fun _ => rfl).andThen fun id => (conduct _).andThen fun _ => done _

section Callbacks
variable {call : Call H} {reads : H.Callback → ChangeEvent → World H → List Read}
  (answers : ∀ callback event, (call callback event).Records (reads callback event))
include answers

theorem deliver (event : ChangeEvent) (perceiver : Perceiver H.Callback) :
    (deliver call event perceiver).Records (readsOfTelling reads event perceiver) := by
  cases perceiver with
  | direct callback => exact answers callback event
  | session id registrar phase =>
    intro world
    rw [ChangeTracking.deliver, readsOfTelling]
    rcases due : world.tracker.fire? id ⟨registrar, event.key, phase⟩ with _ | firing
    · rw [run_fire_none due]
      exact .nothing _
    · rw [run_fire_some due]
      exact answers firing.callback _ _

theorem deliverAll (event : ChangeEvent) (perceivers : List (Perceiver H.Callback)) :
    (deliverAll call event perceivers).Records (readsOfTellingAll call reads event perceivers) := by
  induction perceivers with
  | nil => exact done _
  | cons perceiver rest ih => exact (deliver answers event perceiver).bind fun _ => ih

theorem notify (registrar : RegistrarId) (key : Key) (phase : Phase) :
    (notify call registrar key phase).Records
      (readsOfNotifying call reads ⟨registrar, key, phase⟩) := by
  intro world
  rw [run_notify]
  exact deliverAll answers ⟨registrar, key, phase⟩ _ (world.notified registrar key phase)

theorem withMutation {act : Act H α} {bodyReads : World H → List Read}
    (body : act.Records bodyReads) (registrar : RegistrarId) (key : Key) :
    (withMutation call registrar key act).Records
      (readsOfMutation call reads registrar key act bodyReads) := by
  refine (notify answers registrar key .willChange).bind fun _ middle => ?_
  have recorded := body middle
  rcases ending : act.run middle with ⟨result, after⟩
  rw [ending] at recorded
  have attempted : act.attempt.run middle = (.ok result, after) := by
    rw [Act.run_attempt, ending]
  rw [Act.run_bind_ok attempted]
  cases result with
  | ok value =>
    have changed := (notify answers registrar key .didChange).andThen fun _ => done value
    dsimp only
    exact recorded.trans (changed after)
  | error panic =>
    have last : (Act.resume (.error panic) : Act H α).Records fun _ => [] := unwind panic
    have changed := (notify answers registrar key .didChange).whileUnwinding.andThen fun _ => last
    dsimp only
    exact recorded.trans (changed after)

end Callbacks

end Act.Records

theorem Program.records {α : Type} (program : Program H α) : program.act.Records program.reads := by
  induction program with
  | done value => exact .done value
  | unwind panic => exact .unwind panic
  | bind first next firstIh nextIh => exact firstIh.bind nextIh
  | catching body ih => exact ih
  | onThread body ih => exact .onThread body.act
  | step change apart => exact .step fun world => by rw [apart]
  | access registrar key =>
    intro world
    exact .access world.thread.recording registrar key
  | record body ih => exact ih.record
  | trackSession body callbacks ih => exact ih.trackSession callbacks
  | notify answers registrar key phase ih => exact .notify ih registrar key phase
  | withMutation answers registrar key body answersIh ih =>
    exact .withMutation answersIh ih registrar key

/-- A recording returns when its body does, and its list holds just the reads executed on the thread
meanwhile. However it ends, the recording around it has gained just these; where there was none,
there is none again. -/
theorem Program.record_reads (program : Program H α) (world : World H) :
    let reads := program.reads world.recordingAnew
    let ended := (ChangeTracking.record program.act).run world
    ended.1.map (·.1) = (program.act.run world.recordingAnew).1 ∧
      (∀ value list, ended.1 = .ok (value, list) →
        ∀ registrar key, list.contains registrar key = true ↔ (registrar, key) ∈ reads) ∧
      Recorded reads world.thread.recording ended.2.thread.recording ∧
      (isRecording.run ended.2).1 = (isRecording.run world).1 := by
  intro reads ended
  have run : ended = _ := Act.run_record program.act world
  have inside : Recorded reads (some ∅) _ := program.records world.recordingAnew
  have around : Recorded reads world.thread.recording ended.2.thread.recording :=
    program.records.record world
  refine ⟨?_, ?_, around, ?_⟩
  · rw [run]
    cases (program.act.run world.recordingAnew).1 <;> rfl
  · intro value list returned registrar key
    rw [run] at returned
    rcases ending : program.act.run world.recordingAnew with ⟨result, ⟨tracker, ⟨inner, unwinding⟩⟩⟩
    rw [ending] at returned inside
    cases result with
    | error panic => cases returned
    | ok value =>
      obtain rfl : inner.getD ∅ = list := congrArg Prod.snd (Except.ok.inj returned)
      cases inner with
      | none => exact inside.elim
      | some inner =>
        have blank : (∅ : AccessList).contains registrar key = false := rfl
        simpa [blank] using inside.contains registrar key
  · exact congrArg Except.ok around.isSome

end ChangeTracking
