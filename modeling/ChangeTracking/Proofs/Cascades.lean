import ChangeTracking.Proofs.RoutineBalance

/-! Cascades end. Runs of routines settle what their operations cost. So a run executes each
operation once at most, needs no more room than it has operations and calls no more callbacks than
were handed over, whatever the callbacks do to one another. -/
namespace ChangeTracking
variable {σ π α β : Type}

namespace Act

/-- A run settles its cost. If there is more room than what is owed, a run with still more room does
the same, and no callback is left out. -/
structure Accounts (room : Nat) (cost : List π) (act act' : Act (Host.routines σ π) α)
    (world : World (Host.routines σ π)) : Prop where
  settles : world.Settles cost (act.run world).2
  completes : world.promised.length + cost.length < room →
    act'.run world = act.run world ∧ ((act.run world).2.CutShort → world.CutShort)

/-- From every world to which nobody but sessions is subscribed, runs keep accounts. -/
def Accountable (room : Nat) (cost : List π) (act act' : Act (Host.routines σ π) α) : Prop :=
  ∀ world, world.tracker.Undirected → act.Accounts room cost act' world

theorem Accounts.of_quiet {room : Nat} {cost : List π}
    {act act' rest rest' : Act (Host.routines σ π) α} {world middle : World (Host.routines σ π)}
    (accounts : rest.Accounts room cost rest' middle) (undirected : world.tracker.Undirected)
    (quiet : world.Quiet [] middle) (run : act.run world = rest.run middle)
    (run' : act'.run world = rest'.run middle) : act.Accounts room cost act' world := by
  have begun := quiet.settles undirected
  refine ⟨?_, fun enough => ?_⟩
  · rw [run]
    exact begun.trans accounts.settles
  · have promised := begun.length_promised
    rw [List.length_nil] at promised
    obtain ⟨equal, spared⟩ := accounts.completes (by omega)
    rw [run, run', equal]
    exact ⟨rfl, fun cut => quiet.cutShort (spared cut)⟩

namespace Accountable
variable {room : Nat} {cost more : List π} {act act' : Act (Host.routines σ π) α}

theorem weaken (accounts : act.Accountable room cost act')
    (less : ∀ weigh, tally weigh cost ≤ tally weigh more) : act.Accountable room more act' := by
  intro world undirected
  have here := accounts world undirected
  refine ⟨here.settles.weaken less, fun enough => here.completes ?_⟩
  have shorter := less fun _ => 1
  simp only [tally_one] at shorter
  omega

theorem mono {less : Nat} (accounts : act.Accountable room cost act') (fewer : less ≤ room) :
    act.Accountable less cost act' := fun world undirected =>
  have here := accounts world undirected
  ⟨here.settles, fun enough => here.completes (enough.trans_le fewer)⟩

theorem same (quiet : ∀ world : World (Host.routines σ π), world.Quiet [] (act.run world).2) :
    act.Accountable room [] act := fun world undirected =>
  ⟨(quiet world).settles undirected, fun _ => ⟨rfl, (quiet world).cutShort⟩⟩

theorem done (value : α) :
    (.done value : Act (Host.routines σ π) α).Accountable room [] (.done value) :=
  same fun _ => .of_eq rfl rfl

theorem unwind (panic : Panic) :
    (.unwind panic : Act (Host.routines σ π) α).Accountable room [] (.unwind panic) :=
  same fun _ => .of_eq rfl rfl

theorem resume (result : Except Panic α) :
    (Act.resume result : Act (Host.routines σ π) α).Accountable room [] (Act.resume result) := by
  cases result with
  | ok value => exact done value
  | error panic => exact unwind panic

theorem onThreadState (change : ThreadState → α × ThreadState) :
    (Act.onThreadState change : Act (Host.routines σ π) α).Accountable room []
      (Act.onThreadState change) :=
  same fun _ => .of_eq rfl rfl

/-- Where one run goes on from what another leaves, the costs add up. -/
theorem bind {rest rest' : α → Act (Host.routines σ π) β} (first : act.Accountable room cost act')
    (second : ∀ value, (rest value).Accountable room more (rest' value)) :
    (act >>= rest).Accountable room (cost ++ more) (act' >>= rest') := by
  intro world undirected
  have here := first world undirected
  rcases one : act.run world with ⟨result, middle⟩
  have settles := here.settles
  rw [one] at settles
  cases result with
  | error panic =>
    have stopped : (act >>= rest).run world = (.error panic, middle) := by rw [run_bind, one]
    refine ⟨?_, fun enough => ?_⟩
    · rw [stopped]
      exact settles.weaken fun weigh => by simp
    · obtain ⟨equal, spared⟩ := here.completes (by simp only [List.length_append] at enough; omega)
      rw [one] at equal spared
      rw [stopped, run_bind, equal]
      exact ⟨rfl, spared⟩
  | ok value =>
    have there := second value middle settles.undirected
    refine ⟨?_, fun enough => ?_⟩
    · rw [run_bind_ok one]
      exact settles.trans there.settles
    · rw [List.length_append] at enough
      -- What the first run has not executed of its cost it may still owe, but no more than that.
      have promised : middle.promised.length ≤ _ := settles.length_promised
      obtain ⟨equal, spared⟩ := here.completes (by omega)
      obtain ⟨equal', spared'⟩ := there.completes (by omega)
      rw [one] at equal spared
      rw [run_bind_ok one, run_bind_ok equal, equal']
      exact ⟨rfl, fun cut => spared (spared' cut)⟩

theorem andThen {rest rest' : α → Act (Host.routines σ π) β} (first : act.Accountable room [] act')
    (second : ∀ value, (rest value).Accountable room cost (rest' value)) :
    (act >>= rest).Accountable room cost (act' >>= rest') :=
  first.bind second

theorem finish {rest rest' : α → Act (Host.routines σ π) β} (first : act.Accountable room cost act')
    (second : ∀ value, (rest value).Accountable room [] (rest' value)) :
    (act >>= rest).Accountable room cost (act' >>= rest') := by
  have all := first.bind second
  rwa [List.append_nil] at all

theorem attempt (body : act.Accountable room cost act') :
    act.attempt.Accountable room cost act'.attempt := by
  intro world undirected
  have here := body world undirected
  refine ⟨here.settles, fun enough => ?_⟩
  obtain ⟨equal, spared⟩ := here.completes enough
  exact ⟨by rw [run_attempt, run_attempt, equal], spared⟩

theorem record (body : act.Accountable room cost act') :
    (record act).Accountable room cost (ChangeTracking.record act') :=
  (onThreadState _).andThen fun _ => body.attempt.finish fun result =>
    (onThreadState _).andThen fun reads => (resume result).andThen fun value => done (value, reads)

theorem onThread (body : act.Accountable room cost act') :
    act.onThread.Accountable room cost act'.onThread :=
  (onThreadState _).andThen fun _ => body.attempt.finish fun result =>
    (onThreadState _).andThen fun _ => done result

theorem whileUnwinding (body : act.Accountable room cost act') :
    act.whileUnwinding.Accountable room cost act'.whileUnwinding :=
  (onThreadState _).andThen fun _ => body.attempt.finish fun result =>
    (onThreadState _).andThen fun _ => resume result

section Callbacks
variable {call call' : Call (Host.routines σ π)}
  (answers : ∀ callback event,
    (call callback event).Accountable room callback.places (call' callback event))
include answers

/-- The callback of a session is paid for out of what was owed. -/
theorem fire (id : SessionId) (event : ChangeEvent) :
    (fire ((Discipline.routines σ π).announced call) id event).Accountable room []
      (ChangeTracking.fire ((Discipline.routines σ π).announced call') id event) := by
  intro world undirected
  rcases due : world.tracker.fire? id event with _ | firing
  · have idle (call : Call (Host.routines σ π)) :
        (ChangeTracking.fire ((Discipline.routines σ π).announced call) id event).run world =
          (.ok (), world) := run_fire_none due
    refine ⟨?_, fun _ => ?_⟩
    · rw [idle]
      exact (World.Quiet.of_eq rfl rfl).settles undirected
    · rw [idle, idle]
      exact ⟨rfl, fun cut => cut⟩
  · obtain ⟨heard, taken, run⟩ := World.Taken.of_fire? undirected due
    have here := answers firing.callback event heard taken.undirected
    refine ⟨?_, fun enough => ?_⟩
    · rw [run]
      exact taken.settles here.settles
    · -- What was promised for the callback becomes the cost of its run, so there is room for it.
      have promised := taken.promised fun _ => 1
      simp only [tally_one] at promised
      obtain ⟨equal, spared⟩ := here.completes (by simpa [promised] using enough)
      rw [run, run, equal]
      exact ⟨rfl, fun cut => taken.cutShort (spared cut)⟩

theorem deliverAll (event : ChangeEvent) {perceivers : List (Perceiver (Routine σ π))}
    (sessions : ∀ perceiver ∈ perceivers, ∀ callback, perceiver ≠ .direct callback) :
    (deliverAll ((Discipline.routines σ π).announced call) event perceivers).Accountable room []
      (ChangeTracking.deliverAll ((Discipline.routines σ π).announced call') event perceivers) := by
  induction perceivers with
  | nil => exact done ()
  | cons perceiver rest ih =>
    have later := ih fun other member => sessions other (by simp [member])
    cases perceiver with
    | direct callback => exact absurd rfl (sessions _ (by simp) callback)
    | session id registrar phase => exact (fire answers id _).andThen fun _ => later

theorem notify (registrar : RegistrarId) (key : Key) (phase : Phase) :
    (notify ((Discipline.routines σ π).announced call) registrar key phase).Accountable room []
      (ChangeTracking.notify ((Discipline.routines σ π).announced call') registrar key phase) := by
  intro world undirected
  have sessions : ∀ perceiver ∈ world.tracker.snapshot registrar key phase, ∀ callback,
      perceiver ≠ .direct callback := fun _ => undirected.of_mem_snapshot
  have quiet := world.quiet_notified registrar key phase
  have reached := deliverAll answers ⟨registrar, key, phase⟩ sessions
  exact (reached _ (quiet.undirected undirected)).of_quiet undirected quiet (run_notify ..)
    (run_notify ..)

theorem withMutation {body body' : Act (Host.routines σ π) α}
    (inside : body.Accountable room cost body') (registrar : RegistrarId) (key : Key) :
    (withMutation ((Discipline.routines σ π).announced call) registrar key body).Accountable room
      cost (ChangeTracking.withMutation ((Discipline.routines σ π).announced call') registrar key
        body') := by
  have last := notify answers registrar key .didChange
  refine (notify answers registrar key .willChange).andThen fun _ =>
    inside.attempt.finish fun result => ?_
  cases result with
  | ok value => exact last.finish fun _ => done value
  | error panic => exact last.whileUnwinding.finish fun _ => unwind panic

end Callbacks

/-- An operation that is executed makes room for the callbacks that it leads to. -/
theorem executed (rest : act.Accountable room cost act') (place : π) :
    ((Act.note (RoutineNote.executed place) : Act (Host.routines σ π) Unit) >>= fun _ =>
      act).Accountable (room + 1) (place :: cost) (Act.note (.executed place) >>= fun _ => act') := by
  intro world undirected
  have quiet : world.Quiet [] world := .of_eq rfl rfl
  have paid := World.settles_hear (.executed place) quiet undirected rfl
  have here := rest _ paid.undirected
  refine ⟨paid.trans here.settles, fun enough => ?_⟩
  have promised : (world.hear (.executed place)).promised = world.promised := rfl
  rw [List.length_cons] at enough
  obtain ⟨equal, spared⟩ := here.completes (by rw [promised]; omega)
  exact ⟨equal, fun cut => quiet.cutShort_hear (by nofun) (spared cut)⟩

theorem consult (look : σ → α) :
    (consult look : Act (Host.routines σ π) α).Accountable room [] (ChangeTracking.consult look) :=
  same fun _ => .of_eq rfl rfl

theorem remember (keep : σ → σ) :
    (remember keep : Act (Host.routines σ π) Unit).Accountable room []
      (ChangeTracking.remember keep) :=
  same fun _ => .of_eq rfl rfl

theorem track {change : Tracker (Routine σ π) → α × Tracker (Routine σ π)}
    (undirected : ∀ tracker, tracker.Undirected → (change tracker).2.Undirected)
    (waiting : ∀ tracker, (change tracker).2.waiting = tracker.waiting) :
    (Act.track change : Act (Host.routines σ π) α).Accountable room [] (Act.track change) :=
  same fun _ => .trackerOnly (undirected _) (waiting _)

theorem cleared {change : Tracker (Routine σ π) → Tracker (Routine σ π)}
    (cleared : ∀ tracker, Tracker.Cleared tracker (change tracker)) :
    (Act.modifyTracker change : Act (Host.routines σ π) Unit).Accountable room []
      (Act.modifyTracker change) :=
  same fun world => .cleared (cleared world.tracker)

theorem cancelSession (id : SessionId) :
    (cancelSession id : Act (Host.routines σ π) Unit).Accountable room []
      (ChangeTracking.cancelSession id) := by
  refine same fun world => ?_
  rcases run_cancelSession id world with left | ⟨report, tracker, ended, left⟩
  · rw [left]
    exact .of_eq rfl rfl
  · rw [left]
    have cancelled := Tracker.of_cancelSession? ended
    exact ⟨World.notes_advance .., (·.cancelled cancelled), cancelled.tally_waiting⟩

theorem errand (work : Errand σ) :
    (work.act : Act (Host.routines σ π) Unit).Accountable room [] work.act := by
  cases work with
  | look keep => exact same fun _ => .of_eq rfl rfl
  | createRegistrar keep =>
    exact (track (fun tracker undirected => undirected.cleared tracker.createRegistrar_cleared)
      fun _ => rfl).andThen fun _ => remember _
  | retain id =>
    exact (consult id).andThen fun id => cleared (·.retain_cleared id)
  | release id =>
    exact (consult id).andThen fun id => cleared (·.release_cleared id)
  | cancel id token keep =>
    exact (consult id).andThen fun id => (consult token).andThen fun token =>
      (track (fun tracker undirected => undirected.cancel id token) fun tracker =>
        Tracker.waiting_of_sessions (by simp)).andThen fun _ => remember _
  | cancelAll id keep =>
    exact (consult id).andThen fun id =>
      (track (fun tracker undirected => undirected.cleared (tracker.cancelAll_cleared id))
        fun _ => rfl).andThen fun _ => remember _
  | access id key =>
    exact (consult id).andThen fun id => (consult key).andThen fun key => onThreadState _
  | createSession reads keep =>
    exact (consult reads).andThen fun reads =>
      (track (fun tracker undirected => undirected) fun tracker =>
        Tracker.waiting_createSession reads).andThen fun _ => remember _
  | cancelSession id => exact (consult id).andThen fun id => cancelSession id
  | panic message =>
    refine andThen (same fun _ => .of_eq rfl rfl) fun thread => ?_
    split
    · exact done ()
    · exact (consult message).andThen fun _ => unwind _

theorem handOver (id : SessionId) (callbacks : PerPhase (Routine σ π)) :
    (handOver id callbacks).Accountable room (callbacks.toList.flatMap Routine.places)
      (ChangeTracking.handOver id callbacks) := by
  intro world undirected
  rcases run_handOver id callbacks world with left | ⟨middle, quiet, left⟩
  · have idle : world.Quiet [] world := .of_eq rfl rfl
    refine ⟨?_, fun _ => ⟨rfl, fun cut => left ▸ cut⟩⟩
    rw [left]
    exact (idle.settles undirected).weaken fun _ => Nat.zero_le _
  · refine ⟨?_, fun _ => ⟨rfl, fun cut => quiet.cutShort_hear (by nofun) (left ▸ cut)⟩⟩
    rw [left]
    exact World.settles_hear (.handed callbacks) quiet undirected rfl

theorem enlist (reads : AccessList) (callbacks : PerPhase (Routine σ π))
    (keep : SessionId → σ → σ) :
    (enlist reads callbacks keep).Accountable room (callbacks.toList.flatMap Routine.places)
      (ChangeTracking.enlist reads callbacks keep) := by
  intro world undirected
  have quiet := world.quiet_armed reads callbacks
  have handed : world.Settles (callbacks.toList.flatMap Routine.places)
      ((world.armed reads callbacks).hear (.handed callbacks)) :=
    World.settles_hear (.handed callbacks) quiet undirected rfl
  have kept : ((world.armed reads callbacks).hear (.handed callbacks)).Quiet []
      ((ChangeTracking.enlist reads callbacks keep).run world).2 := by
    rw [run_enlist]
    exact .of_eq rfl rfl
  refine ⟨?_, fun _ => ⟨rfl, fun cut => quiet.cutShort_hear (by nofun) (kept.cutShort cut)⟩⟩
  exact (handed.trans (kept.settles handed.undirected)).weaken fun weigh => by simp

/-- A tracked read pays for the read, and its callbacks are owed from then on. -/
theorem trackAndKeep {read read' : Act (Host.routines σ π) Unit}
    (inside : read.Accountable room cost read') (callbacks : PerPhase (Routine σ π))
    (keep : SessionId → σ → σ) :
    (trackAndKeep read callbacks keep).Accountable room
      (cost ++ callbacks.toList.flatMap Routine.places)
      (ChangeTracking.trackAndKeep read' callbacks keep) := by
  by_cases given : callbacks.isEmpty = true
  · have refused (read : Act (Host.routines σ π) Unit) :
        ChangeTracking.trackAndKeep read callbacks keep = .done () := by
      rw [ChangeTracking.trackAndKeep, trackSession, if_pos given]
      rfl
    rw [refused, refused]
    exact (done ()).weaken fun _ => Nat.zero_le _
  · rw [trackAndKeep_eq read given, trackAndKeep_eq read' given]
    exact inside.record.bind fun result => enlist result.2 callbacks keep

end Accountable
end Act

namespace Routine
open Act (Accountable)
open Act.Accountable (andThen)

/-- A routine pays for its own operations, if callbacks do. Each of these that is executed makes the
room for the callbacks that it leads to, so callbacks get along with less room than the routine. -/
theorem accountable {room : Nat} {call call' : Call (Host.routines σ π)}
    (answers : ∀ callback event,
      (call callback event).Accountable room callback.places (call' callback event)) :
    (routine : Routine σ π) →
      (routine.act call).Accountable (room + 1) routine.places (routine.act call')
  | .skip => .done ()
  | .seq first second => (accountable answers first).bind fun _ => accountable answers second
  | .branch condition yes no => by
    have first : (yes.act call).Accountable (room + 1) (yes.places ++ no.places) (yes.act call') :=
      (accountable answers yes).weaken fun weigh => by simp
    have second : (no.act call).Accountable (room + 1) (yes.places ++ no.places) (no.act call') :=
      (accountable answers no).weaken fun weigh => by simp
    refine (Accountable.consult condition).andThen fun chosen => ?_
    cases chosen with
    | true => exact first
    | false => exact second
  | .errand place work => .executed (.errand work) place
  | .notify place id key phase =>
    .executed (andThen (.consult id) fun id => andThen (.consult key) fun key =>
      .notify answers id key phase) place
  | .withMutation place id key body =>
    have inside := (accountable answers body).mono (Nat.le_succ room)
    .executed (andThen (.consult id) fun id => andThen (.consult key) fun key =>
      .withMutation answers inside id key) place
  | .record place body keep =>
    have inside := (accountable answers body).mono (Nat.le_succ room)
    .executed (inside.record.finish fun _ => .remember _) place
  | .install place id callbacks => by
    rw [places, placesOfBoth_eq]
    exact .executed (andThen (.consult id) fun id => .handOver id callbacks) place
  | .trackSession place read callbacks keep => by
    have inside := (accountable answers read).mono (Nat.le_succ room)
    rw [places, placesOfBoth_eq]
    exact .executed (.trackAndKeep inside callbacks keep) place
  | .attempt place body =>
    have inside := (accountable answers body).mono (Nat.le_succ room)
    .executed (inside.attempt.finish fun _ => .done ()) place
  | .onThread place body =>
    have inside := (accountable answers body).mono (Nat.le_succ room)
    .executed (inside.onThread.finish fun _ => .done ()) place

theorem answer_accountable {room more : Nat} (enough : room ≤ more) (callback : Routine σ π)
    (event : ChangeEvent) :
    (answer room callback event).Accountable room callback.places (answer more callback event) := by
  -- Room shrinks from one callback to those within it; where none is left, nothing is said but that
  -- nothing is executed.
  induction room generalizing more callback event with
  | zero =>
    intro world undirected
    have quiet : world.Quiet [] world := .of_eq rfl rfl
    refine ⟨?_, fun enough => absurd enough (Nat.not_lt_zero _)⟩
    exact (World.settles_hear .cutShort quiet undirected rfl).weaken fun _ => Nat.zero_le _
  | succ room ih =>
    obtain ⟨more, rfl⟩ : ∃ less, more = less + 1 := ⟨more - 1, by omega⟩
    have answers := fun callback event => ih (by omega : room ≤ more) callback event
    exact Accountable.andThen (.same fun _ => .of_eq rfl rfl) fun _ => accountable answers callback

theorem playAll_accountable {room more : Nat} (enough : room ≤ more)
    (routines : List (Routine σ π)) :
    (playAll room routines).Accountable (room + 1) (routines.flatMap places)
      (playAll more routines) := by
  induction routines with
  | nil => exact .done ()
  | cons routine rest ih =>
    exact (accountable (answer_accountable enough) routine).attempt.bind fun _ => ih

/-- Routines that are played one after the other come to an end by themselves. With room for as many
callbacks within one another as they have operations, no callback is ever left out, and with more
room they do the same. However the callbacks change what is tracked, track again or cancel one
another, no place is executed more often than operations stand at it, so none of these is executed
twice; and each call uses up a callback that was handed to an installation which succeeded. -/
theorem cascades_end (routines : List (Routine σ π)) (memory : Memory σ) {room : Nat}
    (enough : (routines.flatMap places).length ≤ room) :
    let start : World (Host.routines σ π) := World.initial memory
    let after := ((playAll room routines).run start).2
    (playAll room routines).run start =
        (playAll (routines.flatMap places).length routines).run start ∧
      ¬ after.CutShort ∧
      after.executed.Subperm (routines.flatMap places) ∧
      ((after.calls (Discipline.routines σ π)).map (·.callback)).Subperm after.handed := by
  intro start after
  have undirected : start.tracker.Undirected := Tracker.Undirected.empty
  have accounts := playAll_accountable enough routines start undirected
  have promised : start.promised = [] := rfl
  have executed : start.executed = [] := rfl
  have called : start.called = [] := rfl
  have handed : start.handed = [] := rfl
  have waiting : start.tracker.waiting = [] := rfl
  have equal := (accounts.completes (by rw [promised, List.length_nil]; omega)).1
  have own := playAll_accountable (Nat.le_refl room) routines start undirected
  have settles : start.Settles (routines.flatMap places) after := own.settles
  have spared := (own.completes (by rw [promised, List.length_nil]; omega)).2
  refine ⟨equal, fun cut => ?_, subperm_of_tally fun weigh => ?_, ?_⟩
  · cases spared cut
  · have paid := settles.paid weigh
    rw [executed, promised, tally_nil] at paid
    omega
  · rw [World.map_callback_calls]
    refine subperm_of_tally fun measure => ?_
    have balance := settles.called measure
    rw [called, handed, waiting, tally_nil] at balance
    omega

/-- A callback that changes what it waited for, tracks it again and waits for the next change. -/
def trackingAgain : List (Routine Unit Nat) :=
  [.errand 0 (.createRegistrar fun _ memory => memory),
    .trackSession 1 (.errand 2 (.access (fun _ => ⟨0⟩) fun _ => ⟨"a"⟩))
      ⟨some (.seq (.withMutation 3 (fun _ => ⟨0⟩) (fun _ => ⟨"a"⟩) .skip)
        (.trackSession 4 (.errand 5 (.access (fun _ => ⟨0⟩) fun _ => ⟨"a"⟩))
          ⟨none, some (.notify 6 (fun _ => ⟨0⟩) (fun _ => ⟨"a"⟩) .didChange)⟩
          fun _ memory => memory)), none⟩ fun _ memory => memory,
    .withMutation 7 (fun _ => ⟨0⟩) (fun _ => ⟨"a"⟩) .skip,
    .withMutation 8 (fun _ => ⟨0⟩) (fun _ => ⟨"a"⟩) .skip]

theorem cascades_end_of_trackingAgain :
    let after := ((playAll 9 trackingAgain).run (World.initial ⟨(), none⟩)).2
    after.executed = [0, 1, 2, 7, 3, 4, 5, 6, 8] ∧ after.handed.length = 2 ∧
      ¬ after.CutShort ∧ after.executed.Subperm (trackingAgain.flatMap places) ∧
      ((after.calls (Discipline.routines Unit Nat)).map (·.callback)).Subperm after.handed := by
  refine ⟨by decide +kernel, by decide +kernel, ?_⟩
  have enough : (trackingAgain.flatMap places).length ≤ 9 := by decide
  exact (cascades_end trackingAgain ⟨(), none⟩ enough).2

end Routine
end ChangeTracking
