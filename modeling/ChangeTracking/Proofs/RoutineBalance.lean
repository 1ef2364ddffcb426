import ChangeTracking.Proofs.Routines
import ChangeTracking.Proofs.Waiting

namespace ChangeTracking
variable {σ π : Type}

namespace World

/-- The places of the operations of all callbacks that sessions wait to call. -/
def promised (world : World (Host.routines σ π)) : List π :=
  world.tracker.waiting.flatMap Routine.places

variable {world middle after : World (Host.routines σ π)}

/-- A step that executes no operation of a routine and calls nothing. For no other callbacks than
those that are given, sessions come to wait. -/
structure Quiet (given : List (Routine σ π)) (world after : World (Host.routines σ π)) : Prop where
  notes : after.notes = world.notes
  undirected : world.tracker.Undirected → after.tracker.Undirected
  waiting : ∀ measure, tally measure after.tracker.waiting ≤
    tally measure world.tracker.waiting + tally measure given

namespace Quiet
variable {given : List (Routine σ π)}

theorem of_eq (tracker : after.tracker = world.tracker) (log : after.log = world.log) :
    world.Quiet given after := by
  refine ⟨by rw [World.notes, log, World.notes], fun undirected => ?_, fun measure => ?_⟩
  · rwa [tracker]
  · rw [tracker]
    exact Nat.le_add_right _ _

theorem trackerOnly {tracker : Tracker (Routine σ π)}
    (undirected : world.tracker.Undirected → tracker.Undirected)
    (waiting : tracker.waiting = world.tracker.waiting) :
    world.Quiet [] { world with tracker } :=
  ⟨rfl, undirected, fun _ => Nat.le_of_eq (by rw [waiting]; rfl)⟩

theorem cleared {tracker : Tracker (Routine σ π)} (cleared : Tracker.Cleared world.tracker tracker) :
    world.Quiet [] { world with tracker } :=
  trackerOnly (·.cleared cleared) (Tracker.waiting_of_sessions cleared.sessions)

variable (quiet : world.Quiet given after)
include quiet

theorem executed : after.executed = world.executed := by
  rw [World.executed, quiet.notes, World.executed]

theorem called : after.called = world.called := by
  rw [World.called, quiet.notes, World.called]

theorem handed : after.handed = world.handed := by
  rw [World.handed, quiet.notes, World.handed]

theorem cutShort (cut : after.CutShort) : world.CutShort := by
  rwa [CutShort, quiet.notes] at cut

end Quiet

/-- Between two worlds, the operations that were executed are paid for out of what was owed before
and of a cost; and the callbacks that were called, out of those that waited or were handed over. -/
structure Settles (cost : List π) (world after : World (Host.routines σ π)) : Prop where
  undirected : after.tracker.Undirected
  grown : ∀ weigh, tally weigh world.executed ≤ tally weigh after.executed
  paid : ∀ weigh, tally weigh after.executed + tally weigh after.promised ≤
    tally weigh world.executed + tally weigh world.promised + tally weigh cost
  called : ∀ measure,
    tally measure after.called + tally measure after.tracker.waiting +
        tally measure world.handed ≤
      tally measure world.called + tally measure world.tracker.waiting +
        tally measure after.handed

theorem tally_promised (weigh : π → Nat) : tally weigh world.promised =
    tally (fun routine => tally weigh routine.places) world.tracker.waiting :=
  tally_flatMap ..

theorem Quiet.settles (quiet : world.Quiet [] after) (undirected : world.tracker.Undirected) :
    world.Settles [] after where
  undirected := quiet.undirected undirected
  grown weigh := Nat.le_of_eq (by rw [quiet.executed])
  paid weigh := by
    rw [quiet.executed, tally_promised, tally_promised, tally_nil]
    exact Nat.add_le_add_left (quiet.waiting _) _
  called measure := by
    rw [quiet.called, quiet.handed]
    have waiting := quiet.waiting measure
    rw [tally_nil] at waiting
    omega

/-- A note other than of a call is paid for with what it says: operations that are executed, and
callbacks that are handed over and are owed from then on. -/
theorem settles_hear (note : RoutineNote σ π) (quiet : world.Quiet note.given after)
    (undirected : world.tracker.Undirected) (uncalled : note.callees = []) :
    world.Settles (note.places ++ note.given.flatMap Routine.places) (after.hear note) := by
  have notes := after.notes_hear note
  have executed : (after.hear note).executed = world.executed ++ note.places := by
    rw [← quiet.executed]
    simp [World.executed, notes]
  have called : (after.hear note).called = world.called := by
    rw [← quiet.called]
    simp [World.called, notes, uncalled]
  have handed : (after.hear note).handed = world.handed ++ note.given := by
    rw [← quiet.handed]
    simp [World.handed, notes]
  have waiting : ∀ measure, tally measure (after.hear note).tracker.waiting ≤
      tally measure world.tracker.waiting + tally measure note.given := quiet.waiting
  refine ⟨quiet.undirected undirected, fun weigh => ?_, fun weigh => ?_, fun measure => ?_⟩
  · simp [executed]
  · have owed := waiting fun routine => tally weigh routine.places
    rw [← tally_flatMap weigh Routine.places note.given] at owed
    rw [executed, tally_promised, tally_promised, tally_append, tally_append]
    omega
  · have waiting := waiting measure
    rw [called, handed, tally_append]
    omega

theorem Quiet.cutShort_hear {note : RoutineNote σ π} {given : List (Routine σ π)}
    (quiet : world.Quiet given after) (other : .cutShort ≠ note)
    (cut : (after.hear note).CutShort) : world.CutShort := by
  rw [CutShort, notes_hear, List.mem_append, List.mem_singleton] at cut
  exact quiet.cutShort (cut.resolve_right other)

namespace Settles
variable {cost more : List π}

theorem trans (first : world.Settles cost middle) (second : middle.Settles more after) :
    world.Settles (cost ++ more) after where
  undirected := second.undirected
  grown weigh := (first.grown weigh).trans (second.grown weigh)
  paid weigh := by
    have before := first.paid weigh
    have later := second.paid weigh
    rw [tally_append]
    omega
  called measure := by
    have before := first.called measure
    have later := second.called measure
    omega

theorem weaken (settles : world.Settles cost after)
    (less : ∀ weigh, tally weigh cost ≤ tally weigh more) : world.Settles more after where
  undirected := settles.undirected
  grown := settles.grown
  paid weigh := (settles.paid weigh).trans (Nat.add_le_add_left (less weigh) _)
  called := settles.called

theorem length_promised (settles : world.Settles cost after) :
    after.promised.length ≤ world.promised.length + cost.length := by
  have grown := settles.grown fun _ => 1
  have paid := settles.paid fun _ => 1
  simp only [tally_one] at grown paid
  omega

end Settles

theorem quiet_notified (world : World (Host.routines σ π)) (registrar : RegistrarId) (key : Key)
    (phase : Phase) : world.Quiet [] (world.notified registrar key phase) :=
  ⟨notes_advance .., fun undirected => undirected, fun _ => Nat.le_refl _⟩

/-- A session has given up a callback, and its call is heard. -/
structure Taken (callback : Routine σ π) (world heard : World (Host.routines σ π)) : Prop where
  undirected : heard.tracker.Undirected
  executed : heard.executed = world.executed
  handed : heard.handed = world.handed
  called : heard.called = world.called ++ [callback]
  waiting : ∀ measure, tally measure heard.tracker.waiting + measure callback =
    tally measure world.tracker.waiting
  cutShort : heard.CutShort → world.CutShort

namespace Taken
variable {callback : Routine σ π} {heard : World (Host.routines σ π)}

theorem of_fire? {id : SessionId} {event : ChangeEvent} {firing : Tracker.Firing (Routine σ π)}
    (undirected : world.tracker.Undirected)
    (due : world.tracker.fire? id event = some firing) : ∃ heard,
      world.Taken firing.callback heard ∧ ∀ call : Call (Host.routines σ π),
        (fire ((Discipline.routines σ π).announced call) id event).run world =
          (call firing.callback event).run heard := by
  have fired := Tracker.of_fire? due
  let heard : World (Host.routines σ π) :=
    (world.advance (some firing.report) firing.tracker).hear (.called firing.callback event)
  have notes : heard.notes = world.notes ++ [.called firing.callback event] := by
    rw [notes_hear, notes_advance]
  refine ⟨heard, ?_, fun call => (run_fire_some due).trans rfl⟩
  refine ⟨undirected.fired fired, ?_, ?_, ?_, fired.tally_waiting, ?_⟩
  · simp [World.executed, notes, RoutineNote.places]
  · simp [World.handed, notes, RoutineNote.given]
  · simp [World.called, notes, RoutineNote.callees]
  · simp [World.CutShort, notes]

theorem promised (taken : Taken callback world heard) (weigh : π → Nat) :
    tally weigh heard.promised + tally weigh callback.places = tally weigh world.promised := by
  rw [tally_promised, tally_promised]
  exact taken.waiting _

theorem settles (taken : Taken callback world heard)
    (settles : heard.Settles callback.places after) : world.Settles [] after where
  undirected := settles.undirected
  grown weigh := by
    rw [← taken.executed]
    exact settles.grown weigh
  paid weigh := by
    have paid := settles.paid weigh
    have promised := taken.promised weigh
    rw [taken.executed] at paid
    rw [tally_nil]
    omega
  called measure := by
    have called := settles.called measure
    have waiting := taken.waiting measure
    rw [taken.handed, taken.called, tally_append, tally_cons, tally_nil] at called
    omega

end Taken

end World

theorem World.quiet_armed (world : World (Host.routines σ π)) (reads : AccessList)
    (callbacks : PerPhase (Routine σ π)) :
    world.Quiet callbacks.toList (world.armed reads callbacks) := by
  have begun : (world.tracker.createSession reads).2.Undirected ↔ world.tracker.Undirected := .rfl
  refine ⟨notes_advance .., fun undirected => (begun.mpr undirected).armOver _ _ _, ?_⟩
  intro measure
  have armed := Tracker.tally_waiting_armOver (world.tracker.pending_fresh reads) callbacks
    reads.entries measure
  rwa [Tracker.waiting_createSession] at armed

theorem run_handOver (id : SessionId) (callbacks : PerPhase (Routine σ π))
    (world : World (Host.routines σ π)) :
    ((handOver id callbacks).run world).2 = world ∨
      ∃ middle, world.Quiet callbacks.toList middle ∧
        ((handOver id callbacks).run world).2 = middle.hear (.handed callbacks) := by
  unfold handOver install
  split
  · exact .inl rfl
  · rw [arm, Act.run_bind_ok (Act.run_conduct _ _), Tracker.arm]
    cases status : (world.tracker.session id).status with
    | pending =>
      refine .inr ⟨_, ⟨World.notes_advance .., fun undirected => undirected.armOver _ _ _, ?_⟩, rfl⟩
      exact Tracker.tally_waiting_armOver status _ _
    | cancelled => exact .inr ⟨_, .of_eq rfl (Array.append_empty ..), rfl⟩
    | installed => exact .inl world.advance_none
    | fired => exact .inl world.advance_none

/-- What a tracked read does once its recording has returned. -/
def enlist (reads : AccessList) (callbacks : PerPhase (Routine σ π)) (keep : SessionId → σ → σ) :
    Act (Host.routines σ π) Unit := do
  let id ← Act.track (·.createSession reads)
  let _ ← arm id callbacks
  Act.note (.handed callbacks)
  remember (keep id)

theorem trackAndKeep_eq (read : Act (Host.routines σ π) Unit)
    {callbacks : PerPhase (Routine σ π)} (given : ¬ callbacks.isEmpty = true)
    (keep : SessionId → σ → σ) :
    trackAndKeep read callbacks keep =
      record read >>= fun result => enlist result.2 callbacks keep := by
  rw [trackAndKeep, trackSession, if_neg given, trackArmed, Act.bind_assoc, Act.bind_assoc]
  rfl

theorem run_enlist (reads : AccessList) (callbacks : PerPhase (Routine σ π))
    (keep : SessionId → σ → σ) (world : World (Host.routines σ π)) :
    (enlist reads callbacks keep).run world =
      (remember (keep ⟨world.tracker.sessions.size⟩)).run
        ((world.armed reads callbacks).hear (.handed callbacks)) := by
  rw [enlist, Act.run_bind_ok (Act.run_track _ _)]
  exact Act.run_bind_ok (run_arm_created world reads callbacks)

end ChangeTracking
