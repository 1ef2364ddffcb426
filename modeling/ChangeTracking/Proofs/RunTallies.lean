import ChangeTracking.Proofs.RenderRuns

/-! What the tallies of a first run come to, in closed form. Each value is written twice, and the count
starts with the first value that is written to it. So of four steps in a row one gives the count a new
value and one the name, but it takes a step to the first new name and four to the first new count. -/
namespace ChangeTracking
namespace Counter

/-- How many new values the count is given in the first steps. -/
def countChanges (steps : Nat) : Nat := (steps - 1) / 4

def nameChanges (steps : Nat) : Nat := (steps + 2) / 4

def names : Nat → String
  | 0 => ""
  | number + 1 => "n" ++ toString number

/-- A counter that was fresh and has been written so many times. -/
def afterSteps (registrar : RegistrarId) (steps : Nat) : Counter :=
  ⟨registrar, (countChanges steps : Nat), names (nameChanges steps)⟩

theorem names_succ_ne (number : Nat) : names (number + 1) ≠ names number := by
  cases number with
  | zero => decide
  | succ number =>
    intro same
    have equal := toString_inj ((String.append_right_inj _).mp same)
    omega

theorem countChanges_succ (steps : Nat) : countChanges (steps + 1) =
    countChanges steps + if steps % 4 = 0 ∧ steps ≠ 0 then 1 else 0 := by
  unfold countChanges
  split <;> omega

theorem nameChanges_succ (steps : Nat) :
    nameChanges (steps + 1) = nameChanges steps + if steps % 4 = 1 then 1 else 0 := by
  unfold nameChanges
  split <;> omega

theorem written_afterSteps (registrar : RegistrarId) (steps : Nat) :
    (afterSteps registrar steps).written steps = afterSteps registrar (steps + 1) := by
  unfold written
  split
  · rename_i even
    have count : steps / 4 = countChanges (steps + 1) := rfl
    have name : nameChanges (steps + 1) = nameChanges steps := by
      rw [nameChanges_succ, if_neg (by omega)]
      rfl
    rw [afterSteps, afterSteps, count, name]
  · rename_i odd
    have count : countChanges (steps + 1) = countChanges steps := by
      rw [countChanges_succ, if_neg (by omega)]
      rfl
    have name : nameChanges (steps + 1) = steps / 4 + 1 := by
      unfold nameChanges
      omega
    rw [afterSteps, afterSteps, count, name, names]

/-- A step changes something if it is the first of two that write the same value, and not the first one
of all. -/
theorem written_afterSteps_eq_iff (registrar : RegistrarId) (steps : Nat) :
    (afterSteps registrar steps).written steps = afterSteps registrar steps ↔
      ¬ (steps % 4 = 0 ∧ steps ≠ 0) ∧ steps % 4 ≠ 1 := by
  rw [written_afterSteps, afterSteps, afterSteps, countChanges_succ, nameChanges_succ]
  constructor
  · intro same
    obtain ⟨count, name⟩ : _ ∧ _ := by simpa only [mk.injEq, true_and] using same
    constructor
    · intro first
      rw [if_pos first] at count
      omega
    · intro first
      rw [if_pos first] at name
      exact names_succ_ne _ name
  · rintro ⟨count, name⟩
    rw [if_neg count, if_neg name]
    rfl

end Counter

namespace RenderCourse
open Counter

/-- The writes to the count in the first steps. A gated run makes only those that give it a new value. -/
def countWrites (gated : Bool) (steps : Nat) : Nat :=
  if gated then countChanges steps else (steps + 1) / 2

def nameWrites (gated : Bool) (steps : Nat) : Nat :=
  if gated then nameChanges steps else steps / 2

def shownWrites (mode : RenderMode) (gated : Bool) (steps : Nat) : Nat :=
  match mode with
  | .count => countWrites gated steps
  | .name => nameWrites gated steps
  | .both => countWrites gated steps + nameWrites gated steps

/-- The step with this number is left out. -/
def LeftOut (gated : Bool) (number : Nat) : Prop :=
  gated = true ∧ ¬ (number % 4 = 0 ∧ number ≠ 0) ∧ number % 4 ≠ 1

instance (gated : Bool) (number : Nat) : Decidable (LeftOut gated number) :=
  inferInstanceAs (Decidable (_ ∧ _))

theorem countWrites_succ (gated : Bool) (number : Nat) : countWrites gated (number + 1) =
    countWrites gated number + if number % 2 = 0 ∧ ¬ LeftOut gated number then 1 else 0 := by
  cases gated with
  | false =>
    simp only [countWrites, LeftOut, Bool.false_eq_true, false_and, if_false, not_false_eq_true,
      and_true]
    split <;> omega
  | true =>
    have first : (number % 2 = 0 ∧ ¬ LeftOut true number) ↔ number % 4 = 0 ∧ number ≠ 0 := by
      simp only [LeftOut, true_and]
      omega
    rw [countWrites, countWrites, if_pos rfl, if_pos rfl, countChanges_succ, if_congr first rfl rfl]

theorem nameWrites_succ (gated : Bool) (number : Nat) : nameWrites gated (number + 1) =
    nameWrites gated number + if number % 2 ≠ 0 ∧ ¬ LeftOut gated number then 1 else 0 := by
  cases gated with
  | false =>
    simp only [nameWrites, LeftOut, Bool.false_eq_true, false_and, if_false, not_false_eq_true,
      and_true]
    split <;> omega
  | true =>
    have first : (number % 2 ≠ 0 ∧ ¬ LeftOut true number) ↔ number % 4 = 1 := by
      simp only [LeftOut, true_and]
      omega
    rw [nameWrites, nameWrites, if_pos rfl, if_pos rfl, nameChanges_succ, if_congr first rfl rfl]

theorem writtenKey_mem_iff (mode : RenderMode) (number : Nat) : writtenKey number ∈ mode.keys ↔
    match mode with
    | .count => number % 2 = 0
    | .name => number % 2 ≠ 0
    | .both => True := by
  unfold writtenKey
  cases mode <;> split <;> rename_i parity <;> simp [RenderMode.keys, parity, countKey, nameKey]

theorem shownWrites_succ (mode : RenderMode) (gated : Bool) (number : Nat) :
    shownWrites mode gated (number + 1) = shownWrites mode gated number +
      if writtenKey number ∈ mode.keys ∧ ¬ LeftOut gated number then 1 else 0 := by
  have count := countWrites_succ gated number
  have name := nameWrites_succ gated number
  have shown := writtenKey_mem_iff mode number
  cases mode with
  | count =>
    rw [if_congr (and_congr_left fun _ => shown) rfl rfl]
    exact count
  | name =>
    rw [if_congr (and_congr_left fun _ => shown) rfl rfl]
    exact name
  | both =>
    rw [shownWrites, shownWrites, count, name]
    by_cases leftOut : LeftOut gated number <;>
      rcases Nat.mod_two_eq_zero_or_one number with even | odd <;> simp [*] <;> omega

theorem writes_succ (gated : Bool) (number : Nat) : shownWrites .both gated (number + 1) =
    shownWrites .both gated number + if LeftOut gated number then 0 else 1 := by
  rw [shownWrites_succ]
  simp only [writtenKey_mem_iff, true_and, ite_not]

/-- What a first run has come to after so many steps: one session waits, and each write to what is shown
was delivered and led to a rendering. -/
structure Tallied (registrar : RegistrarId) (config : RenderConfig) (steps : Nat)
    (course : RenderCourse) : Prop where
  counter : course.counter = afterSteps registrar steps
  waiting : course.waiting = 1
  renders : course.tallies.renders = course.tallies.notifications + 1
  notifications :
    course.tallies.notifications = shownWrites config.mode config.equalityGated steps
  writes : course.tallies.skippedWrites + shownWrites .both config.equalityGated steps = steps

section Runs
variable {registrar : RegistrarId} {config : RenderConfig} {course : RenderCourse} {steps : Nat}

theorem Tallied.next (tallied : Tallied registrar config steps course) :
    Tallied registrar config (steps + 1) (course.next config steps) := by
  have shown := shownWrites_succ config.mode config.equalityGated steps
  have total := writes_succ config.equalityGated steps
  have writes := tallied.writes
  have counter : (course.next config steps).counter = afterSteps registrar (steps + 1) := by
    rw [counter_next, tallied.counter, written_afterSteps]
  have leftOut : (config.equalityGated = true ∧ course.counter.written steps = course.counter) ↔
      LeftOut config.equalityGated steps := by
    rw [tallied.counter, written_afterSteps_eq_iff, LeftOut]
  by_cases skipped : LeftOut config.equalityGated steps
  · rw [if_neg fun both => both.2 skipped] at shown
    rw [if_pos skipped] at total
    rw [RenderCourse.next, if_pos (leftOut.mpr skipped)] at counter ⊢
    refine ⟨counter, tallied.waiting, tallied.renders, tallied.notifications.trans shown.symm, ?_⟩
    show course.tallies.skippedWrites + 1 + _ = steps + 1
    omega
  · rw [if_neg skipped] at total
    rw [RenderCourse.next, if_neg (skipped ∘ leftOut.mp)] at counter ⊢
    by_cases seen : writtenKey steps ∈ config.mode.keys
    · rw [if_pos ⟨seen, skipped⟩] at shown
      rw [if_pos seen] at counter ⊢
      have delivered : course.tallies.notifications + course.waiting =
          shownWrites config.mode config.equalityGated (steps + 1) := by
        rw [tallied.waiting, shown, tallied.notifications]
      refine ⟨counter, rfl, ?_, delivered, ?_⟩
      · show course.tallies.renders + 1 = course.tallies.notifications + course.waiting + 1
        rw [tallied.renders, tallied.waiting]
      · show course.tallies.skippedWrites + _ = steps + 1
        omega
    · rw [if_neg fun both => seen both.1] at shown
      rw [if_neg seen] at counter ⊢
      refine ⟨counter, tallied.waiting, tallied.renders, tallied.notifications.trans shown.symm, ?_⟩
      show course.tallies.skippedWrites + _ = steps + 1
      omega

theorem tallied_after (registrar : RegistrarId) (config : RenderConfig) (steps : Nat) :
    Tallied registrar config steps (after config (.initial registrar) steps) := by
  induction steps with
  | zero =>
    have none (mode : RenderMode) (gated : Bool) : shownWrites mode gated 0 = 0 := by
      cases mode <;> cases gated <;> rfl
    exact ⟨rfl, rfl, rfl, (none _ _).symm, (Nat.zero_add _).trans (none _ _)⟩
  | succ steps ih => exact ih.next

end Runs
end RenderCourse

/-- What a first run comes to, by what it was asked to do. -/
structure Tallies.OfFirstRun (config : RenderConfig) (tallies : Tallies) : Prop where
  renders : tallies.renders = tallies.notifications + 1
  ungated : config.equalityGated = false → tallies.skippedWrites = 0 ∧
    tallies.notifications = match config.mode with
      | .both => config.steps.toNat
      | .count => (config.steps.toNat + 1) / 2
      | .name => config.steps.toNat / 2
  gated : config.equalityGated = true →
    tallies.skippedWrites =
      config.steps.toNat - (config.steps.toNat - 1) / 4 - (config.steps.toNat + 2) / 4 ∧
    tallies.notifications = match config.mode with
      | .both => (config.steps.toNat - 1) / 4 + (config.steps.toNat + 2) / 4
      | .count => (config.steps.toNat - 1) / 4
      | .name => (config.steps.toNat + 2) / 4

theorem RenderCourse.Tallied.ofFirstRun {registrar : RegistrarId} {config : RenderConfig}
    {course : RenderCourse} (tallied : Tallied registrar config config.steps.toNat course) :
    course.tallies.OfFirstRun config := by
  obtain ⟨-, -, renders, notifications, writes⟩ := tallied
  refine ⟨renders, fun ungated => ?_, fun gated => ?_⟩
  · rw [ungated] at notifications writes
    refine ⟨?_, notifications.trans ?_⟩
    · have all : shownWrites .both false config.steps.toNat =
          (config.steps.toNat + 1) / 2 + config.steps.toNat / 2 := rfl
      omega
    · cases config.mode with
      | count | name => rfl
      | both =>
        show (config.steps.toNat + 1) / 2 + config.steps.toNat / 2 = config.steps.toNat
        omega
  · rw [gated] at notifications writes
    refine ⟨?_, notifications.trans ?_⟩
    · have all : shownWrites .both true config.steps.toNat =
          (config.steps.toNat - 1) / 4 + (config.steps.toNat + 2) / 4 := rfl
      omega
    · cases config.mode <;> rfl

namespace RenderLoop
variable {H : Host}

/-- The tallies of an application that is run for the first time. It returns, unless its output had no
room, and has rendered once and again after each change; how many changes there were depends on the
number of steps, on what is shown and on gating. It reports what it counted in words. -/
theorem tallies_of_first_run (posting : Posting H) {world : World H} (start : world.Open)
    (config : RenderConfig) (sink : Sink) :
    ∃ loop ready result ended left, (create config sink).run world = (.ok loop, ready) ∧
      Rendering.ending (run posting) loop ready = (.ok (result, ended), left) ∧
      match result with
      | .ok summary => ∃ tallies,
          (∃ last here, Counted posting .zero loop ready config.steps.toNat (.ok ()) tallies last here) ∧
            tallies.OfFirstRun config ∧ summary = tallies.words
      | .error failure => failure = .output "writer full" ∧ sink.room ≠ none := by
  obtain ⟨loop, ready, created, kept⟩ : ∃ loop ready,
      (create config sink).run world = (.ok loop, ready) ∧ loop.sink = sink := ⟨_, _, rfl, rfl⟩
  have follows : Follows posting sink.text config _ loop ready := follows_of_created start created
  obtain ⟨result, ended, left, ran, unlimited, outcome⟩ := run_leads follows (.fresh _) rfl
  refine ⟨loop, ready, result, ended, left, created, ran, ?_⟩
  cases result with
  | ok summary =>
    obtain ⟨counted, reported, _⟩ := outcome
    exact ⟨_, counted, (RenderCourse.tallied_after _ config _).ofFirstRun, reported⟩
  | error failure =>
    refine ⟨outcome.1, fun room => outcome.2.1 (unlimited ?_)⟩
    rw [kept, room]

/-- Eight steps that show both properties, five of which a gated run leaves out. -/
theorem tallies_of_first_run_of_initial :
    (World.initial () : World CounterProgram.host).Open ∧
      ∃ loop ready ended left, (create ⟨8, .both, true⟩ (.empty none)).run (World.initial ()) =
          (.ok loop, ready) ∧
        Rendering.ending (run CounterProgram.posting) loop ready =
          (.ok (.ok ⟨4, 3, 5⟩, ended), left) := by
  refine ⟨open_initial, ?_⟩
  obtain ⟨loop, ready, result, ended, left, created, ran, outcome⟩ :=
    tallies_of_first_run CounterProgram.posting open_initial ⟨8, .both, true⟩ (.empty none)
  cases result with
  | error failure => exact absurd rfl outcome.2
  | ok summary =>
    obtain ⟨⟨rendered, received, leftOut⟩, _, ⟨renders, _, gated⟩, rfl⟩ := outcome
    obtain ⟨skipped, notifications⟩ := gated rfl
    obtain rfl : received = 3 := notifications
    obtain rfl : rendered = 4 := renders
    obtain rfl : leftOut = 5 := skipped
    exact ⟨loop, ready, ended, left, created, ran⟩

end RenderLoop
end ChangeTracking
