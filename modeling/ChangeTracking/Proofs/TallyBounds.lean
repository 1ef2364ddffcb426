import ChangeTracking.Proofs.RunTallies

/-! Tallies in words of 32 bits. A first run renders once before its steps and at most once in each of
them, so what it tallies fits in a word, with one exception: where as many steps are taken as a word can
say and each of them is shown, the last rendering is one too many. -/
namespace ChangeTracking

/-- The words of a summary say what was counted. -/
structure RenderSummary.Exact (summary : RenderSummary) (tallies : Tallies) : Prop where
  renders : summary.renders.toNat = tallies.renders
  notifications : summary.notifications.toNat = tallies.notifications
  skippedWrites : summary.skippedWrites.toNat = tallies.skippedWrites

private theorem toNat_ofNat_eq_iff {number : Nat} :
    (UInt32.ofNat number).toNat = number ↔ number < 2 ^ 32 := by
  rw [UInt32.toNat_ofNat']
  exact Nat.mod_eq_iff_lt (by decide)

theorem Tallies.exact_words_iff {tallies : Tallies} : tallies.words.Exact tallies ↔
    tallies.renders < 2 ^ 32 ∧ tallies.notifications < 2 ^ 32 ∧ tallies.skippedWrites < 2 ^ 32 := by
  rw [← toNat_ofNat_eq_iff, ← toNat_ofNat_eq_iff, ← toNat_ofNat_eq_iff]
  exact ⟨fun ⟨renders, notifications, skipped⟩ => ⟨renders, notifications, skipped⟩,
    fun ⟨renders, notifications, skipped⟩ => ⟨renders, notifications, skipped⟩⟩

/-- As many steps as a word can say, each of them shown. -/
def RenderConfig.longest : RenderConfig := ⟨4294967295, .both, false⟩

namespace RenderCourse

theorem shownWrites_le_both (mode : RenderMode) (gated : Bool) (steps : Nat) :
    shownWrites mode gated steps ≤ shownWrites .both gated steps := by
  cases mode with
  | count => exact Nat.le_add_right _ _
  | name => exact Nat.le_add_left _ _
  | both => exact Nat.le_refl _

theorem shownWrites_eq_iff {mode : RenderMode} {gated : Bool} {steps : Nat} (many : 1 < steps) :
    shownWrites mode gated steps = steps ↔ mode = .both ∧ gated = false := by
  cases mode <;> cases gated <;>
    simp [shownWrites, countWrites, nameWrites, Counter.countChanges, Counter.nameChanges] <;> omega

section Bounds
variable {registrar : RegistrarId} {config : RenderConfig} {course : RenderCourse} {taken : Nat}

theorem Tallied.notifications_le (tallied : Tallied registrar config taken course) :
    course.tallies.notifications ≤ taken := by
  have within := shownWrites_le_both config.mode config.equalityGated taken
  have all := tallied.writes
  rw [tallied.notifications]
  omega

/-- The most changes that there can be are delivered at the end of the longest run, and nowhere else. -/
theorem Tallied.notifications_eq_iff (tallied : Tallied registrar config taken course)
    (within : taken ≤ config.steps.toNat) :
    course.tallies.notifications = 4294967295 ↔
      config = .longest ∧ taken = config.steps.toNat := by
  constructor
  · intro most
    -- A step delivers one change at most, so every step that a word can count was taken and shown.
    have atMost := tallied.notifications_le
    have words : config.steps.toNat < 4294967296 := config.steps.toNat_lt
    have reached : taken = 4294967295 := by omega
    have last : config.steps.toNat = 4294967295 := by omega
    rw [tallied.notifications, reached, shownWrites_eq_iff (by decide)] at most
    obtain ⟨steps, mode, gated⟩ := config
    obtain ⟨rfl, rfl⟩ := most
    obtain rfl : steps = 4294967295 := UInt32.toNat_inj.mp last
    exact ⟨rfl, reached⟩
  · rintro ⟨rfl, rfl⟩
    rw [tallied.notifications]
    exact (shownWrites_eq_iff (by decide)).mpr ⟨rfl, rfl⟩

/-- What a first run has tallied is shown as what it is, but for the end of the longest run. -/
theorem Tallied.exact_iff (tallied : Tallied registrar config taken course)
    (within : taken ≤ config.steps.toNat) :
    course.tallies.words.Exact course.tallies ↔ ¬ (config = .longest ∧ taken = config.steps.toNat) := by
  have words : config.steps.toNat < 4294967296 := config.steps.toNat_lt
  have atMost := tallied.notifications_le
  have all := tallied.writes
  rw [← tallied.notifications_eq_iff within, Tallies.exact_words_iff, tallied.renders]
  omega

theorem Tallied.exact_of_renders (tallied : Tallied registrar config taken course)
    (within : taken ≤ config.steps.toNat)
    (renders : course.tallies.words.renders.toNat = course.tallies.renders) :
    course.tallies.words.Exact course.tallies := by
  have words : config.steps.toNat < 4294967296 := config.steps.toNat_lt
  have atMost := tallied.notifications_le
  have all := tallied.writes
  exact Tallies.exact_words_iff.mpr ⟨toNat_ofNat_eq_iff.mp renders, by omega, by omega⟩

theorem Tallied.longest (tallied : Tallied registrar .longest 4294967295 course) :
    course.tallies = ⟨4294967296, 4294967295, 0⟩ := by
  have notifications := (tallied.notifications_eq_iff (Nat.le_refl 4294967295)).mpr ⟨rfl, rfl⟩
  have renders := tallied.renders
  have all : shownWrites .both false 4294967295 = 4294967295 :=
    (shownWrites_eq_iff (by decide)).mpr ⟨rfl, rfl⟩
  have skipped : course.tallies.skippedWrites = 0 := by
    have writes := tallied.writes
    rwa [RenderConfig.longest, all, Nat.add_eq_right] at writes
  obtain ⟨_, _, _, rendered, received, leftOut⟩ := course
  obtain rfl : received = 4294967295 := notifications
  obtain rfl : rendered = 4294967296 := renders
  obtain rfl : leftOut = 0 := skipped
  rfl

end Bounds

section Lines
variable {config : RenderConfig} {course : RenderCourse}

def numbers (course : RenderCourse) : List UInt32 := course.lines.map (·.1)

/-- The lines have the numbers from 1 on, one for each rendering. -/
def Numbered (course : RenderCourse) : Prop :=
  course.numbers = (List.range' 1 course.tallies.renders).map UInt32.ofNat

theorem Numbered.rendered (numbered : course.Numbered) (mode : RenderMode) :
    (course.rendered mode).Numbered := by
  have renders : (course.rendered mode).tallies.renders = course.tallies.renders + 1 := rfl
  have numbers : (course.rendered mode).numbers =
      course.numbers ++ [.ofNat (course.tallies.renders + 1)] := by
    rw [RenderCourse.numbers, RenderCourse.rendered, List.map_append]
    rfl
  rw [Numbered, numbers, renders, numbered, List.range'_concat, List.map_append, Nat.one_mul,
    Nat.add_comm 1]
  rfl

theorem Numbered.next (numbered : course.Numbered) (number : Nat) :
    (course.next config number).Numbered := by
  unfold RenderCourse.next
  split
  · exact numbered
  · split
    · have written : Numbered { course with
          counter := course.counter.written number
          waiting := 0
          tallies.notifications := course.tallies.notifications + course.waiting } := numbered
      exact written.rendered _
    · exact numbered

theorem numbered_after (registrar : RegistrarId) (config : RenderConfig) (taken : Nat) :
    (after config (.initial registrar) taken).Numbered := by
  induction taken with
  | zero =>
    have blank : Numbered (.initial registrar) := rfl
    exact blank.rendered _
  | succ taken ih => exact ih.next taken

theorem Numbered.getLast? (numbered : course.Numbered) (rendered : 0 < course.tallies.renders) :
    course.numbers.getLast? = some course.tallies.words.renders := by
  rw [numbered, List.getLast?_map, List.getLast?_range', if_neg (Nat.ne_of_gt rendered)]
  simp [Tallies.words]

theorem Numbered.exact (numbered : course.Numbered) (exact : course.tallies.words.Exact course.tallies) :
    course.lines.map (·.1.toNat) = List.range' 1 course.tallies.renders := by
  have shown : course.lines.map (·.1.toNat) = course.numbers.map (·.toNat) := by
    rw [numbers, List.map_map]
    rfl
  rw [shown, numbered, List.map_map]
  refine (List.map_congr_left fun number member => ?_).trans (List.map_id _)
  have fits := (Tallies.exact_words_iff.mp exact).1
  have small : number < 2 ^ 32 := by
    rw [List.mem_range'_1] at member
    omega
  rw [Function.comp_apply, UInt32.toNat_ofNat', Nat.mod_eq_of_lt small]
  rfl

end Lines
end RenderCourse

namespace RenderLoop
variable {H : Host}

/-- A run has written one line for each rendering, with the numbers from 1 on. -/
def Numbered (earlier text : String) (renders : Nat) : Prop :=
  ∃ lines, text = earlier ++ transcript lines ∧ (∀ entry ∈ lines, '\n' ∉ entry.2.toList) ∧
    lines.map (·.1.toNat) = List.range' 1 renders

/-- A run had no room for the line of its first rendering or of one of so many steps, and until then its
words said what was counted, but for the end of the longest run. -/
def BrokenOffExactly (posting : Posting H) (config : RenderConfig) (loop : RenderLoop)
    (world : World H) (taken : Nat) (after : RenderLoop) (left : World H) : Prop :=
  ∃ number ≤ taken, ∃ tallies,
    Counted posting .zero loop world number (.error (.output "writer full")) tallies after left ∧
      (after.summary.Exact tallies ↔ ¬ (config = .longest ∧ number = config.steps.toNat))

section Courses
variable (registrar : RegistrarId) {config : RenderConfig} {taken : Nat}

private theorem shown_after_iff (within : taken ≤ config.steps.toNat) (earlier : String) :
    let course := RenderCourse.after config (.initial registrar) taken
    course.tallies.words.Exact course.tallies ∧
        Numbered earlier (earlier ++ transcript course.lines) course.tallies.renders ↔
      ¬ (config = .longest ∧ taken = config.steps.toNat) := by
  intro course
  have exact_iff := (RenderCourse.tallied_after registrar config taken).exact_iff within
  refine ⟨fun shown => exact_iff.mp shown.1, fun other => ⟨exact_iff.mpr other, ?_⟩⟩
  have fresh := RenderCourse.fresh_initial registrar config taken
  have numbered := RenderCourse.numbered_after registrar config taken
  exact ⟨course.lines, rfl, fresh.single, numbered.exact (exact_iff.mpr other)⟩

private theorem BrokenOff.exact {posting : Posting H} {loop after : RenderLoop} {world left : World H}
    (broken : BrokenOff posting config (.initial registrar) loop world taken after left)
    (within : taken ≤ config.steps.toNat) : BrokenOffExactly posting config loop world taken after left := by
  obtain ⟨number, before, counted, _, summary⟩ := broken
  have tallied := RenderCourse.tallied_after registrar config number
  exact ⟨number, before, _, counted, summary ▸ tallied.exact_iff (before.trans within)⟩

end Courses

/-- What a first run tallies is shown as what it is, in its lines and in what it reports at the end. At
the end of the longest run, and nowhere else, that fails. -/
theorem tallies_exact_of_first_run (posting : Posting H) {world : World H} (start : world.Open)
    (config : RenderConfig) (sink : Sink) :
    ∃ loop ready, (create config sink).run world = (.ok loop, ready) ∧
      (∀ taken ≤ config.steps.toNat,
        Rendering.ending (run posting) loop ready = Rendering.ending (do
            upTo posting taken
            goOn posting (config.steps.toNat - taken) taken) loop ready ∧
          Rendering.Leads (upTo posting taken) loop ready
            (BrokenOffExactly posting config loop ready taken)
            (fun _ after left => ∃ tallies,
              Counted posting .zero loop ready taken (.ok ()) tallies after left ∧
              (after.summary.Exact tallies ∧ Numbered sink.text after.sink.text tallies.renders ↔
                ¬ (config = .longest ∧ taken = config.steps.toNat)))) ∧
      Rendering.Leads (run posting) loop ready
        (BrokenOffExactly posting config loop ready config.steps.toNat)
        (fun summary after _ => ∃ tallies,
          (∃ last here,
            Counted posting .zero loop ready config.steps.toNat (.ok ()) tallies last here) ∧
          (summary.Exact tallies ∧ Numbered sink.text after.sink.text tallies.renders ↔
            config ≠ .longest)) := by
  obtain ⟨loop, ready, created, follows⟩ := exists_created posting start config sink
  have all := Nat.le_refl config.steps.toNat
  refine ⟨loop, ready, created, fun taken within => ⟨?_, ?_⟩, ?_⟩
  · exact ending_run follows (.fresh _) within
  · refine ((upTo_follows follows (.fresh _) rfl taken).weaken fun _ _ broken =>
      broken.exact _ within).mono ?_
    rintro _ after left ⟨counted, follows⟩
    refine ⟨_, counted, ?_⟩
    rw [follows.text, follows.summary]
    exact shown_after_iff _ within _
  · have ended := shown_after_iff world.tracker.createRegistrar.1 all sink.text
    simp only [and_true] at ended
    refine ((run_leads follows (.fresh _) rfl).weaken fun _ _ broken => broken.exact _ all).mono ?_
    rintro summary after left ⟨counted, rfl, text, _⟩
    refine ⟨_, counted, ?_⟩
    rw [text]
    exact ended

/-- The second longest run with every step shown: its last rendering has the greatest number that a word
can say. -/
theorem tallies_exact_of_second_longest :
    (World.initial () : World CounterProgram.host).Open ∧
      ∃ loop ready summary after left tallies,
        (create ⟨4294967294, .both, false⟩ (.empty none)).run (World.initial ()) =
          (.ok loop, ready) ∧
        Rendering.ending (run CounterProgram.posting) loop ready =
          (.ok (.ok summary, after), left) ∧
        (∃ last here,
          Counted CounterProgram.posting .zero loop ready 4294967294 (.ok ()) tallies last here) ∧
        summary.Exact tallies ∧ Numbered "" after.sink.text tallies.renders := by
  obtain ⟨loop, ready, created, _, ends⟩ :=
    tallies_exact_of_first_run CounterProgram.posting open_initial ⟨4294967294, .both, false⟩ (.empty none)
  cases created
  obtain ⟨summary, after, left, ran, _, tallies, counted, shown⟩ := ends.returns rfl
  exact ⟨open_initial, _, _, summary, after, left, tallies, rfl, ran, counted, shown.mpr (by decide)⟩

/-- The options ask for the longest run. It renders `2 ^ 32` times and delivers one change less; its last
line has the number 0, and 0 is also what it reports as its renderings at the end. -/
theorem longest_run_outruns_words :
    (⟨4294967295, .both, false, false, "info"⟩ : Options).config = .ok .longest ∧
      ∃ loop ready summary after left lines,
        (create .longest (.empty none)).run (World.initial ()) = (.ok loop, ready) ∧
        Rendering.ending (run CounterProgram.posting) loop ready =
          (.ok (.ok summary, after), left) ∧
        (∃ last here, Counted CounterProgram.posting .zero loop ready 4294967295 (.ok ())
          ⟨4294967296, 4294967295, 0⟩ last here) ∧
        summary = ⟨0, 4294967295, 0⟩ ∧
        after.sink.text = transcript lines ∧ (∀ entry ∈ lines, '\n' ∉ entry.2.toList) ∧
        (lines.map (·.1)).getLast? = some 0 := by
  obtain ⟨summary, after, left, ran, _, counted, rfl, text, _⟩ :=
    (run_leads (follows_first .longest) (.fresh _) rfl).returns rfl
  -- The run is not evaluated: it has come to where its course is after as many steps.
  have steps : RenderConfig.longest.steps.toNat = 4294967295 := rfl
  have ended := (RenderCourse.tallied_after ⟨0⟩ .longest 4294967295).longest
  have fresh := RenderCourse.fresh_initial ⟨0⟩ .longest 4294967295
  have numbered := RenderCourse.numbered_after ⟨0⟩ .longest 4294967295
  have last := numbered.getLast? (by rw [ended]; decide)
  rw [steps, ended] at counted
  rw [steps] at text
  rw [ended] at last
  refine ⟨rfl, _, _, _, after, left, _, created_first _, ran, counted, ?_,
    text.trans String.empty_append, fresh.single, last⟩
  rw [steps, ended]
  rfl

end RenderLoop
end ChangeTracking
