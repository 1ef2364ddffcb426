import ChangeTracking.Proofs.Transcript
import Mathlib.Data.List.Destutter

/-! The course of a run, told without tracking. A step writes its value, and whenever it writes something
that is shown, the view is rendered anew. So the last frame always shows the counter as it is, and the
frames of a gated run are those of an ungated one without immediate repetitions. -/
namespace ChangeTracking

def RenderMode.keys : RenderMode → List Key
  | .count => [Counter.countKey]
  | .name => [Counter.nameKey]
  | .both => [Counter.countKey, Counter.nameKey]

namespace Counter

def writtenKey (number : Nat) : Key := if number % 2 = 0 then countKey else nameKey

def written (counter : Counter) (number : Nat) : Counter :=
  if number % 2 = 0 then { counter with count := ((number / 4 : Nat) : Int) }
  else { counter with name := "n" ++ toString (number / 4) }

theorem Regular.fresh (registrar : RegistrarId) : (fresh registrar).Regular := ⟨⟨0, rfl⟩, .inl rfl⟩

theorem Regular.written {counter : Counter} (regular : counter.Regular) (number : Nat) :
    (counter.written number).Regular := by
  unfold Counter.written
  split
  · exact ⟨⟨_, rfl⟩, regular.name⟩
  · exact ⟨regular.count, .inr ⟨_, rfl⟩⟩

theorem frame_written_of_unshown {counter : Counter} {mode : RenderMode} {number : Nat}
    (unshown : writtenKey number ∉ mode.keys) :
    (counter.written number).frame mode = counter.frame mode := by
  unfold writtenKey at unshown
  unfold written
  split at unshown
  · rename_i even
    rw [if_pos even]
    cases mode with
    | name => rfl
    | count | both => exact absurd List.mem_cons_self unshown
  · rename_i odd
    rw [if_neg odd]
    cases mode with
    | count => rfl
    | name => exact absurd List.mem_cons_self unshown
    | both => exact absurd (List.mem_cons_of_mem _ List.mem_cons_self) unshown

/-- A write to what is shown can be seen if it changes anything. -/
theorem eq_of_frame_written {counter : Counter} (regular : counter.Regular) {mode : RenderMode}
    {number : Nat} (shown : writtenKey number ∈ mode.keys)
    (same : (counter.written number).frame mode = counter.frame mode) :
    counter.written number = counter := by
  have later := regular.written number
  unfold writtenKey at shown
  unfold written at same later ⊢
  split at shown
  · rename_i even
    rw [if_pos even] at same ⊢
    obtain ⟨count, held⟩ := regular.count
    have equal : countText ((number / 4 : Nat) : Int) = countText counter.count := by
      cases mode with
      | count => exact same
      | name => exact absurd shown (by decide)
      | both => exact (String.append_left_inj _).mp ((String.append_left_inj _).mp same)
    rw [held] at equal
    obtain rfl := countText_inj equal
    rw [← held]
  · rename_i odd
    rw [if_neg odd] at same later ⊢
    have equal : nameText ("n" ++ toString (number / 4)) = nameText counter.name := by
      cases mode with
      | count => exact absurd shown (by decide)
      | name => exact same
      | both => exact (String.append_right_inj _).mp same
    exact congrArg (fun name => { counter with name }) (nameText_inj later.plain regular.plain equal)

theorem same_iff {left right : Counter} :
    left.same right = true ↔ left.count = right.count ∧ left.name = right.name := by
  simp [same]

section Same
variable {left right : Counter} (equal : left.same right = true)
include equal

theorem frame_eq_of_same (mode : RenderMode) : left.frame mode = right.frame mode := by
  obtain ⟨count, name⟩ := same_iff.mp equal
  cases mode <;> simp only [frame, count, name]

theorem written_same (number : Nat) : (left.written number).same (right.written number) = true := by
  obtain ⟨count, name⟩ := same_iff.mp equal
  unfold written
  split
  · exact same_iff.mpr ⟨rfl, name⟩
  · exact same_iff.mpr ⟨count, rfl⟩

theorem written_eq_iff_of_same (number : Nat) :
    left.written number = left ↔ right.written number = right := by
  obtain ⟨_, _, _⟩ := left
  obtain ⟨_, _, _⟩ := right
  obtain ⟨rfl, rfl⟩ := same_iff.mp equal
  unfold written
  split <;> simp

end Same

end Counter

/-- What runs did so far, counted exactly, where the summary of an application has words. -/
structure Tallies where
  renders : Nat
  notifications : Nat
  skippedWrites : Nat

namespace Tallies

def zero : Tallies := ⟨0, 0, 0⟩

/-- The tallies as an application keeps them. -/
def words (tallies : Tallies) : RenderSummary :=
  ⟨.ofNat tallies.renders, .ofNat tallies.notifications, .ofNat tallies.skippedWrites⟩

def rendered (tallies : Tallies) : Tallies := { tallies with renders := tallies.renders + 1 }

/-- A step is counted, by whether it wrote its value and by the events that it delivers: they are noted,
and if there are any, the view is rendered again. -/
def next (tallies : Tallies) (kept : Bool) (events : List ChangeEvent) : Tallies where
  renders := tallies.renders + if events.isEmpty then 0 else 1
  notifications := tallies.notifications + events.length
  skippedWrites := tallies.skippedWrites + if kept then 0 else 1

theorem words_rendered (tallies : Tallies) : tallies.rendered.words =
    { tallies.words with renders := tallies.words.renders + 1 } := by
  rw [words, rendered, UInt32.ofNat_add]
  rfl

theorem notifications_next (tallies : Tallies) (kept : Bool) (events : List ChangeEvent) :
    (tallies.next kept events).words.notifications =
      tallies.words.notifications + .ofNat events.length :=
  UInt32.ofNat_add ..

theorem exists_words (summary : RenderSummary) : ∃ tallies : Tallies, tallies.words = summary :=
  ⟨⟨summary.renders.toNat, summary.notifications.toNat, summary.skippedWrites.toNat⟩, by
    simp [words]⟩

end Tallies

/-- What a run has come to: the counter, how many sessions wait for a change of it, the lines that the
run wrote and the tallies. -/
structure RenderCourse where
  counter : Counter
  waiting : Nat
  lines : List (UInt32 × String)
  tallies : Tallies

namespace RenderCourse

def initial (registrar : RegistrarId) : RenderCourse := ⟨.fresh registrar, 0, [], .zero⟩

def frames (course : RenderCourse) : List String := course.lines.map (·.2)

/-- The view is rendered, and one more session waits. -/
def rendered (course : RenderCourse) (mode : RenderMode) : RenderCourse where
  counter := course.counter
  waiting := course.waiting + 1
  lines := course.lines ++ [(.ofNat (course.tallies.renders + 1), course.counter.frame mode)]
  tallies := course.tallies.rendered

/-- A step is taken. A write to what is shown reaches all sessions that wait. -/
def next (config : RenderConfig) (course : RenderCourse) (number : Nat) : RenderCourse :=
  if config.equalityGated = true ∧ course.counter.written number = course.counter then
    { course with tallies.skippedWrites := course.tallies.skippedWrites + 1 }
  else if Counter.writtenKey number ∈ config.mode.keys then
    { course with
      counter := course.counter.written number
      waiting := 0
      tallies.notifications := course.tallies.notifications + course.waiting }.rendered config.mode
  else { course with counter := course.counter.written number }

def after (config : RenderConfig) (start : RenderCourse) : Nat → RenderCourse
  | 0 => start.rendered config.mode
  | number + 1 => (after config start number).next config number

/-- A session waits, what was written fits on lines, and the last line shows the counter as it is. -/
structure Fresh (mode : RenderMode) (course : RenderCourse) : Prop where
  waits : 0 < course.waiting
  regular : course.counter.Regular
  single : ∀ entry ∈ course.lines, '\n' ∉ entry.2.toList
  last : course.frames.getLast? = some (course.counter.frame mode)

section Steps
variable {course start : RenderCourse} {mode : RenderMode} {config : RenderConfig}

theorem frames_rendered (course : RenderCourse) (mode : RenderMode) :
    (course.rendered mode).frames = course.frames ++ [course.counter.frame mode] := by
  simp [rendered, frames]

theorem counter_next (config : RenderConfig) (course : RenderCourse) (number : Nat) :
    (course.next config number).counter = course.counter.written number := by
  unfold next
  split
  · rename_i skipped
    exact skipped.2.symm
  · split <;> rfl

theorem frames_next (config : RenderConfig) (course : RenderCourse) (number : Nat) :
    (course.next config number).frames = course.frames ++
      if Counter.writtenKey number ∈ config.mode.keys ∧
          ¬ (config.equalityGated = true ∧ course.counter.written number = course.counter)
      then [(course.counter.written number).frame config.mode] else [] := by
  unfold next
  split
  · rename_i skipped
    rw [if_neg fun both => both.2 skipped, List.append_nil]
    rfl
  · rename_i kept
    split
    · rename_i shown
      rw [if_pos ⟨shown, kept⟩, frames_rendered]
      rfl
    · rename_i unshown
      rw [if_neg fun both => unshown both.1, List.append_nil]
      rfl

private theorem Fresh.rendered (regular : course.counter.Regular)
    (single : ∀ entry ∈ course.lines, '\n' ∉ entry.2.toList) : Fresh mode (course.rendered mode) where
  waits := Nat.succ_pos _
  regular := regular
  single entry member := by
    rcases List.mem_append.mp member with old | new
    · exact single entry old
    · rw [List.mem_singleton.mp new]
      exact regular.single mode
  last := by
    rw [frames_rendered, List.getLast?_concat]
    rfl

theorem Fresh.next (fresh : Fresh config.mode course) (number : Nat) :
    Fresh config.mode (course.next config number) := by
  have regular := fresh.regular.written number
  unfold RenderCourse.next
  split
  · exact ⟨fresh.waits, fresh.regular, fresh.single, fresh.last⟩
  · split
    · exact .rendered regular fresh.single
    · rename_i unshown
      exact ⟨fresh.waits, regular, fresh.single,
        fresh.last.trans (congrArg some (Counter.frame_written_of_unshown unshown).symm)⟩

/-- Throughout a run, the last line shows the counter as it is. -/
theorem fresh_after (regular : start.counter.Regular) (blank : start.lines = [])
    (config : RenderConfig) (number : Nat) : Fresh config.mode (after config start number) := by
  induction number with
  | zero => exact .rendered regular fun entry member => by simp [blank] at member
  | succ number ih => exact ih.next number

theorem fresh_initial (registrar : RegistrarId) (config : RenderConfig) (number : Nat) :
    Fresh config.mode (after config (.initial registrar) number) :=
  fresh_after (.fresh registrar) rfl config number

end Steps

private theorem destutter_concat {frames : List String} {last : String}
    (found : frames.getLast? = some last) (frame : String) :
    (frames ++ [frame]).destutter (· ≠ ·) =
      frames.destutter (· ≠ ·) ++ if frame = last then [] else [frame] := by
  obtain ⟨first, rest, rfl⟩ : ∃ first rest, frames = first :: rest :=
    List.exists_cons_of_ne_nil (by rintro rfl; cases found)
  rw [List.cons_append, List.destutter_cons', List.destutter_cons']
  induction rest generalizing first with
  | nil =>
    obtain rfl : first = last := by simpa using found
    by_cases same : frame = first
    · simp [same]
    · simp [same, Ne.symm same]
  | cons second rest ih =>
    have found : (second :: rest).getLast? = some last := by simpa using found
    rw [List.cons_append, List.destutter'_cons, List.destutter'_cons]
    by_cases same : first = second
    · subst same
      simpa using ih first found
    · simpa [same] using ih second found

/-- What a gated run and an ungated one have in common. -/
structure Gated (gated free : RenderCourse) : Prop where
  counter : gated.counter.same free.counter = true
  frames : gated.frames = free.frames.destutter (· ≠ ·)

section Gating
variable {gated free : RenderCourse} {steps : UInt32} {mode : RenderMode}

/-- A step keeps what both runs have in common. Where the gated one leaves a write out, the ungated
one at most shows its last frame again; any other write to what is shown gives a new frame. -/
theorem Gated.next (both : Gated gated free) (fresh : Fresh mode free) (number : Nat) :
    Gated (gated.next ⟨steps, mode, true⟩ number) (free.next ⟨steps, mode, false⟩ number) where
  counter := by
    rw [counter_next, counter_next]
    exact Counter.written_same both.counter number
  frames := by
    have unchanged := Counter.written_eq_iff_of_same both.counter number
    have equal := Counter.frame_eq_of_same (Counter.written_same both.counter number) mode
    rw [frames_next, frames_next, both.frames]
    by_cases shown : Counter.writtenKey number ∈ mode.keys
    · have apart : (free.counter.written number).frame mode = free.counter.frame mode ↔
          free.counter.written number = free.counter :=
        ⟨Counter.eq_of_frame_written fresh.regular shown, congrArg (Counter.frame · mode)⟩
      rw [if_pos (show _ ∧ ¬ (false = true ∧ _) from ⟨shown, by simp⟩),
        destutter_concat fresh.last]
      simp only [shown, unchanged, equal, apart, true_and, ite_not]
    · rw [if_neg fun all => shown all.1, if_neg fun all => shown all.1, List.append_nil,
        List.append_nil]

/-- Gating takes out immediate repetitions and nothing else, for runs that start with counters that
hold the same. -/
theorem gated_after (regular : free.counter.Regular)
    (same : gated.counter.same free.counter = true) (blank : gated.lines = [])
    (blank' : free.lines = []) (number : Nat) :
    Gated (after ⟨steps, mode, true⟩ gated number) (after ⟨steps, mode, false⟩ free number) := by
  induction number with
  | zero =>
    refine ⟨same, ?_⟩
    rw [after, after, frames_rendered, frames_rendered, frames, frames, blank, blank',
      Counter.frame_eq_of_same same]
    rfl
  | succ number ih => exact ih.next (fresh_after regular blank' _ number) number

end Gating

end RenderCourse
end ChangeTracking
