import ChangeTracking.Counter.Program
import ChangeTracking.Proofs.RenderSteps

namespace ChangeTracking
variable {H : Host} {posting : Posting H}

/-- A world in which an application may be started: nothing has happened yet, or a client has its
turn. -/
def World.Open (world : World H) : Prop :=
  (∃ host, world = .initial host) ∨ ∃ discipline : Discipline H, Reachable discipline world

theorem World.Open.inStep {world : World H} (start : world.Open) : world.tracker.InStep := by
  rcases start with ⟨host, rfl⟩ | ⟨discipline, reachable⟩
  · exact .empty
  · exact reachable.inStep

namespace RenderLoop

/-- An application that can be run: it was just created, or its runs so far have ended in one way or the
other. Each run may write to an output of its own. -/
inductive Resting (posting : Posting H) : RenderLoop → World H → Prop where
  | created {world after : World H} {loop : RenderLoop} {config : RenderConfig} {sink : Sink}
      (start : world.Open) (created : (create config sink).run world = (.ok loop, after)) :
      Resting posting loop after
  | ran {world after : World H} {loop ended : RenderLoop} {result : Except Failure RenderSummary}
      (before : Resting posting loop world)
      (ran : Rendering.ending (run posting) loop world = (.ok (result, ended), after))
      (sink : Sink) : Resting posting { ended with sink } after

/-- The first rendering of a run and so many steps. -/
def upTo (posting : Posting H) : Nat → Rendering H Unit
  | 0 => render posting
  | number + 1 => do
    upTo posting number
    step posting number

/-- The rest of a run: the steps that remain, from one with a given number on, and the end. -/
def goOn (posting : Posting H) (remaining number : Nat) : Rendering H RenderSummary := do
  steps posting remaining number
  close
  let summary := (← get).summary
  (Act.report (.runComplete summary.renders summary.notifications summary.skippedWrites) :
    Act H Unit)
  return summary

theorem run_eq (posting : Posting H) : run posting = (do
    render posting
    goOn posting (← get).config.steps.toNat 0) := rfl

theorem goOn_succ (posting : Posting H) (remaining number : Nat) :
    goOn posting (remaining + 1) number = (do
      step posting number
      goOn posting remaining (number + 1)) := by
  rw [goOn, goOn, steps, Rendering.bind_bind]

/-- A run goes on from each of its places. -/
theorem upTo_goOn (posting : Posting H) (taken remaining : Nat) : (do
      upTo posting taken
      goOn posting remaining taken) = (do
      render posting
      goOn posting (remaining + taken) 0) := by
  induction taken generalizing remaining with
  | zero => rfl
  | succ taken ih => rw [upTo, Rendering.bind_bind, ← goOn_succ, ih, Nat.add_right_comm, Nat.add_assoc]

/-- The first rendering of a run and so many steps, with what they tally when they are counted one by one:
how the last of them ended and what it left. A rendering is counted even if its line had no room. -/
inductive Counted (posting : Posting H) (start : Tallies) (loop : RenderLoop) (world : World H) :
    Nat → Except Failure Unit → Tallies → RenderLoop → World H → Prop where
  | first {result : Except Failure Unit} {after : RenderLoop} {left : World H}
      (ended : Rendering.ending (render posting) loop world = (.ok (result, after), left)) :
      Counted posting start loop world 0 result start.rendered after left
  | next {number : Nat} {tallies : Tallies} {before after : RenderLoop} {here between left : World H}
      {kept : Bool} {events : List ChangeEvent} {result : Except Failure Unit}
      (earlier : Counted posting start loop world number (.ok ()) tallies before here)
      (delivers : Delivers posting number kept events before here between)
      (ended : Rendering.ending (step posting number) before here = (.ok (result, after), left)) :
      Counted posting start loop world (number + 1) result (tallies.next kept events) after left

/-- What is counted is the run. -/
theorem Counted.ending_upTo {start tallies : Tallies} {loop after : RenderLoop} {world left : World H}
    {taken : Nat} {result : Except Failure Unit}
    (counted : Counted posting start loop world taken result tallies after left) :
    Rendering.ending (upTo posting taken) loop world = (.ok (result, after), left) := by
  induction counted with
  | first ended => exact ended
  | next _ _ ended ih => exact (Rendering.ending_bind_ok ih).trans ended

/-- The first rendering or one of so many steps had no room for its line. -/
def BrokenOff (posting : Posting H) (config : RenderConfig) (start : RenderCourse) (loop : RenderLoop)
    (world : World H) (taken : Nat) (after : RenderLoop) (left : World H) : Prop :=
  ∃ number ≤ taken, Counted posting start.tallies loop world number (.error (.output "writer full"))
      (RenderCourse.after config start number).tallies after left ∧
    Exhausted posting (RenderCourse.after config start number).tallies after left

section Runs
variable {loop after : RenderLoop} {world left : World H} {earlier : String} {config : RenderConfig}
  {start : RenderCourse}

theorem BrokenOff.ready {taken : Nat}
    (broken : BrokenOff posting config start loop world taken after left) :
    Ready posting after left := by
  obtain ⟨_, _, _, ready, _⟩ := broken
  exact ready

theorem BrokenOff.mono {taken more : Nat}
    (broken : BrokenOff posting config start loop world taken after left) (within : taken ≤ more) :
    BrokenOff posting config start loop world more after left := by
  obtain ⟨number, before, exhausted⟩ := broken
  exact ⟨number, before.trans within, exhausted⟩

/-- So many steps take an application along its course, or they break off where one of its lines has no
room. -/
theorem upTo_follows (follows : Follows posting earlier config start loop world)
    (regular : start.counter.Regular) (blank : start.lines = []) (taken : Nat) :
    Rendering.Leads (upTo posting taken) loop world (BrokenOff posting config start loop world taken)
      (fun _ after left =>
        let course := RenderCourse.after config start taken
        Counted posting start.tallies loop world taken (.ok ()) course.tallies after left ∧
          Follows posting earlier config course after left) := by
  induction taken with
  | zero =>
    obtain ⟨waiting, length, attended⟩ := follows.attended
    have rendered := (render_leads follows attended length regular).ended
    refine (rendered.weaken fun _ _ ⟨ended, cut⟩ => ⟨0, Nat.le_refl _, .first ended, cut⟩).mono ?_
    exact fun _ _ _ ⟨ended, _, follows⟩ => ⟨.first ended, follows⟩
  | succ taken ih =>
    refine (ih.weaken fun _ _ broken => broken.mono (Nat.le_succ _)).bind ?_
    rintro _ after left ⟨counted, follows⟩
    obtain ⟨waiting, length, attended⟩ := follows.attended
    have fresh := RenderCourse.fresh_after regular blank config taken
    obtain ⟨kept, events, between, delivers, _, tallies, stepped⟩ :=
      step_leads follows attended length fresh taken
    -- The step is counted whether it returns or has no room for its line.
    have counts (result : Except Failure Unit) (last : RenderLoop) (left' : World H)
        (ended : Rendering.ending (step posting taken) after left = (.ok (result, last), left')) :
        Counted posting start.tallies loop world (taken + 1) result
          (RenderCourse.after config start (taken + 1)).tallies last left' :=
      tallies ▸ .next counted delivers ended
    refine (stepped.ended.weaken fun _ _ ⟨ended, cut⟩ =>
      ⟨taken + 1, Nat.le_refl _, counts _ _ _ ended, cut⟩).mono ?_
    exact fun _ _ _ ⟨ended, _, follows⟩ => ⟨counts _ _ _ ended, follows⟩

theorem ending_run (follows : Follows posting earlier config start loop world)
    (regular : start.counter.Regular) {taken : Nat} (within : taken ≤ config.steps.toNat) :
    Rendering.ending (run posting) loop world = Rendering.ending (do
      upTo posting taken
      goOn posting (config.steps.toNat - taken) taken) loop world := by
  rw [upTo_goOn, Nat.sub_add_cancel within, run_eq]
  obtain ⟨waiting, length, attended⟩ := follows.attended
  obtain ⟨result, after, left, ended, _, good⟩ := render_leads follows attended length regular
  cases result with
  | error failure => rw [Rendering.ending_bind_error ended, Rendering.ending_bind_error ended]
  | ok =>
    rw [Rendering.ending_bind_ok ended, Rendering.ending_bind_ok ended,
      Rendering.ending_bind_ok Rendering.ending_get, good.2.config]

theorem run_leads_of_upTo (follows : Follows posting earlier config start loop world)
    (regular : start.counter.Regular) {broken : RenderLoop → World H → Prop}
    {middle : Unit → RenderLoop → World H → Prop}
    {holds : RenderSummary → RenderLoop → World H → Prop}
    (stepped : Rendering.Leads (upTo posting config.steps.toNat) loop world broken middle)
    (ends : ∀ value after left, middle value after left →
      Rendering.Leads (goOn posting 0 config.steps.toNat) after left broken holds) :
    Rendering.Leads (run posting) loop world broken holds := by
  have through := ending_run follows regular (Nat.le_refl config.steps.toNat)
  rw [Nat.sub_self] at through
  exact .of_eq through rfl (stepped.bind ends)

theorem ending_close_some {id : SessionId} {left : World H} (last : loop.session = some id)
    (cancelled : (cancelSession id).run world = (.ok (), left)) :
    Rendering.ending (close : Rendering H Unit) loop world =
      (.ok (.ok (), { loop with session := none }), left) := by
  rw [close, Rendering.ending_bind_ok Rendering.ending_get, last,
    Rendering.ending_bind_ok (Rendering.ending_modify _)]
  exact Rendering.ending_lift cancelled

private theorem ending_close {counter : Counter} {waiting : List SessionId}
    (attended : loop.Attended posting counter waiting [] world) :
    ∃ still left, Rendering.ending (close : Rendering H Unit) loop world =
        (.ok (.ok (), { loop with session := none }), left) ∧
      loop.Attended posting counter still [] left := by
  rcases waits : loop.session with _ | id
  · refine ⟨waiting, world, ?_, attended⟩
    have same : loop = { loop with session := none } := by rw [← waits]
    rw [close, Rendering.ending_bind_ok Rendering.ending_get, waits, ← same]
    rfl
  · have ran : ∃ still left, (cancelSession id).run world = (.ok (), left) ∧
        loop.Attended posting counter still [] left := by
      rw [cancelSession, Act.run_conduct]
      rcases ended : world.tracker.cancelSession? id with _ | ⟨report, tracker⟩
      · exact ⟨waiting, world, by rw [world.advance_none], attended⟩
      · exact ⟨_, _, rfl, attended.held, attended.mail,
          attended.watched.cancelSession (Tracker.of_cancelSession? ended)⟩
    obtain ⟨still, left, cancelled, attended⟩ := ran
    exact ⟨still, left, ending_close_some waits cancelled, attended⟩

/-- When its last session is closed, a run reports its tallies and returns them. -/
theorem ending_goOn_zero (posting : Posting H) {closed : RenderLoop} {left : World H} (number : Nat)
    (ended : Rendering.ending (close : Rendering H Unit) loop world = (.ok (.ok (), closed), left)) :
    ∃ log, Rendering.ending (goOn posting 0 number) loop world =
      (.ok (.ok closed.summary, closed), { left with log }) := by
  have taken : Rendering.ending (steps posting 0 number) loop world = (.ok (.ok (), loop), world) :=
    Rendering.ending_pure ()
  rw [goOn, Rendering.ending_bind_ok taken, Rendering.ending_bind_ok ended,
    Rendering.ending_bind_ok Rendering.ending_get,
    Rendering.ending_bind_ok (Rendering.ending_lift rfl)]
  exact ⟨_, Rendering.ending_pure _⟩

/-- A run ends with the counter, the lines and the tallies that its course ends with. -/
theorem run_leads (follows : Follows posting earlier config start loop world)
    (regular : start.counter.Regular) (blank : start.lines = []) :
    Rendering.Leads (run posting) loop world
      (BrokenOff posting config start loop world config.steps.toNat)
      (fun summary after left =>
        let last := RenderCourse.after config start config.steps.toNat
        (∃ before here, Counted posting start.tallies loop world config.steps.toNat (.ok ())
            last.tallies before here) ∧
          summary = last.tallies.words ∧ after.sink.text = earlier ++ transcript last.lines ∧
          left.counters[after.counter.index]? = some last.counter ∧ Ready posting after left) := by
  refine run_leads_of_upTo follows regular (upTo_follows follows regular blank config.steps.toNat) ?_
  rintro _ after left ⟨counted, follows⟩
  obtain ⟨waiting, _, attended⟩ := follows.attended
  obtain ⟨still, last, closed, held, mail, watched⟩ := ending_close attended
  obtain ⟨log, returned⟩ := ending_goOn_zero posting config.steps.toNat closed
  refine .of_ok returned rfl ⟨⟨after, left, counted⟩, follows.summary, follows.text, held, ?_⟩
  have regular := (RenderCourse.fresh_after regular blank config config.steps.toNat).regular
  exact ⟨_, still, regular, held, mail, watched⟩

/-- An application that was just created begins its first run with a fresh counter that nobody watches
and with tallies of nothing. -/
theorem follows_of_created {after : World H} {sink : Sink} (start : world.Open)
    (created : (create config sink).run world = (.ok loop, after)) :
    Follows posting sink.text config
      (.initial world.tracker.createRegistrar.1) loop after := by
  have run : (create config sink).run world =
      (.ok ⟨config, ⟨world.counters.size⟩, ⟨world.mailboxes.size⟩, none, .zero, sink⟩,
        { world with
          tracker := world.tracker.createRegistrar.2
          counters := world.counters.push (.fresh world.tracker.createRegistrar.1)
          mailboxes := world.mailboxes.push [] }) := rfl
  rw [run] at created
  cases created
  refine ⟨rfl, ⟨[], rfl, ?_, ?_, ?_⟩, String.append_empty.symm, rfl⟩
  · exact Array.getElem?_push_size
  · exact Array.getElem?_push_size
  · exact .created start.inStep _ rfl _ _

theorem exists_created (posting : Posting H) (start : world.Open) (config : RenderConfig)
    (sink : Sink) : ∃ loop ready, (create config sink).run world = (.ok loop, ready) ∧
      Follows posting sink.text config
        (.initial world.tracker.createRegistrar.1) loop ready :=
  ⟨_, _, rfl, follows_of_created start rfl⟩

theorem Ready.follows (ready : Ready posting loop world) : ∃ start : RenderCourse,
    start.counter.Regular ∧ start.lines = [] ∧
      world.counters[loop.counter.index]? = some start.counter ∧
      Follows posting loop.sink.text loop.config start loop world := by
  obtain ⟨counter, waiting, regular, attended⟩ := ready
  obtain ⟨tallies, words⟩ := Tallies.exists_words loop.summary
  refine ⟨⟨counter, waiting.length, [], tallies⟩, regular, rfl, attended.held, rfl,
    ⟨waiting, rfl, attended⟩, ?_, words.symm⟩
  exact String.append_empty.symm

theorem Resting.ready (resting : Resting posting loop world) : Ready posting loop world := by
  induction resting with
  | created start created =>
    obtain ⟨_, _, attended⟩ := (follows_of_created start created).attended
    exact ⟨_, _, .fresh _, attended⟩
  | @ran _ after _ ended result before ran sink ready =>
    obtain ⟨start, regular, blank, _, follows⟩ := ready.follows
    obtain ⟨_, _, _, same, _, good⟩ := run_leads follows regular blank
    rw [ran] at same
    cases same
    have ready : Ready posting ended after := by
      cases result with
      | error failure => exact good.2.2.ready
      | ok summary => exact good.2.2.2.2
    obtain ⟨counter, waiting, regular, attended⟩ := ready
    exact ⟨counter, waiting, regular, attended.held, attended.mail, attended.watched⟩

end Runs

/-- What a run has written so far consists of lines, and the last of them shows the counter as it is. -/
def ShowsCounter (earlier : String) (mode : RenderMode) (loop : RenderLoop) (world : World H) : Prop :=
  ∃ lines counter, loop.sink.text = earlier ++ transcript lines ∧
    world.counters[loop.counter.index]? = some counter ∧
    (frames (transcript lines)).getLast? = some (counter.frame mode)

/-- The view is never stale. A run passes through its first rendering and any number of its steps, and
if the output had room for all until then, the last line shows the counter as it is. -/
theorem Resting.never_stale {loop : RenderLoop} {world : World H} (resting : Resting posting loop world)
    {taken : Nat} (within : taken ≤ loop.config.steps.toNat) :
    Rendering.ending (run posting) loop world = Rendering.ending (do
        upTo posting taken
        goOn posting (loop.config.steps.toNat - taken) taken) loop world ∧
      Rendering.Leads (upTo posting taken) loop world (Ready posting)
        (fun _ => ShowsCounter loop.sink.text loop.config.mode) := by
  obtain ⟨start, regular, blank, _, follows⟩ := resting.ready.follows
  refine ⟨ending_run follows regular within, ?_⟩
  refine ((upTo_follows follows regular blank taken).weaken fun _ _ broken => broken.ready).mono ?_
  rintro _ after left ⟨_, follows⟩
  have fresh := RenderCourse.fresh_after regular blank loop.config taken
  obtain ⟨_, _, attended⟩ := follows.attended
  refine ⟨_, _, follows.text, attended.held, ?_⟩
  rw [frames_transcript fresh.single]
  exact fresh.last

/-- An application that was created before anything else happened. -/
def first (config : RenderConfig) : RenderLoop := ⟨config, ⟨0⟩, ⟨0⟩, none, .zero, .empty none⟩

def firstWorld : World CounterProgram.host :=
  ((create ⟨0, .both, false⟩ (.empty none)).run (World.initial ())).2

theorem created_first (config : RenderConfig) :
    (create config (.empty none)).run (World.initial ()) = (.ok (first config), firstWorld) := rfl

theorem open_initial : (World.initial () : World CounterProgram.host).Open := .inl ⟨(), rfl⟩

theorem follows_first (config : RenderConfig) :
    Follows CounterProgram.posting "" config (.initial ⟨0⟩) (first config) firstWorld :=
  follows_of_created open_initial (created_first config)

theorem resting_first (config : RenderConfig) :
    Resting CounterProgram.posting (first config) firstWorld :=
  .created open_initial (created_first config)

/-- Three steps, of which a gated run leaves out the first and the last: there are two renderings. -/
theorem Resting.never_stale_of_first :
    3 ≤ (first ⟨8, .both, true⟩).config.steps.toNat ∧
      Rendering.Leads (upTo CounterProgram.posting 3) (first ⟨8, .both, true⟩) firstWorld
        (Ready CounterProgram.posting)
        (fun _ after left => ShowsCounter "" .both after left ∧ after.summary = ⟨2, 1, 2⟩) := by
  have leads := ((resting_first ⟨8, .both, true⟩).never_stale
    (show 3 ≤ (first ⟨8, .both, true⟩).config.steps.toNat by decide)).2
  refine ⟨by decide, (leads.ended.weaken fun _ _ broken => broken.2).mono ?_⟩
  rintro _ after left ⟨ended, shows⟩
  have counted : (Rendering.ending (upTo CounterProgram.posting 3) (first ⟨8, .both, true⟩)
      firstWorld).1.toOption.map (·.2.summary) = some ⟨2, 1, 2⟩ := by decide +kernel
  rw [ended] at counted
  exact ⟨shows, Option.some.inj counted⟩

/-- A run returns with lines in its output and leaves a counter. -/
def Returns (posting : Posting H) (loop : RenderLoop) (world : World H)
    (lines : List (UInt32 × String)) (counter : Counter) : Prop :=
  ∃ summary after left,
    Rendering.ending (run posting) loop world = (.ok (.ok summary, after), left) ∧
      after.sink.text = loop.sink.text ++ transcript lines ∧
      left.counters[after.counter.index]? = some counter

/-- Gating takes immediate repetitions out of what is shown, and nothing else: a gated and an ungated
run of as many steps, with counters that hold the same. -/
theorem Resting.gating_destutters {gated free : RenderLoop} {here there : World H}
    (resting : Resting posting gated here) (resting' : Resting posting free there) {steps : UInt32}
    {mode : RenderMode} (gates : gated.config = ⟨steps, mode, true⟩)
    (passes : free.config = ⟨steps, mode, false⟩) (unlimited : gated.sink.room = none)
    (unlimited' : free.sink.room = none) {counter counter' : Counter}
    (held : here.counters[gated.counter.index]? = some counter)
    (held' : there.counters[free.counter.index]? = some counter')
    (same : counter.same counter' = true) :
    ∃ lines lines' last last', Returns posting gated here lines last ∧
      Returns posting free there lines' last' ∧
      frames (transcript lines) = (frames (transcript lines')).destutter (· ≠ ·) ∧
      last.same last' = true := by
  obtain ⟨start, regular, blank, found, follows⟩ := resting.ready.follows
  obtain ⟨start', regular', blank', found', follows'⟩ := resting'.ready.follows
  obtain rfl := Option.some.inj (found.symm.trans held)
  obtain rfl := Option.some.inj (found'.symm.trans held')
  rw [gates] at follows
  rw [passes] at follows'
  obtain ⟨_, after, left, ran, _, _, _, text, ends, _⟩ :=
    (run_leads follows regular blank).returns unlimited
  obtain ⟨_, after', left', ran', _, _, _, text', ends', _⟩ :=
    (run_leads follows' regular' blank').returns unlimited'
  have both : RenderCourse.Gated (RenderCourse.after ⟨steps, mode, true⟩ start steps.toNat)
      (RenderCourse.after ⟨steps, mode, false⟩ start' steps.toNat) :=
    RenderCourse.gated_after regular' same blank blank' _
  refine ⟨_, _, _, _, ⟨_, after, left, ran, text, ends⟩, ⟨_, after', left', ran', text', ends'⟩, ?_,
    both.counter⟩
  rw [frames_transcript (RenderCourse.fresh_after regular blank _ _).single,
    frames_transcript (RenderCourse.fresh_after regular' blank' _ _).single]
  exact both.frames

def Reports (posting : Posting H) (loop : RenderLoop) (world : World H) (summary : RenderSummary) :
    Prop :=
  ∃ after left, Rendering.ending (run posting) loop world = (.ok (.ok summary, after), left)

private theorem Returns.reports {loop : RenderLoop} {world : World H} {lines : List (UInt32 × String)}
    {counter : Counter} (returns : Returns posting loop world lines counter) {summary : RenderSummary}
    (found : (Rendering.ending (run posting) loop world).1.toOption.bind (·.1.toOption) =
      some summary) : Reports posting loop world summary := by
  obtain ⟨reported, after, left, ran, _⟩ := returns
  rw [ran] at found
  obtain rfl : reported = summary := Option.some.inj found
  exact ⟨after, left, ran⟩

/-- Eight steps, of which a gated run leaves out five: it renders four times, and an ungated one nine. -/
theorem Resting.gating_destutters_of_first :
    (Counter.fresh ⟨0⟩).same (.fresh ⟨0⟩) = true ∧ ∃ lines lines' last last',
      Returns CounterProgram.posting (first ⟨8, .both, true⟩) firstWorld lines last ∧
        Returns CounterProgram.posting (first ⟨8, .both, false⟩) firstWorld lines' last' ∧
        frames (transcript lines) = (frames (transcript lines')).destutter (· ≠ ·) ∧
        last.same last' = true ∧
        Reports CounterProgram.posting (first ⟨8, .both, true⟩) firstWorld ⟨4, 3, 5⟩ ∧
        Reports CounterProgram.posting (first ⟨8, .both, false⟩) firstWorld ⟨9, 8, 0⟩ := by
  have same : (Counter.fresh ⟨0⟩).same (.fresh ⟨0⟩) = true := by decide
  obtain ⟨lines, lines', last, last', gated, free, destuttered, equal⟩ :=
    (resting_first ⟨8, .both, true⟩).gating_destutters (resting_first ⟨8, .both, false⟩)
      rfl rfl rfl rfl rfl rfl same
  exact ⟨same, lines, lines', last, last', gated, free, destuttered, equal,
    gated.reports (by decide +kernel), free.reports (by decide +kernel)⟩

end RenderLoop
end ChangeTracking
