import ChangeTracking.Proofs.TallyBounds

/-! The sessions of a first run. A rendering opens a session, and the view is rendered again only when the
session of the rendering before has fired. So between two steps one session waits, that of the last
rendering, with the only subscription there is; it is cancelled when the run is over. -/
namespace ChangeTracking
variable {H : Host} {posting : Posting H}

namespace Tracker
variable {κ : Type} {base before between after : Tracker κ} {earlier : Nat}

/-- The session of a rendering in a run that begins with this tracker; the first one has number 0. -/
def nthSession (base : Tracker κ) (number : Nat) : SessionId := ⟨base.sessions.size + number⟩

theorem nthSession_inj {number other : Nat} :
    base.nthSession number = base.nthSession other ↔ number = other := by
  simp [nthSession]

/-- What has become of the sessions of a run: the earlier ones have fired, and there is one more. -/
structure Rolled (base after : Tracker κ) (earlier : Nat) : Prop where
  created : after.sessions.size = base.sessions.size + (earlier + 1)
  fired : ∀ number < earlier, (after.session (base.nthSession number)).status = .fired
  totals : after.totals =
    ⟨base.totals.installed + (earlier + 1), base.totals.fired + earlier, base.totals.cancelled⟩

theorem Rolled.first (opened : base.Opened after) : base.Rolled after 0 where
  created := opened.size
  fired _ before := absurd before (Nat.not_lt_zero _)
  totals := opened.totals

theorem Rolled.quiet (rolled : base.Rolled before earlier) (fired : before.AllFired after []) :
    base.Rolled after earlier where
  created := fired.size.trans rolled.created
  fired number below := by
    rw [fired.others _ List.not_mem_nil]
    exact rolled.fired number below
  totals := fired.totals.trans rolled.totals

theorem Rolled.next (rolled : base.Rolled before earlier)
    (fired : before.AllFired between [base.nthSession earlier]) (opened : between.Opened after) :
    base.Rolled after (earlier + 1) where
  created := by rw [opened.size, fired.size, rolled.created, Nat.add_assoc]
  fired number below := by
    have created : (base.nthSession number).index < between.sessions.size := by
      rw [fired.size, rolled.created]
      exact Nat.add_lt_add_left below _
    rw [opened.others _ created]
    rcases Nat.lt_succ_iff_lt_or_eq.mp below with before | rfl
    · have other : base.nthSession number ∉ [base.nthSession earlier] := by
        rw [List.mem_singleton, nthSession_inj]
        exact Nat.ne_of_lt before
      rw [fired.others _ other]
      exact rolled.fired number before
    · exact fired.fired _ List.mem_cons_self
  totals := by
    rw [opened.totals, fired.totals, rolled.totals]
    rfl

/-- The last session is cancelled, and the earlier ones stay as they are. -/
theorem Rolled.cancelled (rolled : base.Rolled before earlier) {report : TraceEvent}
    (ended : before.CancelledBy (base.nthSession earlier) report after) :
    after.sessions.size = base.sessions.size + (earlier + 1) ∧
      (after.session (base.nthSession earlier)).status = .cancelled ∧
      (∀ number < earlier, (after.session (base.nthSession number)).status = .fired) ∧
      after.totals = ⟨base.totals.installed + (earlier + 1), base.totals.fired + earlier,
        base.totals.cancelled + 1⟩ := by
  refine ⟨?_, ?_, fun number below => ?_, ?_⟩
  · obtain ⟨totals, same⟩ := ended.tracker
    rw [← rolled.created, same]
    simp
  · rw [ended.session, if_pos rfl]
    rfl
  · have other : base.nthSession number ≠ base.nthSession earlier := fun same =>
      Nat.ne_of_lt below (nthSession_inj.mp same)
    rw [ended.session, if_neg other]
    exact rolled.fired number below
  · rw [ended.totals, rolled.totals]

end Tracker

namespace RenderLoop

/-- How a first run stands between two steps. -/
structure Underway (posting : Posting H) (base : Tracker H.Callback) (course : RenderCourse)
    (loop : RenderLoop) (world : World H) : Prop where
  last : loop.session = some (base.nthSession course.tallies.notifications)
  attended :
    loop.Attended posting course.counter [base.nthSession course.tallies.notifications] [] world
  rolled : base.Rolled world.tracker course.tallies.notifications

section Steps
variable {loop : RenderLoop} {world : World H} {base : Tracker H.Callback} {course : RenderCourse}

theorem Underway.first {counter : Counter} {after : RenderLoop} {left : World H}
    (noneYet : course.tallies.notifications = 0) (same : counter = course.counter)
    (rendered : Rendered posting counter [] loop world after left) :
    Underway posting world.tracker course after left := by
  subst same
  refine ⟨?_, ?_, ?_⟩ <;> rw [noneYet]
  · exact rendered.session
  · exact rendered.attended
  · exact .first rendered.opened

/-- A step leaves the last session waiting, or that session fires and the next one waits. -/
theorem Underway.next (underway : Underway posting base course loop world)
    (waiting : course.waiting = 1) {number : Nat} {after : RenderLoop} {left : World H}
    (stepped : Stepped posting number course.counter [base.nthSession course.tallies.notifications]
      loop world after left) :
    Underway posting base (course.next loop.config number) after left := by
  unfold RenderCourse.next
  cases stepped with
  | leftOut skipped counted attended fired =>
    rw [if_pos skipped]
    refine ⟨?_, attended, underway.rolled.quiet fired⟩
    rw [counted]
    exact underway.last
  | unseen kept unshown same attended fired =>
    rw [if_neg kept, if_neg unshown]
    refine ⟨?_, attended, underway.rolled.quiet fired⟩
    rw [same]
    exact underway.last
  | @shown kept shown between fired rendered =>
    rw [if_neg kept, if_pos shown, waiting]
    -- Nothing else has opened a session, so the new one is the next in number.
    have size : between.tracker.sessions.size =
        base.sessions.size + (course.tallies.notifications + 1) :=
      fired.size.trans underway.rolled.created
    have session := rendered.session
    have attended := rendered.attended
    rw [size] at session attended
    exact ⟨session, attended, underway.rolled.next fired rendered.opened⟩

end Steps

/-- Between two steps of a first run, one that began with this tracker and has come to these tallies: the
registrar of the counter has one subscription, which belongs to the session of the last rendering; that
session waits, those of the renderings before have fired, and no event is left in the mailbox. -/
structure Accounted (base : Tracker H.Callback) (registrar : RegistrarId) (tallies : Tallies)
    (loop : RenderLoop) (world : World H) : Prop where
  counter : (world.counters[loop.counter.index]?).map (·.registrar) = some registrar
  summary : loop.summary = tallies.words
  renders : tallies.renders = tallies.notifications + 1
  created : world.tracker.sessions.size = base.sessions.size + tallies.renders
  last : loop.session = some (base.nthSession tallies.notifications)
  subscribers : (world.tracker.table registrar).subscriptions.map (·.perceiver) =
    [.session (base.nthSession tallies.notifications) registrar .willChange]
  waits : (world.tracker.session (base.nthSession tallies.notifications)).status = .installed
  fired : ∀ number < tallies.notifications,
    (world.tracker.session (base.nthSession number)).status = .fired
  mailbox : world.mailboxes[loop.mailbox.index]? = some []
  totals : world.tracker.totals = ⟨base.totals.installed + tallies.renders,
    base.totals.fired + tallies.notifications, base.totals.cancelled⟩

/-- When a first run is over: the session of the last rendering was cancelled, and nobody is subscribed
at the registrar of the counter. -/
structure Closed (base : Tracker H.Callback) (registrar : RegistrarId) (tallies : Tallies)
    (loop : RenderLoop) (world : World H) : Prop where
  summary : loop.summary = tallies.words
  renders : tallies.renders = tallies.notifications + 1
  created : world.tracker.sessions.size = base.sessions.size + tallies.renders
  last : loop.session = none
  unsubscribed : world.tracker.subscriptionCount registrar = 0
  cancelled : (world.tracker.session (base.nthSession tallies.notifications)).status = .cancelled
  fired : ∀ number < tallies.notifications,
    (world.tracker.session (base.nthSession number)).status = .fired
  totals : world.tracker.totals = ⟨base.totals.installed + tallies.renders,
    base.totals.fired + tallies.notifications, base.totals.cancelled + 1⟩

/-- The totals have grown by the sessions that a run reports, and one session more was cancelled. -/
def ReportsTotals (base : Tracker H.Callback) (summary : RenderSummary) (world : World H) : Prop :=
  world.tracker.totals = ⟨base.totals.installed + summary.renders.toNat,
    base.totals.fired + summary.notifications.toNat, base.totals.cancelled + 1⟩

/-- A step delivers one event or none, and the notifications of the application grow by as many. -/
def DeliversOneAtMost (posting : Posting H) (number : Nat) (loop : RenderLoop) (world : World H) :
    Prop :=
  ∃ kept events between, Delivers posting number kept events loop world between ∧
    events.length ≤ 1 ∧
    let noted (after : RenderLoop) :=
      after.summary.notifications = loop.summary.notifications + .ofNat events.length
    Rendering.Leads (step posting number) loop world (fun after _ => noted after)
      (fun _ after _ => noted after)

section Runs
variable {loop : RenderLoop} {world : World H} {registrar : RegistrarId} {config : RenderConfig}
  {text : String}

/-- Between two steps of a first run one session waits. -/
theorem upTo_underway
    (follows : Follows posting text config (.initial registrar) loop world)
    (taken : Nat) :
    Rendering.Leads (upTo posting taken) loop world (fun _ _ => True) (fun _ after left =>
      let course := RenderCourse.after config (.initial registrar) taken
      Follows posting text config course after left ∧
        Underway posting world.tracker course after left) := by
  induction taken with
  | zero =>
    obtain ⟨waiting, length, attended⟩ := follows.attended
    obtain rfl := List.eq_nil_of_length_eq_zero length
    refine ((render_leads follows attended rfl (.fresh _)).weaken fun _ _ _ => trivial).mono ?_
    rintro _ after left ⟨rendered, follows⟩
    exact ⟨follows, .first rfl rfl rendered⟩
  | succ taken ih =>
    refine ih.bind ?_
    rintro _ after left ⟨follows, underway⟩
    have waiting := (RenderCourse.tallied_after registrar config taken).waiting
    have fresh := RenderCourse.fresh_initial registrar config taken
    obtain ⟨_, _, _, _, _, _, stepped⟩ :=
      step_leads follows underway.attended waiting.symm fresh taken
    refine (stepped.weaken fun _ _ _ => trivial).mono ?_
    rintro _ last left ⟨stepped, further⟩
    exact ⟨further, follows.config ▸ underway.next waiting stepped⟩

section Places
variable {base : Tracker H.Callback} {taken : Nat}

theorem Underway.accounted {course : RenderCourse}
    (underway : Underway posting base course loop world)
    (tallied : course.Tallied registrar config taken) (summary : loop.summary = course.tallies.words) :
    Accounted base registrar course.tallies loop world := by
  obtain ⟨last, ⟨held, mail, watched⟩, created, fired, totals⟩ := underway
  have own : course.counter.registrar = registrar := congrArg Counter.registrar tallied.counter
  rw [← tallied.renders] at created totals
  subst own
  refine ⟨?_, summary, tallied.renders, created, last, watched.perceivers, ?_, fired, mail, totals⟩
  · rw [held]
    rfl
  · exact (watched.awaits List.mem_cons_self).1

theorem Underway.goOn_zero {course : RenderCourse}
    (underway : Underway posting base course loop world)
    (tallied : course.Tallied registrar config taken) (summary : loop.summary = course.tallies.words)
    (number : Nat) :
    ∃ final left, Rendering.ending (goOn posting 0 number) loop world =
        (.ok (.ok final.summary, final), left) ∧ final.sink = loop.sink ∧
      Closed base registrar course.tallies final left := by
  obtain ⟨last, ⟨_, _, watched⟩, rolled⟩ := underway
  have own : course.counter.registrar = registrar := congrArg Counter.registrar tallied.counter
  have waits := (watched.awaits List.mem_cons_self).1
  rcases ended : world.tracker.cancelSession? (base.nthSession course.tallies.notifications) with
    _ | ⟨report, tracker⟩
  · have terminal := Tracker.cancelSession?_eq_none_iff.mp ended
    rw [waits] at terminal
    cases terminal
  · have run : (cancelSession (base.nthSession course.tallies.notifications)).run world =
        (.ok (), world.advance (some report) tracker) := by
      rw [cancelSession, Act.run_conduct, ended]
    obtain ⟨log, returned⟩ := ending_goOn_zero posting number (ending_close_some last run)
    have ended := Tracker.of_cancelSession? ended
    obtain ⟨created, cancelled, fired, totals⟩ := rolled.cancelled ended
    have nobody := (watched.cancelSession ended).perceivers
    rw [← tallied.renders] at created totals
    subst own
    refine ⟨_, _, returned, rfl, summary, tallied.renders, created, rfl, ?_, cancelled, fired, totals⟩
    refine List.length_eq_zero_iff.mpr (List.map_eq_nil_iff.mp (nobody.trans ?_))
    simp

end Places

private theorem upTo_accounted
    (follows : Follows posting text config (.initial registrar) loop world)
    (taken : Nat) :
    Rendering.Leads (upTo posting taken) loop world (fun _ _ => True) (fun _ after left =>
      ∃ tallies, Counted posting .zero loop world taken (.ok ()) tallies after left ∧
        Accounted world.tracker registrar tallies after left ∧
        DeliversOneAtMost posting taken after left) := by
  have counted := upTo_follows follows (.fresh registrar) rfl taken
  refine ((counted.and (upTo_underway follows taken)).weaken fun _ _ _ => trivial).mono ?_
  rintro _ after left ⟨⟨counted, follows⟩, _, underway⟩
  have tallied := RenderCourse.tallied_after registrar config taken
  refine ⟨_, counted, underway.accounted tallied follows.summary, ?_⟩
  have fresh := RenderCourse.fresh_initial registrar config taken
  obtain ⟨kept, events, between, delivers, once, tallies, stepped⟩ :=
    step_leads follows underway.attended tallied.waiting.symm fresh taken
  have noted {next : RenderLoop} (summary : next.summary = (RenderCourse.next config
      (RenderCourse.after config (.initial registrar) taken) taken).tallies.words) :
      next.summary.notifications = after.summary.notifications + .ofNat events.length := by
    rw [summary, tallies, follows.summary, Tallies.notifications_next]
  refine ⟨kept, events, between, delivers, once, ?_⟩
  exact (stepped.weaken fun _ _ cut => noted cut.2).mono fun _ _ _ ⟨_, further⟩ => noted further.summary

private theorem run_closed
    (follows : Follows posting text config (.initial registrar) loop world) :
    Rendering.Leads (run posting) loop world (fun _ _ => True) (fun summary after left =>
      let tallies := (RenderCourse.after config (.initial registrar)
        config.steps.toNat).tallies
      (∃ last here, Counted posting .zero loop world config.steps.toNat (.ok ()) tallies last here) ∧
        summary = after.summary ∧ Closed world.tracker registrar tallies after left) := by
  have counted := upTo_follows follows (.fresh registrar) rfl config.steps.toNat
  refine run_leads_of_upTo follows (.fresh _)
    ((counted.and (upTo_underway follows config.steps.toNat)).weaken fun _ _ _ => trivial) ?_
  rintro _ after left ⟨⟨counted, follows⟩, _, underway⟩
  have tallied := RenderCourse.tallied_after registrar config config.steps.toNat
  obtain ⟨final, last, ended, sink, closed⟩ :=
    underway.goOn_zero tallied follows.summary config.steps.toNat
  exact .of_ok ended (congrArg Sink.room sink) ⟨⟨after, left, counted⟩, rfl, closed⟩

private theorem Closed.reportsTotals_iff {base : Tracker H.Callback}
    (closed : Closed base registrar (RenderCourse.after config (.initial registrar)
      config.steps.toNat).tallies loop world) :
    ReportsTotals base loop.summary world ↔ config ≠ .longest := by
  have tallied := RenderCourse.tallied_after registrar config config.steps.toNat
  have exact_iff := tallied.exact_iff (Nat.le_refl _)
  simp only [and_true] at exact_iff
  rw [ReportsTotals, closed.totals, closed.summary, Ne, ← exact_iff]
  -- The totals do not tell how many writes were left out, but these always fit in a word.
  constructor
  · intro same
    obtain ⟨renders, _⟩ := Totals.mk.inj same
    exact tallied.exact_of_renders (Nat.le_refl _) (Nat.add_left_cancel renders).symm
  · intro exact
    rw [exact.renders, exact.notifications]

/-- The sessions of an application that is run for the first time are all accounted for. Between any two
steps the registrar of its counter has one subscription, that of the session of the last rendering; the
sessions before that have fired, and the next step delivers one event at most. When the run is over, the
last session was cancelled and nobody is subscribed. The totals have grown by what was counted, and that
is what the run reports, but for the longest run. -/
theorem sessions_of_first_run (posting : Posting H) {world : World H} (start : world.Open)
    (config : RenderConfig) (sink : Sink) :
    ∃ loop ready, (create config sink).run world = (.ok loop, ready) ∧
      (∀ taken ≤ config.steps.toNat,
        Rendering.ending (run posting) loop ready = Rendering.ending (do
            upTo posting taken
            goOn posting (config.steps.toNat - taken) taken) loop ready ∧
          Rendering.Leads (upTo posting taken) loop ready (fun _ _ => True) (fun _ after left =>
            ∃ tallies, Counted posting .zero loop ready taken (.ok ()) tallies after left ∧
              Accounted ready.tracker world.tracker.createRegistrar.1 tallies after left ∧
              DeliversOneAtMost posting taken after left)) ∧
      Rendering.Leads (run posting) loop ready (fun _ _ => True) (fun summary after left =>
        ∃ tallies,
          (∃ last here,
            Counted posting .zero loop ready config.steps.toNat (.ok ()) tallies last here) ∧
          summary = after.summary ∧
          Closed ready.tracker world.tracker.createRegistrar.1 tallies after left ∧
          (ReportsTotals ready.tracker summary left ↔ config ≠ .longest)) := by
  obtain ⟨loop, ready, created, follows⟩ := exists_created posting start config sink
  refine ⟨loop, ready, created, fun taken within => ⟨?_, upTo_accounted follows taken⟩, ?_⟩
  · exact ending_run follows (.fresh _) within
  · refine (run_closed follows).mono ?_
    rintro _ after left ⟨counted, rfl, closed⟩
    exact ⟨_, counted, rfl, closed, closed.reportsTotals_iff⟩

/-- Eight gated steps, in which three changes are shown: three sessions fire, and the fourth is
cancelled. -/
theorem sessions_of_first_run_of_initial :
    (World.initial () : World CounterProgram.host).Open ∧
      ∃ loop ready after left, (create ⟨8, .both, true⟩ (.empty none)).run (World.initial ()) =
          (.ok loop, ready) ∧
        Rendering.ending (run CounterProgram.posting) loop ready =
          (.ok (.ok ⟨4, 3, 5⟩, after), left) ∧
        left.tracker.sessions.size = 4 ∧
        (∀ number < 3, (left.tracker.session ⟨number⟩).status = .fired) ∧
        (left.tracker.session ⟨3⟩).status = .cancelled ∧
        left.tracker.subscriptionCount ⟨0⟩ = 0 ∧ left.tracker.totals = ⟨4, 3, 1⟩ := by
  obtain ⟨loop, ready, created, _, ends⟩ :=
    sessions_of_first_run CounterProgram.posting open_initial ⟨8, .both, true⟩ (.empty none)
  cases created
  obtain ⟨summary, after, left, ran, _, ⟨rendered, received, _⟩, _, _, closed, reported⟩ :=
    ends.returns rfl
  have found : (Rendering.ending (run CounterProgram.posting) (first ⟨8, .both, true⟩)
      firstWorld).1.toOption.bind (·.1.toOption) = some ⟨4, 3, 5⟩ := by decide +kernel
  have same := (congrArg (·.1.toOption.bind (·.1.toOption)) ran).symm.trans found
  obtain rfl : summary = ⟨4, 3, 5⟩ := Option.some.inj same
  have totals : left.tracker.totals = ⟨4, 3, 1⟩ := reported.mpr (by decide)
  obtain ⟨renders, notifications, _⟩ := Totals.mk.inj (closed.totals.symm.trans totals)
  obtain rfl : rendered = 4 := (Nat.zero_add _).symm.trans renders
  obtain rfl : received = 3 := (Nat.zero_add _).symm.trans notifications
  refine ⟨open_initial, _, _, after, left, rfl, ran, closed.created, fun number below => ?_, ?_,
    closed.unsubscribed, totals⟩
  · exact Nat.zero_add number ▸ closed.fired number below
  · exact closed.cancelled

/-- The options ask for the longest run. It installs `2 ^ 32` sessions and reports none, since one word
cannot say that it rendered so often. -/
theorem totals_outrun_longest_run :
    (⟨4294967295, .both, false, false, "info"⟩ : Options).config = .ok .longest ∧
      ∃ loop ready after left,
        (create .longest (.empty none)).run (World.initial ()) = (.ok loop, ready) ∧
        Rendering.ending (run CounterProgram.posting) loop ready =
          (.ok (.ok ⟨0, 4294967295, 0⟩, after), left) ∧
        ready.tracker.totals = ⟨0, 0, 0⟩ ∧ left.tracker.totals = ⟨4294967296, 4294967295, 1⟩ ∧
        ¬ ReportsTotals ready.tracker ⟨0, 4294967295, 0⟩ left := by
  obtain ⟨summary, after, left, ran, _, _, rfl, closed⟩ :=
    (run_closed (follows_first .longest)).returns rfl
  have steps : RenderConfig.longest.steps.toNat = 4294967295 := rfl
  have ended := (RenderCourse.tallied_after ⟨0⟩ .longest 4294967295).longest
  rw [steps, ended] at closed
  have summary : after.summary = ⟨0, 4294967295, 0⟩ := closed.summary
  have totals : left.tracker.totals = ⟨4294967296, 4294967295, 1⟩ := closed.totals
  rw [summary] at ran
  refine ⟨rfl, _, _, after, left, created_first _, ran, rfl, totals, ?_⟩
  rw [ReportsTotals, totals]
  exact fun same => absurd (Totals.mk.inj same).1 (by decide)

end Runs
end RenderLoop
end ChangeTracking
