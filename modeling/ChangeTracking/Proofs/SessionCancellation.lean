import ChangeTracking.Proofs.Installing
import ChangeTracking.Proofs.RegistrarHistory
import ChangeTracking.Proofs.SessionCounts

namespace ChangeTracking

namespace Tracker
variable {κ : Type} {tracker before after : Tracker κ} {id : SessionId}

/-- Everything but one session is as it was. -/
structure RelievedOf (id : SessionId) (before after : Tracker κ) : Prop where
  ended : (after.session id).status.isTerminal = true ∧ after.sessionSubscriptions id = 0
  others : ∀ other, other ≠ id → after.session other = before.session other ∧
    after.sessionSubscriptions other = before.sessionSubscriptions other
  counters : after.registrars.size = before.registrars.size ∧
    after.sessions.size = before.sessions.size ∧
    ∀ registrar, (after.table registrar).nextId = (before.table registrar).nextId
  live : ∀ registrar, after.isLive registrar = before.isLive registrar
  subscriptions : ∀ registrar, (after.table registrar).subscriptions =
    (before.table registrar).subscriptions.filter fun subscription =>
      !subscription.perceiver.isOf id
  direct : ∀ registrar, ∀ subscription : Subscription κ,
    (∃ callback, subscription.perceiver = .direct callback) →
      (subscription ∈ (after.table registrar).subscriptions ↔
        subscription ∈ (before.table registrar).subscriptions)
  observes : ∀ registrar key, after.observes registrar key = true ↔
    ∃ subscription ∈ (before.table registrar).subscriptions,
      subscription.perceiver.isOf id = false ∧ key ∈ subscription.keys
  snapshot : ∀ registrar key phase, after.snapshot registrar key phase =
    (before.snapshot registrar key phase).filter fun perceiver => !perceiver.isOf id

private theorem RelievedOf.of_subscriptions (sound : before.Sound) (later : after.Sound)
    (ended : (after.session id).status.isTerminal = true ∧ (after.session id).installed = [])
    (others : ∀ other, other ≠ id → after.session other = before.session other)
    (counters : after.registrars.size = before.registrars.size ∧
      after.sessions.size = before.sessions.size ∧
      ∀ registrar, (after.table registrar).nextId = (before.table registrar).nextId)
    (live : ∀ registrar, after.isLive registrar = before.isLive registrar)
    (subscriptions : ∀ registrar, (after.table registrar).subscriptions =
      (before.table registrar).subscriptions.filter fun subscription =>
        !subscription.perceiver.isOf id) : RelievedOf id before after := by
  refine ⟨⟨ended.1, ?_⟩, fun other different => ⟨others other different, ?_⟩, counters, live,
    subscriptions, ?_, ?_, ?_⟩
  · rw [sessionSubscriptions, ended.2, countTokens]
  · rw [sessionSubscriptions, others other different, countTokens_congr live, sessionSubscriptions]
  · rintro registrar subscription ⟨callback, direct⟩
    rw [subscriptions, List.mem_filter, direct]
    simp [Perceiver.isOf]
  · intro registrar key
    rw [Tracker.observes, (later.tables registrar).observes_iff, subscriptions]
    simp [and_assoc]
  · intro registrar key phase
    rw [Tracker.snapshot, (later.tables registrar).snapshot_eq, subscriptions, Tracker.snapshot,
      (sound.tables registrar).snapshot_eq, List.filter_map, List.filter_filter, List.filter_filter]
    congr 2
    funext subscription
    exact Bool.and_comm ..

namespace InStep

theorem nextId_cancelSession (inStep : tracker.InStep) {report : TraceEvent}
    (ended : tracker.CancelledBy id report after) (registrar : RegistrarId) :
    (after.table registrar).nextId = (tracker.table registrar).nextId := by
  obtain ⟨totals, left⟩ := ended.tracker
  have before : (tracker.setSession id (tracker.session id).cancel).Sound :=
    ⟨inStep.sound.tables, inStep.sound.gone⟩
  rw [left]
  exact (tearDown_removed before (tracker.session id).installed).nextId registrar

theorem relievedOf_cancelSession (inStep : tracker.InStep) {report : TraceEvent}
    (ended : tracker.CancelledBy id report after) : RelievedOf id tracker after := by
  have session : after.session id = (tracker.session id).cancel := by
    rw [ended.session, if_pos rfl]
  have size : after.sessions.size = tracker.sessions.size := by
    obtain ⟨totals, left⟩ := ended.tracker
    simp [left]
  refine .of_subscriptions inStep.sound (inStep.cancelSession ended).sound ?_ ?_
    ⟨size_registrars_tornDown ended.tracker, size, inStep.nextId_cancelSession ended⟩
    (inStep.isLive_cancelSession ended) (inStep.subscriptions_cancelSession ended)
  · rw [session]
    exact ⟨rfl, rfl⟩
  · intro other different
    rw [ended.session, if_neg different]

theorem relievedOf_self (inStep : tracker.InStep)
    (ended : (tracker.session id).status.isTerminal = true) : RelievedOf id tracker tracker := by
  have idle : (tracker.session id).status ≠ .installed := by
    intro installed
    rw [installed] at ended
    cases ended
  refine .of_subscriptions inStep.sound inStep.sound
    ⟨ended, ((inStep.sessions id).idle idle).2⟩ (fun _ _ => rfl) ⟨rfl, rfl, fun _ => rfl⟩
    (fun _ => rfl) fun registrar => ?_
  refine (List.filter_eq_self.mpr fun subscription member => ?_).symm
  rw [inStep.absent_of_idle idle member]
  rfl

end InStep
end Tracker

variable {H : Host} {discipline : Discipline H} {id : SessionId} {world : World H}

theorem answers_cancelSession_of_ended
    (ended : (world.tracker.session id).status.isTerminal = true) :
    (cancelSession id : Act H Unit).Answers () world := by
  refine .of_run ?_ (by simp [cancelSession, Act.history_conduct])
  rw [cancelSession, Act.run_conduct, Tracker.cancelSession?_eq_none_iff.mpr ended]
  exact congrArg (Prod.mk _) world.advance_none

/-- A session was cancelled, and nobody else notices. -/
structure CancelledAlone (id : SessionId) (world after : World H) : Prop where
  tracker : Tracker.RelievedOf id world.tracker after.tracker
  thread : after.thread = world.thread
  others : after.counters = world.counters ∧ after.mailboxes = world.mailboxes ∧
    after.host = world.host
  log : ∃ report : Option TraceEvent, (∀ event ∈ report, ∃ removed, event = .cancelled id removed) ∧
    after.log.toList = world.log.toList ++ (LogEntry.ofReport report : List (LogEntry H))
  /-- A notification that starts right after it reaches whom it would have reached without it, in the
  same order, but for the session. -/
  notified : ∀ (call : Call H) registrar key phase,
    (notify call registrar key phase).run world =
        (deliverAll call ⟨registrar, key, phase⟩
          (world.tracker.snapshot registrar key phase)).run
            (world.notified registrar key phase) ∧
      (cancelSession id >>= fun _ => notify call registrar key phase).run world =
        (deliverAll call ⟨registrar, key, phase⟩
          ((world.tracker.snapshot registrar key phase).filter fun perceiver =>
            !perceiver.isOf id)).run (after.notified registrar key phase)
  again : (cancelSession id : Act H Unit).Answers () after
  vain : (world.tracker.session id).status.isTerminal = true → after = world

private theorem CancelledAlone.of_run {report : Option TraceEvent} {tracker : Tracker H.Callback}
    (run : (cancelSession id).run world = (.ok (), world.advance report tracker))
    (relieved : Tracker.RelievedOf id world.tracker tracker)
    (reported : ∀ event ∈ report, ∃ removed, event = .cancelled id removed)
    (vain : (world.tracker.session id).status.isTerminal = true →
      world.advance report tracker = world) :
    CancelledAlone id world (world.advance report tracker) where
  tracker := relieved
  thread := rfl
  others := ⟨rfl, rfl, rfl⟩
  log := ⟨report, reported, world.advance_log ..⟩
  notified call registrar key phase := by
    refine ⟨run_notify .., ?_⟩
    rw [Act.run_bind_ok run, run_notify]
    exact congrArg (fun reached => (deliverAll call _ reached).run _)
      (relieved.snapshot registrar key phase)
  again := answers_cancelSession_of_ended relieved.ended.1
  vain := vain

/-- Whoever cancels a session, whatever has become of it and in whatever callback that may be, ends
this session and leaves everything else as it was. Once it has ended, cancelling it does nothing. -/
theorem Reachable.session_cancelled (reachable : Reachable discipline world) (id : SessionId) :
    ∃ after, (cancelSession id).run world = (.ok (), after) ∧ CancelledAlone id world after := by
  have inStep := reachable.inStep
  rcases found : world.tracker.cancelSession? id with _ | ⟨report, tracker⟩
  · have ended := Tracker.cancelSession?_eq_none_iff.mp found
    have run : (cancelSession id).run world = (.ok (), world.advance none world.tracker) := by
      rw [cancelSession, Act.run_conduct, found]
    exact ⟨_, run, .of_run run (inStep.relievedOf_self ended) (by simp) fun _ => world.advance_none⟩
  · have ended := Tracker.of_cancelSession? found
    have run : (cancelSession id).run world = (.ok (), world.advance (some report) tracker) := by
      rw [cancelSession, Act.run_conduct, found]
    refine ⟨_, run, .of_run run (inStep.relievedOf_cancelSession ended) ?_ ?_⟩
    · intro event reported
      cases reported
      exact ended.report
    · intro finished
      rw [ended.running] at finished
      cases finished

/-- A key is watched by a callback of its own between two sessions. -/
def watchAmong : Act Host.plain Unit := do
  let registrar ← Act.track (·.createRegistrar)
  let _ ← trackSession (access registrar ⟨"a"⟩) ⟨some (0 : Nat), none⟩
  let _ ← Act.track (·.register registrar (.ofList [⟨"a"⟩]) .willChange (.direct (1 : Nat)))
  let _ ← trackSession (access registrar ⟨"a"⟩) ⟨some (2 : Nat), none⟩

theorem client_watchAmong : Client Discipline.plain watchAmong :=
  .bind .createRegistrar fun registrar =>
    .bind (.trackSession (.access registrar _) _) fun _ =>
      .bind (.register registrar _ _ trivial) fun _ =>
        .bind (.trackSession (.access registrar _) _) fun _ => .done ()

/-- Without the first session, the others are told in the order in which they were before. -/
theorem Reachable.session_cancelled_of_watchAmong :
    let world := (watchAmong.run (World.initial ())).2
    world.tracker.snapshot ⟨0⟩ ⟨"a"⟩ .willChange =
        [.session ⟨0⟩ ⟨0⟩ .willChange, .direct (1 : Nat), .session ⟨1⟩ ⟨0⟩ .willChange] ∧
      ∃ after, (cancelSession ⟨0⟩).run world = (.ok (), after) ∧
        after.tracker.snapshot ⟨0⟩ ⟨"a"⟩ .willChange =
          [.direct (1 : Nat), .session ⟨1⟩ ⟨0⟩ .willChange] ∧
        (cancelSession ⟨0⟩ : Act Host.plain Unit).Answers () after := by
  have reachable : Reachable Discipline.plain (watchAmong.run (World.initial ())).2 :=
    ⟨_, watchAmong, (), client_watchAmong, List.mem_cons_self, rfl⟩
  obtain ⟨after, run, cancelled⟩ := reachable.session_cancelled ⟨0⟩
  refine ⟨rfl, after, run, ?_, cancelled.again⟩
  exact (cancelled.tracker.snapshot ⟨0⟩ ⟨"a"⟩ .willChange).trans rfl

end ChangeTracking
