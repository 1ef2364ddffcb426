import ChangeTracking.Proofs.EnrolledTokens
import ChangeTracking.Proofs.Lifecycle
import Mathlib.Tactic.Abel

/-! The balance of subscriptions. What a session was installed with is still in the tables, or it was
reported as given up, or it was lost: cancelled at its registrar, or gone with it. Each step keeps the
account, so that in every world of a run it comes out even. -/
namespace ChangeTracking

namespace Tracker
variable {κ : Type} {before after latest : Tracker κ} {id : SessionId} {token : Token}

theorem LostAt.gone (lost : LostAt before after token) (enrolled : token ∈ before.enrolled id)
    (sound : before.Sound) (later : after.Sound) (final : latest.InStep)
    (step : before.Grown after) (grown : after.Grown latest) : token ∉ latest.named := by
  rcases lost with cancelled | dropped
  · intro named
    have absent := cancelled.gone sound enrolled grown
    rw [final.names_iff.mpr named] at absent
    cases absent
  · rintro ⟨subscription, member, same⟩
    obtain ⟨mine, subscribed, own, _⟩ := enrolled
    have bound := (sound.tables token.registrar).bounded mine subscribed
    have more := step.nextId token.registrar
    rcases grown.old token.registrar subscription member with old | fresh
    · rw [later.gone token.registrar dropped] at old
      cases old
    · omega

private theorem nothing_lostAt (sound : before.Sound) (written : SessionId)
    (session : after.session written ≠ before.session written)
    (live : ∀ registrar, after.isLive registrar = before.isLive registrar) :
    {token ∈ before.enrolled id | LostAt before after token} = ∅ := by
  refine Set.eq_empty_of_forall_notMem ?_
  rintro token ⟨⟨subscription, member, _⟩, cancelled | dropped⟩
  · have same : after.sessions = before.sessions := by
      rcases cancelled with rfl | rfl
      · rfl
      · exact (before.untouched_cancel _ _).1
    exact session (by rw [Tracker.session, same, Tracker.session])
  · rw [live, sound.live_of_mem member] at dropped
    cases dropped

end Tracker

variable {H : Host} {discipline : Discipline H}

namespace World

/-- The subscriptions that a session was installed with, by the reports so far. -/
def granted (world : World H) (id : SessionId) : Nat :=
  ((world.events id).map TraceEvent.subscribed).sum

/-- The subscriptions that a session gave up, by the reports so far. -/
def removed (world : World H) (id : SessionId) : Nat :=
  ((world.events id).map TraceEvent.removed).sum

end World

/-- At some moment the subscription of a token was lost to the session that it was made for. -/
def Lost (worlds : List (World H)) (id : SessionId) (token : Token) : Prop :=
  ∃ after before past, after :: before :: past <:+ worlds ∧
    token ∈ before.tracker.enrolled id ∧ before.tracker.LostAt after.tracker token

/-- What a step means to the account of one session. -/
structure Settlement (world after : World H) (id : SessionId) (more : List TraceEvent) : Prop where
  events : after.events id = world.events id ++ more
  even : (world.tracker.enrolled id).encard + (more.map TraceEvent.subscribed).sum =
    (after.tracker.enrolled id).encard + (more.map TraceEvent.removed).sum +
      {token ∈ world.tracker.enrolled id | world.tracker.LostAt after.tracker token}.encard

namespace Settlement
variable {world after : World H} {id : SessionId}

private theorem idle (events : after.events id = world.events id)
    (enrolled : after.tracker.enrolled id = world.tracker.enrolled id)
    (kept : {token ∈ world.tracker.enrolled id |
      world.tracker.LostAt after.tracker token} = ∅) : Settlement world after id [] :=
  ⟨by rw [events, List.append_nil], by simp [enrolled, kept]⟩

private theorem of_turn {turning : SessionId} {event : TraceEvent}
    (log : after.log.toList = world.log.toList ++ [.trace event])
    (mine : event.session? = some turning)
    (others : id ≠ turning → after.tracker.enrolled id = world.tracker.enrolled id)
    (own : (world.tracker.enrolled turning).encard + event.subscribed =
      (after.tracker.enrolled turning).encard + event.removed)
    (kept : {token ∈ world.tracker.enrolled id |
      world.tracker.LostAt after.tracker token} = ∅) : ∃ more, Settlement world after id more := by
  have events := SessionStep.events_of_turn log mine id
  by_cases same : id = turning
  · subst same
    rw [if_pos rfl] at events
    exact ⟨[event], events, by simpa [kept] using own⟩
  · rw [if_neg same, List.append_nil] at events
    exact ⟨[], .idle events (others same) kept⟩

end Settlement

private theorem Evolution.settlement {world after : World H} {past : List (World H)}
    (evolution : Evolution discipline (after :: world :: past)) (id : SessionId) :
    ∃ more, Settlement world after id more := by
  have inStep := evolution.inStep world (by simp)
  have later := evolution.inStep after (by simp)
  have grown : world.tracker.Grown after.tracker := evolution.grown_of_mem (by simp)
  cases evolution.trackerTurn with
  | others _ _ events fewer lost =>
    have gone : {token ∈ world.tracker.enrolled id | world.tracker.LostAt after.tracker token} =
        world.tracker.enrolled id \ after.tracker.enrolled id := by
      ext token
      refine and_congr_right fun enrolled => ⟨fun losing still => ?_, fun missing => ?_⟩
      · exact losing.gone enrolled inStep.sound later.sound later grown (.of_tables fun _ => rfl)
          (Tracker.enrolled_subset_named still)
      · exact (lost id token enrolled).resolve_left missing
    refine ⟨[], by rw [events, List.append_nil], ?_⟩
    rw [gone, ← Set.encard_sdiff_add_encard_of_subset (fewer id)]
    simp [add_comm]
  | created reads tracker log =>
    refine ⟨[], .idle (by rw [World.events, log, World.events]) (by rw [tracker]; rfl) ?_⟩
    have absent : world.tracker.session (world.tracker.createSession reads).1 =
        (Session.create ∅).cancel := Tracker.session_of_absent _ (Nat.lt_irrefl _)
    refine Tracker.nothing_lostAt inStep.sound (world.tracker.createSession reads).1 ?_ ?_
    · rw [tracker, Tracker.session_createSession, if_pos rfl, absent]
      intro same
      cases congrArg Session.status same
    · exact fun registrar => by rw [tracker]; rfl
  | @armed turning callbacks pending given tracker log =>
    refine Settlement.of_turn log rfl (fun different => ?_) ?_ ?_
    · rw [tracker, inStep.enrolled_arm_of_ne different]
    · rw [inStep.enrolled_eq_empty (by simp [pending]), tracker,
        inStep.encard_enrolled_arm pending given, Set.encard_empty, zero_add]
      exact (add_zero _).symm
    · refine Tracker.nothing_lostAt inStep.sound turning ?_ fun registrar => ?_
      · rw [tracker, Tracker.session_armOver pending, if_pos rfl]
        intro same
        have status := congrArg Session.status same
        rw [pending] at status
        cases status
      · have added := (Tracker.installEntries_added inStep.sound turning callbacks
          (world.tracker.session turning).reads.apart).2
        rw [tracker]
        exact added.isLive registrar
  | @fired turning event firing told due tracker log =>
    have fired := Tracker.of_fire? due
    obtain ⟨removed, report⟩ := fired.report
    refine Settlement.of_turn log (by rw [report]; rfl) (fun different => ?_) ?_ ?_
    · rw [tracker, inStep.enrolled_fire_of_ne fired different]
    · rw [tracker, inStep.encard_enrolled_fire due, report]
      exact add_zero _
    · refine Tracker.nothing_lostAt inStep.sound turning ?_ fun registrar => ?_
      · rw [tracker, fired.session, if_pos rfl]
        intro same
        have left := congrArg (fun session => session.callbacks.find? event.phase) same
        simp [Session.fire, PerPhase.find?_erase, fired.callback] at left
      · rw [tracker, inStep.isLive_fire fired]
  | @cancelled turning report ended log =>
    have cancelled := Tracker.of_cancelSession? ended
    obtain ⟨removed, rfl⟩ := cancelled.report
    refine Settlement.of_turn log rfl (fun different => ?_) ?_ ?_
    · rw [inStep.enrolled_cancelSession_of_ne cancelled different]
    · rw [inStep.encard_enrolled_cancelSession ended]
      exact add_zero _
    · refine Tracker.nothing_lostAt inStep.sound turning ?_ fun registrar => ?_
      · rw [cancelled.session, if_pos rfl]
        intro same
        exact cancelled.not_cancelled (congrArg Session.status same).symm
      · exact inStep.isLive_cancelSession cancelled registrar

namespace Evolution
variable {world : World H} {past : List (World H)} {id : SessionId}

private theorem not_enrolled_of_lost (evolution : Evolution discipline (world :: past)) {token : Token}
    (lost : Lost (world :: past) id token) : token ∉ world.tracker.enrolled id := by
  obtain ⟨after, before, rest, moment, enrolled, losing⟩ := lost
  have earlier : before ∈ world :: past := moment.subset (by simp)
  have later : after ∈ world :: past := moment.subset List.mem_cons_self
  have step : before.tracker.Grown after.tracker :=
    (evolution.of_suffix moment).grown_of_mem (by simp)
  intro still
  exact losing.gone enrolled (evolution.inStep before earlier).sound (evolution.inStep after later).sound
    (evolution.inStep world (by simp)) step (evolution.grown_of_mem later)
    (Tracker.enrolled_subset_named still)

private theorem lost_cons {after : World H} :
    {token | Lost (after :: world :: past) id token} = {token | Lost (world :: past) id token} ∪
      {token ∈ world.tracker.enrolled id | world.tracker.LostAt after.tracker token} := by
  ext token
  constructor
  · rintro ⟨later, earlier, rest, moment, losing⟩
    rcases List.suffix_cons_iff.mp moment with same | inside
    · cases same
      exact .inr losing
    · exact .inl ⟨later, earlier, rest, inside, losing⟩
  · rintro (⟨later, earlier, rest, inside, losing⟩ | losing)
    · exact ⟨later, earlier, rest, inside.trans (List.suffix_cons _ _), losing⟩
    · exact ⟨after, world, past, List.suffix_refl _, losing⟩

/-- The account of a session comes out even. -/
theorem balance (evolution : Evolution discipline (world :: past)) (id : SessionId) :
    (world.granted id : ℕ∞) = (world.tracker.enrolled id).encard + world.removed id +
      {token | Lost (world :: past) id token}.encard := by
  induction past generalizing world with
  | nil =>
    cases evolution with
    | start host =>
      have nothing : (World.initial host).tracker.enrolled id = ∅ :=
        Tracker.InStep.enrolled_eq_empty .empty SessionStatus.noConfusion
      have unlost : {token | Lost [World.initial host] id token} = ∅ := by
        refine Set.eq_empty_of_forall_notMem fun token ⟨_, _, _, moment, _⟩ => ?_
        simpa using moment.length_le
      rw [nothing, unlost, Set.encard_empty]
      rfl
  | cons before past ih =>
    obtain ⟨more, events, even⟩ := evolution.settlement id
    have disjoint : Disjoint {token | Lost (before :: past) id token}
        {token ∈ before.tracker.enrolled id | before.tracker.LostAt world.tracker token} :=
      Set.disjoint_left.mpr fun token lost losing =>
        evolution.tail.not_enrolled_of_lost lost losing.1
    have given : world.granted id =
        before.granted id + (more.map TraceEvent.subscribed).sum := by
      simp [World.granted, events]
    have back : world.removed id = before.removed id + (more.map TraceEvent.removed).sum := by
      simp [World.removed, events]
    rw [lost_cons, Set.encard_union_eq disjoint, given, back, Nat.cast_add, Nat.cast_add,
      ih evolution.tail]
    calc _ = (before.tracker.enrolled id).encard + (more.map TraceEvent.subscribed).sum +
          (before.removed id + {token | Lost (before :: past) id token}.encard) := by abel
      _ = _ := by
        rw [even]
        abel

end Evolution

private theorem Life.subscribed {κ : Type} {id : SessionId} {given : PerPhase κ → Prop}
    {status : SessionStatus} {callbacks : PerPhase κ} {events : List TraceEvent}
    (life : Life id given status callbacks events) {registrars subscriptions : Nat}
    (report : .installed id registrars subscriptions ∈ events) :
    (events.map TraceEvent.subscribed).sum = subscriptions := by
  induction life with
  | created => cases report
  | dropped => simp at report
  | armed =>
    obtain ⟨_, rfl⟩ : _ = _ ∧ _ = _ := by simpa using report
    rfl
  | advanced =>
    obtain ⟨_, rfl⟩ : _ = _ ∧ _ = _ := by simpa using report
    rfl
  | fired _ _ _ _ before | cancelled _ _ _ before =>
    rw [List.map_append, List.sum_append, before (by simpa using report)]
    rfl

/-- In every world of a run, what a session was installed with is what it has in the tables of live
registrars, what it was reported to have given up, and what it lost because its registrar cancelled
it or went. So a session that has ended without losses has given up what it was installed with. -/
theorem Client.subscriptions_balance {α : Type} {act : Act H α} (client : Client discipline act)
    (host : H.State) {world : World H} {past : List (World H)}
    (passed : world :: past <:+ act.trail (World.initial host)) {id : SessionId}
    {registrars subscriptions : Nat}
    (report : .installed id registrars subscriptions ∈ world.events id) :
    (subscriptions : ℕ∞) = world.tracker.tableSubscriptions id + world.removed id +
        {token | Lost (world :: past) id token}.encard ∧
      ((world.tracker.session id).status.isTerminal = true →
        (∀ token, ¬ Lost (world :: past) id token) → subscriptions = world.removed id) := by
  have evolution := (client.trail_evolution host).of_suffix passed
  have inStep := evolution.inStep world (by simp)
  obtain ⟨_, _, life⟩ := evolution.events_life List.mem_cons_self id
  have balance := evolution.balance id
  rw [World.granted, life.subscribed report] at balance
  refine ⟨by rw [balance, inStep.encard_enrolled], fun ended unlost => ?_⟩
  have idle : (world.tracker.session id).status ≠ .installed := by
    intro installed
    rw [installed] at ended
    cases ended
  have none : {token | Lost (world :: past) id token} = ∅ := Set.eq_empty_of_forall_notMem unlost
  rw [inStep.enrolled_eq_empty idle, none] at balance
  simpa using balance

/-- A key is tracked for both phases; one of them is delivered, and then the registrar goes. -/
def trackAndDrop : Act Host.plain Unit := do
  let registrar ← trackBoth
  notify (Discipline.plain.announced fun _ _ => pure ()) registrar ⟨"a"⟩ .willChange
  Act.modifyTracker (·.release registrar)

theorem client_trackAndDrop : Client Discipline.plain trackAndDrop :=
  client_trackBoth.bind fun registrar =>
    .bind (.notify (fun _ _ => .done ()) registrar _ _) fun _ => .release registrar

/-- Of two subscriptions, one is given up and one is lost. -/
theorem Client.subscriptions_balance_of_trackAndDrop :
    .installed ⟨0⟩ 1 2 ∈ (trackAndDrop.run (World.initial ())).2.events ⟨0⟩ ∧
      (trackAndDrop.run (World.initial ())).2.removed ⟨0⟩ = 1 ∧
      (trackAndDrop.run (World.initial ())).2.tracker.tableSubscriptions ⟨0⟩ = 0 ∧
      {token | Lost (trackAndDrop.trail (World.initial ())) ⟨0⟩ token}.encard = 1 := by
  have report : .installed ⟨0⟩ 1 2 ∈ (trackAndDrop.run (World.initial ())).2.events ⟨0⟩ := by decide
  have removed : (trackAndDrop.run (World.initial ())).2.removed ⟨0⟩ = 1 := by decide
  have table : (trackAndDrop.run (World.initial ())).2.tracker.tableSubscriptions ⟨0⟩ = 0 := by decide
  have balance := (client_trackAndDrop.subscriptions_balance () (List.suffix_refl _) report).1
  rw [removed, table, Nat.cast_zero, zero_add, Nat.cast_one, Nat.cast_ofNat,
    ← one_add_one_eq_two] at balance
  refine ⟨report, removed, table, ?_⟩
  exact ENat.add_right_injective_of_ne_top ENat.one_ne_top balance.symm

end ChangeTracking
