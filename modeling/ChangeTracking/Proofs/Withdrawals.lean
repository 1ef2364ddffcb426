import ChangeTracking.Proofs.SessionCounts
import ChangeTracking.Proofs.TableHistory

/-! Where subscriptions of sessions go. A session that gives one up gives up its token with it, and a
registrar that goes is not counted with. What is left is that somebody cancels the subscriptions of a
registrar behind the back of the session: then the session holds tokens that name nothing. -/
namespace ChangeTracking

namespace Tracker
variable {κ : Type} {id : SessionId}

/-- A subscription of a session stands in the table of a registrar under a number. -/
def Enrolled (tracker : Tracker κ) (id : SessionId) (registrar : RegistrarId) (number : Nat) :
    Prop :=
  ∃ subscription ∈ (tracker.table registrar).subscriptions,
    subscription.id = number ∧ subscription.perceiver.isOf id = true

/-- The subscriptions of a registrar were cancelled all together, or one of them by its number. -/
def CancelledAt (before after : Tracker κ) (registrar : RegistrarId) (number : Nat) : Prop :=
  after = (before.cancelAll registrar).2 ∨ after = (before.cancel registrar ⟨registrar, number⟩).2

/-- What a step says of a token that is held after it against a live registrar. Its subscription
stands in the table, or it was held before and the step did not take its subscription away, other
than by cancelling at that registrar. -/
def Kept (before after : Tracker κ) (id : SessionId) (registrar : RegistrarId) (number : Nat) :
    Prop :=
  after.Enrolled id registrar number ∨
    before.isLive registrar = true ∧
      (∃ phase, (before.session id).Holds registrar phase number) ∧
      (before.Enrolled id registrar number → CancelledAt before after registrar number)

section Steps
variable {before after : Tracker κ} {other : SessionId} {registrar source : RegistrarId}
  {phase : Phase} {number : Nat}

private theorem Kept.of_enrolled (live : before.isLive registrar = true)
    (holds : (before.session id).Holds registrar phase number)
    (still : before.Enrolled id registrar number → after.Enrolled id registrar number) :
    Kept before after id registrar number := by
  by_cases enrolled : before.Enrolled id registrar number
  · exact .inl (still enrolled)
  · exact .inr ⟨live, ⟨phase, holds⟩, fun there => absurd there enrolled⟩

private theorem Kept.of_subset (live : before.isLive registrar = true)
    (holds : (before.session id).Holds registrar phase number)
    (more : (before.table registrar).subscriptions ⊆ (after.table registrar).subscriptions) :
    Kept before after id registrar number :=
  .of_enrolled live holds fun ⟨subscription, member, mine⟩ => ⟨subscription, more member, mine⟩

private theorem Kept.of_table (live : before.isLive registrar = true)
    (holds : (before.session id).Holds registrar phase number)
    (same : after.table registrar = before.table registrar) : Kept before after id registrar number :=
  .of_subset live holds (by rw [same]; exact List.Subset.refl _)

private theorem kept_release (holds : (before.session id).Holds registrar phase number)
    (live : (before.release source).isLive registrar = true) :
    Kept before (before.release source) id registrar number := by
  rcases before.release_cases source with all | last
  · obtain ⟨table, same⟩ := all registrar
    exact .of_table (same ▸ live) holds table
  · obtain ⟨table, same⟩ := last registrar
    rw [same, Bool.and_eq_true, decide_eq_true_eq] at live
    rw [if_neg live.2] at table
    exact .of_table live.1 holds table

private theorem kept_cancelAll (holds : (before.session id).Holds registrar phase number)
    (live : before.isLive registrar = true) :
    Kept before (before.cancelAll source).2 id registrar number := by
  by_cases own : registrar = source
  · subst own
    exact .inr ⟨live, ⟨phase, holds⟩, fun _ => .inl rfl⟩
  · refine .of_table live holds ?_
    rw [cancelAll, table_setTable, if_neg fun same => own same.1]

private theorem Kept.of_added {installed : Tracker κ} {new : RegistrarId → List (Subscription κ)}
    (added : Added new before installed) (tables : after.registrars = installed.registrars)
    (holds : (before.session id).Holds registrar phase number)
    (live : after.isLive registrar = true) : Kept before after id registrar number := by
  have same : after.isLive registrar = before.isLive registrar := by
    rw [← added.isLive registrar, isLive, tables, isLive]
  have more : (after.table registrar).subscriptions =
      (before.table registrar).subscriptions ++ new registrar := by
    rw [← added.subscriptions registrar, table, tables, table]
  refine .of_subset (same ▸ live) holds ?_
  rw [more]
  exact List.subset_append_left _ _

namespace InStep

private theorem kept_filtered (inStep : before.InStep) {cut : Perceiver κ → Bool}
    (subscriptions : (after.table registrar).subscriptions =
      (before.table registrar).subscriptions.filter fun subscription => !cut subscription.perceiver)
    (holds : (before.session id).Holds registrar phase number)
    (live : before.isLive registrar = true)
    (spared : cut (.session id registrar phase) = false) :
    Kept before after id registrar number := by
  refine .of_enrolled live holds ?_
  rintro ⟨subscription, member, same, mine⟩
  refine ⟨subscription, ?_, same, mine⟩
  have own := (inStep.issued id registrar phase number holds).2 subscription member same
  rw [subscriptions]
  exact List.mem_filter.mpr ⟨member, by rw [own, spared]; rfl⟩

private theorem kept_createRegistrar (inStep : before.InStep)
    (holds : (before.session id).Holds registrar phase number)
    (live : before.createRegistrar.2.isLive registrar = true) :
    Kept before before.createRegistrar.2 id registrar number := by
  have below := (inStep.issued id registrar phase number holds).1
  rw [isLive_createRegistrar, Bool.or_eq_true, decide_eq_true_eq] at live
  rcases live with live | rfl
  · exact .of_table live holds (before.table_createRegistrar registrar)
  · simp [Tracker.table, createRegistrar] at below
    exact absurd below (Nat.not_lt_zero _)

private theorem kept_register (inStep : before.InStep) {keys : KeySet} {wanted : Phase}
    {perceiver : Perceiver κ} (holds : (before.session id).Holds registrar phase number)
    (live : (before.register source keys wanted perceiver).2.isLive registrar = true) :
    Kept before (before.register source keys wanted perceiver).2 id registrar number := by
  by_cases present : before.isLive source = true
  · exact .of_added (register_added inStep.sound present keys wanted perceiver) rfl holds live
  · have same := register_of_gone (by simpa using present) keys wanted perceiver
    rw [same] at live ⊢
    exact .of_table live holds rfl

private theorem kept_cancel (inStep : before.InStep) {token : Token}
    (holds : (before.session id).Holds registrar phase number)
    (live : before.isLive registrar = true) :
    Kept before (before.cancel source token).2 id registrar number := by
  by_cases own : registrar = source ∧ token = ⟨registrar, number⟩
  · obtain ⟨rfl, rfl⟩ := own
    exact .inr ⟨live, ⟨phase, holds⟩, fun _ => .inr rfl⟩
  · refine .of_enrolled live holds ?_
    rintro ⟨subscription, member, rfl, mine⟩
    refine ⟨subscription, ?_, rfl, mine⟩
    exact (cancel_removed inStep.sound source token).mem_iff.mpr ⟨member, decide_eq_false own⟩

private theorem kept_arm (inStep : before.InStep)
    (pending : (before.session other).status = .pending) (callbacks : PerPhase κ)
    (holds : ((before.armOver other callbacks
      (before.session other).reads.entries).2.session id).Holds registrar phase number)
    (live : (before.armOver other callbacks
      (before.session other).reads.entries).2.isLive registrar = true) :
    Kept before (before.armOver other callbacks (before.session other).reads.entries).2 id registrar
      number := by
  by_cases own : id = other
  · subst own
    obtain ⟨read, _, rfl, there⟩ := inStep.mem_of_holds_armOver pending callbacks holds
    exact .inl ⟨_, there, rfl, by simp [ownSubscription, Perceiver.isOf]⟩
  · rw [session_armOver pending, if_neg own] at holds
    have added := (installEntries_added inStep.sound other callbacks
      (before.session other).reads.apart).2
    exact .of_added added rfl holds live

private theorem kept_cancelSession (inStep : before.InStep) {report : TraceEvent}
    (ended : before.CancelledBy other report after)
    (holds : (after.session id).Holds registrar phase number)
    (live : after.isLive registrar = true) : Kept before after id registrar number := by
  rw [ended.session] at holds
  split at holds
  · exact absurd holds (Session.not_holds_of_nil rfl)
  · rename_i different
    refine inStep.kept_filtered (inStep.subscriptions_cancelSession ended registrar) holds ?_ ?_
    · rwa [inStep.isLive_cancelSession ended] at live
    · simpa [Perceiver.isOf] using different

private theorem kept_fire (inStep : before.InStep) {event : ChangeEvent} {firing : Firing κ}
    (fired : before.FiredBy other event firing)
    (holds : (firing.tracker.session id).Holds registrar phase number)
    (live : firing.tracker.isLive registrar = true) :
    Kept before firing.tracker id registrar number := by
  rw [inStep.isLive_fire fired] at live
  have left := inStep.subscriptions_fire fired registrar
  rw [fired.session] at holds
  split at holds
  · rename_i same
    subst same
    obtain ⟨earlier, waiting⟩ := ((inStep.sessions id).holds_fire_iff event).mp holds
    exact inStep.kept_filtered left earlier live (by simpa [Perceiver.isFor] using waiting)
  · rename_i different
    exact inStep.kept_filtered left holds live (by simp [Perceiver.isFor, different])

end InStep

/-- What was cancelled at a registrar is never there again, and its number is not given out. -/
theorem CancelledAt.gone {latest : Tracker κ} (cancelled : CancelledAt before after registrar number)
    (sound : before.Sound) (enrolled : before.Enrolled id registrar number)
    (grown : after.Grown latest) : latest.names ⟨registrar, number⟩ = false := by
  obtain ⟨subscription, member, rfl, _⟩ := enrolled
  have below := (sound.tables registrar).bounded subscription member
  have out : (after.table registrar).nextId = (before.table registrar).nextId ∧
      ∀ other ∈ (after.table registrar).subscriptions, other.id ≠ subscription.id := by
    rcases cancelled with rfl | rfl
    · have cleared : (before.cancelAll registrar).2.table registrar =
          (before.table registrar).clear := by
        rw [cancelAll, table_setTable, if_pos ⟨rfl, sound.live_of_mem member⟩]
      rw [cleared]
      exact ⟨rfl, by simp [Table.clear]⟩
    · have removed := cancel_removed sound registrar ⟨registrar, subscription.id⟩
      refine ⟨removed.nextId registrar, ?_⟩
      intro other left same
      simpa [same] using (removed.mem_iff.mp left).2
  rw [names, Option.isSome_eq_false_iff, Option.isNone_iff_eq_none, Table.find?, List.find?_eq_none]
  intro other there
  have different := grown.absent (by omega) out.2 other there
  simpa using different

end Steps
end Tracker

variable {H : Host} {discipline : Discipline H}

private theorem Move.kept {past : List (World H)} {world after : World H}
    (move : Move discipline past world after) (inStep : world.tracker.InStep) {id : SessionId}
    {registrar : RegistrarId} {phase : Phase} {number : Nat}
    (holds : (after.tracker.session id).Holds registrar phase number)
    (live : after.tracker.isLive registrar = true) :
    world.tracker.Kept after.tracker id registrar number := by
  cases move with
  | own own =>
    rw [own.1] at holds live ⊢
    exact .of_table live holds rfl
  | thread => exact .of_table live holds rfl
  | createRegistrar => exact inStep.kept_createRegistrar holds live
  | retain source =>
    rw [Tracker.isLive_retain] at live
    exact .of_table live holds (world.tracker.table_retain source registrar)
  | release source => exact Tracker.kept_release holds live
  | register source keys wanted => exact inStep.kept_register holds live
  | cancel source token =>
    have removed := Tracker.cancel_removed inStep.sound source token
    rw [removed.session] at holds
    rw [removed.isLive] at live
    exact inStep.kept_cancel holds live
  | cancelAll source =>
    rw [Tracker.cancelAll, Tracker.isLive_setTable] at live
    exact Tracker.kept_cancelAll holds live
  | createSession reads =>
    exact .of_table live ((Tracker.InStep.holds_createSession_iff reads).mp holds) rfl
  | arm pending => exact inStep.kept_arm pending _ holds live
  | cancelSession ended =>
    exact inStep.kept_cancelSession (Tracker.of_cancelSession? ended) holds live
  | notified => exact .of_table live holds rfl
  | call => exact .of_table live holds rfl

private theorem Evolution.kept {world after : World H} {past : List (World H)}
    (evolution : Evolution discipline (after :: world :: past)) {id : SessionId}
    {registrar : RegistrarId} {phase : Phase} {number : Nat}
    (holds : (after.tracker.session id).Holds registrar phase number)
    (live : after.tracker.isLive registrar = true) :
    world.tracker.Kept after.tracker id registrar number := by
  have inStep := evolution.inStep world (by simp)
  cases evolution with
  | move _ _ move => exact move.kept inStep holds live
  | fire _ _ _ due => exact inStep.kept_fire (Tracker.of_fire? due) holds live
  | call => exact .of_table live holds rfl

/-- At some moment the subscription of a token was cancelled at its registrar, behind the back of
the session that it was made for. -/
def Withdrawn (worlds : List (World H)) (id : SessionId) (token : Token) : Prop :=
  ∃ after before past, after :: before :: past <:+ worlds ∧
    before.tracker.Enrolled id token.registrar token.id ∧
    before.tracker.CancelledAt after.tracker token.registrar token.id

theorem Withdrawn.mono {worlds more : List (World H)} {id : SessionId} {token : Token}
    (withdrawn : Withdrawn worlds id token) (kept : worlds <:+ more) : Withdrawn more id token := by
  obtain ⟨after, before, past, moment, cancelled⟩ := withdrawn
  exact ⟨after, before, past, moment.trans kept, cancelled⟩

namespace Evolution

/-- A token held against a live registrar names its subscription there until that is cancelled
at the registrar. -/
theorem enrolled_or_withdrawn {world : World H} {past : List (World H)}
    (evolution : Evolution discipline (world :: past)) {id : SessionId} {registrar : RegistrarId}
    {phase : Phase} {number : Nat} (holds : (world.tracker.session id).Holds registrar phase number)
    (live : world.tracker.isLive registrar = true) :
    world.tracker.Enrolled id registrar number ∨
      Withdrawn (world :: past) id ⟨registrar, number⟩ := by
  induction past generalizing world phase with
  | nil =>
    cases evolution
    exact absurd holds (Session.not_holds_of_nil rfl)
  | cons earlier past ih =>
    rcases evolution.kept holds live with enrolled | ⟨live, ⟨phase, holds⟩, lost⟩
    · exact .inl enrolled
    · rcases ih evolution.tail holds live with there | withdrawn
      · exact .inr ⟨world, earlier, past, List.suffix_refl _, there, lost there⟩
      · exact .inr (withdrawn.mono (List.suffix_cons _ _))

theorem not_names_of_withdrawn {world : World H} {past : List (World H)}
    (evolution : Evolution discipline (world :: past)) {id : SessionId} {token : Token}
    (withdrawn : Withdrawn (world :: past) id token) : world.tracker.names token = false := by
  obtain ⟨after, before, rest, moment, enrolled, cancelled⟩ := withdrawn
  have sound := (evolution.inStep before (moment.subset (by simp))).sound
  exact cancelled.gone sound enrolled (evolution.grown_of_mem (moment.subset List.mem_cons_self))

/-- The stale tokens of a session are those whose subscriptions were cancelled at registrars. -/
theorem mem_staleTokens_iff {world : World H} {past : List (World H)}
    (evolution : Evolution discipline (world :: past)) {id : SessionId} {token : Token} :
    token ∈ world.tracker.staleTokens id ↔
      token ∈ world.tracker.heldTokens id ∧ Withdrawn (world :: past) id token := by
  have inStep := evolution.inStep world (by simp)
  rw [Tracker.staleTokens, List.mem_filter, and_congr_right_iff]
  intro held
  obtain ⟨live, phase, holds⟩ := inStep.mem_heldTokens_iff.mp held
  rw [Bool.not_eq_true']
  refine ⟨fun missing => ?_, evolution.not_names_of_withdrawn⟩
  rcases evolution.enrolled_or_withdrawn holds live with ⟨subscription, member, same, _⟩ | withdrawn
  · rw [inStep.names_iff.mpr ⟨subscription, member, same⟩] at missing
    cases missing
  · exact withdrawn

end Evolution

/-- In every world of a run, a session counts its subscriptions in the tables of live registrars,
and on top of them the tokens that it still holds for subscriptions cancelled at registrars. -/
theorem Client.sessionSubscriptions_accounted {α : Type} {act : Act H α} (client : Client discipline act)
    (host : H.State) {world : World H} {past : List (World H)}
    (passed : world :: past <:+ act.trail (World.initial host)) (id : SessionId) :
    world.tracker.sessionSubscriptions id =
        world.tracker.tableSubscriptions id + (world.tracker.staleTokens id).length ∧
      ∀ token, token ∈ world.tracker.staleTokens id ↔
        token ∈ world.tracker.heldTokens id ∧ Withdrawn (world :: past) id token := by
  have evolution := (client.trail_evolution host).of_suffix passed
  exact ⟨(evolution.inStep world (by simp)).sessionSubscriptions_eq id,
    fun token => evolution.mem_staleTokens_iff⟩

/-- A key is tracked, and then its registrar cancels all subscriptions. -/
def trackThenCancelAll : Act Host.plain Nat := do
  let registrar ← trackBoth
  Act.track (·.cancelAll registrar)

theorem client_trackThenCancelAll : Client Discipline.plain trackThenCancelAll :=
  client_trackBoth.bind fun registrar => .cancelAll registrar

/-- Two tokens are left over. -/
theorem Client.sessionSubscriptions_accounted_of_trackThenCancelAll :
    (trackThenCancelAll.run (World.initial ())).2.tracker.staleTokens ⟨0⟩ =
        [⟨⟨0⟩, 0⟩, ⟨⟨0⟩, 1⟩] ∧
      (trackThenCancelAll.run (World.initial ())).2.tracker.sessionSubscriptions ⟨0⟩ =
        (trackThenCancelAll.run (World.initial ())).2.tracker.tableSubscriptions ⟨0⟩ +
          ((trackThenCancelAll.run (World.initial ())).2.tracker.staleTokens ⟨0⟩).length :=
  ⟨by decide,
    (client_trackThenCancelAll.sessionSubscriptions_accounted () (List.suffix_refl _) ⟨0⟩).1⟩

/-- The session still counts two subscriptions, and the tables have none. -/
theorem sessionSubscriptions_of_trackThenCancelAll :
    (trackThenCancelAll.run (World.initial ())).2.tracker.sessionSubscriptions ⟨0⟩ = 2 ∧
      (trackThenCancelAll.run (World.initial ())).2.tracker.tableSubscriptions ⟨0⟩ = 0 := by
  decide

end ChangeTracking
