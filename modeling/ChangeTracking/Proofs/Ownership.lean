import ChangeTracking.Proofs.Evolution
import ChangeTracking.Proofs.ReadSets
import ChangeTracking.Proofs.SessionSteps

/-! Sessions and tables stay in step. What a session did for its phases is kept twice, as tokens
with the session and as subscriptions in the tables of registrars. Tables may lose subscriptions
behind the back of a session, but a subscription of a session is never left without its token, and
a token never names a subscription of somebody else. -/
namespace ChangeTracking

namespace Tracker
variable {κ : Type} {tracker before after : Tracker κ}

/-- What keeps sessions and tables in step. -/
structure InStep (tracker : Tracker κ) : Prop where
  sound : tracker.Sound
  sessions : ∀ id, (tracker.session id).Sound
  owned : ∀ registrar, ∀ subscription ∈ (tracker.table registrar).subscriptions,
    ∀ id source phase, subscription.perceiver = .session id source phase →
      source = registrar ∧ phase = subscription.phase ∧
        (tracker.session id).Holds registrar subscription.phase subscription.id ∧
        subscription.keys = (tracker.session id).reads.keys registrar
  issued : ∀ id registrar phase number, (tracker.session id).Holds registrar phase number →
    number < (tracker.table registrar).nextId ∧
      ∀ subscription ∈ (tracker.table registrar).subscriptions, subscription.id = number →
        subscription.perceiver = .session id registrar phase

namespace InStep

theorem empty : (∅ : Tracker κ).InStep where
  sound := .empty
  sessions _ := .cancel _
  owned _ _ member := by cases member
  issued _ _ _ _ holds := absurd holds (Session.not_holds_of_nil rfl)

private theorem of_subset (inStep : before.InStep) (sound : after.Sound)
    (sessions : ∀ id, after.session id = before.session id)
    (nextId : ∀ id, (after.table id).nextId = (before.table id).nextId)
    (fewer : ∀ id, (after.table id).subscriptions ⊆ (before.table id).subscriptions) :
    after.InStep where
  sound := sound
  sessions id := by
    rw [sessions]
    exact inStep.sessions id
  owned registrar subscription member id := by
    rw [sessions]
    exact inStep.owned registrar subscription (fewer registrar member) id
  issued id registrar phase number holds := by
    rw [sessions] at holds
    obtain ⟨below, own⟩ := inStep.issued id registrar phase number holds
    exact ⟨nextId registrar ▸ below,
      fun subscription member => own subscription (fewer registrar member)⟩

theorem cleared (inStep : before.InStep) (cleared : Cleared before after) : after.InStep := by
  refine inStep.of_subset (cleared.sound inStep.sound) ?_ cleared.nextId ?_
  · intro id
    rw [session, cleared.sessions, session]
  · intro id
    rcases cleared.tables id with same | empty
    · rw [same]
      exact List.Subset.refl _
    · rw [empty]
      exact List.nil_subset _

theorem removed (inStep : before.InStep) {cut : RegistrarId → Nat → Bool}
    (removed : Removed cut before after) : after.InStep :=
  inStep.of_subset removed.sound removed.session removed.nextId fun _ _ member =>
    (removed.mem_iff.mp member).1

private theorem issued_added (inStep : before.InStep) {new : RegistrarId → List (Subscription κ)}
    (added : Added new before after) {id : SessionId} {registrar : RegistrarId} {phase : Phase}
    {number : Nat} (holds : (before.session id).Holds registrar phase number) :
    number < (after.table registrar).nextId ∧
      ∀ subscription ∈ (after.table registrar).subscriptions, subscription.id = number →
        subscription.perceiver = .session id registrar phase := by
  obtain ⟨below, own⟩ := inStep.issued id registrar phase number holds
  refine ⟨by rw [added.nextId]; omega, ?_⟩
  intro subscription member same
  rw [added.subscriptions] at member
  rcases List.mem_append.mp member with old | new
  · exact own subscription old same
  · have fresh := added.fresh registrar subscription new
    omega

theorem register (inStep : tracker.InStep) (id : RegistrarId) (keys : KeySet) (phase : Phase)
    (callback : κ) : (tracker.register id keys phase (.direct callback)).2.InStep := by
  by_cases live : tracker.isLive id = true
  · have added := register_added inStep.sound live keys phase (.direct callback)
    refine ⟨added.sound, ?_, ?_, ?_⟩
    · intro other
      rw [added.session]
      exact inStep.sessions other
    · intro registrar subscription member other
      rw [added.session]
      rw [added.subscriptions] at member
      rcases List.mem_append.mp member with old | new
      · exact inStep.owned registrar subscription old other
      · split at new
        · obtain rfl := List.mem_singleton.mp new
          simp
        · cases new
    · intro other registrar phase number holds
      rw [added.session] at holds
      exact inStep.issued_added added holds
  · rw [register_of_gone (by simpa using live)]
    exact inStep

private theorem not_holds_of_next (reads : AccessList) {registrar : RegistrarId} {phase : Phase}
    {number : Nat} :
    ¬ (tracker.session (tracker.createSession reads).1).Holds registrar phase number := by
  have fresh : tracker.session (tracker.createSession reads).1 = (Session.create ∅).cancel :=
    session_of_absent tracker (Nat.lt_irrefl _)
  rw [fresh]
  exact Session.not_holds_of_nil rfl

theorem holds_createSession_iff (reads : AccessList) {id : SessionId} {registrar : RegistrarId}
    {phase : Phase} {number : Nat} :
    ((tracker.createSession reads).2.session id).Holds registrar phase number ↔
      (tracker.session id).Holds registrar phase number := by
  rw [session_createSession]
  split
  · rename_i same
    rw [same]
    exact iff_of_false (Session.not_holds_of_nil rfl) (not_holds_of_next reads)
  · rfl

theorem createSession (inStep : tracker.InStep) (reads : AccessList) :
    (tracker.createSession reads).2.InStep := by
  refine ⟨⟨inStep.sound.tables, inStep.sound.gone⟩, ?_, ?_, fun id registrar phase number held =>
    inStep.issued id registrar phase number ((holds_createSession_iff reads).mp held)⟩
  · intro id
    rw [session_createSession]
    split
    · exact .create reads
    · exact inStep.sessions id
  · intro registrar subscription member id source phase perceiver
    obtain ⟨here, wanted, held, keys⟩ :=
      inStep.owned registrar subscription member id source phase perceiver
    refine ⟨here, wanted, (holds_createSession_iff reads).mpr held, ?_⟩
    rw [session_createSession, if_neg, keys]
    rintro rfl
    exact not_holds_of_next reads held

private theorem giveUp (inStep : tracker.InStep) {id : SessionId}
    (running : (tracker.session id).status ≠ .cancelled) {session : Session κ}
    {spent : List Installation} (sound : session.Sound)
    (reads : session.reads = (tracker.session id).reads)
    (held : ∀ registrar phase number, session.Holds registrar phase number →
      (tracker.session id).Holds registrar phase number)
    (kept : ∀ registrar phase number, (tracker.session id).Holds registrar phase number →
      heldBy spent registrar number = false → session.Holds registrar phase number) :
    ((tracker.setSession id session).tearDown spent).2.InStep := by
  have written (other : SessionId) : ((tracker.setSession id session).tearDown spent).2.session other =
      if other = id then session else tracker.session other := by
    rw [Tracker.session, (untouched_tearDown ..).1, ← Tracker.session, session_setSession]
    simp [index_lt_of_status running]
  have before : (tracker.setSession id session).Sound :=
    ⟨inStep.sound.tables, inStep.sound.gone⟩
  have removed := tearDown_removed before spent
  refine ⟨removed.sound, ?_, ?_, ?_⟩
  · intro other
    rw [written]
    split
    · exact sound
    · exact inStep.sessions other
  · intro registrar subscription member other source phase perceiver
    obtain ⟨member, left⟩ := removed.mem_iff.mp member
    obtain ⟨here, wanted, holds, keys⟩ :=
      inStep.owned registrar subscription member other source phase perceiver
    refine ⟨here, wanted, ?_⟩
    rw [written]
    split
    · rename_i same
      subst same
      exact ⟨kept _ _ _ holds left, reads ▸ keys⟩
    · exact ⟨holds, keys⟩
  · intro other registrar phase number holds
    have earlier : (tracker.session other).Holds registrar phase number := by
      rw [written] at holds
      split at holds
      · rename_i same
        subst same
        exact held _ _ _ holds
      · exact holds
    obtain ⟨below, own⟩ := inStep.issued other registrar phase number earlier
    refine ⟨?_, fun subscription member => own subscription (removed.mem_iff.mp member).1⟩
    rw [removed.nextId]
    exact below

private theorem withTotals (inStep : tracker.InStep) (totals : Totals) :
    ({ tracker with totals } : Tracker κ).InStep where
  sound := ⟨inStep.sound.tables, inStep.sound.gone⟩
  sessions := inStep.sessions
  owned := inStep.owned
  issued := inStep.issued

theorem fire (inStep : tracker.InStep) {id : SessionId} {event : ChangeEvent}
    {firing : Firing κ} (fired : tracker.FiredBy id event firing) : firing.tracker.InStep := by
  have sound := inStep.sessions id
  obtain ⟨totals, left⟩ := fired.tracker
  rw [left]
  refine withTotals (inStep.giveUp (by simp [fired.installed]) (sound.fire event) rfl ?_ ?_) totals
  · exact fun registrar phase number holds => ((sound.holds_fire_iff event).mp holds).1
  · intro registrar phase number holds left
    refine (sound.holds_fire_iff event).mpr ⟨holds, ?_⟩
    rintro rfl
    rw [sound.heldBy_spent_iff.mpr holds] at left
    cases left

theorem cancelSession (inStep : tracker.InStep) {id : SessionId} {report : TraceEvent}
    (ended : tracker.CancelledBy id report after) : after.InStep := by
  obtain ⟨totals, left⟩ := ended.tracker
  rw [left]
  refine withTotals (inStep.giveUp ended.not_cancelled (.cancel _) rfl ?_ ?_) totals
  · exact fun registrar phase number holds => absurd holds (Session.not_holds_of_nil rfl)
  · intro registrar phase number holds left
    rw [Session.heldBy_installed_iff.mpr ⟨phase, holds⟩] at left
    cases left

theorem mem_of_holds_armOver (inStep : tracker.InStep) {id : SessionId}
    (pending : (tracker.session id).status = .pending) (callbacks : PerPhase κ)
    {registrar : RegistrarId} {phase : Phase} {number : Nat}
    (holds : ((tracker.armOver id callbacks (tracker.session id).reads.entries).2.session id).Holds
      registrar phase number) : ∃ read ∈ (tracker.session id).reads.entries,
      read.registrar = registrar ∧ ownSubscription id read phase number ∈
        ((tracker.armOver id callbacks
          (tracker.session id).reads.entries).2.table registrar).subscriptions := by
  obtain ⟨entries, added⟩ :=
    installEntries_added inStep.sound id callbacks (tracker.session id).reads.apart
  rw [session_armOver pending, if_pos rfl, givenTo, entries] at holds
  obtain ⟨entry, member, rfl, found⟩ := holds
  obtain ⟨read, present, rfl⟩ := List.mem_map.mp member
  obtain ⟨listed, live⟩ := List.mem_filter.mp present
  obtain ⟨_, _, _, made⟩ := of_find?_ownTokens id found
  refine ⟨read, listed, rfl, ?_⟩
  rw [table_armOver, added.subscriptions]
  refine List.mem_append_right _ (List.mem_flatMap.mpr ⟨read, ?_, made⟩)
  exact List.mem_filter.mpr ⟨listed, by simpa using live⟩

/-- A session that is armed holds what was subscribed on its behalf, and nothing else. -/
theorem arm (inStep : tracker.InStep) {id : SessionId}
    (pending : (tracker.session id).status = .pending) {callbacks : PerPhase κ}
    (given : callbacks.isEmpty = false) :
    (tracker.armOver id callbacks (tracker.session id).reads.entries).2.InStep := by
  have idle := (inStep.sessions id).idle (by simp [pending])
  obtain ⟨entries, added⟩ :=
    installEntries_added inStep.sound id callbacks (tracker.session id).reads.apart
  have sessions := session_armOver pending callbacks (tracker.session id).reads.entries
  rw [givenTo, entries] at sessions
  refine ⟨⟨added.sound.tables, added.sound.gone⟩, ?_, ?_, ?_⟩
  · intro other
    rw [sessions]
    split
    · exact .arm _ given ((tracker.session id).reads.apart.filter _) _
    · exact inStep.sessions other
  · intro registrar subscription member other source phase perceiver
    rw [table_armOver, added.subscriptions] at member
    rw [sessions]
    rcases List.mem_append.mp member with old | new
    · obtain ⟨here, wanted, holds, keys⟩ :=
        inStep.owned registrar subscription old other source phase perceiver
      rw [if_neg]
      · exact ⟨here, wanted, holds, keys⟩
      · rintro rfl
        exact Session.not_holds_of_nil idle.2 holds
    · obtain ⟨read, present, made⟩ := List.mem_flatMap.mp new
      obtain ⟨listed, live⟩ := List.mem_filter.mp present
      obtain ⟨live, rfl⟩ := of_decide_eq_true live
      obtain ⟨keys, own, _, token⟩ := of_mem_ownSubscriptions made
      rw [own] at perceiver
      cases perceiver
      refine ⟨rfl, rfl, ?_⟩
      rw [if_pos rfl]
      refine ⟨⟨_, List.mem_map.mpr ⟨read, List.mem_filter.mpr ⟨listed, live⟩, rfl⟩, rfl, token⟩, ?_⟩
      exact keys.trans (AccessList.keys_of_mem listed).symm
  · intro other registrar phase number holds
    by_cases same : other = id
    · subst same
      obtain ⟨read, _, rfl, there⟩ := inStep.mem_of_holds_armOver pending callbacks holds
      rw [table_armOver] at there
      refine ⟨(added.sound.tables _).bounded _ there, ?_⟩
      intro subscription member same
      rw [(added.sound.tables _).eq_of_id member there same]
      rfl
    · rw [sessions, if_neg same] at holds
      exact inStep.issued_added added holds

end InStep
end Tracker

namespace Perceiver
variable {κ : Type}

def isOf (id : SessionId) : Perceiver κ → Bool
  | .direct _ => false
  | .session other .. => other = id

def isFor (id : SessionId) (phase : Phase) : Perceiver κ → Bool
  | .direct _ => false
  | .session other _ wanted => other = id ∧ wanted = phase

theorem isOf_iff {perceiver : Perceiver κ} {id : SessionId} :
    perceiver.isOf id = true ↔ ∃ phase, perceiver.isFor id phase = true := by
  cases perceiver <;> simp [isOf, isFor]

theorem isFor_of_ne {perceiver : Perceiver κ} {id : SessionId} {phase other : Phase}
    (different : other ≠ phase) (mine : perceiver.isFor id other = true) :
    perceiver.isFor id phase = false := by
  cases perceiver with
  | direct callback => cases mine
  | session owner registrar wanted =>
    obtain ⟨_, rfl⟩ := of_decide_eq_true mine
    exact decide_eq_false fun both => different both.2

end Perceiver

namespace Tracker.InStep
variable {κ : Type} {tracker after : Tracker κ} {id : SessionId}

theorem holds_iff (inStep : tracker.InStep) {registrar : RegistrarId}
    {subscription : Subscription κ}
    (member : subscription ∈ (tracker.table registrar).subscriptions) {phase : Phase} :
    (tracker.session id).Holds registrar phase subscription.id ↔
      subscription.perceiver.isFor id phase = true := by
  constructor
  · intro holds
    rw [(inStep.issued id registrar phase _ holds).2 subscription member rfl]
    simp [Perceiver.isFor]
  · intro mine
    rcases perceiver : subscription.perceiver with callback | ⟨other, source, wanted⟩
    · rw [perceiver] at mine
      cases mine
    · rw [perceiver] at mine
      obtain ⟨rfl, rfl⟩ := of_decide_eq_true mine
      obtain ⟨_, rfl, holds, _⟩ :=
        inStep.owned registrar subscription member other source wanted perceiver
      exact holds

theorem absent_of_idle (inStep : tracker.InStep)
    (idle : (tracker.session id).status ≠ .installed) {registrar : RegistrarId}
    {subscription : Subscription κ}
    (member : subscription ∈ (tracker.table registrar).subscriptions) :
    subscription.perceiver.isOf id = false := by
  rw [Bool.eq_false_iff]
  intro mine
  obtain ⟨phase, wanted⟩ := Perceiver.isOf_iff.mp mine
  have holds := (inStep.holds_iff member).mpr wanted
  exact Session.not_holds_of_nil ((inStep.sessions id).idle idle).2 holds

theorem eq_of_mem_snapshot (inStep : tracker.InStep) {registrar source : RegistrarId} {key : Key}
    {phase wanted : Phase}
    (reached : .session id source wanted ∈ tracker.snapshot registrar key phase) :
    source = registrar ∧ wanted = phase := by
  obtain ⟨subscription, subscribed, _, same, own⟩ :=
    (inStep.sound.tables registrar).mem_snapshot_iff.mp reached
  obtain ⟨here, mine, _⟩ := inStep.owned registrar subscription subscribed id source wanted own
  exact ⟨here, mine.trans same⟩

/-- A session that a notification reaches waits for it. -/
theorem awaits_of_mem_snapshot (inStep : tracker.InStep) {registrar source : RegistrarId} {key : Key}
    {phase wanted : Phase}
    (reached : .session id source wanted ∈ tracker.snapshot registrar key phase) :
    tracker.Awaits id phase := by
  obtain ⟨subscription, subscribed, _, rfl, own⟩ :=
    (inStep.sound.tables registrar).mem_snapshot_iff.mp reached
  obtain ⟨_, _, holds, _⟩ := inStep.owned registrar subscription subscribed id source wanted own
  exact (inStep.sessions id).waits_of_holds holds

private theorem subscriptions_tearDown (inStep : tracker.InStep) (session : Session κ)
    {spent : List Installation} {mine : Perceiver κ → Bool}
    (held : ∀ registrar, ∀ subscription ∈ (tracker.table registrar).subscriptions,
      heldBy spent registrar subscription.id = mine subscription.perceiver)
    (registrar : RegistrarId) :
    (((tracker.setSession id session).tearDown spent).2.table registrar).subscriptions =
      (tracker.table registrar).subscriptions.filter fun subscription =>
        !mine subscription.perceiver := by
  have before : (tracker.setSession id session).Sound :=
    ⟨inStep.sound.tables, inStep.sound.gone⟩
  rw [(tearDown_removed before spent).subscriptions]
  exact List.filter_congr fun subscription member => by rw [held registrar subscription member]

theorem subscriptions_fire (inStep : tracker.InStep) {event : ChangeEvent} {firing : Firing κ}
    (fired : tracker.FiredBy id event firing) (registrar : RegistrarId) :
    (firing.tracker.table registrar).subscriptions =
      (tracker.table registrar).subscriptions.filter fun subscription =>
        !subscription.perceiver.isFor id event.phase := by
  obtain ⟨totals, left⟩ := fired.tracker
  rw [left]
  refine inStep.subscriptions_tearDown _ ?_ registrar
  intro registrar subscription member
  rw [Bool.eq_iff_iff, (inStep.sessions id).heldBy_spent_iff, inStep.holds_iff member]

private theorem isLive_tearDown (inStep : tracker.InStep) (session : Session κ)
    (spent : List Installation) (registrar : RegistrarId) :
    ((tracker.setSession id session).tearDown spent).2.isLive registrar =
      tracker.isLive registrar := by
  have before : (tracker.setSession id session).Sound := ⟨inStep.sound.tables, inStep.sound.gone⟩
  exact (tearDown_removed before spent).isLive registrar

theorem isLive_fire (inStep : tracker.InStep) {event : ChangeEvent} {firing : Firing κ}
    (fired : tracker.FiredBy id event firing) (registrar : RegistrarId) :
    firing.tracker.isLive registrar = tracker.isLive registrar := by
  obtain ⟨totals, left⟩ := fired.tracker
  rw [left]
  exact inStep.isLive_tearDown _ _ registrar

theorem isLive_cancelSession (inStep : tracker.InStep) {report : TraceEvent}
    (ended : tracker.CancelledBy id report after) (registrar : RegistrarId) :
    after.isLive registrar = tracker.isLive registrar := by
  obtain ⟨totals, left⟩ := ended.tracker
  rw [left]
  exact inStep.isLive_tearDown _ _ registrar

theorem subscriptions_cancelSession (inStep : tracker.InStep) {report : TraceEvent}
    (ended : tracker.CancelledBy id report after) (registrar : RegistrarId) :
    (after.table registrar).subscriptions =
      (tracker.table registrar).subscriptions.filter fun subscription =>
        !subscription.perceiver.isOf id := by
  obtain ⟨totals, left⟩ := ended.tracker
  rw [left]
  refine inStep.subscriptions_tearDown _ ?_ registrar
  intro registrar subscription member
  rw [Bool.eq_iff_iff, Session.heldBy_installed_iff, Perceiver.isOf_iff]
  exact exists_congr fun phase => inStep.holds_iff member

end Tracker.InStep

variable {H : Host} {discipline : Discipline H}

theorem Move.inStep {past : List (World H)} {world after : World H}
    (move : Move discipline past world after) (inStep : world.tracker.InStep) :
    after.tracker.InStep := by
  cases move with
  | own own => rw [own.1]; exact inStep
  | thread => exact inStep
  | createRegistrar => exact inStep.cleared world.tracker.createRegistrar_cleared
  | retain id => exact inStep.cleared (world.tracker.retain_cleared id)
  | release id => exact inStep.cleared (world.tracker.release_cleared id)
  | register id keys phase => exact inStep.register id keys phase _
  | cancel id token => exact inStep.removed (Tracker.cancel_removed inStep.sound id token)
  | cancelAll id => exact inStep.cleared (world.tracker.cancelAll_cleared id)
  | createSession reads => exact inStep.createSession reads
  | arm pending given => exact inStep.arm pending given
  | cancelSession ended => exact inStep.cancelSession (Tracker.of_cancelSession? ended)
  | notified => exact inStep
  | call => exact inStep

theorem Evolution.inStep {worlds : List (World H)} (evolution : Evolution discipline worlds) :
    ∀ world ∈ worlds, world.tracker.InStep := by
  induction evolution with
  | start => simpa [World.initial] using Tracker.InStep.empty
  | move before _ move ih =>
    exact List.forall_mem_cons.mpr ⟨move.inStep (ih _ (by simp)), ih⟩
  | fire before _ _ due ih =>
    exact List.forall_mem_cons.mpr ⟨(ih _ (by simp)).fire (Tracker.of_fire? due), ih⟩
  | call before due ih =>
    exact List.forall_mem_cons.mpr ⟨(List.forall_mem_cons.mp ih).1, ih⟩

namespace Tracker
variable {κ : Type} {tracker : Tracker κ}

/-- To whom the subscriptions of sessions belong. -/
structure Ownership (tracker : Tracker κ) : Prop where
  /-- The session of a subscription is installed, has the callback for its phase left and holds
  its token, and no other session holds that. -/
  owner : ∀ registrar, ∀ subscription ∈ (tracker.table registrar).subscriptions,
    ∀ id source phase, subscription.perceiver = .session id source phase →
      source = registrar ∧ phase = subscription.phase ∧
        (tracker.session id).status = .installed ∧
        ((tracker.session id).callbacks.find? subscription.phase).isSome = true ∧
        (tracker.session id).Holds registrar subscription.phase subscription.id ∧
        ∀ other phase, (tracker.session other).Holds registrar phase subscription.id → other = id
  keys : ∀ registrar, ∀ subscription ∈ (tracker.table registrar).subscriptions,
    ∀ id source phase, subscription.perceiver = .session id source phase →
      ∀ key, key ∈ subscription.keys ↔ (tracker.session id).reads.contains registrar key = true
  single : ∀ registrar, ∀ left ∈ (tracker.table registrar).subscriptions,
    ∀ right ∈ (tracker.table registrar).subscriptions, ∀ id source other phase,
      left.perceiver = .session id source phase → right.perceiver = .session id other phase →
        left = right
  idle : ∀ id, (tracker.session id).status ≠ .installed → ∀ registrar,
    ∀ subscription ∈ (tracker.table registrar).subscriptions, ∀ source phase,
      subscription.perceiver ≠ .session id source phase

theorem InStep.owns (inStep : tracker.InStep) : tracker.Ownership where
  owner registrar subscription member id source phase perceiver := by
    obtain ⟨here, wanted, holds, _⟩ :=
      inStep.owned registrar subscription member id source phase perceiver
    obtain ⟨installed, waits⟩ := (inStep.sessions id).waits_of_holds holds
    refine ⟨here, wanted, installed, waits, holds, ?_⟩
    intro other phase holds
    have own := (inStep.issued other registrar phase _ holds).2 subscription member rfl
    rw [perceiver] at own
    cases own
    rfl
  keys registrar subscription member id source phase perceiver key := by
    obtain ⟨_, _, _, keys⟩ := inStep.owned registrar subscription member id source phase perceiver
    rw [keys, AccessList.contains, decide_eq_true_eq]
  single registrar left leftMember right rightMember id source other phase first second := by
    obtain ⟨_, leftPhase, leftHolds, _⟩ := inStep.owned registrar left leftMember id _ _ first
    obtain ⟨_, rightPhase, rightHolds, _⟩ := inStep.owned registrar right rightMember id _ _ second
    rw [← leftPhase] at leftHolds
    rw [← rightPhase] at rightHolds
    have same := (inStep.sessions id).holds_unique leftHolds rightHolds
    exact (inStep.sound.tables registrar).eq_of_id leftMember rightMember same
  idle id ended registrar subscription member source phase perceiver := by
    obtain ⟨_, _, holds, _⟩ := inStep.owned registrar subscription member id source phase perceiver
    exact ended ((inStep.sessions id).waits_of_holds holds).1

end Tracker

/-- In every world that a client passes through, each subscription of a session belongs to it. -/
theorem Client.ownership {α : Type} {act : Act H α} (client : Client discipline act)
    (host : H.State) {world : World H} (passed : world ∈ act.trail (World.initial host)) :
    world.tracker.Ownership :=
  ((client.trail_evolution host).inStep world passed).owns

/-- Both subscriptions of a session that tracks one key belong to it. -/
theorem Client.ownership_of_trackBoth :
    (trackBoth.run (World.initial ())).2.tracker.subscriptionCount ⟨0⟩ = 2 ∧
      (trackBoth.run (World.initial ())).2.tracker.Ownership :=
  ⟨by decide, client_trackBoth.ownership () List.mem_cons_self⟩

end ChangeTracking
