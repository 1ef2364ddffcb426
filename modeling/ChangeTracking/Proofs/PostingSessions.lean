import ChangeTracking.Counter.Tracked
import ChangeTracking.Mail
import ChangeTracking.Proofs.SessionTotals
import ChangeTracking.Proofs.TrackedReads

namespace ChangeTracking

namespace Tracker
variable {κ : Type} {tracker : Tracker κ}

/-- Who is subscribed at a registrar: sessions that wait for the first change to one of the keys, all
with the same callback. -/
structure WatchedBy (tracker : Tracker κ) (registrar : RegistrarId) (keys : List Key) (callback : κ)
    (waiting : List SessionId) : Prop where
  inStep : tracker.InStep
  live : tracker.isLive registrar = true
  perceivers : (tracker.table registrar).subscriptions.map (·.perceiver) =
    waiting.map fun id => .session id registrar .willChange
  keys : ∀ subscription ∈ (tracker.table registrar).subscriptions,
    ∀ key, key ∈ subscription.keys ↔ key ∈ keys
  callbacks : ∀ id ∈ waiting, (tracker.session id).callbacks = ⟨some callback, none⟩
  distinct : waiting.Nodup

namespace WatchedBy
variable {registrar : RegistrarId} {keys : List Key} {callback : κ} {waiting : List SessionId}

theorem created (inStep : tracker.InStep) (registrar : RegistrarId)
    (new : registrar = tracker.createRegistrar.1) (keys : List Key) (callback : κ) :
    tracker.createRegistrar.2.WatchedBy registrar keys callback [] := by
  have none : (tracker.createRegistrar.2.table registrar).subscriptions = [] := by
    have absent : ¬ registrar.index < tracker.registrars.size := by
      rw [new]
      exact Nat.lt_irrefl _
    rw [table_createRegistrar, Tracker.table, Array.getElem?_eq_none (Nat.le_of_not_lt absent)]
    rfl
  refine ⟨inStep.cleared tracker.createRegistrar_cleared, ?_, by rw [none]; rfl, ?_, ?_, .nil⟩
  · rw [isLive_createRegistrar, new]
    simp
  · intro subscription member
    rw [none] at member
    cases member
  · intro id member
    cases member

theorem mem_subscription (watched : tracker.WatchedBy registrar keys callback waiting)
    {subscription : Subscription κ}
    (member : subscription ∈ (tracker.table registrar).subscriptions) :
    ∃ id ∈ waiting, subscription.perceiver = .session id registrar .willChange ∧
      subscription.phase = .willChange := by
  have listed := List.mem_map_of_mem (f := (·.perceiver)) member
  rw [watched.perceivers] at listed
  obtain ⟨id, waits, perceiver⟩ := List.mem_map.mp listed
  obtain ⟨_, phase, _⟩ :=
    watched.inStep.owned registrar subscription member id registrar .willChange perceiver.symm
  exact ⟨id, waits, perceiver.symm, phase.symm⟩

theorem snapshot (watched : tracker.WatchedBy registrar keys callback waiting) (key : Key)
    (phase : Phase) : tracker.snapshot registrar key phase =
      if key ∈ keys ∧ phase = .willChange then waiting.map fun id => .session id registrar .willChange
      else [] := by
  rw [Tracker.snapshot, (watched.inStep.sound.tables registrar).snapshot_eq, ← watched.perceivers]
  split
  · rename_i found
    rw [List.filter_eq_self.mpr]
    intro subscription member
    obtain ⟨_, _, _, same⟩ := watched.mem_subscription member
    simp [watched.keys subscription member, same, found]
  · rename_i other
    rw [List.filter_eq_nil_iff.mpr, List.map_nil]
    intro subscription member
    obtain ⟨_, _, _, same⟩ := watched.mem_subscription member
    rw [decide_eq_true_iff, watched.keys subscription member, same]
    exact fun both => other ⟨both.1, both.2.symm⟩

theorem awaits (watched : tracker.WatchedBy registrar keys callback waiting) {id : SessionId}
    (waits : id ∈ waiting) : tracker.Awaits id .willChange := by
  have listed : .session id registrar .willChange ∈
      (tracker.table registrar).subscriptions.map (·.perceiver) := by
    rw [watched.perceivers]
    exact List.mem_map_of_mem waits
  obtain ⟨subscription, member, perceiver⟩ := List.mem_map.mp listed
  obtain ⟨_, phase, holds, _⟩ :=
    watched.inStep.owned registrar subscription member id registrar .willChange perceiver
  rw [← phase] at holds
  exact (watched.inStep.sessions id).waits_of_holds holds

private theorem filtered {after : Tracker κ}
    (watched : tracker.WatchedBy registrar keys callback waiting) (inStep : after.InStep)
    (live : after.isLive registrar = tracker.isLive registrar) {gone : Perceiver κ → Bool}
    (left : (after.table registrar).subscriptions =
      (tracker.table registrar).subscriptions.filter fun subscription =>
        !gone subscription.perceiver)
    {id : SessionId} (mine : ∀ other, gone (.session other registrar .willChange) = decide (other = id))
    (sessions : ∀ other, other ≠ id → after.session other = tracker.session other) :
    after.WatchedBy registrar keys callback (waiting.filter (· ≠ id)) where
  inStep := inStep
  live := live.trans watched.live
  perceivers := by
    have split : ((tracker.table registrar).subscriptions.filter fun subscription =>
        !gone subscription.perceiver).map (·.perceiver) =
        ((tracker.table registrar).subscriptions.map (·.perceiver)).filter (!gone ·) := by
      rw [List.filter_map]
      rfl
    rw [left, split, watched.perceivers, List.filter_map]
    congr 2
    funext other
    simp [mine]
  keys subscription member := by
    rw [left] at member
    exact watched.keys subscription (List.mem_of_mem_filter member)
  callbacks other member := by
    obtain ⟨waits, different⟩ := List.mem_filter.mp member
    rw [sessions other (of_decide_eq_true different)]
    exact watched.callbacks other waits
  distinct := watched.distinct.filter _

theorem fire {id : SessionId} {rest : List SessionId}
    (watched : tracker.WatchedBy registrar keys callback (id :: rest)) (event : ChangeEvent)
    (phase : event.phase = .willChange) :
    ∃ firing, tracker.fire? id event = some firing ∧ firing.callback = callback ∧
      firing.tracker.WatchedBy registrar keys callback rest := by
  rcases due : tracker.fire? id event with _ | firing
  · have awaits := watched.awaits List.mem_cons_self
    rw [← phase] at awaits
    exact absurd awaits (fire?_eq_none_iff.mp due)
  · have fired := of_fire? due
    have mine : some callback = some firing.callback := by
      rw [← fired.callback, watched.callbacks id List.mem_cons_self, phase]
      rfl
    have others : (id :: rest).filter (· ≠ id) = rest := by
      rw [List.filter_cons_of_neg (by simp), List.filter_eq_self]
      rintro other member
      have different : other ≠ id := fun same =>
        (List.nodup_cons.mp watched.distinct).1 (same ▸ member)
      simpa using different
    refine ⟨firing, rfl, (Option.some.inj mine).symm, others ▸ ?_⟩
    refine watched.filtered (watched.inStep.fire fired) (watched.inStep.isLive_fire fired registrar)
      (watched.inStep.subscriptions_fire fired registrar) ?_ ?_
    · intro other
      simp [Perceiver.isFor, phase]
    · intro other different
      rw [fired.session, if_neg different]

theorem cancelSession {id : SessionId} {report : TraceEvent} {after : Tracker κ}
    (watched : tracker.WatchedBy registrar keys callback waiting)
    (ended : tracker.CancelledBy id report after) :
    after.WatchedBy registrar keys callback (waiting.filter (· ≠ id)) := by
  refine watched.filtered (watched.inStep.cancelSession ended)
    (watched.inStep.isLive_cancelSession ended registrar)
    (watched.inStep.subscriptions_cancelSession ended registrar) (fun _ => rfl) ?_
  intro other different
  rw [ended.session, if_neg different]

theorem tracked {H : Host} {world : World H} {callback : H.Callback}
    (watched : world.tracker.WatchedBy registrar keys callback waiting) (nonempty : keys ≠ []) :
    (world.tracked (keys.map fun key => (registrar, key)) callback).tracker.WatchedBy registrar keys
      callback (waiting ++ [⟨world.tracker.sessions.size⟩]) := by
  have old : ∀ id ∈ waiting, id.index ≠ world.tracker.sessions.size := fun id waits =>
    Nat.ne_of_lt (watched.awaits waits).index_lt
  have read : registrar ∈ (keys.map fun key => (registrar, key)).map (·.1) := by
    simpa using nonempty
  have subscriptions := World.subscriptions_tracked (keys.map fun key => (registrar, key)) callback
    watched.inStep watched.live
  rw [if_pos read] at subscriptions
  refine ⟨World.inStep_tracked _ _ watched.inStep, ?_, ?_, ?_, ?_, ?_⟩
  · rw [World.isLive_tracked _ _ watched.inStep]
    exact watched.live
  · rw [subscriptions, List.map_append, watched.perceivers, List.map_append]
    rfl
  · intro subscription member key
    rw [subscriptions] at member
    rcases List.mem_append.mp member with before | new
    · exact watched.keys subscription before key
    · rw [List.mem_singleton.mp new]
      refine AccessList.mem_keys_ofReads.trans ?_
      simp
  · intro id member
    rcases List.mem_append.mp member with before | new
    · rw [World.session_tracked_of_ne _ _ (old id before)]
      exact watched.callbacks id before
    · rw [List.mem_singleton.mp new]
      exact (World.session_tracked ..).2
  · refine List.nodup_append.mpr ⟨watched.distinct, List.nodup_singleton _, ?_⟩
    rintro id waits _ new rfl
    exact old id waits (congrArg SessionId.index (List.mem_singleton.mp new))

theorem isLast {id : SessionId} (watched : tracker.WatchedBy registrar keys callback waiting)
    (waits : id ∈ waiting) : (tracker.session id).isLast .willChange = true := by
  rw [Session.isLast, watched.callbacks id waits]
  rfl

end WatchedBy

/-- Some sessions have fired, and nothing else has happened to sessions. -/
structure AllFired (before after : Tracker κ) (told : List SessionId) : Prop where
  size : after.sessions.size = before.sessions.size
  fired : ∀ id ∈ told, (after.session id).status = .fired
  others : ∀ id, id ∉ told → after.session id = before.session id
  totals : after.totals = { before.totals with fired := before.totals.fired + told.length }

theorem AllFired.nobody (tracker : Tracker κ) : tracker.AllFired tracker [] where
  size := rfl
  fired _ member := by cases member
  others _ _ := rfl
  totals := rfl

theorem FiredBy.allFired {before after : Tracker κ} {id : SessionId} {event : ChangeEvent}
    {firing : Firing κ} {rest : List SessionId} (fired : before.FiredBy id event firing)
    (last : (before.session id).isLast event.phase = true) (apart : id ∉ rest)
    (others : firing.tracker.AllFired after rest) : before.AllFired after (id :: rest) where
  size := others.size.trans fired.size
  fired other member := by
    rcases List.mem_cons.mp member with rfl | later
    · rw [others.others other apart, fired.session, if_pos rfl]
      exact if_pos last
    · exact others.fired other later
  others other absent := by
    obtain ⟨different, absent⟩ := not_or.mp (List.mem_cons.not.mp absent)
    rw [others.others other absent, fired.session, if_neg different]
  totals := by
    rw [others.totals, fired.totals, if_pos last, List.length_cons, Nat.add_assoc,
      Nat.add_comm 1]

/-- One more session has been created and installed, and nothing else has happened to sessions. -/
structure Opened (before after : Tracker κ) : Prop where
  size : after.sessions.size = before.sessions.size + 1
  others : ∀ id, id.index < before.sessions.size → after.session id = before.session id
  totals : after.totals = { before.totals with installed := before.totals.installed + 1 }

end Tracker

variable {H : Host} {world : World H}

theorem World.opened_tracked (inStep : world.tracker.InStep) {reads : List Read} {read : Read}
    (member : read ∈ reads) (live : world.tracker.isLive read.1 = true) (callback : H.Callback) :
    world.tracker.Opened (world.tracked reads callback).tracker where
  size := World.size_tracked reads callback
  others id earlier := World.session_tracked_of_ne reads callback (Nat.ne_of_lt earlier)
  totals := by
    have touched : read.1 ∈ (AccessList.ofReads reads).registrars :=
      AccessList.mem_registrars_ofReads.mpr (List.mem_map_of_mem member)
    obtain ⟨entry, listed, same⟩ := List.mem_map.mp touched
    have given : (⟨some callback, none⟩ : PerPhase H.Callback).isEmpty = false := rfl
    have subscribed := (Tracker.countTokens_givenTo_pos_iff
      (inStep.createSession (.ofReads reads)).sound ⟨world.tracker.sessions.size⟩ given
      (AccessList.ofReads reads).apart).mpr ⟨entry, listed, same ▸ live⟩
    exact (Tracker.totals_armOver _ _).trans (if_pos subscribed)

namespace World

def posted (world : World H) (mailbox : MailboxId) (events : List ChangeEvent) : World H :=
  { world with mailboxes := world.mailboxes.modify mailbox.index (· ++ events) }

theorem posted_nil (world : World H) (mailbox : MailboxId) : world.posted mailbox [] = world := by
  have same : world.mailboxes.modify mailbox.index (· ++ []) = world.mailboxes := by
    apply Array.ext_getElem?
    intro index
    rw [Array.getElem?_modify]
    split <;> simp
  rw [posted, same]

theorem posted_posted (world : World H) (mailbox : MailboxId) (events more : List ChangeEvent) :
    (world.posted mailbox events).posted mailbox more = world.posted mailbox (events ++ more) := by
  have same : (world.mailboxes.modify mailbox.index (· ++ events)).modify mailbox.index (· ++ more) =
      world.mailboxes.modify mailbox.index (· ++ (events ++ more)) := by
    apply Array.ext_getElem?
    intro index
    simp only [Array.getElem?_modify]
    split <;> simp [Function.comp_def]
  rw [posted, posted, posted]
  exact congrArg (fun mailboxes => { world with mailboxes }) same

end World

section Posting
variable (posting : Posting H) {mailbox : MailboxId} {registrar : RegistrarId} {keys : List Key}
  {waiting : List SessionId}

private theorem deliverAll_posting (key : Key)
    (watched : world.tracker.WatchedBy registrar keys (posting.callback mailbox) waiting) :
    ∃ tracker log, (deliverAll posting.call ⟨registrar, key, .willChange⟩
        (waiting.map fun id => .session id registrar .willChange)).run world =
      (.ok (), { world.posted mailbox
        (List.replicate waiting.length ⟨registrar, key, .willChange⟩) with tracker, log }) ∧
      tracker.WatchedBy registrar keys (posting.callback mailbox) [] ∧
      world.tracker.AllFired tracker waiting := by
  induction waiting generalizing world with
  | nil =>
    refine ⟨world.tracker, world.log, ?_, watched, .nobody _⟩
    rw [List.length_nil, List.replicate_zero, world.posted_nil]
    rfl
  | cons id rest ih =>
    obtain ⟨firing, due, mine, left⟩ := watched.fire ⟨registrar, key, .willChange⟩ rfl
    have told : (deliver posting.call ⟨registrar, key, .willChange⟩
        (.session id registrar .willChange)).run world =
          (.ok (), (world.advance (some firing.report) firing.tracker).posted mailbox
            [⟨registrar, key, .willChange⟩]) := by
      refine (run_fire_some due).trans ?_
      rw [mine, posting.call_callback]
      rfl
    obtain ⟨tracker, log, run, none, others⟩ :=
      @ih ((world.advance (some firing.report) firing.tracker).posted mailbox
        [⟨registrar, key, .willChange⟩]) left
    have fired := (Tracker.of_fire? due).allFired (watched.isLast List.mem_cons_self)
      (List.nodup_cons.mp watched.distinct).1 others
    refine ⟨tracker, log, (Act.run_bind_ok told).trans ?_, none, fired⟩
    rw [run, World.posted_posted]
    rfl

/-- A change to what is covered is posted for each session that waits, and nobody waits any more:
they have all fired. -/
theorem notify_posting (key : Key)
    (watched : world.tracker.WatchedBy registrar keys (posting.callback mailbox) waiting) :
    ∃ tracker log, (notify posting.call registrar key .willChange).run world =
      (.ok (), { world.posted mailbox (if key ∈ keys
        then List.replicate waiting.length ⟨registrar, key, .willChange⟩ else []) with
        tracker, log }) ∧
      tracker.WatchedBy registrar keys (posting.callback mailbox)
        (if key ∈ keys then [] else waiting) ∧
      world.tracker.AllFired tracker (if key ∈ keys then waiting else []) := by
  have found := watched.snapshot key .willChange
  by_cases covered : key ∈ keys
  · rw [if_pos ⟨covered, rfl⟩] at found
    have begun : (world.notified registrar key .willChange).tracker.WatchedBy registrar keys
        (posting.callback mailbox) waiting := watched
    obtain ⟨tracker, log, run, none, fired⟩ := deliverAll_posting posting key begun
    refine ⟨tracker, log, ?_, by rwa [if_pos covered], by rwa [if_pos covered]⟩
    rw [run_notify, found, run, if_pos covered]
    rfl
  · rw [if_neg fun both => covered both.1] at found
    refine ⟨world.tracker, world.log, ?_, by rwa [if_neg covered], ?_⟩
    · rw [run_notify_of_nobody found, if_neg covered, world.posted_nil]
    · rw [if_neg covered]
      exact .nobody _

/-- A write to a counter, as a mutation of a property that is observed through its registrar. -/
theorem withMutation_posting (key : Key) (id : CounterId) (change : Counter → Counter)
    (watched : world.tracker.WatchedBy registrar keys (posting.callback mailbox) waiting) :
    ∃ tracker log, (withMutation posting.call registrar key (Counter.update id change)).run world =
      (.ok (), { world.posted mailbox (if key ∈ keys
        then List.replicate waiting.length ⟨registrar, key, .willChange⟩ else []) with
        tracker, log, counters := world.counters.modify id.index change }) ∧
      tracker.WatchedBy registrar keys (posting.callback mailbox)
        (if key ∈ keys then [] else waiting) ∧
      world.tracker.AllFired tracker (if key ∈ keys then waiting else []) := by
  obtain ⟨tracker, log, first, left, fired⟩ := notify_posting posting key watched
  refine ⟨tracker, log, ?_, left, fired⟩
  have inside (middle : World H) : (Counter.update id change).attempt.run middle =
      (.ok (.ok ()), { middle with counters := middle.counters.modify id.index change }) := rfl
  rw [withMutation, Act.run_bind_ok first, Act.run_bind_ok (inside _)]
  refine Act.run_bind_ok (run_notify_of_nobody ?_)
  have nobody := left.snapshot key .didChange
  rwa [if_neg (by simp)] at nobody

end Posting
end ChangeTracking
