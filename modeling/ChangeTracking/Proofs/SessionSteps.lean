import ChangeTracking.Proofs.ReadSets
import ChangeTracking.Proofs.SessionTables

namespace ChangeTracking

namespace Session
variable {κ : Type} {session : Session κ} {registrar : RegistrarId} {phase : Phase} {number : Nat}

/-- A session holds a subscription for a phase if it has its token at that registrar. -/
def Holds (session : Session κ) (registrar : RegistrarId) (phase : Phase) (number : Nat) : Prop :=
  ∃ entry ∈ session.installed, entry.registrar = registrar ∧
    entry.tokens.find? phase = some ⟨registrar, number⟩

theorem not_holds_of_nil (none : session.installed = []) :
    ¬ session.Holds registrar phase number := by
  rintro ⟨entry, member, _⟩
  rw [none] at member
  cases member

/-- What is right of every session by itself: callbacks and tokens are there only while it waits,
and then each installation has tokens for just those phases whose callbacks are left. -/
structure Sound (session : Session κ) : Prop where
  idle : session.status ≠ .installed → session.callbacks = ∅ ∧ session.installed = []
  waiting : session.status = .installed → session.callbacks.isEmpty = false
  apart : session.installed.Pairwise fun left right => left.registrar ≠ right.registrar
  tokens : ∀ entry ∈ session.installed, ∀ phase,
    (entry.tokens.find? phase).isSome = (session.callbacks.find? phase).isSome
  own : ∀ entry ∈ session.installed, ∀ phase token, entry.tokens.find? phase = some token →
    token.registrar = entry.registrar

theorem Sound.create (reads : AccessList) : (Session.create reads : Session κ).Sound where
  idle _ := ⟨rfl, rfl⟩
  waiting installed := by cases installed
  apart := .nil
  tokens _ member := by cases member
  own _ member := by cases member

theorem Sound.cancel (session : Session κ) : session.cancel.Sound where
  idle _ := ⟨rfl, rfl⟩
  waiting installed := by cases installed
  apart := .nil
  tokens _ member := by cases member
  own _ member := by cases member

/-- A session is armed with tokens for each phase that is wanted, registrar by registrar. -/
theorem Sound.arm (session : Session κ) {callbacks : PerPhase κ}
    (given : callbacks.isEmpty = false) {reads : List AccessEntry}
    (apart : reads.Pairwise fun left right => left.registrar ≠ right.registrar)
    (next : AccessEntry → Nat) :
    (session.arm callbacks (reads.map fun read =>
      ⟨read.registrar, Tracker.ownTokens callbacks read.registrar (next read)⟩)).Sound where
  idle other := absurd rfl other
  waiting _ := given
  apart := List.pairwise_map.mpr apart
  tokens entry member phase := by
    obtain ⟨read, _, rfl⟩ := List.mem_map.mp member
    exact Tracker.find?_ownTokens_isSome ..
  own entry member phase token found := by
    obtain ⟨read, _, rfl⟩ := List.mem_map.mp member
    exact (Tracker.of_find?_ownTokens ⟨0⟩ found).1

theorem Sound.holds_unique (sound : session.Sound) {left right : Nat}
    (first : session.Holds registrar phase left) (second : session.Holds registrar phase right) :
    left = right := by
  obtain ⟨entry, member, rfl, found⟩ := first
  obtain ⟨other, otherMember, same, otherFound⟩ := second
  have equal : entry = other :=
    List.inj_on_of_nodup_map (List.pairwise_map.mpr sound.apart) member otherMember same.symm
  subst equal
  rw [found] at otherFound
  cases otherFound
  rfl

theorem Sound.waits_of_holds (sound : session.Sound) (holds : session.Holds registrar phase number) :
    session.status = .installed ∧ (session.callbacks.find? phase).isSome = true := by
  obtain ⟨entry, member, _, found⟩ := holds
  constructor
  · by_contra other
    rw [(sound.idle other).2] at member
    cases member
  · rw [← sound.tokens entry member, found]
    rfl

theorem phase_of_isLast (last : session.isLast phase = true) {other : Phase}
    (found : (session.callbacks.find? other).isSome = true) : other = phase := by
  have absent := (PerPhase.isEmpty_iff _).mp last other
  rw [PerPhase.find?_erase] at absent
  by_contra different
  rw [if_neg different] at absent
  rw [absent] at found
  cases found

private theorem mem_withoutPhase {installed : List Installation} {entry : Installation} :
    entry ∈ withoutPhase phase installed ↔
      ∃ old ∈ installed, entry = ⟨old.registrar, old.tokens.erase phase⟩ := by
  simp [withoutPhase, eq_comm]

theorem Sound.fire (sound : session.Sound) (event : ChangeEvent) : (session.fire event).Sound := by
  by_cases last : session.isLast event.phase = true
  · refine ⟨fun _ => ⟨?_, by simp [Session.fire, last]⟩, by simp [Session.fire, last],
      by simp [Session.fire, last], by simp [Session.fire, last], by simp [Session.fire, last]⟩
    have absent := (PerPhase.isEmpty_iff _).mp last
    have will : (session.callbacks.erase event.phase).willChange = none := absent .willChange
    have did : (session.callbacks.erase event.phase).didChange = none := absent .didChange
    exact congrArg₂ PerPhase.mk will did
  · refine ⟨by simp [Session.fire, last], fun _ => eq_false_of_ne_true last, ?_, ?_, ?_⟩
    · simp only [Session.fire, last, Bool.false_eq_true, if_false, withoutPhase]
      exact List.pairwise_map.mpr sound.apart
    · simp only [Session.fire, last, Bool.false_eq_true, if_false]
      intro entry member other
      obtain ⟨old, present, rfl⟩ := mem_withoutPhase.mp member
      simp only [PerPhase.find?_erase]
      split
      · rfl
      · exact sound.tokens old present other
    · simp only [Session.fire, last, Bool.false_eq_true, if_false]
      intro entry member other token found
      obtain ⟨old, present, rfl⟩ := mem_withoutPhase.mp member
      rw [PerPhase.find?_erase] at found
      split at found
      · cases found
      · exact sound.own old present other token found

theorem Sound.holds_fire_iff (sound : session.Sound) (event : ChangeEvent) :
    (session.fire event).Holds registrar phase number ↔
      session.Holds registrar phase number ∧ phase ≠ event.phase := by
  by_cases last : session.isLast event.phase = true
  · constructor
    · exact fun holds => absurd holds (not_holds_of_nil (by simp [Session.fire, last]))
    · rintro ⟨holds, other⟩
      exact absurd (phase_of_isLast last (sound.waits_of_holds holds).2) other
  · simp only [Holds, Session.fire, last, Bool.false_eq_true, if_false]
    constructor
    · rintro ⟨entry, member, rfl, found⟩
      obtain ⟨old, present, rfl⟩ := mem_withoutPhase.mp member
      rw [PerPhase.find?_erase] at found
      split at found
      · cases found
      · rename_i other
        exact ⟨⟨old, present, rfl, found⟩, other⟩
    · rintro ⟨⟨entry, member, rfl, found⟩, other⟩
      refine ⟨_, mem_withoutPhase.mpr ⟨entry, member, rfl⟩, rfl, ?_⟩
      rw [PerPhase.find?_erase, if_neg other, found]

theorem heldBy_installed_iff :
    Tracker.heldBy session.installed registrar number = true ↔
      ∃ phase, session.Holds registrar phase number := by
  simp only [Tracker.heldBy, List.any_eq_true, decide_eq_true_eq, PerPhase.mem_toList_iff, Holds]
  constructor
  · rintro ⟨entry, member, same, phase, found⟩
    exact ⟨phase, entry, member, same, found⟩
  · rintro ⟨phase, entry, member, same, found⟩
    exact ⟨entry, member, same, phase, found⟩

theorem Sound.heldBy_spent_iff (sound : session.Sound) :
    Tracker.heldBy (session.spent phase) registrar number = true ↔
      session.Holds registrar phase number := by
  unfold spent
  split
  · rename_i last
    rw [heldBy_installed_iff]
    constructor
    · rintro ⟨other, holds⟩
      rw [← phase_of_isLast last (sound.waits_of_holds holds).2]
      exact holds
    · exact fun holds => ⟨phase, holds⟩
  · simp only [Tracker.heldBy, ofPhase, List.any_map, List.any_eq_true, Function.comp_apply,
      decide_eq_true_eq, PerPhase.mem_toList_iff, PerPhase.find?_only, Holds]
    constructor
    · rintro ⟨entry, member, same, other, found⟩
      split at found
      · rename_i equal
        exact ⟨entry, member, same, equal ▸ found⟩
      · cases found
    · rintro ⟨entry, member, same, found⟩
      exact ⟨entry, member, same, phase, by rw [if_pos rfl, found]⟩

end Session

namespace Tracker
variable {κ : Type} {tracker : Tracker κ} {id : SessionId}

theorem index_lt_of_status (running : (tracker.session id).status ≠ .cancelled) :
    id.index < tracker.sessions.size := by
  by_contra absent
  rw [session_of_absent tracker absent] at running
  exact running rfl

theorem session_createSession (reads : AccessList) (other : SessionId) :
    (tracker.createSession reads).2.session other =
      if other = (tracker.createSession reads).1 then Session.create reads
      else tracker.session other := by
  simp only [createSession, session, Array.getElem?_push, ← SessionId.index_inj]
  by_cases fresh : other.index = tracker.sessions.size <;> simp [fresh]

private theorem session_written (running : (tracker.session id).status ≠ .cancelled)
    {session : Session κ} {after : Tracker κ}
    (same : after.sessions = (tracker.setSession id session).sessions) (other : SessionId) :
    after.session other = if other = id then session else tracker.session other := by
  have written := session_setSession tracker id session other
  rw [Tracker.session, ← same, ← Tracker.session] at written
  simpa [index_lt_of_status running] using written

/-- What a session is given when it is armed over what was read. -/
def givenTo (tracker : Tracker κ) (id : SessionId) (callbacks : PerPhase κ)
    (reads : List AccessEntry) : List Installation := (tracker.installEntries id callbacks reads).1

theorem session_armOver (pending : (tracker.session id).status = .pending)
    (callbacks : PerPhase κ) (reads : List AccessEntry) (other : SessionId) :
    (tracker.armOver id callbacks reads).2.session other =
      if other = id
      then (tracker.session id).arm callbacks (tracker.givenTo id callbacks reads)
      else tracker.session other := by
  have same : (tracker.installEntries id callbacks reads).2.session id = tracker.session id := by
    rw [Tracker.session, (untouched_installEntries ..).1, ← Tracker.session]
  refine session_written (by simp [pending]) ?_ other
  simp [armOver, setSession, same, givenTo]

theorem table_armOver (callbacks : PerPhase κ) (reads : List AccessEntry)
    (registrar : RegistrarId) :
    (tracker.armOver id callbacks reads).2.table registrar =
      (tracker.installEntries id callbacks reads).2.table registrar := rfl

/-- A session that is armed is subscribed at each registrar that is alive and was read from. -/
theorem subscriptions_armOver (sound : tracker.Sound) (callbacks : PerPhase κ)
    (reads : AccessList) (registrar : RegistrarId) :
    ((tracker.armOver id callbacks reads.entries).2.table registrar).subscriptions =
      (tracker.table registrar).subscriptions ++
        if tracker.isLive registrar = true ∧ registrar ∈ reads.registrars
        then ownSubscriptions id callbacks ⟨registrar, reads.keys registrar⟩
          (tracker.table registrar).nextId
        else [] := by
  obtain ⟨_, added⟩ := installEntries_added sound id callbacks reads.apart
  rw [table_armOver, added.subscriptions]
  by_cases live : tracker.isLive registrar = true
  · simp only [live, true_and, reads.filter_entries]
    split <;> simp
  · simp [live]

theorem isLive_armOver (sound : tracker.Sound) (callbacks : PerPhase κ) (reads : AccessList)
    (registrar : RegistrarId) :
    (tracker.armOver id callbacks reads.entries).2.isLive registrar = tracker.isLive registrar :=
  (installEntries_added sound id callbacks reads.apart).2.isLive registrar

theorem totals_armOver (callbacks : PerPhase κ) (reads : List AccessEntry) :
    (tracker.armOver id callbacks reads).2.totals =
      if 0 < (tracker.installEntries id callbacks reads).2.countTokens
          (tracker.givenTo id callbacks reads)
      then { tracker.totals with installed := tracker.totals.installed + 1 }
      else tracker.totals := by
  rw [← (tracker.untouched_installEntries id callbacks reads).2]
  rfl

/-- A session waits for a phase while it is installed and the callback for it is left. -/
def Awaits (tracker : Tracker κ) (id : SessionId) (phase : Phase) : Prop :=
  (tracker.session id).status = .installed ∧
    ((tracker.session id).callbacks.find? phase).isSome = true

theorem Awaits.index_lt {phase : Phase} (awaits : tracker.Awaits id phase) :
    id.index < tracker.sessions.size :=
  index_lt_of_status (by simp [awaits.1])

theorem fire?_eq_none_iff {event : ChangeEvent} :
    tracker.fire? id event = none ↔ ¬ tracker.Awaits id event.phase := by
  simp only [fire?, Awaits]
  split <;> simp [*]

/-- What is known of a firing: whose callback it is, what is reported and what it leaves. -/
structure FiredBy (tracker : Tracker κ) (id : SessionId) (event : ChangeEvent)
    (firing : Firing κ) : Prop where
  installed : (tracker.session id).status = .installed
  callback : (tracker.session id).callbacks.find? event.phase = some firing.callback
  report : ∃ removed, firing.report =
    .fired id event removed ((tracker.session id).isLast event.phase)
  totals : firing.tracker.totals = if (tracker.session id).isLast event.phase
    then { tracker.totals with fired := tracker.totals.fired + 1 } else tracker.totals
  tracker : ∃ totals, firing.tracker =
    { ((tracker.setSession id ((tracker.session id).fire event)).tearDown
        ((tracker.session id).spent event.phase)).2 with totals }

theorem of_fire? {event : ChangeEvent} {firing : Firing κ}
    (due : tracker.fire? id event = some firing) : tracker.FiredBy id event firing := by
  simp only [fire?] at due
  split at due
  · rename_i installed
    obtain ⟨callback, found, rfl⟩ := Option.map_eq_some_iff.mp due
    exact ⟨installed, found, ⟨_, rfl⟩, by simp [setSession], _, rfl⟩
  · cases due

theorem FiredBy.session {event : ChangeEvent} {firing : Firing κ}
    (fired : tracker.FiredBy id event firing) (other : SessionId) :
    firing.tracker.session other =
      if other = id then (tracker.session id).fire event else tracker.session other := by
  obtain ⟨totals, left⟩ := fired.tracker
  refine session_written (by simp [fired.installed]) ?_ other
  simp [left]

theorem FiredBy.size {event : ChangeEvent} {firing : Firing κ}
    (fired : tracker.FiredBy id event firing) :
    firing.tracker.sessions.size = tracker.sessions.size := by
  obtain ⟨totals, left⟩ := fired.tracker
  simp [left]

theorem cancelSession?_eq_none_iff :
    tracker.cancelSession? id = none ↔ (tracker.session id).status.isTerminal = true := by
  simp only [cancelSession?]
  split <;> simp [*]

/-- What is known of the end of a session by its caller. -/
structure CancelledBy (tracker : Tracker κ) (id : SessionId) (report : TraceEvent)
    (after : Tracker κ) : Prop where
  running : (tracker.session id).status.isTerminal = false
  report : ∃ removed, report = .cancelled id removed
  totals : after.totals = { tracker.totals with cancelled := tracker.totals.cancelled + 1 }
  tracker : ∃ totals, after =
    { ((tracker.setSession id (tracker.session id).cancel).tearDown
        (tracker.session id).installed).2 with totals }

theorem of_cancelSession? {report : TraceEvent} {after : Tracker κ}
    (ended : tracker.cancelSession? id = some (report, after)) :
    tracker.CancelledBy id report after := by
  simp only [cancelSession?] at ended
  split at ended
  · cases ended
  · rename_i running
    cases ended
    exact ⟨by simpa using running, ⟨_, rfl⟩, by simp [setSession], _, rfl⟩

theorem CancelledBy.not_cancelled {report : TraceEvent} {after : Tracker κ}
    (ended : tracker.CancelledBy id report after) : (tracker.session id).status ≠ .cancelled := by
  intro cancelled
  have running := ended.running
  rw [cancelled] at running
  cases running

theorem CancelledBy.session {report : TraceEvent} {after : Tracker κ}
    (ended : tracker.CancelledBy id report after) (other : SessionId) :
    after.session other =
      if other = id then (tracker.session id).cancel else tracker.session other := by
  obtain ⟨totals, left⟩ := ended.tracker
  refine session_written ended.not_cancelled ?_ other
  simp [left]

end Tracker
end ChangeTracking
