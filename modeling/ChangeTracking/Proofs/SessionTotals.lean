import ChangeTracking.Proofs.TrackerTurns
import Mathlib.Data.Set.Card

/-! What the totals count. Each total is written beside the session that it counts; that it agrees with
the sessions is kept from step to step. A session that fires was told of a change, so it had a
subscription once, and that it got when it was armed. -/
namespace ChangeTracking

namespace Tracker
variable {κ : Type}

def sessionsIn (tracker : Tracker κ) (status : SessionStatus) : Set SessionId :=
  {id | id.index < tracker.sessions.size ∧ (tracker.session id).status = status}

section Sessions
variable {before after : Tracker κ} {id : SessionId} {session : Session κ} {status : SessionStatus}

theorem mem_sessionsIn_iff : id ∈ before.sessionsIn status ↔
    id.index < before.sessions.size ∧ (before.session id).status = status := Iff.rfl

theorem sessionsIn_of_sessions (same : after.sessions = before.sessions) :
    after.sessionsIn status = before.sessionsIn status := by
  simp only [sessionsIn, Tracker.session, same]

theorem sessionsIn_createSession (reads : AccessList) (other : status ≠ .pending) :
    (before.createSession reads).2.sessionsIn status = before.sessionsIn status := by
  ext id
  have size : (before.createSession reads).2.sessions.size = before.sessions.size + 1 :=
    Array.size_push _
  rw [mem_sessionsIn_iff, mem_sessionsIn_iff, size, session_createSession]
  by_cases fresh : id = (before.createSession reads).1
  · subst fresh
    simp [Session.create, createSession, other.symm]
  · have old : id.index ≠ before.sessions.size := fun same => fresh (SessionId.index_inj.mp same)
    rw [if_neg fresh, Nat.lt_succ_iff_lt_or_eq, or_iff_left old]

variable (size : after.sessions.size = before.sessions.size)
  (written : ∀ other, after.session other = if other = id then session else before.session other)
include size written

theorem sessionsIn_written (earlier : (before.session id).status ≠ status)
    (later : session.status ≠ status) : after.sessionsIn status = before.sessionsIn status := by
  ext other
  rw [mem_sessionsIn_iff, mem_sessionsIn_iff, size, written]
  by_cases same : other = id
  · simp [same, earlier, later]
  · simp [same]

theorem encard_sessionsIn_written (created : id.index < before.sessions.size)
    (earlier : (before.session id).status ≠ status) (later : session.status = status) :
    (after.sessionsIn status).encard = (before.sessionsIn status).encard + 1 := by
  have fresh : id ∉ before.sessionsIn status := fun inside => earlier inside.2
  rw [← Set.encard_insert_of_notMem fresh]
  congr 1
  ext other
  rw [Set.mem_insert_iff, mem_sessionsIn_iff, mem_sessionsIn_iff, size, written]
  by_cases same : other = id
  · simp [same, created, later]
  · simp [same]

end Sessions

private theorem countTokens_pos_iff {tracker : Tracker κ} {installed : List Installation} :
    0 < tracker.countTokens installed ↔
      ∃ entry ∈ installed, tracker.isLive entry.registrar = true ∧ entry.tokens.toList ≠ [] := by
  induction installed with
  | nil => simp [countTokens]
  | cons entry rest ih =>
    have first : 0 < tracker.tokenCount entry ↔
        tracker.isLive entry.registrar = true ∧ entry.tokens.toList ≠ [] := by
      rw [tokenCount]
      split <;> simp [List.length_pos_iff, *]
    simp only [countTokens, Nat.add_pos_iff_pos_or_pos, first, ih, List.mem_cons, exists_eq_or_imp]

theorem countTokens_givenTo_pos_iff {tracker : Tracker κ} (sound : tracker.Sound) (id : SessionId)
    {callbacks : PerPhase κ} (given : callbacks.isEmpty = false) {reads : List AccessEntry}
    (apart : reads.Pairwise fun left right => left.registrar ≠ right.registrar) :
    0 < (tracker.installEntries id callbacks reads).2.countTokens
        (tracker.givenTo id callbacks reads) ↔
      ∃ read ∈ reads, tracker.isLive read.registrar = true := by
  obtain ⟨entries, added⟩ := installEntries_added sound id callbacks apart
  have wanted (registrar : RegistrarId) (next : Nat) :
      (ownTokens callbacks registrar next).toList ≠ [] := by
    obtain ⟨will, did⟩ := callbacks
    cases will <;> cases did <;> simp [PerPhase.isEmpty] at given <;>
      simp [ownTokens, PerPhase.toList]
  rw [givenTo, entries, countTokens_pos_iff]
  constructor
  · rintro ⟨entry, member, _⟩
    obtain ⟨read, kept, rfl⟩ := List.mem_map.mp member
    exact ⟨read, List.mem_filter.mp kept⟩
  · rintro ⟨read, listed, live⟩
    exact ⟨_, List.mem_map.mpr ⟨read, List.mem_filter.mpr ⟨listed, live⟩, rfl⟩,
      (added.isLive _).trans live, wanted _ _⟩

end Tracker

variable {H : Host} {discipline : Discipline H}

/-- A session was armed at some moment at which a registrar in its list was alive. -/
def ArmedOverLive (worlds : List (World H)) (id : SessionId) : Prop :=
  ∃ after before past, after :: before :: past <:+ worlds ∧
    (before.tracker.session id).status = .pending ∧
    (after.tracker.session id).status = .installed ∧
    ∃ read ∈ (before.tracker.session id).reads.entries,
      before.tracker.isLive read.registrar = true

theorem ArmedOverLive.mono {worlds more : List (World H)} {id : SessionId}
    (armed : ArmedOverLive worlds id) (kept : worlds <:+ more) : ArmedOverLive more id := by
  obtain ⟨after, before, past, moment, arming⟩ := armed
  exact ⟨after, before, past, moment.trans kept, arming⟩

theorem armedOverLive_cons_iff {world after : World H} {past : List (World H)} {id : SessionId} :
    ArmedOverLive (after :: world :: past) id ↔ ArmedOverLive (world :: past) id ∨
      (world.tracker.session id).status = .pending ∧
        (after.tracker.session id).status = .installed ∧
        ∃ read ∈ (world.tracker.session id).reads.entries,
          world.tracker.isLive read.registrar = true := by
  constructor
  · rintro ⟨later, earlier, rest, moment, arming⟩
    rcases List.suffix_cons_iff.mp moment with same | inside
    · cases same
      exact .inr arming
    · exact .inl ⟨later, earlier, rest, inside, arming⟩
  · rintro (before | arming)
    · exact before.mono (List.suffix_cons _ _)
    · exact ⟨after, world, past, List.suffix_refl _, arming⟩

namespace Evolution
variable {world after : World H} {past : List (World H)} {id : SessionId}

private theorem begun_of_armedOverLive (evolution : Evolution discipline (world :: past))
    (armed : ArmedOverLive (world :: past) id) : world.Begun id := by
  obtain ⟨later, earlier, rest, moment, _, installed, _⟩ := armed
  have order := evolution.later_of_mem (moment.subset List.mem_cons_self)
  exact (World.Begun.of_installed installed).later order

private theorem armedOverLive_of_step
    (other : (world.tracker.session id).status = .pending →
      (after.tracker.session id).status ≠ .installed) :
    ArmedOverLive (after :: world :: past) id ↔ ArmedOverLive (world :: past) id := by
  rw [armedOverLive_cons_iff, or_iff_left]
  rintro ⟨pending, installed, _⟩
  exact other pending installed

theorem armedOverLive_of_installed (evolution : Evolution discipline (world :: past))
    (installed : (world.tracker.session id).installed ≠ []) : ArmedOverLive (world :: past) id := by
  induction past generalizing world with
  | nil =>
    cases evolution
    exact absurd rfl installed
  | cons before past ih =>
    have earlier (there : (before.tracker.session id).installed ≠ []) :
        ArmedOverLive (world :: before :: past) id :=
      (ih evolution.tail there).mono (List.suffix_cons _ _)
    have sound := (evolution.inStep before (by simp)).sound
    cases evolution.trackerTurn with
    | others sessions =>
      rw [Tracker.session, sessions, ← Tracker.session] at installed
      exact earlier installed
    | created reads tracker =>
      rw [tracker, Tracker.session_createSession] at installed
      split at installed
      · exact absurd rfl installed
      · exact earlier installed
    | @armed armed callbacks pending given tracker =>
      have session := Tracker.session_armOver pending callbacks
        (before.tracker.session armed).reads.entries id
      rw [← tracker] at session
      by_cases same : id = armed
      · subst same
        refine armedOverLive_cons_iff.mpr (.inr ⟨pending, by rw [session, if_pos rfl]; rfl, ?_⟩)
        rw [session, if_pos rfl] at installed
        obtain ⟨entry, member⟩ := List.exists_mem_of_ne_nil _ installed
        have entries := (Tracker.installEntries_added sound id callbacks
          (before.tracker.session id).reads.apart).1
        simp only [Session.arm, Tracker.givenTo, entries] at member
        obtain ⟨read, kept, _⟩ := List.mem_map.mp member
        exact ⟨read, List.mem_filter.mp kept⟩
      · rw [session, if_neg same] at installed
        exact earlier installed
    | fired _ due tracker =>
      rw [tracker, (Tracker.of_fire? due).session] at installed
      split at installed
      · rename_i same
        refine earlier fun empty => installed ?_
        simp [Session.fire, Session.withoutPhase, ← same, empty]
      · exact earlier installed
    | cancelled ended =>
      rw [(Tracker.of_cancelSession? ended).session] at installed
      split at installed
      · exact absurd rfl installed
      · exact earlier installed

theorem armedOverLive_of_told (evolution : Evolution discipline (world :: past))
    {source : RegistrarId} {phase : Phase} {key : Key}
    (told : Told (world :: past) (.session id source phase) key) :
    ArmedOverLive (world :: past) id := by
  obtain ⟨earlier, member, registrar, wanted, reached⟩ := told
  have inStep := evolution.inStep earlier member
  obtain ⟨subscription, subscribed, _, _, own⟩ :=
    (inStep.sound.tables registrar).mem_snapshot_iff.mp reached
  obtain ⟨_, _, holds, _⟩ := inStep.owned registrar subscription subscribed id source phase own
  obtain ⟨rest, before, kept⟩ := evolution.of_mem member
  refine ArmedOverLive.mono (before.armedOverLive_of_installed ?_) kept
  exact fun none => Session.not_holds_of_nil none holds

end Evolution

/-- What each total counts, at the latest of the worlds of a run. -/
structure Tallied (worlds : List (World H)) (tracker : Tracker H.Callback) : Prop where
  fired : (tracker.totals.fired : ℕ∞) = (tracker.sessionsIn .fired).encard
  cancelled : (tracker.totals.cancelled : ℕ∞) = (tracker.sessionsIn .cancelled).encard
  installed : (tracker.totals.installed : ℕ∞) = {id | ArmedOverLive worlds id}.encard
  reached : ∀ id ∈ tracker.sessionsIn .fired, ArmedOverLive worlds id

namespace Tallied
variable {world after : World H} {past : List (World H)} {id : SessionId}

private theorem of_unarmed (tallied : Tallied (world :: past) world.tracker)
    (unarmed : ∀ id, ArmedOverLive (after :: world :: past) id ↔ ArmedOverLive (world :: past) id)
    (total : after.tracker.totals.installed = world.tracker.totals.installed)
    (fired : (after.tracker.totals.fired : ℕ∞) = (after.tracker.sessionsIn .fired).encard)
    (cancelled : (after.tracker.totals.cancelled : ℕ∞) =
      (after.tracker.sessionsIn .cancelled).encard)
    (reached : ∀ id ∈ after.tracker.sessionsIn .fired, ArmedOverLive (world :: past) id) :
    Tallied (after :: world :: past) after.tracker where
  fired := fired
  cancelled := cancelled
  installed := by
    rw [total, tallied.installed]
    congr 1
    exact Set.ext fun id => (unarmed id).symm
  reached id inside := (reached id inside).mono (List.suffix_cons _ _)

private theorem of_same (tallied : Tallied (world :: past) world.tracker)
    (unarmed : ∀ id, ArmedOverLive (after :: world :: past) id ↔ ArmedOverLive (world :: past) id)
    (totals : after.tracker.totals = world.tracker.totals)
    (ended : ∀ status, status.isTerminal = true →
      after.tracker.sessionsIn status = world.tracker.sessionsIn status) :
    Tallied (after :: world :: past) after.tracker := by
  have fired := ended .fired rfl
  refine tallied.of_unarmed unarmed (by rw [totals]) ?_ ?_ ?_
  · rw [totals, fired, tallied.fired]
  · rw [totals, ended .cancelled rfl, tallied.cancelled]
  · exact fired ▸ tallied.reached

private theorem of_armed (tallied : Tallied (world :: past) world.tracker)
    (evolution : Evolution discipline (world :: past)) {callbacks : PerPhase H.Callback}
    (pending : (world.tracker.session id).status = .pending) (given : callbacks.isEmpty = false)
    (tracker : after.tracker =
      (world.tracker.armOver id callbacks (world.tracker.session id).reads.entries).2) :
    Tallied (after :: world :: past) after.tracker := by
  have sound := (evolution.inStep world (by simp)).sound
  have totals := congrArg Tracker.totals tracker
  rw [Tracker.totals_armOver] at totals
  have size : after.tracker.sessions.size = world.tracker.sessions.size := by
    simp [tracker, Tracker.armOver]
  have session := Tracker.session_armOver pending callbacks (world.tracker.session id).reads.entries
  rw [← tracker] at session
  simp only [Tracker.countTokens_givenTo_pos_iff sound id given
    (world.tracker.session id).reads.apart] at totals
  have ended (status : SessionStatus) (terminal : status.isTerminal = true) :
      after.tracker.sessionsIn status = world.tracker.sessionsIn status := by
    refine Tracker.sessionsIn_written size session ?_ ?_
    · rintro rfl
      simp [pending, SessionStatus.isTerminal] at terminal
    · rintro rfl
      cases terminal
  by_cases live : ∃ read ∈ (world.tracker.session id).reads.entries,
      world.tracker.isLive read.registrar = true
  · rw [if_pos live] at totals
    have fresh : id ∉ {id | ArmedOverLive (world :: past) id} := fun armed =>
      (evolution.begun_of_armedOverLive armed).2 pending
    refine ⟨?_, ?_, ?_, ?_⟩
    · rw [totals, ended .fired rfl, tallied.fired]
    · rw [totals, ended .cancelled rfl, tallied.cancelled]
    · rw [totals, Nat.cast_add, tallied.installed, Nat.cast_one, ← Set.encard_insert_of_notMem fresh]
      congr 1
      ext other
      rw [Set.mem_insert_iff]
      by_cases same : other = id
      · subst same
        simpa using armedOverLive_cons_iff.mpr (.inr ⟨pending, by rw [session, if_pos rfl]; rfl, live⟩)
      · rw [or_iff_right same]
        refine (Evolution.armedOverLive_of_step fun waiting => ?_).symm
        rw [session, if_neg same, waiting]
        simp
    · rw [ended .fired rfl]
      exact fun other inside => (tallied.reached other inside).mono (List.suffix_cons _ _)
  · rw [if_neg live] at totals
    refine tallied.of_same (fun other => ?_) totals ended
    rw [armedOverLive_cons_iff, or_iff_left]
    rintro ⟨waiting, installed, found⟩
    by_cases same : other = id
    · exact live (same ▸ found)
    · rw [session, if_neg same, waiting] at installed
      cases installed

private theorem of_fired (tallied : Tallied (world :: past) world.tracker)
    (evolution : Evolution discipline (world :: past)) {event : ChangeEvent}
    {firing : Tracker.Firing H.Callback}
    (told : Told (world :: past) (.session id event.registrar event.phase) event.key)
    (fired : world.tracker.FiredBy id event firing) (tracker : after.tracker = firing.tracker) :
    Tallied (after :: world :: past) after.tracker := by
  have totals := fired.totals
  have size := fired.size
  have session := fired.session
  rw [← tracker] at totals size session
  have unarmed (other : SessionId) :
      ArmedOverLive (after :: world :: past) other ↔ ArmedOverLive (world :: past) other := by
    refine Evolution.armedOverLive_of_step fun waiting => ?_
    rw [session]
    split
    · rename_i same
      rw [same, fired.installed] at waiting
      cases waiting
    · simp [waiting]
  have installed (status : SessionStatus) (terminal : status.isTerminal = true) :
      (world.tracker.session id).status ≠ status := by
    rintro rfl
    simp [fired.installed, SessionStatus.isTerminal] at terminal
  by_cases last : (world.tracker.session id).isLast event.phase = true
  · rw [if_pos last] at totals
    have status : ((world.tracker.session id).fire event).status = .fired := by
      simp [Session.fire, last]
    have created := Tracker.index_lt_of_status (installed .cancelled rfl)
    refine tallied.of_unarmed unarmed (by rw [totals]) ?_ ?_ ?_
    · rw [Tracker.encard_sessionsIn_written size session created (installed .fired rfl) status,
        ← tallied.fired, totals, Nat.cast_add, Nat.cast_one]
    · rw [Tracker.sessionsIn_written size session (installed .cancelled rfl) (by simp [status]),
        ← tallied.cancelled, totals]
    · intro other inside
      by_cases same : other = id
      · exact same ▸ evolution.armedOverLive_of_told told
      · rw [Tracker.mem_sessionsIn_iff, size, session, if_neg same] at inside
        exact tallied.reached other inside
  · rw [if_neg last] at totals
    refine tallied.of_same unarmed totals fun status terminal => ?_
    refine Tracker.sessionsIn_written size session (installed status terminal) ?_
    rintro rfl
    simp [Session.fire, last, SessionStatus.isTerminal] at terminal

private theorem of_cancelled (tallied : Tallied (world :: past) world.tracker) {report : TraceEvent}
    (ended : world.tracker.CancelledBy id report after.tracker) :
    Tallied (after :: world :: past) after.tracker := by
  have session := ended.session
  have running := ended.running
  have size : after.tracker.sessions.size = world.tracker.sessions.size := by
    obtain ⟨totals, left⟩ := ended.tracker
    simp [left]
  have fired : after.tracker.sessionsIn .fired = world.tracker.sessionsIn .fired := by
    refine Tracker.sessionsIn_written size session (fun same => ?_) (by simp [Session.cancel])
    rw [same] at running
    cases running
  refine tallied.of_unarmed (fun other => ?_) (by rw [ended.totals]) ?_ ?_ ?_
  · refine Evolution.armedOverLive_of_step fun waiting => ?_
    rw [session]
    split
    · simp [Session.cancel]
    · simp [waiting]
  · rw [fired, ended.totals, tallied.fired]
  · rw [Tracker.encard_sessionsIn_written size session (Tracker.index_lt_of_status ended.not_cancelled)
      ended.not_cancelled rfl, ← tallied.cancelled, ended.totals, Nat.cast_add, Nat.cast_one]
  · exact fired ▸ tallied.reached

private theorem of_turn (tallied : Tallied (world :: past) world.tracker)
    (evolution : Evolution discipline (after :: world :: past)) :
    Tallied (after :: world :: past) after.tracker := by
  cases evolution.trackerTurn with
  | others sessions totals =>
    have session (id : SessionId) : after.tracker.session id = world.tracker.session id := by
      rw [Tracker.session, sessions, Tracker.session]
    refine tallied.of_same (fun id => ?_) totals fun _ _ => Tracker.sessionsIn_of_sessions sessions
    refine Evolution.armedOverLive_of_step fun pending => ?_
    rw [session, pending]
    simp
  | created reads tracker =>
    refine tallied.of_same (fun id => ?_) (by rw [tracker]; rfl) fun status terminal => ?_
    · refine Evolution.armedOverLive_of_step fun pending => ?_
      rw [tracker, Tracker.session_createSession]
      split
      · simp [Session.create]
      · simp [pending]
    · rw [tracker]
      refine Tracker.sessionsIn_createSession reads ?_
      rintro rfl
      cases terminal
  | armed pending given tracker => exact tallied.of_armed evolution.tail pending given tracker
  | fired told due tracker =>
    exact tallied.of_fired evolution.tail told (Tracker.of_fire? due) tracker
  | cancelled ended => exact tallied.of_cancelled (Tracker.of_cancelSession? ended)

end Tallied

private theorem Evolution.tallied {world : World H} {past : List (World H)}
    (evolution : Evolution discipline (world :: past)) : Tallied (world :: past) world.tracker := by
  induction past generalizing world with
  | nil =>
    cases evolution with
    | start host =>
      have nobody (status : SessionStatus) :
          (World.initial host).tracker.sessionsIn status = ∅ :=
        Set.eq_empty_of_forall_notMem fun id inside => Nat.not_lt_zero _ inside.1
      have unarmed : {id | ArmedOverLive [World.initial host] id} = ∅ := by
        refine Set.eq_empty_of_forall_notMem fun id armed => ?_
        obtain ⟨_, _, _, moment, _⟩ := armed
        simpa using moment.length_le
      refine ⟨?_, ?_, ?_, fun id inside => absurd (nobody .fired ▸ inside) (Set.notMem_empty id)⟩
      · rw [nobody, Set.encard_empty]
        rfl
      · rw [nobody, Set.encard_empty]
        rfl
      · rw [unarmed, Set.encard_empty]
        rfl
  | cons before past ih => exact (ih evolution.tail).of_turn evolution

/-- In every world of a run, the totals count the sessions that have fired, those that were cancelled
and those that were armed while a registrar in their list was alive; the first of these are among
the last. -/
theorem Client.totals_tally {α : Type} {act : Act H α} (client : Client discipline act)
    (host : H.State) {world : World H} {past : List (World H)}
    (passed : world :: past <:+ act.trail (World.initial host)) :
    (world.tracker.totals.fired : ℕ∞) = (world.tracker.sessionsIn .fired).encard ∧
      (world.tracker.totals.cancelled : ℕ∞) = (world.tracker.sessionsIn .cancelled).encard ∧
      (world.tracker.totals.installed : ℕ∞) = {id | ArmedOverLive (world :: past) id}.encard ∧
      world.tracker.totals.fired ≤ world.tracker.totals.installed := by
  have tallied := ((client.trail_evolution host).of_suffix passed).tallied
  refine ⟨tallied.fired, tallied.cancelled, tallied.installed, ?_⟩
  have reached : world.tracker.sessionsIn .fired ⊆ {id | ArmedOverLive (world :: past) id} :=
    tallied.reached
  have fewer := Set.encard_le_encard reached
  rw [← tallied.fired, ← tallied.installed] at fewer
  exact Nat.cast_le.mp fewer

/-- A session that tracks one key fires with the change of it. -/
theorem Client.totals_tally_of_trackAndChange :
    (trackAndChange.run (World.initial ())).2.tracker.totals = ⟨1, 1, 0⟩ ∧
      ((trackAndChange.run (World.initial ())).2.tracker.totals.fired : ℕ∞) =
        ((trackAndChange.run (World.initial ())).2.tracker.sessionsIn .fired).encard :=
  ⟨by decide, (client_trackAndChange.totals_tally () (List.suffix_refl _)).1⟩

end ChangeTracking
