import ChangeTracking.Proofs.SessionSteps
import ChangeTracking.Proofs.ReadSets
import ChangeTracking.Proofs.TableSteps

/-! Trackers whose sessions were armed in different orders. A hash map hands out the entries of an
access list in any order, and a hash set the keys of each entry. What comes out of it differs only
in the order in which sessions keep their installations, and no later step makes more of it. -/
namespace ChangeTracking

theorem KeySet.ofList_toList (set : KeySet) : KeySet.ofList set.toList = set :=
  KeySet.ext_mem fun key => KeySet.mem_ofList_iff set.toList key

def AccessEntry.ofKeys (entry : RegistrarId × List Key) : AccessEntry := ⟨entry.1, .ofList entry.2⟩

theorem AccessEntry.map_ofKeys (entries : List AccessEntry) :
    (entries.map fun entry => (entry.registrar, entry.keys.toList)).map ofKeys = entries := by
  have same (entry : AccessEntry) : ofKeys (entry.registrar, entry.keys.toList) = entry :=
    congrArg (AccessEntry.mk entry.registrar) entry.keys.ofList_toList
  rw [List.map_map]
  exact (List.map_congr_left fun entry _ => same entry).trans (List.map_id' entries)

/-- In which order access lists are gone through: for each session that is armed, the entries of its
list and the keys of each entry come in an order of their own. -/
structure HashOrder where
  enumerate : SessionId → AccessList → List (RegistrarId × List Key)
  complete : ∀ id list, ((enumerate id list).map AccessEntry.ofKeys).Perm list.entries

namespace HashOrder

/-- The order in which access lists are kept. -/
def ascending : HashOrder where
  enumerate _ list := list.entries.map fun entry => (entry.registrar, entry.keys.toList)
  complete _ list := .of_eq (AccessEntry.map_ofKeys list.entries)

/-- The other way round, entries as well as keys. -/
def descending : HashOrder where
  enumerate _ list :=
    (list.entries.map fun entry => (entry.registrar, entry.keys.toList.reverse)).reverse
  complete _ list := by
    have same (entry : AccessEntry) :
        AccessEntry.ofKeys (entry.registrar, entry.keys.toList.reverse) = entry := by
      refine congrArg (AccessEntry.mk entry.registrar) (KeySet.ext_mem fun key => ?_)
      rw [KeySet.mem_ofList_iff, List.mem_reverse]
      rfl
    rw [List.map_reverse, List.map_map]
    refine (List.reverse_perm _).trans (.of_eq ?_)
    exact (List.map_congr_left fun entry _ => same entry).trans (List.map_id' list.entries)

def entries (order : HashOrder) (id : SessionId) (list : AccessList) : List AccessEntry :=
  (order.enumerate id list).map AccessEntry.ofKeys

theorem entries_ascending (id : SessionId) (list : AccessList) :
    ascending.entries id list = list.entries := AccessEntry.map_ofKeys list.entries

theorem entries_perm (order other : HashOrder) (id : SessionId) (list : AccessList) :
    (order.entries id list).Perm (other.entries id list) :=
  (order.complete id list).trans (other.complete id list).symm

theorem entries_apart (order : HashOrder) (id : SessionId) (list : AccessList) :
    (order.entries id list).Pairwise fun left right => left.registrar ≠ right.registrar :=
  ((order.complete id list).pairwise_iff Ne.symm).mpr list.apart

end HashOrder

namespace Tracker
variable {κ : Type}

/-- Installs a session with its access list gone through in some order. -/
def armIn (order : HashOrder) (tracker : Tracker κ) (id : SessionId) (callbacks : PerPhase κ) :
    Except TrackingError (Option TraceEvent × Tracker κ) :=
  match (tracker.session id).status with
  | .pending =>
    let (report, tracker) :=
      tracker.armOver id callbacks (order.entries id (tracker.session id).reads)
    .ok (some report, tracker)
  | .cancelled => .ok (none, tracker)
  | .installed | .fired => .error .alreadyInstalled

theorem armIn_ascending (tracker : Tracker κ) (id : SessionId) (callbacks : PerPhase κ) :
    tracker.armIn .ascending id callbacks = tracker.arm id callbacks := by
  rw [armIn, HashOrder.entries_ascending]
  rfl

end Tracker

variable {κ : Type}

namespace Session

/-- Sessions that differ at most in the order of their installations, which are against different
registrars. -/
structure Alike (left right : Session κ) : Prop where
  reads : right.reads = left.reads
  status : right.status = left.status
  callbacks : right.callbacks = left.callbacks
  changed : right.changed = left.changed
  installed : left.installed.Perm right.installed
  apart : left.installed.Pairwise fun one other => one.registrar ≠ other.registrar

namespace Alike
variable {left right : Session κ} (alike : left.Alike right)
include alike

theorem cancel : left.cancel.Alike right.cancel where
  reads := alike.reads
  status := rfl
  callbacks := rfl
  changed := alike.changed
  installed := .nil
  apart := .nil

theorem isLast (phase : Phase) : right.isLast phase = left.isLast phase := by
  rw [Session.isLast, alike.callbacks, Session.isLast]

theorem fire (event : ChangeEvent) : (left.fire event).Alike (right.fire event) where
  reads := alike.reads
  status := by simp only [Session.fire, alike.isLast]
  callbacks := by simp only [Session.fire, alike.callbacks]
  changed := rfl
  installed := by
    simp only [Session.fire, alike.isLast]
    split
    · exact .nil
    · exact alike.installed.map _
  apart := by
    simp only [Session.fire]
    split
    · exact .nil
    · exact List.pairwise_map.mpr alike.apart

theorem spent (phase : Phase) : (left.spent phase).Perm (right.spent phase) := by
  simp only [Session.spent, alike.isLast]
  split
  · exact alike.installed
  · exact alike.installed.map _

theorem spent_apart (phase : Phase) :
    (left.spent phase).Pairwise fun one other => one.registrar ≠ other.registrar := by
  rw [Session.spent]
  split
  · exact alike.apart
  · exact List.pairwise_map.mpr alike.apart

end Alike
end Session

namespace Tracker

/-- Trackers that differ at most in the order of what their sessions keep. -/
structure Alike (left right : Tracker κ) : Prop where
  registrars : right.registrars = left.registrars
  totals : right.totals = left.totals
  size : right.sessions.size = left.sessions.size
  sessions : ∀ id, (left.session id).Alike (right.session id)

/-- A step that takes no notice of sessions. -/
def Framed {β : Type} (step : Tracker κ → β × Tracker κ) : Prop :=
  ∀ tracker sessions, step { tracker with sessions } =
    ((step tracker).1, { (step tracker).2 with sessions })

namespace Alike
variable {left right : Tracker κ} (alike : left.Alike right)
include alike

theorem eq : right = { left with sessions := right.sessions } := by
  obtain ⟨registrars, sessions, totals⟩ := right
  obtain rfl := alike.registrars
  obtain rfl := alike.totals
  rfl

theorem table (id : RegistrarId) : right.table id = left.table id := by
  rw [alike.eq]
  rfl

theorem isLive (id : RegistrarId) : right.isLive id = left.isLive id := by
  rw [alike.eq]
  rfl

theorem snapshot (registrar : RegistrarId) (key : Key) (phase : Phase) :
    right.snapshot registrar key phase = left.snapshot registrar key phase := by
  rw [Tracker.snapshot, alike.table, Tracker.snapshot]

theorem framed {β : Type} {step : Tracker κ → β × Tracker κ} (framed : Framed step) :
    (step left).1 = (step right).1 ∧ (step left).2.Alike (step right).2 := by
  have kept : (step left).2.sessions = left.sessions :=
    congrArg (fun outcome => outcome.2.sessions) (framed left left.sessions)
  have same (id : SessionId) : (step left).2.session id = left.session id := by
    rw [Tracker.session, kept, Tracker.session]
  rw [alike.eq, framed left right.sessions]
  refine ⟨rfl, rfl, rfl, ?_, ?_⟩
  · rw [kept]
    exact alike.size
  · intro id
    rw [same]
    exact alike.sessions id

theorem createSession (reads : AccessList) :
    (left.createSession reads).1 = (right.createSession reads).1 ∧
      (left.createSession reads).2.Alike (right.createSession reads).2 := by
  have fresh : (left.createSession reads).1 = (right.createSession reads).1 :=
    congrArg SessionId.mk alike.size.symm
  refine ⟨fresh, alike.registrars, alike.totals, ?_, ?_⟩
  · simp [Tracker.createSession, alike.size]
  · intro id
    rw [session_createSession, session_createSession, fresh]
    split
    · exact ⟨rfl, rfl, rfl, rfl, .nil, .nil⟩
    · exact alike.sessions id

theorem setSession (id : SessionId) {one other : Session κ} (same : one.Alike other) :
    (left.setSession id one).Alike (right.setSession id other) where
  registrars := alike.registrars
  totals := alike.totals
  size := by rw [size_setSession, size_setSession, alike.size]
  sessions this := by
    rw [session_setSession, session_setSession, alike.size]
    split
    · exact same
    · exact alike.sessions this

theorem withTotals {totals others : Totals} (same : others = totals) :
    ({ left with totals } : Tracker κ).Alike { right with totals := others } :=
  ⟨alike.registrars, same, alike.size, alike.sessions⟩

theorem tearDown {installed others : List Installation} (perm : installed.Perm others)
    (apart : installed.Pairwise fun one other => one.registrar ≠ other.registrar) :
    (left.tearDown installed).1 = (right.tearDown others).1 ∧
      (left.tearDown installed).2.Alike (right.tearDown others).2 := by
  let step (entry : Installation) : Table κ → Nat × Table κ :=
    Table.cancelTokens entry.registrar entry.tokens.toList
  have framed : Framed fun tracker : Tracker κ => tracker.atTables step (·.registrar) installed :=
    fun tracker sessions => tracker.atTables_sessions step (·.registrar) sessions installed
  obtain ⟨answers, kept⟩ := alike.framed framed
  obtain ⟨counts, after⟩ := right.atTables_perm step perm apart
  rw [tearDown_eq, tearDown_eq]
  refine ⟨?_, after ▸ kept⟩
  rw [answers]
  exact counts.sum_nat

end Alike

theorem countTokens_perm (tracker : Tracker κ) {installed others : List Installation}
    (perm : installed.Perm others) : tracker.countTokens installed = tracker.countTokens others := by
  induction perm with
  | nil => rfl
  | cons entry _ ih => rw [countTokens, countTokens, ih]
  | swap one other rest => simp only [countTokens, Nat.add_left_comm]
  | trans _ _ one two => exact one.trans two

namespace Alike
variable {left right : Tracker κ} (alike : left.Alike right)
include alike

theorem countTokens (installed : List Installation) :
    right.countTokens installed = left.countTokens installed := by
  induction installed with
  | nil => rfl
  | cons entry rest ih =>
    rw [Tracker.countTokens, Tracker.countTokens, tokenCount, tokenCount, ih, alike.isLive]

theorem sessionSubscriptions (id : SessionId) :
    right.sessionSubscriptions id = left.sessionSubscriptions id := by
  rw [Tracker.sessionSubscriptions, alike.countTokens,
    ← left.countTokens_perm (alike.sessions id).installed, Tracker.sessionSubscriptions]

theorem fire? (id : SessionId) (event : ChangeEvent) :
    Option.Rel (fun one other : Firing κ => one.callback = other.callback ∧
      one.report = other.report ∧ one.tracker.Alike other.tracker)
        (left.fire? id event) (right.fire? id event) := by
  have session := alike.sessions id
  obtain ⟨removed, torn⟩ := (alike.setSession id (session.fire event)).tearDown
    (session.spent event.phase) (session.spent_apart event.phase)
  simp only [Tracker.fire?, session.status, session.callbacks, session.isLast]
  split
  · cases (left.session id).callbacks.find? event.phase with
    | none => exact .none
    | some callback =>
      refine .some ⟨rfl, ?_, torn.withTotals ?_⟩
      · rw [removed]
      · rw [torn.totals]
  · exact .none

theorem cancelSession? (id : SessionId) :
    Option.Rel (fun one other : TraceEvent × Tracker κ => one.1 = other.1 ∧ one.2.Alike other.2)
      (left.cancelSession? id) (right.cancelSession? id) := by
  have session := alike.sessions id
  obtain ⟨removed, torn⟩ :=
    (alike.setSession id session.cancel).tearDown session.installed session.apart
  simp only [Tracker.cancelSession?, session.status]
  split
  · exact .none
  · refine .some ⟨?_, torn.withTotals ?_⟩
    · rw [removed]
    · rw [torn.totals]

end Alike

/-- Installations are against registrars that were read from, each once. -/
theorem registrars_installEntries (tracker : Tracker κ) (id : SessionId) (wanted : PerPhase κ)
    (reads : List AccessEntry) :
    ((tracker.installEntries id wanted reads).1.map (·.registrar)).Sublist
      (reads.map (·.registrar)) := by
  induction reads generalizing tracker with
  | nil => exact .slnil
  | cons read rest ih =>
    unfold installEntries
    split
    · exact (ih _).cons_cons _
    · exact (ih tracker).cons _

namespace Alike
variable {left right : Tracker κ} (alike : left.Alike right)
include alike

/-- A session is armed alike over the same entries in any order. -/
theorem armOver (id : SessionId) (callbacks : PerPhase κ) {reads others : List AccessEntry}
    (perm : reads.Perm others)
    (apart : reads.Pairwise fun one other => one.registrar ≠ other.registrar) :
    (left.armOver id callbacks reads).1 = (right.armOver id callbacks others).1 ∧
      (left.armOver id callbacks reads).2.Alike (right.armOver id callbacks others).2 := by
  have framed : Framed fun tracker : Tracker κ => tracker.installEntries id callbacks reads := by
    intro tracker sessions
    simp only [installEntries_eq]
    exact tracker.atTables_sessions ..
  obtain ⟨answers, kept⟩ := alike.framed framed
  obtain ⟨installed, after⟩ := right.atTables_perm (Table.enrol id callbacks) perm apart
  rw [← installEntries_eq, ← installEntries_eq] at installed after
  rw [← answers] at installed
  rw [after] at kept
  have different : (left.installEntries id callbacks reads).1.Pairwise
      fun one other => one.registrar ≠ other.registrar :=
    List.pairwise_map.mp ((List.pairwise_map.mpr apart).sublist
      (left.registrars_installEntries id callbacks reads))
  have count : (left.installEntries id callbacks reads).2.countTokens
      (left.installEntries id callbacks reads).1 =
        (right.installEntries id callbacks others).2.countTokens
          (right.installEntries id callbacks others).1 := by
    rw [countTokens_perm _ installed, kept.countTokens]
  have session := kept.sessions id
  have armed : (((left.installEntries id callbacks reads).2.session id).arm callbacks
      (left.installEntries id callbacks reads).1).Alike
        (((right.installEntries id callbacks others).2.session id).arm callbacks
          (right.installEntries id callbacks others).1) :=
    ⟨session.reads, rfl, rfl, session.changed, installed, different⟩
  simp only [Tracker.armOver, count, installed.length_eq]
  refine ⟨trivial, (kept.setSession id armed).withTotals ?_⟩
  rw [kept.totals]

/-- Whatever the orders, a session is armed alike, or refused alike. -/
theorem armIn (order other : HashOrder) (id : SessionId) (callbacks : PerPhase κ) :
    (∃ error, left.armIn order id callbacks = .error error ∧
        right.armIn other id callbacks = .error error) ∨
      ∃ report one two, left.armIn order id callbacks = .ok (report, one) ∧
        right.armIn other id callbacks = .ok (report, two) ∧ one.Alike two := by
  have session := alike.sessions id
  rcases status : (left.session id).status with _ | _ | _ | _
  · obtain ⟨report, armed⟩ := alike.armOver id callbacks
      (order.entries_perm other id (left.session id).reads) (order.entries_apart id _)
    refine .inr ⟨_, _, _, by rw [Tracker.armIn, status], ?_, armed⟩
    rw [Tracker.armIn, session.status, status, session.reads, report]
  all_goals simp [Tracker.armIn, session.status, status, alike]

end Alike
end Tracker
end ChangeTracking
