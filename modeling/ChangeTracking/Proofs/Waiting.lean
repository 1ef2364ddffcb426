import ChangeTracking.Proofs.ShadowRefinement

namespace ChangeTracking

section Tally
variable {ι ι' : Type}

/-- The sum of what items count for. -/
def tally (measure : ι → Nat) (items : List ι) : Nat := (items.map measure).sum

@[simp] theorem tally_nil (measure : ι → Nat) : tally measure [] = 0 := rfl

@[simp] theorem tally_cons (measure : ι → Nat) (item : ι) (items : List ι) :
    tally measure (item :: items) = measure item + tally measure items := rfl

@[simp] theorem tally_append (measure : ι → Nat) (front back : List ι) :
    tally measure (front ++ back) = tally measure front + tally measure back := by
  simp [tally]

theorem tally_flatMap (measure : ι → Nat) (part : ι' → List ι) (items : List ι') :
    tally measure (items.flatMap part) = tally (fun item => tally measure (part item)) items := by
  induction items with
  | nil => rfl
  | cons item rest ih => rw [List.flatMap_cons, tally_append, ih, tally_cons]

theorem tally_one (items : List ι) : tally (fun _ => 1) items = items.length := by
  simp [tally]

/-- Items are among others, each as often, when they count for less, whatever items count for. -/
theorem subperm_of_tally {items others : List ι}
    (less : ∀ measure, tally measure items ≤ tally measure others) : items.Subperm others := by
  classical
  have count (item : ι) (list : List ι) :
      tally (fun other => if other = item then 1 else 0) list = list.count item := by
    induction list with
    | nil => rfl
    | cons head rest ih =>
      rw [tally_cons, ih, List.count_cons, Nat.add_comm]
      simp
  rw [List.subperm_ext_iff]
  intro item _
  rw [← count, ← count]
  exact less _

theorem PerPhase.tally_toList (measure : ι → Nat) {slots : PerPhase ι} {phase : Phase} {value : ι}
    (found : slots.find? phase = some value) :
    tally measure slots.toList = measure value + tally measure (slots.erase phase).toList := by
  obtain ⟨will, did⟩ := slots
  cases phase with
  | willChange =>
    obtain rfl : will = some value := found
    rfl
  | didChange =>
    obtain rfl : did = some value := found
    simp [toList, erase, Nat.add_comm]

end Tally

namespace Tracker
variable {κ : Type} {tracker after : Tracker κ} {id : SessionId}

def waiting (tracker : Tracker κ) : List κ :=
  tracker.sessions.toList.flatMap (·.callbacks.toList)

private theorem tally_set (measure : κ → Nat) {sessions : List (Session κ)} {index : Nat}
    {old : Session κ} (found : sessions[index]? = some old) (new : Session κ) :
    tally measure ((sessions.set index new).flatMap (·.callbacks.toList)) +
        tally measure old.callbacks.toList =
      tally measure (sessions.flatMap (·.callbacks.toList)) +
        tally measure new.callbacks.toList := by
  induction sessions generalizing index with
  | nil => cases found
  | cons head rest ih =>
    cases index with
    | zero =>
      obtain rfl : head = old := Option.some.inj found
      simp only [List.set_cons_zero, List.flatMap_cons, tally_append]
      omega
    | succ index =>
      have found : rest[index]? = some old := found
      have rest := ih found
      simp only [List.set_cons_succ, List.flatMap_cons, tally_append]
      omega

theorem tally_waiting_of_written (inside : id.index < tracker.sessions.size) {session : Session κ}
    (written : after.sessions = (tracker.setSession id session).sessions) (measure : κ → Nat) :
    tally measure after.waiting + tally measure (tracker.session id).callbacks.toList =
      tally measure tracker.waiting + tally measure session.callbacks.toList := by
  have found : tracker.sessions.toList[id.index]? = some (tracker.session id) := by
    simp [Tracker.session, inside]
  have sessions : after.sessions.toList = tracker.sessions.toList.set id.index session := by
    rw [written, setSession, Array.toList_setIfInBounds]
  rw [waiting, sessions]
  exact tally_set measure found session

theorem waiting_of_sessions (same : after.sessions = tracker.sessions) :
    after.waiting = tracker.waiting := by
  rw [waiting, same, waiting]

theorem waiting_createSession (reads : AccessList) :
    (tracker.createSession reads).2.waiting = tracker.waiting := by
  simp only [waiting, createSession, Array.toList_push, List.flatMap_append]
  exact List.append_nil _

theorem tally_waiting_armOver (pending : (tracker.session id).status = .pending)
    (callbacks : PerPhase κ) (reads : List AccessEntry) (measure : κ → Nat) :
    tally measure (tracker.armOver id callbacks reads).2.waiting ≤
      tally measure tracker.waiting + tally measure callbacks.toList := by
  have same : (tracker.installEntries id callbacks reads).2.session id = tracker.session id := by
    rw [Tracker.session, (untouched_installEntries ..).1, ← Tracker.session]
  have written : (tracker.armOver id callbacks reads).2.sessions = (tracker.setSession id
      ((tracker.session id).arm callbacks (tracker.givenTo id callbacks reads))).sessions := by
    simp [armOver, setSession, same, givenTo]
  have inside : id.index < tracker.sessions.size := index_lt_of_status (by simp [pending])
  have exchanged := tally_waiting_of_written inside written measure
  exact (Nat.le_add_right _ _).trans_eq exchanged

theorem FiredBy.tally_waiting {event : ChangeEvent} {firing : Firing κ}
    (fired : tracker.FiredBy id event firing) (measure : κ → Nat) :
    tally measure firing.tracker.waiting + measure firing.callback =
      tally measure tracker.waiting := by
  obtain ⟨totals, left⟩ := fired.tracker
  have written : firing.tracker.sessions =
      (tracker.setSession id ((tracker.session id).fire event)).sessions := by simp [left]
  have inside : id.index < tracker.sessions.size := index_lt_of_status (by simp [fired.installed])
  have exchanged := tally_waiting_of_written inside written measure
  have taken : tally measure (tracker.session id).callbacks.toList = measure firing.callback +
      tally measure ((tracker.session id).fire event).callbacks.toList :=
    PerPhase.tally_toList measure fired.callback
  omega

theorem CancelledBy.tally_waiting {report : TraceEvent}
    (ended : tracker.CancelledBy id report after) (measure : κ → Nat) :
    tally measure after.waiting ≤ tally measure tracker.waiting := by
  obtain ⟨totals, left⟩ := ended.tracker
  have written : after.sessions = (tracker.setSession id (tracker.session id).cancel).sessions := by
    simp [left]
  have inside : id.index < tracker.sessions.size := index_lt_of_status ended.not_cancelled
  have exchanged := tally_waiting_of_written inside written measure
  exact (Nat.le_add_right _ _).trans_eq exchanged

/-- Nobody but sessions is subscribed. -/
def Undirected (tracker : Tracker κ) : Prop :=
  ∀ registrar, ∀ subscription ∈ (tracker.table registrar).subscriptions, ∀ callback,
    subscription.perceiver ≠ .direct callback

namespace Undirected

theorem empty : (∅ : Tracker κ).Undirected := by
  intro registrar subscription member
  cases member

theorem congr (undirected : tracker.Undirected)
    (same : ∀ registrar, after.table registrar = tracker.table registrar) : after.Undirected := by
  intro registrar subscription member
  rw [same] at member
  exact undirected registrar subscription member

theorem cleared (undirected : tracker.Undirected) (cleared : Cleared tracker after) :
    after.Undirected := by
  intro registrar subscription member
  rcases cleared.tables registrar with same | gone
  · rw [same] at member
    exact undirected registrar subscription member
  · rw [gone] at member
    cases member

theorem setTable (undirected : tracker.Undirected) {registrar : RegistrarId} {table : Table κ}
    (fine : ∀ subscription ∈ table.subscriptions, ∀ callback,
      subscription.perceiver ≠ .direct callback) :
    (tracker.setTable registrar table).Undirected := by
  intro other subscription member
  rw [table_setTable] at member
  split at member
  · exact fine subscription member
  · exact undirected other subscription member

theorem cancel (undirected : tracker.Undirected) (registrar : RegistrarId) (token : Token) :
    (tracker.cancel registrar token).2.Undirected := by
  unfold Tracker.cancel
  split
  · split
    · exact undirected
    · rename_i left
      refine undirected.setTable fun subscription member => ?_
      rw [(Table.cancel?_subscriptions left).1] at member
      exact undirected registrar subscription (List.mem_of_mem_filter member)
  · exact undirected

theorem cancelTokens (undirected : tracker.Undirected) (registrar : RegistrarId)
    (tokens : List Token) : (tracker.cancelTokens registrar tokens).2.Undirected := by
  induction tokens generalizing tracker with
  | nil => exact undirected
  | cons token rest ih => exact ih (undirected.cancel registrar token)

theorem tearDown (undirected : tracker.Undirected) (installed : List Installation) :
    (tracker.tearDown installed).2.Undirected := by
  induction installed generalizing tracker with
  | nil => exact undirected
  | cons entry rest ih =>
    unfold Tracker.tearDown
    split
    · exact ih (undirected.cancelTokens entry.registrar entry.tokens.toList)
    · exact ih undirected

theorem subscribe (undirected : tracker.Undirected) (id : SessionId) (read : AccessEntry)
    (wanted : PerPhase κ) (phase : Phase) :
    (tracker.subscribe id read wanted phase).2.Undirected := by
  unfold Tracker.subscribe
  split
  · exact undirected
  · refine undirected.setTable fun subscription member callback => ?_
    rcases List.mem_append.mp member with old | new
    · exact undirected read.registrar subscription old callback
    · rw [List.mem_singleton.mp new]
      nofun

theorem installEntries (undirected : tracker.Undirected) (id : SessionId) (wanted : PerPhase κ)
    (reads : List AccessEntry) : (tracker.installEntries id wanted reads).2.Undirected := by
  induction reads generalizing tracker with
  | nil => exact undirected
  | cons read rest ih =>
    unfold Tracker.installEntries
    split
    · have first := undirected.subscribe id read wanted .willChange
      exact ih (first.subscribe id read wanted .didChange)
    · exact ih undirected

theorem armOver (undirected : tracker.Undirected) (id : SessionId) (callbacks : PerPhase κ)
    (reads : List AccessEntry) : (tracker.armOver id callbacks reads).2.Undirected :=
  (undirected.installEntries id callbacks reads).congr fun _ => rfl

theorem fired (undirected : tracker.Undirected) {event : ChangeEvent} {firing : Firing κ}
    (fired : tracker.FiredBy id event firing) : firing.tracker.Undirected := by
  obtain ⟨totals, left⟩ := fired.tracker
  rw [left]
  have written : (tracker.setSession id ((tracker.session id).fire event)).Undirected := undirected
  exact written.tearDown _

theorem cancelled (undirected : tracker.Undirected) {report : TraceEvent}
    (ended : tracker.CancelledBy id report after) : after.Undirected := by
  obtain ⟨totals, left⟩ := ended.tracker
  rw [left]
  have written : (tracker.setSession id (tracker.session id).cancel).Undirected := undirected
  exact written.tearDown _

theorem of_mem_snapshot (undirected : tracker.Undirected) {registrar : RegistrarId} {key : Key}
    {phase : Phase} {perceiver : Perceiver κ}
    (found : perceiver ∈ tracker.snapshot registrar key phase) (callback : κ) :
    perceiver ≠ .direct callback := by
  obtain ⟨subscription, member, rfl⟩ := List.mem_map.mp found
  obtain ⟨number, _, there⟩ := List.mem_filterMap.mp (List.mem_of_mem_filter member)
  exact undirected registrar subscription (List.mem_of_find?_eq_some there) callback

end Undirected
end Tracker
end ChangeTracking
