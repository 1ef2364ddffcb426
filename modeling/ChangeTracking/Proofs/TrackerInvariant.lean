import ChangeTracking.Tracker
import ChangeTracking.Proofs.TableInvariant

namespace ChangeTracking

theorem RegistrarId.index_inj {left right : RegistrarId} :
    left.index = right.index ↔ left = right := by
  cases left; cases right; simp

theorem SessionId.index_inj {left right : SessionId} :
    left.index = right.index ↔ left = right := by
  cases left; cases right; simp

namespace Tracker
variable {κ : Type} (tracker : Tracker κ)

/-- A tracker whose tables are sound and which keeps nothing for registrars that are gone. -/
structure Sound (tracker : Tracker κ) : Prop where
  tables : ∀ id, (tracker.table id).Sound
  gone : ∀ id, tracker.isLive id = false → (tracker.table id).subscriptions = []

theorem Sound.empty : (∅ : Tracker κ).Sound where
  tables _ := Table.Sound.empty
  gone _ _ := rfl

theorem Sound.live_of_mem {tracker : Tracker κ} (sound : tracker.Sound) {id : RegistrarId}
    {subscription : Subscription κ} (member : subscription ∈ (tracker.table id).subscriptions) :
    tracker.isLive id = true := by
  by_contra gone
  rw [sound.gone id (by simpa using gone)] at member
  cases member

theorem isLive_eq (id : RegistrarId) :
    tracker.isLive id = (tracker.registrars[id.index]?).any fun registrar =>
      0 < registrar.holders := by
  rw [isLive]
  cases tracker.registrars[id.index]? <;> rfl

theorem index_lt_of_isLive {tracker : Tracker κ} {id : RegistrarId}
    (live : tracker.isLive id = true) : id.index < tracker.registrars.size := by
  by_contra absent
  rw [isLive_eq, Array.getElem?_eq_none (Nat.le_of_not_lt absent)] at live
  cases live

theorem registrars_setTable (id : RegistrarId) (table : Table κ) (index : Nat) :
    (tracker.setTable id table).registrars[index]? =
      if index = id.index ∧ tracker.isLive id = true
      then (tracker.registrars[index]?).map fun registrar => { registrar with table }
      else tracker.registrars[index]? := by
  rw [setTable, Array.getElem?_modify, isLive]
  by_cases same : id.index = index
  · subst same
    rcases found : tracker.registrars[id.index]? with _ | registrar
    · simp
    · by_cases live : registrar.holders = 0 <;> simp [live, Nat.pos_iff_ne_zero]
  · simp [same, Ne.symm same]

theorem isLive_setTable (id : RegistrarId) (table : Table κ) (other : RegistrarId) :
    (tracker.setTable id table).isLive other = tracker.isLive other := by
  rw [isLive_eq, registrars_setTable, isLive_eq tracker other]
  by_cases written : other.index = id.index ∧ tracker.isLive id = true
  · rw [if_pos written]
    cases tracker.registrars[other.index]? <;> rfl
  · rw [if_neg written]

theorem table_setTable (id : RegistrarId) (table : Table κ) (other : RegistrarId) :
    (tracker.setTable id table).table other =
      if other = id ∧ tracker.isLive id = true then table else tracker.table other := by
  unfold Tracker.table
  rw [registrars_setTable]
  simp only [RegistrarId.index_inj]
  by_cases written : other = id ∧ tracker.isLive id = true
  · obtain ⟨rfl, live⟩ := written
    rcases found : tracker.registrars[other.index]? with _ | registrar
    · simp [isLive, found] at live
    · simp [live]
  · simp [written]

theorem table_setTable_of_live {id : RegistrarId} (live : tracker.isLive id = true)
    (table : Table κ) (other : RegistrarId) :
    (tracker.setTable id table).table other = if other = id then table else tracker.table other := by
  simp [table_setTable, live]

theorem Sound.setTable {tracker : Tracker κ} (sound : tracker.Sound) {id : RegistrarId}
    (live : tracker.isLive id = true) {table : Table κ} (fine : table.Sound) :
    (tracker.setTable id table).Sound where
  tables other := by
    rw [table_setTable_of_live tracker live]
    split
    · exact fine
    · exact sound.tables other
  gone other gone := by
    rw [isLive_setTable] at gone
    rw [table_setTable_of_live tracker live]
    split
    · rename_i same
      rw [same, live] at gone
      cases gone
    · exact sound.gone other gone

theorem setTable_of_not_live {id : RegistrarId} (gone : tracker.isLive id = false)
    (table : Table κ) : tracker.setTable id table = tracker := by
  have same : (tracker.setTable id table).registrars = tracker.registrars := by
    apply Array.ext_getElem?
    intro index
    simp [registrars_setTable, gone]
  cases tracker
  simpa [setTable] using same

@[simp] theorem sessions_setTable (id : RegistrarId) (table : Table κ) :
    (tracker.setTable id table).sessions = tracker.sessions := rfl

@[simp] theorem totals_setTable (id : RegistrarId) (table : Table κ) :
    (tracker.setTable id table).totals = tracker.totals := rfl

theorem session_setSession (id : SessionId) (session : Session κ) (other : SessionId) :
    (tracker.setSession id session).session other =
      if other = id ∧ id.index < tracker.sessions.size then session
      else tracker.session other := by
  simp only [Tracker.session, setSession, Array.getElem?_setIfInBounds, ← SessionId.index_inj]
  by_cases same : id.index = other.index
  · by_cases inside : id.index < tracker.sessions.size
    · simp [same, same ▸ inside]
    · have outside : ¬ other.index < tracker.sessions.size := same ▸ inside
      simp [same, outside]
  · simp [same, Ne.symm same]

/-- A session that was never created counts as cancelled. -/
theorem session_of_absent {id : SessionId} (absent : ¬ id.index < tracker.sessions.size) :
    tracker.session id = (Session.create ∅).cancel := by
  simp [session, Array.getElem?_eq_none (Nat.le_of_not_lt absent)]

section Untouched
variable (id : SessionId) (session : Session κ) (totals : Totals) (registrar : RegistrarId)

@[simp] theorem table_setSession :
    (tracker.setSession id session).table registrar = tracker.table registrar := rfl

@[simp] theorem isLive_setSession :
    (tracker.setSession id session).isLive registrar = tracker.isLive registrar := rfl

@[simp] theorem size_setSession :
    (tracker.setSession id session).sessions.size = tracker.sessions.size := by
  simp [setSession]

@[simp] theorem table_totals :
    ({ tracker with totals } : Tracker κ).table registrar = tracker.table registrar := rfl

@[simp] theorem isLive_totals :
    ({ tracker with totals } : Tracker κ).isLive registrar = tracker.isLive registrar := rfl

@[simp] theorem session_totals :
    ({ tracker with totals } : Tracker κ).session id = tracker.session id := rfl

@[simp] theorem untouched_cancel (token : Token) :
    (tracker.cancel registrar token).2.sessions = tracker.sessions ∧
      (tracker.cancel registrar token).2.totals = tracker.totals := by
  unfold cancel
  split
  · split <;> exact ⟨rfl, rfl⟩
  · exact ⟨rfl, rfl⟩

@[simp] theorem untouched_cancelTokens (tokens : List Token) :
    (tracker.cancelTokens registrar tokens).2.sessions = tracker.sessions ∧
      (tracker.cancelTokens registrar tokens).2.totals = tracker.totals := by
  induction tokens generalizing tracker with
  | nil => exact ⟨rfl, rfl⟩
  | cons token rest ih => simpa [cancelTokens] using ih (tracker.cancel registrar token).2

@[simp] theorem untouched_tearDown (installed : List Installation) :
    (tracker.tearDown installed).2.sessions = tracker.sessions ∧
      (tracker.tearDown installed).2.totals = tracker.totals := by
  induction installed generalizing tracker with
  | nil => exact ⟨rfl, rfl⟩
  | cons entry rest ih =>
    unfold tearDown
    split
    · simpa using ih (tracker.cancelTokens entry.registrar entry.tokens.toList).2
    · exact ih _

@[simp] theorem untouched_subscribe (read : AccessEntry) (wanted : PerPhase κ) (phase : Phase) :
    (tracker.subscribe id read wanted phase).2.sessions = tracker.sessions ∧
      (tracker.subscribe id read wanted phase).2.totals = tracker.totals := by
  unfold subscribe
  split <;> exact ⟨rfl, rfl⟩

@[simp] theorem untouched_installEntries (wanted : PerPhase κ) (reads : List AccessEntry) :
    (tracker.installEntries id wanted reads).2.sessions = tracker.sessions ∧
      (tracker.installEntries id wanted reads).2.totals = tracker.totals := by
  induction reads generalizing tracker with
  | nil => exact ⟨rfl, rfl⟩
  | cons read rest ih =>
    unfold installEntries
    split
    · simpa [installEntry] using ih (tracker.installEntry id wanted read).2
    · exact ih _

end Untouched

theorem table_createRegistrar (id : RegistrarId) :
    tracker.createRegistrar.2.table id = tracker.table id := by
  simp only [createRegistrar, Tracker.table, Array.getElem?_push]
  by_cases fresh : id.index = tracker.registrars.size
  · simp [fresh]
  · simp [fresh]

theorem isLive_createRegistrar (id : RegistrarId) :
    tracker.createRegistrar.2.isLive id =
      (tracker.isLive id || decide (id = tracker.createRegistrar.1)) := by
  simp only [createRegistrar, isLive, Array.getElem?_push, ← RegistrarId.index_inj]
  by_cases fresh : id.index = tracker.registrars.size <;> simp [fresh]

theorem registrars_retain (id : RegistrarId) (index : Nat) :
    (tracker.retain id).registrars[index]? =
      (tracker.registrars[index]?).map fun registrar =>
        if id.index = index ∧ registrar.holders ≠ 0
        then { registrar with holders := registrar.holders + 1 } else registrar := by
  rw [retain, Array.getElem?_modify]
  by_cases same : id.index = index <;> simp [same]

theorem table_retain (id other : RegistrarId) :
    (tracker.retain id).table other = tracker.table other := by
  simp only [Tracker.table, registrars_retain]
  rcases tracker.registrars[other.index]? with _ | registrar
  · rfl
  · simp only [Option.map_some]
    split <;> rfl

theorem isLive_retain (id other : RegistrarId) :
    (tracker.retain id).isLive other = tracker.isLive other := by
  simp only [isLive, registrars_retain]
  rcases tracker.registrars[other.index]? with _ | registrar
  · rfl
  · simp only [Option.map_some]
    split
    · rename_i held
      simp [Nat.pos_of_ne_zero held.2]
    · rfl

/-- A release either leaves all as it is, or the registrar is gone and its table cleared. -/
theorem release_cases (id : RegistrarId) :
    (∀ other, (tracker.release id).table other = tracker.table other ∧
      (tracker.release id).isLive other = tracker.isLive other) ∨
    (∀ other, (tracker.release id).table other =
        (if other = id then (tracker.table id).clear else tracker.table other) ∧
      (tracker.release id).isLive other = (tracker.isLive other && decide (other ≠ id))) := by
  have entry (index : Nat) : (tracker.release id).registrars[index]? =
      if id.index = index then (tracker.registrars[index]?).map fun registrar =>
        if registrar.holders ≤ 1 then ⟨registrar.table.clear, 0⟩
        else { registrar with holders := registrar.holders - 1 }
      else tracker.registrars[index]? := by
    rw [release, Array.getElem?_modify]
  simp only [Tracker.table, isLive, entry, RegistrarId.index_inj]
  rcases found : tracker.registrars[id.index]? with _ | registrar
  · left
    intro other
    by_cases same : id = other
    · subst same
      simp [found]
    · simp [same]
  · by_cases last : registrar.holders ≤ 1
    · right
      intro other
      by_cases same : id = other
      · subst same
        simp [found, last]
      · simp [same, Ne.symm same]
    · left
      intro other
      by_cases same : id = other
      · subst same
        have more : 0 < registrar.holders - 1 := by omega
        have some : 0 < registrar.holders := by omega
        simp [found, last, more, some]
      · simp [same]

end Tracker
end ChangeTracking
