import ChangeTracking.Proofs.TrackerInvariant
import Mathlib.Algebra.GroupWithZero.Nat

namespace ChangeTracking

namespace Table
variable {κ : Type}

/-- A subscription for one phase on behalf of a session, if the phase is wanted. -/
def subscribe (id : SessionId) (read : AccessEntry) (wanted : PerPhase κ) (phase : Phase)
    (table : Table κ) : Option Token × Table κ :=
  match wanted.find? phase with
  | none => (none, table)
  | some _ => (some ⟨read.registrar, table.nextId⟩,
      table.register read.keys phase (.session id read.registrar phase))

/-- The subscriptions of a session for what was read, will-change first. -/
def enrol (id : SessionId) (wanted : PerPhase κ) (read : AccessEntry) (table : Table κ) :
    Installation × Table κ :=
  let (willChange, table) := table.subscribe id read wanted .willChange
  let (didChange, table) := table.subscribe id read wanted .didChange
  (⟨read.registrar, ⟨willChange, didChange⟩⟩, table)

/-- Removes the subscriptions of tokens that the registrar issued, and counts those that were
there. -/
def cancelTokens (id : RegistrarId) : List Token → Table κ → Nat × Table κ
  | [], table => (0, table)
  | token :: rest, table =>
    if token.registrar = id then
      match table.cancel? token.id with
      | none => cancelTokens id rest table
      | some table => ((cancelTokens id rest table).1 + 1, (cancelTokens id rest table).2)
    else cancelTokens id rest table

end Table

namespace Tracker
variable {κ ι β γ : Type} (tracker : Tracker κ)

theorem setTable_setTable (id : RegistrarId) (first second : Table κ) :
    (tracker.setTable id first).setTable id second = tracker.setTable id second := by
  have same : ((tracker.setTable id first).setTable id second).registrars =
      (tracker.setTable id second).registrars := by
    apply Array.ext_getElem?
    intro index
    simp only [registrars_setTable, isLive_setTable]
    by_cases written : index = id.index ∧ tracker.isLive id = true
    · simp only [written, and_self, if_true, Option.map_map]
      rfl
    · simp [written]
  exact congrArg (fun registrars => { tracker with registrars }) same

theorem setTable_comm {left right : RegistrarId} (different : left ≠ right)
    (first second : Table κ) :
    (tracker.setTable left first).setTable right second =
      (tracker.setTable right second).setTable left first := by
  have same : ((tracker.setTable left first).setTable right second).registrars =
      ((tracker.setTable right second).setTable left first).registrars := by
    apply Array.ext_getElem?
    intro index
    simp only [registrars_setTable, isLive_setTable]
    by_cases here : index = left.index
    · have elsewhere : index ≠ right.index := fun there =>
        different (RegistrarId.index_inj.mp (here.symm.trans there))
      simp [elsewhere]
    · simp [here]
  exact congrArg (fun registrars => { tracker with registrars }) same

theorem setTable_table (id : RegistrarId) : tracker.setTable id (tracker.table id) = tracker := by
  have same : (tracker.setTable id (tracker.table id)).registrars = tracker.registrars := by
    apply Array.ext_getElem?
    intro index
    rw [registrars_setTable, table]
    split
    · rename_i written
      rw [written.1]
      cases tracker.registrars[id.index]? <;> rfl
    · rfl
  exact congrArg (fun registrars => { tracker with registrars }) same

/-- A step at the table of one registrar. -/
def atTable (id : RegistrarId) (step : Table κ → β × Table κ) : β × Tracker κ :=
  ((step (tracker.table id)).1, tracker.setTable id (step (tracker.table id)).2)

/-- A step for each item at the table of its registrar, if that is alive. -/
def atTables (step : ι → Table κ → β × Table κ) (registrar : ι → RegistrarId)
    (tracker : Tracker κ) : List ι → List β × Tracker κ
  | [] => ([], tracker)
  | item :: rest =>
    if tracker.isLive (registrar item) then
      let (value, tracker) := tracker.atTable (registrar item) (step item)
      let (values, tracker) := tracker.atTables step registrar rest
      (value :: values, tracker)
    else tracker.atTables step registrar rest

theorem isLive_atTable (id other : RegistrarId) (step : Table κ → β × Table κ) :
    (tracker.atTable id step).2.isLive other = tracker.isLive other := isLive_setTable ..

theorem table_atTable_of_ne {id other : RegistrarId} (different : other ≠ id)
    (step : Table κ → β × Table κ) :
    (tracker.atTable id step).2.table other = tracker.table other := by
  rw [atTable, table_setTable, if_neg fun same => different same.1]

theorem answer_atTable_of_ne {id other : RegistrarId} (different : other ≠ id)
    (first : Table κ → β × Table κ) (second : Table κ → γ × Table κ) :
    ((tracker.atTable id first).2.atTable other second).1 = (tracker.atTable other second).1 :=
  congrArg (fun table => (second table).1) (tracker.table_atTable_of_ne different first)

theorem atTable_atTable {id : RegistrarId} (live : tracker.isLive id = true)
    (first : Table κ → β × Table κ) (second : Table κ → γ × Table κ) :
    (tracker.atTable id first).2.atTable id second =
      ((second (first (tracker.table id)).2).1,
        tracker.setTable id (second (first (tracker.table id)).2).2) := by
  have table : (tracker.atTable id first).2.table id = (first (tracker.table id)).2 := by
    rw [atTable, table_setTable_of_live _ live, if_pos rfl]
  rw [atTable, table, atTable, setTable_setTable]

theorem atTable_comm {left right : RegistrarId} (different : left ≠ right)
    (first : Table κ → β × Table κ) (second : Table κ → γ × Table κ) :
    ((tracker.atTable left first).2.atTable right second).2 =
      ((tracker.atTable right second).2.atTable left first).2 := by
  have one : (tracker.atTable left first).2.table right = tracker.table right :=
    tracker.table_atTable_of_ne (Ne.symm different) first
  have other : (tracker.atTable right second).2.table left = tracker.table left :=
    tracker.table_atTable_of_ne different second
  change (tracker.atTable left first).2.setTable right
      (second ((tracker.atTable left first).2.table right)).2 =
    (tracker.atTable right second).2.setTable left
      (first ((tracker.atTable right second).2.table left)).2
  rw [one, other]
  exact tracker.setTable_comm different ..

theorem atTables_sessions (step : ι → Table κ → β × Table κ) (registrar : ι → RegistrarId)
    (sessions : Array (Session κ)) (items : List ι) :
    ({ tracker with sessions } : Tracker κ).atTables step registrar items =
      ((tracker.atTables step registrar items).1,
        { (tracker.atTables step registrar items).2 with sessions }) := by
  induction items generalizing tracker with
  | nil => rfl
  | cons item rest ih =>
    have live : ({ tracker with sessions } : Tracker κ).isLive (registrar item) =
        tracker.isLive (registrar item) := rfl
    rw [atTables, atTables, live]
    split
    · have step : ({ tracker with sessions } : Tracker κ).atTable (registrar item) (step item) =
          ((tracker.atTable (registrar item) (step item)).1,
            { (tracker.atTable (registrar item) (step item)).2 with sessions }) := rfl
      simp only [step, ih]
    · exact ih tracker

/-- Over items at different registrars the order makes no difference. -/
theorem atTables_perm (step : ι → Table κ → β × Table κ) {registrar : ι → RegistrarId}
    {items others : List ι} (perm : items.Perm others)
    (apart : items.Pairwise fun left right => registrar left ≠ registrar right) :
    (tracker.atTables step registrar items).1.Perm (tracker.atTables step registrar others).1 ∧
      (tracker.atTables step registrar items).2 = (tracker.atTables step registrar others).2 := by
  induction perm generalizing tracker with
  | nil => exact ⟨.nil, rfl⟩
  | cons item _ ih =>
    obtain ⟨_, apart⟩ := List.pairwise_cons.mp apart
    simp only [atTables]
    split
    · obtain ⟨values, after⟩ := ih (tracker.atTable (registrar item) (step item)).2 apart
      exact ⟨values.cons _, after⟩
    · exact ih tracker apart
  | swap left right rest =>
    have different : registrar right ≠ registrar left :=
      (List.pairwise_cons.mp apart).1 left List.mem_cons_self
    simp only [atTables, isLive_atTable]
    by_cases first : tracker.isLive (registrar left) = true
    · by_cases second : tracker.isLive (registrar right) = true
      · simp only [first, second, if_true, answer_atTable_of_ne tracker different,
          answer_atTable_of_ne tracker (Ne.symm different), atTable_comm tracker different]
        exact ⟨.swap .., trivial⟩
      · simp only [first, second, if_true]
        exact ⟨.refl _, rfl⟩
    · simp only [first]
      exact ⟨.refl _, rfl⟩
  | trans first _ one two =>
    obtain ⟨values, after⟩ := one tracker apart
    have apart := (first.pairwise_iff fun different => Ne.symm different).mp apart
    obtain ⟨more, last⟩ := two tracker apart
    exact ⟨values.trans more, after.trans last⟩

variable {tracker}

theorem subscribe_eq (id : SessionId) (read : AccessEntry) (wanted : PerPhase κ) (phase : Phase) :
    tracker.subscribe id read wanted phase =
      tracker.atTable read.registrar (Table.subscribe id read wanted phase) := by
  rcases found : wanted.find? phase with _ | callback
  · simp only [subscribe, Table.subscribe, atTable, found, setTable_table]
  · simp only [subscribe, Table.subscribe, atTable, found]
    rfl

theorem installEntry_eq (id : SessionId) (wanted : PerPhase κ) {read : AccessEntry}
    (live : tracker.isLive read.registrar = true) :
    tracker.installEntry id wanted read =
      tracker.atTable read.registrar (Table.enrol id wanted read) := by
  rw [installEntry, subscribe_eq]
  simp only [subscribe_eq, atTable_atTable _ live]
  rfl

theorem installEntries_eq (id : SessionId) (wanted : PerPhase κ) (reads : List AccessEntry) :
    tracker.installEntries id wanted reads =
      tracker.atTables (Table.enrol id wanted) (·.registrar) reads := by
  induction reads generalizing tracker with
  | nil => rfl
  | cons read rest ih =>
    rw [installEntries, atTables]
    split
    · rename_i live
      rw [installEntry_eq id wanted live]
      simp only [ih]
    · exact ih

theorem cancelTokens_eq {id : RegistrarId} (live : tracker.isLive id = true)
    (tokens : List Token) :
    tracker.cancelTokens id tokens = tracker.atTable id (Table.cancelTokens id tokens) := by
  induction tokens generalizing tracker with
  | nil => exact congrArg (Prod.mk 0) (tracker.setTable_table id).symm
  | cons token rest ih =>
    by_cases own : token.registrar = id
    · rcases found : (tracker.table id).cancel? token.id with _ | table
      · simp only [cancelTokens, cancel, Table.cancelTokens, atTable, own, found, if_true, ih live,
          Bool.toNat_false, Nat.zero_add]
      · have still : (tracker.setTable id table).isLive id = true := by rw [isLive_setTable, live]
        have written : (tracker.setTable id table).table id = table := by
          rw [table_setTable_of_live _ live, if_pos rfl]
        simp only [cancelTokens, cancel, Table.cancelTokens, atTable, own, found, if_true, ih still,
          written, setTable_setTable, Bool.toNat_true, Nat.add_comm]
    · simp only [cancelTokens, cancel, Table.cancelTokens, atTable, own, if_false, ih live,
        Bool.toNat_false, Nat.zero_add]

theorem tearDown_eq (installed : List Installation) :
    tracker.tearDown installed =
      ((tracker.atTables (fun entry => Table.cancelTokens entry.registrar entry.tokens.toList)
          (·.registrar) installed).1.sum,
        (tracker.atTables (fun entry => Table.cancelTokens entry.registrar entry.tokens.toList)
          (·.registrar) installed).2) := by
  induction installed generalizing tracker with
  | nil => rfl
  | cons entry rest ih =>
    rw [tearDown, atTables]
    split
    · rename_i live
      rw [cancelTokens_eq live]
      simp only [ih, List.sum_cons]
    · exact ih

end Tracker
end ChangeTracking
