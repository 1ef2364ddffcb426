import ChangeTracking.Proofs.TrackerInvariant
import Mathlib.Data.List.Basic

namespace ChangeTracking.Tracker
variable {κ : Type}

/-- Tables were cleared at most, among them those of registrars that went. -/
structure Cleared (before after : Tracker κ) : Prop where
  tables : ∀ id, after.table id = before.table id ∨ after.table id = (before.table id).clear
  gone : ∀ id, after.isLive id = false →
    before.isLive id = false ∨ after.table id = (before.table id).clear
  sessions : after.sessions = before.sessions

theorem createRegistrar_cleared (tracker : Tracker κ) :
    Cleared tracker tracker.createRegistrar.2 where
  tables id := .inl (tracker.table_createRegistrar id)
  gone id gone := by
    rw [isLive_createRegistrar, Bool.or_eq_false_iff] at gone
    exact .inl gone.1
  sessions := rfl

theorem retain_cleared (tracker : Tracker κ) (id : RegistrarId) :
    Cleared tracker (tracker.retain id) where
  tables other := .inl (tracker.table_retain id other)
  gone other gone := .inl (by rwa [isLive_retain] at gone)
  sessions := rfl

theorem release_cleared (tracker : Tracker κ) (id : RegistrarId) :
    Cleared tracker (tracker.release id) := by
  rcases tracker.release_cases id with kept | last
  · exact ⟨fun other => .inl (kept other).1,
      fun other gone => .inl (by rwa [(kept other).2] at gone), rfl⟩
  · refine ⟨?_, ?_, rfl⟩
    · intro other
      rw [(last other).1]
      split
      · rename_i same
        exact .inr (by rw [same])
      · exact .inl rfl
    · intro other gone
      rw [(last other).2, Bool.and_eq_false_iff, decide_eq_false_iff_not, not_not] at gone
      rcases gone with gone | rfl
      · exact .inl gone
      · exact .inr (by rw [(last other).1, if_pos rfl])

theorem cancelAll_cleared (tracker : Tracker κ) (id : RegistrarId) :
    Cleared tracker (tracker.cancelAll id).2 where
  tables other := by
    rw [cancelAll, table_setTable]
    split
    · rename_i same
      exact .inr (by rw [same.1])
    · exact .inl rfl
  gone other gone := .inl (by rwa [cancelAll, isLive_setTable] at gone)
  sessions := rfl

theorem Cleared.nextId {before after : Tracker κ} (cleared : Cleared before after)
    (id : RegistrarId) : (after.table id).nextId = (before.table id).nextId := by
  rcases cleared.tables id with same | empty
  · rw [same]
  · rw [empty]
    rfl

theorem Cleared.sound {before after : Tracker κ} (cleared : Cleared before after)
    (sound : before.Sound) : after.Sound where
  tables id := by
    rcases cleared.tables id with same | empty
    · rw [same]
      exact sound.tables id
    · rw [empty]
      exact Table.Sound.clear _
  gone id gone := by
    rcases cleared.gone id gone with before | empty
    · rcases cleared.tables id with same | empty
      · rw [same]
        exact sound.gone id before
      · rw [empty]
        rfl
    · rw [empty]
      rfl

/-- The tracker without the subscriptions of certain numbers; all others keep their order. -/
structure Removed (cut : RegistrarId → Nat → Bool) (before after : Tracker κ) : Prop where
  sound : after.Sound
  subscriptions : ∀ id, (after.table id).subscriptions =
    (before.table id).subscriptions.filter fun subscription => !cut id subscription.id
  nextId : ∀ id, (after.table id).nextId = (before.table id).nextId
  isLive : ∀ id, after.isLive id = before.isLive id
  sessions : after.sessions = before.sessions
  totals : after.totals = before.totals

namespace Removed
variable {before middle after : Tracker κ} {cut more : RegistrarId → Nat → Bool}

theorem of_absent (sound : before.Sound)
    (absent : ∀ id, ∀ subscription ∈ (before.table id).subscriptions,
      cut id subscription.id = false) : Removed cut before before where
  sound := sound
  subscriptions id := by
    rw [List.filter_eq_self.mpr]
    intro subscription member
    simp [absent id subscription member]
  nextId _ := rfl
  isLive _ := rfl
  sessions := rfl
  totals := rfl

theorem trans (first : Removed cut before middle) (second : Removed more middle after) :
    Removed (fun id number => cut id number || more id number) before after where
  sound := second.sound
  subscriptions id := by
    rw [second.subscriptions, first.subscriptions, List.filter_filter]
    congr 1
    funext subscription
    simp [Bool.and_comm]
  nextId id := (second.nextId id).trans (first.nextId id)
  isLive id := (second.isLive id).trans (first.isLive id)
  sessions := second.sessions.trans first.sessions
  totals := second.totals.trans first.totals

/-- Only what is done to subscriptions that are there matters. -/
theorem congr (removed : Removed cut before after)
    (same : ∀ id, ∀ subscription ∈ (before.table id).subscriptions,
      more id subscription.id = cut id subscription.id) : Removed more before after where
  sound := removed.sound
  subscriptions id := by
    rw [removed.subscriptions]
    apply List.filter_congr
    intro subscription member
    rw [same id subscription member]
  nextId := removed.nextId
  isLive := removed.isLive
  sessions := removed.sessions
  totals := removed.totals

theorem session (removed : Removed cut before after) (id : SessionId) :
    after.session id = before.session id := by
  rw [Tracker.session, removed.sessions, Tracker.session]

theorem mem_iff (removed : Removed cut before after) {id : RegistrarId}
    {subscription : Subscription κ} :
    subscription ∈ (after.table id).subscriptions ↔
      subscription ∈ (before.table id).subscriptions ∧ cut id subscription.id = false := by
  rw [removed.subscriptions]
  simp

end Removed

variable {tracker : Tracker κ}

theorem cancel_removed (sound : tracker.Sound) (id : RegistrarId) (token : Token) :
    Removed (fun other number => decide (other = id ∧ token = ⟨other, number⟩))
      tracker (tracker.cancel id token).2 := by
  unfold Tracker.cancel
  split
  · rename_i own
    split
    · rename_i missing
      apply Removed.of_absent sound
      intro other subscription member
      simp only [decide_eq_false_iff_not, not_and]
      rintro rfl rfl
      exact Table.cancel?_eq_none_iff.mp missing subscription member rfl
    · rename_i table cancelled
      obtain ⟨left, next⟩ := Table.cancel?_subscriptions cancelled
      have live : tracker.isLive id = true := by
        by_contra gone
        have empty := sound.gone id (by simpa using gone)
        rw [Table.cancel?_eq_none_iff.mpr (by simp [empty])] at cancelled
        cases cancelled
      refine ⟨sound.setTable live ((sound.tables id).cancel? cancelled), ?_, ?_, ?_, rfl, rfl⟩
      · intro other
        rw [table_setTable_of_live tracker live]
        split
        · rename_i same
          subst same
          rw [left]
          apply List.filter_congr
          intro subscription _
          obtain ⟨registrar, number⟩ := token
          have here : registrar = other := own
          subst here
          simp [eq_comm]
        · rename_i different
          simp [different]
      · intro other
        rw [table_setTable_of_live tracker live]
        split
        · rename_i same
          rw [same, next]
        · rfl
      · intro other
        rw [isLive_setTable]
  · rename_i foreign
    apply Removed.of_absent sound
    intro other subscription _
    simp only [decide_eq_false_iff_not, not_and]
    rintro rfl rfl
    exact foreign rfl

theorem cancelTokens_removed (sound : tracker.Sound) (id : RegistrarId) (tokens : List Token) :
    Removed (fun other number => decide (other = id ∧ (⟨other, number⟩ : Token) ∈ tokens))
      tracker (tracker.cancelTokens id tokens).2 := by
  induction tokens generalizing tracker with
  | nil => exact .of_absent sound (by simp)
  | cons token rest ih =>
    have first := cancel_removed sound id token
    apply (first.trans (ih first.sound)).congr
    intro other subscription _
    by_cases same : other = id <;> simp [same, eq_comm]

/-- Whether installations hold the token of a number at a registrar. -/
def heldBy (installed : List Installation) (id : RegistrarId) (number : Nat) : Bool :=
  installed.any fun entry => entry.registrar = id ∧ (⟨id, number⟩ : Token) ∈ entry.tokens.toList

theorem tearDown_removed (sound : tracker.Sound) (installed : List Installation) :
    Removed (heldBy installed) tracker (tracker.tearDown installed).2 := by
  induction installed generalizing tracker with
  | nil => exact .of_absent sound (by simp [heldBy])
  | cons entry rest ih =>
    unfold tearDown
    split
    · have first := cancelTokens_removed sound entry.registrar entry.tokens.toList
      apply (first.trans (ih first.sound)).congr
      intro other subscription _
      simp [heldBy, eq_comm]
    · rename_i gone
      apply (ih sound).congr
      intro other subscription member
      have different : entry.registrar ≠ other := by
        rintro rfl
        exact gone (sound.live_of_mem member)
      simp [heldBy, different]

/-- The tracker with further subscriptions at the end of its tables. -/
structure Added (new : RegistrarId → List (Subscription κ)) (before after : Tracker κ) :
    Prop where
  sound : after.Sound
  subscriptions : ∀ id, (after.table id).subscriptions =
    (before.table id).subscriptions ++ new id
  nextId : ∀ id, (after.table id).nextId = (before.table id).nextId + (new id).length
  fresh : ∀ id, ∀ subscription ∈ new id, (before.table id).nextId ≤ subscription.id
  isLive : ∀ id, after.isLive id = before.isLive id
  sessions : after.sessions = before.sessions
  totals : after.totals = before.totals

namespace Added
variable {before middle after : Tracker κ} {new more : RegistrarId → List (Subscription κ)}

theorem refl (sound : before.Sound) : Added (fun _ => []) before before where
  sound := sound
  subscriptions _ := (List.append_nil _).symm
  nextId _ := rfl
  fresh _ := by simp
  isLive _ := rfl
  sessions := rfl
  totals := rfl

theorem trans (first : Added new before middle) (second : Added more middle after) :
    Added (fun id => new id ++ more id) before after where
  sound := second.sound
  subscriptions id := by
    rw [second.subscriptions, first.subscriptions, List.append_assoc]
  nextId id := by
    rw [second.nextId, first.nextId, List.length_append, Nat.add_assoc]
  fresh id subscription member := by
    rcases List.mem_append.mp member with earlier | later
    · exact first.fresh id subscription earlier
    · have bound := second.fresh id subscription later
      rw [first.nextId] at bound
      omega
  isLive id := (second.isLive id).trans (first.isLive id)
  sessions := second.sessions.trans first.sessions
  totals := second.totals.trans first.totals

theorem congr (added : Added new before after) (same : ∀ id, more id = new id) :
    Added more before after := (funext same : more = new) ▸ added

theorem session (added : Added new before after) (id : SessionId) :
    after.session id = before.session id := by
  rw [Tracker.session, added.sessions, Tracker.session]

end Added

theorem register_added (sound : tracker.Sound) {id : RegistrarId}
    (live : tracker.isLive id = true) (keys : KeySet) (phase : Phase) (perceiver : Perceiver κ) :
    Added (fun other => if other = id
        then [⟨(tracker.table id).nextId, phase, keys, perceiver⟩] else [])
      tracker (tracker.register id keys phase perceiver).2 := by
  have tables (other : RegistrarId) :
      (tracker.register id keys phase perceiver).2.table other =
        if other = id then (tracker.table id).register keys phase perceiver
        else tracker.table other := table_setTable_of_live tracker live _ other
  refine ⟨sound.setTable live ((sound.tables id).register keys phase perceiver), ?_, ?_, ?_,
    fun other => isLive_setTable .., rfl, rfl⟩
  · intro other
    rw [tables]
    split
    · rename_i same
      rw [same]
      rfl
    · simp
  · intro other
    rw [tables]
    split
    · rename_i same
      rw [same]
      rfl
    · simp
  · intro other subscription member
    split at member
    · rename_i same
      obtain rfl := List.mem_singleton.mp member
      exact Nat.le_of_eq (congrArg (fun id => (tracker.table id).nextId) same)
    · cases member

theorem register_of_gone {id : RegistrarId} (gone : tracker.isLive id = false) (keys : KeySet)
    (phase : Phase) (perceiver : Perceiver κ) :
    (tracker.register id keys phase perceiver).2 = tracker :=
  setTable_of_not_live _ gone _

end ChangeTracking.Tracker
