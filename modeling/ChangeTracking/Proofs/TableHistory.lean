import ChangeTracking.Proofs.Ownership
import ChangeTracking.Proofs.SessionTurns

namespace ChangeTracking

namespace Tracker
variable {κ : Type}

/-- What an earlier state says about the subscriptions of a later one. -/
structure Grown (before after : Tracker κ) : Prop where
  nextId : ∀ id, (before.table id).nextId ≤ (after.table id).nextId
  old : ∀ id, ∀ subscription ∈ (after.table id).subscriptions,
    subscription ∈ (before.table id).subscriptions ∨ (before.table id).nextId ≤ subscription.id

namespace Grown
variable {before middle after : Tracker κ}

theorem of_tables (same : ∀ id, after.table id = before.table id) : before.Grown after where
  nextId id := Nat.le_of_eq (congrArg Table.nextId (same id)).symm
  old id _ member := .inl (same id ▸ member)

theorem trans (first : before.Grown middle) (second : middle.Grown after) : before.Grown after where
  nextId id := Nat.le_trans (first.nextId id) (second.nextId id)
  old id subscription member := by
    rcases second.old id subscription member with kept | fresh
    · exact first.old id subscription kept
    · exact .inr (Nat.le_trans (first.nextId id) fresh)

theorem absent (grown : before.Grown after) {id : RegistrarId} {number : Nat}
    (used : number < (before.table id).nextId)
    (gone : ∀ subscription ∈ (before.table id).subscriptions, subscription.id ≠ number) :
    ∀ subscription ∈ (after.table id).subscriptions, subscription.id ≠ number := by
  intro subscription there
  rcases grown.old id subscription there with old | fresh
  · exact gone subscription old
  · omega

theorem of_cleared (cleared : Cleared before after) : before.Grown after where
  nextId id := Nat.le_of_eq (cleared.nextId id).symm
  old id subscription member := by
    rcases cleared.tables id with same | empty
    · exact .inl (same ▸ member)
    · rw [empty] at member
      cases member

theorem of_removed {cut : RegistrarId → Nat → Bool} (removed : Removed cut before after) :
    before.Grown after where
  nextId id := Nat.le_of_eq (removed.nextId id).symm
  old _ _ member := .inl (removed.mem_iff.mp member).1

theorem of_added {new : RegistrarId → List (Subscription κ)} (added : Added new before after) :
    before.Grown after where
  nextId id := by
    rw [added.nextId]
    exact Nat.le_add_right _ _
  old id subscription member := by
    rw [added.subscriptions] at member
    exact (List.mem_append.mp member).imp_right (added.fresh id subscription)

theorem of_tearDown (sound : before.Sound) {id : SessionId} {session : Session κ}
    {spent : List Installation}
    (torn : ∃ totals, after = { ((before.setSession id session).tearDown spent).2 with totals }) :
    before.Grown after := by
  obtain ⟨totals, rfl⟩ := torn
  have written : (before.setSession id session).Sound := ⟨sound.tables, sound.gone⟩
  have removed := of_removed (tearDown_removed written spent)
  exact ⟨removed.nextId, removed.old⟩

end Grown

theorem register_grown {tracker : Tracker κ} (sound : tracker.Sound) (id : RegistrarId)
    (keys : KeySet) (phase : Phase) (perceiver : Perceiver κ) :
    tracker.Grown (tracker.register id keys phase perceiver).2 := by
  by_cases live : tracker.isLive id = true
  · exact .of_added (register_added sound live keys phase perceiver)
  · rw [register_of_gone (by simpa using live)]
    exact .of_tables fun _ => rfl

theorem armOver_grown {tracker : Tracker κ} (sound : tracker.Sound) (id : SessionId)
    (callbacks : PerPhase κ) (reads : AccessList) :
    tracker.Grown (tracker.armOver id callbacks reads.entries).2 := by
  have added := Grown.of_added (installEntries_added sound id callbacks reads.apart).2
  exact ⟨added.nextId, added.old⟩

end Tracker

variable {H : Host} {discipline : Discipline H}

theorem Move.grown {past : List (World H)} {world after : World H}
    (move : Move discipline past world after) (sound : world.tracker.Sound) :
    world.tracker.Grown after.tracker := by
  have stay : world.tracker.Grown world.tracker := .of_tables fun _ => rfl
  cases move with
  | own own => rw [own.1]; exact stay
  | thread => exact stay
  | createRegistrar => exact .of_cleared world.tracker.createRegistrar_cleared
  | retain id => exact .of_cleared (world.tracker.retain_cleared id)
  | release id => exact .of_cleared (world.tracker.release_cleared id)
  | register id keys phase => exact Tracker.register_grown sound id keys phase _
  | cancel id token => exact .of_removed (Tracker.cancel_removed sound id token)
  | cancelAll id => exact .of_cleared (world.tracker.cancelAll_cleared id)
  | createSession => exact .of_tables fun _ => rfl
  | arm => exact Tracker.armOver_grown sound _ _ _
  | cancelSession ended => exact .of_tearDown sound (Tracker.of_cancelSession? ended).tracker
  | notified => exact stay
  | call => exact stay

private theorem Evolution.grown_last {world after : World H} {past : List (World H)}
    (evolution : Evolution discipline (after :: world :: past)) :
    world.tracker.Grown after.tracker := by
  have sound := (evolution.inStep world (by simp)).sound
  cases evolution with
  | move _ _ move => exact move.grown sound
  | fire _ _ _ due => exact .of_tearDown sound (Tracker.of_fire? due).tracker
  | call => exact .of_tables fun _ => rfl

/-- In a run, the tables of every world have grown out of those before it. -/
theorem Evolution.grown {worlds : List (World H)} (evolution : Evolution discipline worlds) :
    worlds.Pairwise fun later earlier => earlier.tracker.Grown later.tracker :=
  evolution.ordered (fun _ _ _ first second => first.trans second) fun _ _ _ next => next.grown_last

theorem Evolution.grown_of_mem {world earlier : World H} {past : List (World H)}
    (evolution : Evolution discipline (world :: past)) (member : earlier ∈ world :: past) :
    earlier.tracker.Grown world.tracker :=
  World.related_of_mem (fun later earlier => earlier.tracker.Grown later.tracker)
    (fun _ => .of_tables fun _ => rfl) evolution.grown member

theorem Evolution.grown_of_mem_trail {α : Type} {act : Act H α} {world moment : World H}
    {past : List (World H)}
    (evolution : Evolution discipline ((act.run world).2 :: act.history world past))
    (passed : moment ∈ act.trail world) : world.tracker.Grown moment.tracker :=
  Act.related_of_mem_trail (fun later earlier => earlier.tracker.Grown later.tracker)
    (fun _ => .of_tables fun _ => rfl) evolution.grown passed

end ChangeTracking
