import ChangeTracking.Proofs.EnrolledTokens
import ChangeTracking.Proofs.RegistrarHistory
import Mathlib.Data.Finset.Card
import Mathlib.Order.Interval.Finset.Nat

/-! Tokens in the course of a run. A token is issued at the moment at which its subscription comes into
the table of its registrar. Numbers only go up there, whatever is cancelled or cleared, so no token is
issued twice, and one whose subscription is gone never names another. -/
namespace ChangeTracking

namespace Tracker
variable {κ : Type} {tracker before after : Tracker κ}

namespace InStep

end InStep

/-- Each number that was used up is that of a subscription that came. -/
def Numbered (before after : Tracker κ) : Prop :=
  ∀ registrar, ∀ number < (after.table registrar).nextId,
    number < (before.table registrar).nextId ∨
      ∃ subscription ∈ (after.table registrar).subscriptions, subscription.id = number

namespace Numbered

theorem of_nextId (same : ∀ id, (after.table id).nextId = (before.table id).nextId) :
    Numbered before after :=
  fun registrar _ below => .inl (same registrar ▸ below)

theorem of_added {new : RegistrarId → List (Subscription κ)} (added : Added new before after) :
    Numbered before after := by
  intro registrar number below
  have table := added.sound.tables registrar
  have nodup : ((new registrar).map (·.id)).Nodup := by
    have all := table.ids_nodup
    rw [added.subscriptions, List.map_append] at all
    exact (List.nodup_append.mp all).2.1
  have within : ((new registrar).map (·.id)).toFinset ⊆
      Finset.Ico (before.table registrar).nextId (after.table registrar).nextId := by
    intro found member
    obtain ⟨subscription, listed, rfl⟩ := List.mem_map.mp (List.mem_toFinset.mp member)
    refine Finset.mem_Ico.mpr ⟨added.fresh registrar subscription listed, ?_⟩
    apply table.bounded
    rw [added.subscriptions]
    exact List.mem_append_right _ listed
  have many : (Finset.Ico (before.table registrar).nextId (after.table registrar).nextId).card ≤
      ((new registrar).map (·.id)).toFinset.card := by
    rw [Nat.card_Ico, List.toFinset_card_of_nodup nodup, List.length_map, added.nextId]
    omega
  have all := Finset.eq_of_subset_of_card_le within many
  by_cases earlier : number < (before.table registrar).nextId
  · exact .inl earlier
  · have inside : number ∈ ((new registrar).map (·.id)).toFinset := by
      rw [all]
      exact Finset.mem_Ico.mpr ⟨Nat.le_of_not_lt earlier, below⟩
    obtain ⟨subscription, listed, same⟩ := List.mem_map.mp (List.mem_toFinset.mp inside)
    refine .inr ⟨subscription, ?_, same⟩
    rw [added.subscriptions]
    exact List.mem_append_right _ listed

theorem of_tearDown (sound : before.Sound) {id : SessionId} {session : Session κ}
    {spent : List Installation}
    (torn : ∃ totals, after = { ((before.setSession id session).tearDown spent).2 with totals }) :
    Numbered before after := by
  obtain ⟨totals, rfl⟩ := torn
  have written : (before.setSession id session).Sound := ⟨sound.tables, sound.gone⟩
  exact of_nextId (tearDown_removed written spent).nextId

end Numbered

theorem register_numbered (sound : tracker.Sound) (id : RegistrarId) (keys : KeySet) (phase : Phase)
    (perceiver : Perceiver κ) : Numbered tracker (tracker.register id keys phase perceiver).2 := by
  by_cases live : tracker.isLive id = true
  · exact .of_added (register_added sound live keys phase perceiver)
  · rw [register_of_gone (by simpa using live)]
    exact .of_nextId fun _ => rfl

theorem armOver_numbered (sound : tracker.Sound) (id : SessionId) (callbacks : PerPhase κ)
    (reads : AccessList) : Numbered tracker (tracker.armOver id callbacks reads.entries).2 := by
  have added := Numbered.of_added (installEntries_added sound id callbacks reads.apart).2
  exact fun registrar => added registrar

end Tracker

variable {H : Host} {discipline : Discipline H}

private theorem Move.numbered {past : List (World H)} {world after : World H}
    (move : Move discipline past world after) (sound : world.tracker.Sound) :
    Tracker.Numbered world.tracker after.tracker := by
  have stay : Tracker.Numbered world.tracker world.tracker := .of_nextId fun _ => rfl
  cases move with
  | own own => rw [own.1]; exact stay
  | createRegistrar => exact .of_nextId world.tracker.createRegistrar_cleared.nextId
  | retain id => exact .of_nextId (world.tracker.retain_cleared id).nextId
  | release id => exact .of_nextId (world.tracker.release_cleared id).nextId
  | register id keys phase => exact Tracker.register_numbered sound id keys phase _
  | cancel id token => exact .of_nextId (Tracker.cancel_removed sound id token).nextId
  | cancelAll id => exact .of_nextId (world.tracker.cancelAll_cleared id).nextId
  | arm => exact Tracker.armOver_numbered sound _ _ _
  | cancelSession ended => exact .of_tearDown sound (Tracker.of_cancelSession? ended).tracker
  | thread | createSession | notified | call => exact stay

private theorem Evolution.numbered {world after : World H} {past : List (World H)}
    (evolution : Evolution discipline (after :: world :: past)) :
    Tracker.Numbered world.tracker after.tracker := by
  have sound := (evolution.inStep world (by simp)).sound
  cases evolution with
  | move _ _ move => exact move.numbered sound
  | fire _ _ _ due => exact .of_tearDown sound (Tracker.of_fire? due).tracker
  | call => exact .of_nextId fun _ => rfl

/-- A moment of a run, with all that was before it, at which a token was issued for a subscription. -/
def IssuedAt (worlds moment : List (World H)) (token : Token)
    (subscription : Subscription H.Callback) : Prop :=
  moment <:+ worlds ∧ ∃ after before past, moment = after :: before :: past ∧
    subscription ∈ (after.tracker.table token.registrar).subscriptions ∧
    subscription ∉ (before.tracker.table token.registrar).subscriptions ∧
    subscription.id = token.id

/-- The tokens that were issued in a run, to whomever. -/
def issued (worlds : List (World H)) : Set Token :=
  {token | ∃ moment subscription, IssuedAt worlds moment token subscription}

theorem IssuedAt.mono {worlds more moment : List (World H)} {token : Token}
    {subscription : Subscription H.Callback} (issued : IssuedAt worlds moment token subscription)
    (kept : worlds <:+ more) : IssuedAt more moment token subscription :=
  ⟨issued.1.trans kept, issued.2⟩

namespace Evolution
variable {world : World H} {past worlds : List (World H)}

end Evolution

end ChangeTracking
