import ChangeTracking.Proofs.TrackerTurns
import Mathlib.Data.Set.Card

namespace ChangeTracking

namespace TraceEvent

def removed : TraceEvent → Nat
  | .fired _ _ removed _ | .cancelled _ removed => removed
  | .notified .. | .installed .. | .viewInvalidated .. | .runComplete .. => 0

def subscribed : TraceEvent → Nat
  | .installed _ _ subscriptions => subscriptions
  | .notified .. | .fired .. | .cancelled .. | .viewInvalidated .. | .runComplete .. => 0

end TraceEvent

namespace Tracker
variable {κ : Type} {tracker before after : Tracker κ} {id : SessionId}

def named (tracker : Tracker κ) : Set Token :=
  {token | ∃ subscription ∈ (tracker.table token.registrar).subscriptions,
    subscription.id = token.id}

theorem enrolled_subset_named : tracker.enrolled id ⊆ tracker.named :=
  fun _ ⟨subscription, member, same, _⟩ => ⟨subscription, member, same⟩

theorem InStep.encard_enrolled (inStep : tracker.InStep) (id : SessionId) :
    (tracker.enrolled id).encard = tracker.tableSubscriptions id := by
  have listed : tracker.enrolled id = ((tracker.tableTokens id).toFinset : Set Token) := by
    ext token
    rw [List.coe_toFinset]
    constructor
    · rintro ⟨subscription, member, same, mine⟩
      have live := mem_liveRegistrars_iff.mpr (inStep.sound.live_of_mem member)
      refine List.mem_flatMap.mpr ⟨token.registrar, live, List.mem_map.mpr ⟨subscription, ?_, ?_⟩⟩
      · exact List.mem_filter.mpr ⟨member, mine⟩
      · rw [same]
    · intro listed
      obtain ⟨registrar, _, there⟩ := List.mem_flatMap.mp listed
      obtain ⟨subscription, kept, rfl⟩ := List.mem_map.mp there
      obtain ⟨member, mine⟩ := List.mem_filter.mp kept
      exact ⟨subscription, member, rfl, mine⟩
  rw [listed, Set.encard_coe_eq_coe_finsetCard,
    List.toFinset_card_of_nodup inStep.tableTokens_nodup, length_tableTokens]

theorem Removed.named {cut : RegistrarId → Nat → Bool} (removed : Removed cut before after) :
    after.named = {token ∈ before.named | cut token.registrar token.id = false} := by
  ext token
  constructor
  · rintro ⟨subscription, member, same⟩
    obtain ⟨there, kept⟩ := removed.mem_iff.mp member
    exact ⟨⟨subscription, there, same⟩, same ▸ kept⟩
  · rintro ⟨⟨subscription, member, same⟩, kept⟩
    exact ⟨subscription, removed.mem_iff.mpr ⟨member, same.symm ▸ kept⟩, same⟩

theorem Removed.named_subset {cut : RegistrarId → Nat → Bool} (removed : Removed cut before after) :
    after.named ⊆ before.named := by
  rw [removed.named]
  exact Set.sep_subset _ _

private theorem encard_gone_trans {first second third : Set Token} (earlier : second ⊆ first)
    (later : third ⊆ second) :
    (first \ third).encard = (first \ second).encard + (second \ third).encard := by
  have disjoint : Disjoint (first \ second) (second \ third) :=
    Set.disjoint_left.mpr fun _ gone there => gone.2 there.1
  rw [← Set.encard_union_eq disjoint, Set.sdiff_union_sdiff_cancel earlier later]

theorem cancel_fst_iff {registrar : RegistrarId} {token : Token} :
    (tracker.cancel registrar token).1 = true ↔
      token.registrar = registrar ∧ token ∈ tracker.named := by
  unfold cancel
  split
  · rename_i own
    subst own
    split
    · rename_i missing
      refine iff_of_false Bool.false_ne_true ?_
      rintro ⟨_, subscription, member, same⟩
      exact Table.cancel?_eq_none_iff.mp missing subscription member same
    · rename_i table cancelled
      refine iff_of_true rfl ⟨rfl, ?_⟩
      by_contra absent
      rw [Table.cancel?_eq_none_iff.mpr] at cancelled
      · cases cancelled
      · exact fun subscription member same => absent ⟨subscription, member, same⟩
  · rename_i foreign
    exact iff_of_false Bool.false_ne_true fun own => foreign own.1

theorem cancel_count (sound : tracker.Sound) (registrar : RegistrarId) (token : Token) :
    (tracker.named \ (tracker.cancel registrar token).2.named).encard =
      (tracker.cancel registrar token).1.toNat := by
  have gone (other : Token) :
      other ∈ tracker.named \ (tracker.cancel registrar token).2.named ↔
        other ∈ tracker.named ∧ other.registrar = registrar ∧ token = other := by
    rw [(cancel_removed sound registrar token).named]
    constructor
    · rintro ⟨there, kept⟩
      refine ⟨there, ?_⟩
      by_contra spared
      exact kept ⟨there, decide_eq_false spared⟩
    · rintro ⟨there, cut⟩
      exact ⟨there, fun kept => of_decide_eq_false kept.2 cut⟩
  by_cases cancelled : (tracker.cancel registrar token).1 = true
  · obtain ⟨own, there⟩ := cancel_fst_iff.mp cancelled
    have one : tracker.named \ (tracker.cancel registrar token).2.named = {token} := by
      ext other
      rw [gone, Set.mem_singleton_iff]
      refine ⟨fun ⟨_, _, same⟩ => same.symm, ?_⟩
      rintro rfl
      exact ⟨there, own, rfl⟩
    rw [one, cancelled, Set.encard_singleton]
    rfl
  · have none : tracker.named \ (tracker.cancel registrar token).2.named = ∅ := by
      refine Set.eq_empty_of_forall_notMem fun other inside => cancelled ?_
      obtain ⟨there, own, rfl⟩ := (gone other).mp inside
      exact cancel_fst_iff.mpr ⟨own, there⟩
    rw [none, eq_false_of_ne_true cancelled, Set.encard_empty]
    rfl

theorem cancelTokens_count (sound : tracker.Sound) (registrar : RegistrarId) (tokens : List Token) :
    (tracker.named \ (tracker.cancelTokens registrar tokens).2.named).encard =
      (tracker.cancelTokens registrar tokens).1 := by
  induction tokens generalizing tracker with
  | nil => simp [cancelTokens]
  | cons token rest ih =>
    have first := cancel_removed sound registrar token
    have others := cancelTokens_removed first.sound registrar rest
    simp only [cancelTokens]
    rw [encard_gone_trans first.named_subset others.named_subset, cancel_count sound, ih first.sound,
      Nat.cast_add]

theorem tearDown_count (sound : tracker.Sound) (installed : List Installation) :
    (tracker.named \ (tracker.tearDown installed).2.named).encard =
      (tracker.tearDown installed).1 := by
  induction installed generalizing tracker with
  | nil => simp [tearDown]
  | cons entry rest ih =>
    unfold tearDown
    split
    · have first := cancelTokens_removed sound entry.registrar entry.tokens.toList
      have others := tearDown_removed first.sound rest
      dsimp only
      rw [encard_gone_trans first.named_subset others.named_subset, cancelTokens_count sound,
        ih first.sound, Nat.cast_add]
    · exact ih sound

private theorem InStep.gone_of_filtered (inStep : before.InStep) {cut : Perceiver κ → Bool}
    (subscriptions : ∀ registrar, (after.table registrar).subscriptions =
      (before.table registrar).subscriptions.filter fun subscription => !cut subscription.perceiver)
    (mine : ∀ perceiver, cut perceiver = true → perceiver.isOf id = true) :
    before.enrolled id \ after.enrolled id = before.named \ after.named := by
  have kept {registrar : RegistrarId} {subscription : Subscription κ} :
      subscription ∈ (after.table registrar).subscriptions ↔
        subscription ∈ (before.table registrar).subscriptions ∧
          cut subscription.perceiver = false := by
    rw [subscriptions, List.mem_filter, Bool.not_eq_true']
  ext token
  constructor
  · rintro ⟨⟨subscription, member, same, own⟩, lost⟩
    refine ⟨⟨subscription, member, same⟩, ?_⟩
    rintro ⟨other, there, again⟩
    obtain rfl := (inStep.sound.tables _).eq_of_id (kept.mp there).1 member (again.trans same.symm)
    exact lost ⟨other, there, same, own⟩
  · rintro ⟨⟨subscription, member, same⟩, gone⟩
    have taken : cut subscription.perceiver = true := by
      by_contra spared
      exact gone ⟨subscription, kept.mpr ⟨member, eq_false_of_ne_true spared⟩, same⟩
    refine ⟨⟨subscription, member, same, mine _ taken⟩, fun still => gone ?_⟩
    exact enrolled_subset_named still

private theorem enrolled_of_filtered {cut : Perceiver κ → Bool}
    (subscriptions : ∀ registrar, (after.table registrar).subscriptions =
      (before.table registrar).subscriptions.filter fun subscription => !cut subscription.perceiver)
    (spared : ∀ perceiver, perceiver.isOf id = true → cut perceiver = false) :
    after.enrolled id = before.enrolled id := by
  ext token
  constructor
  · rintro ⟨subscription, member, mine⟩
    rw [subscriptions] at member
    exact ⟨subscription, List.mem_of_mem_filter member, mine⟩
  · rintro ⟨subscription, member, same, mine⟩
    refine ⟨subscription, ?_, same, mine⟩
    rw [subscriptions]
    exact List.mem_filter.mpr ⟨member, by rw [spared _ mine]; rfl⟩

private theorem InStep.encard_of_tornDown (inStep : before.InStep) {cut : Perceiver κ → Bool}
    (subscriptions : ∀ registrar, (after.table registrar).subscriptions =
      (before.table registrar).subscriptions.filter fun subscription => !cut subscription.perceiver)
    (mine : ∀ perceiver, cut perceiver = true → perceiver.isOf id = true) {session : Session κ}
    {spent : List Installation}
    (torn : ∃ totals, after = { ((before.setSession id session).tearDown spent).2 with totals }) :
    (before.enrolled id).encard =
      (after.enrolled id).encard + ((before.setSession id session).tearDown spent).1 := by
  have fewer : after.enrolled id ⊆ before.enrolled id := by
    rintro token ⟨subscription, member, own⟩
    rw [subscriptions] at member
    exact ⟨subscription, List.mem_of_mem_filter member, own⟩
  have gone := inStep.gone_of_filtered subscriptions mine
  have written : (before.setSession id session).Sound := ⟨inStep.sound.tables, inStep.sound.gone⟩
  obtain ⟨totals, rfl⟩ := torn
  rw [← Set.encard_sdiff_add_encard_of_subset fewer, gone, add_comm, ← tearDown_count written]
  rfl

theorem InStep.encard_enrolled_fire (inStep : tracker.InStep) {event : ChangeEvent}
    {firing : Firing κ} (due : tracker.fire? id event = some firing) :
    (tracker.enrolled id).encard =
      (firing.tracker.enrolled id).encard + firing.report.removed := by
  have fired := of_fire? due
  have removed : firing.report.removed =
      ((tracker.setSession id ((tracker.session id).fire event)).tearDown
        ((tracker.session id).spent event.phase)).1 := by
    simp only [fire?, if_pos fired.installed] at due
    obtain ⟨callback, _, rfl⟩ := Option.map_eq_some_iff.mp due
    rfl
  rw [removed]
  refine inStep.encard_of_tornDown (inStep.subscriptions_fire fired) ?_ fired.tracker
  exact fun perceiver mine => Perceiver.isOf_iff.mpr ⟨event.phase, mine⟩

theorem InStep.enrolled_fire_of_ne (inStep : tracker.InStep) {event : ChangeEvent}
    {firing : Firing κ} (fired : tracker.FiredBy id event firing) {other : SessionId}
    (different : other ≠ id) : firing.tracker.enrolled other = tracker.enrolled other := by
  refine enrolled_of_filtered (inStep.subscriptions_fire fired) fun perceiver mine => ?_
  cases perceiver with
  | direct => rfl
  | session owner =>
    obtain rfl := of_decide_eq_true mine
    exact decide_eq_false fun same => different same.1

theorem InStep.encard_enrolled_cancelSession (inStep : tracker.InStep) {report : TraceEvent}
    (ended : tracker.cancelSession? id = some (report, after)) :
    (tracker.enrolled id).encard = (after.enrolled id).encard + report.removed := by
  have cancelled := of_cancelSession? ended
  have removed : report.removed = ((tracker.setSession id (tracker.session id).cancel).tearDown
      (tracker.session id).installed).1 := by
    simp only [cancelSession?, cancelled.running] at ended
    cases ended
    rfl
  rw [removed]
  exact inStep.encard_of_tornDown (inStep.subscriptions_cancelSession cancelled) (fun _ mine => mine)
    cancelled.tracker

theorem InStep.enrolled_cancelSession_of_ne (inStep : tracker.InStep) {report : TraceEvent}
    (cancelled : tracker.CancelledBy id report after) {other : SessionId}
    (different : other ≠ id) : after.enrolled other = tracker.enrolled other := by
  refine enrolled_of_filtered (inStep.subscriptions_cancelSession cancelled) fun perceiver mine => ?_
  cases perceiver with
  | direct => rfl
  | session owner =>
    obtain rfl := of_decide_eq_true mine
    exact decide_eq_false different

theorem InStep.enrolled_eq_empty (inStep : tracker.InStep)
    (idle : (tracker.session id).status ≠ .installed) : tracker.enrolled id = ∅ := by
  refine Set.eq_empty_of_forall_notMem fun token ⟨subscription, member, _, mine⟩ => ?_
  obtain ⟨phase, mine⟩ := Perceiver.isOf_iff.mp mine
  exact idle ((inStep.sessions id).waits_of_holds ((inStep.holds_iff member).mpr mine)).1

variable {callbacks : PerPhase κ}

/-- A session that is armed has all its subscriptions in the tables, and they are reported. -/
theorem InStep.encard_enrolled_arm (inStep : tracker.InStep)
    (pending : (tracker.session id).status = .pending) (given : callbacks.isEmpty = false) :
    ((tracker.armOver id callbacks (tracker.session id).reads.entries).2.enrolled id).encard =
      (tracker.armOver id callbacks (tracker.session id).reads.entries).1.subscribed := by
  have armed := inStep.arm pending given
  have none : (tracker.armOver id callbacks (tracker.session id).reads.entries).2.staleTokens id =
      [] := by
    refine List.filter_eq_nil_iff.mpr fun token held => ?_
    obtain ⟨_, phase, holds⟩ := armed.mem_heldTokens_iff.mp held
    obtain ⟨read, _, _, there⟩ := inStep.mem_of_holds_armOver pending callbacks holds
    simpa using armed.names_iff.mpr ⟨_, there, rfl⟩
  have counted := armed.sessionSubscriptions_eq id
  rw [none, List.length_nil, Nat.add_zero, sessionSubscriptions, session_armOver pending,
    if_pos rfl] at counted
  have reported : (tracker.armOver id callbacks (tracker.session id).reads.entries).1.subscribed =
      (tracker.installEntries id callbacks (tracker.session id).reads.entries).2.countTokens
        (tracker.givenTo id callbacks (tracker.session id).reads.entries) := rfl
  rw [armed.encard_enrolled, ← counted, reported]
  refine congrArg Nat.cast (countTokens_congr ?_ _)
  exact fun _ => rfl

theorem InStep.enrolled_arm_of_ne (inStep : tracker.InStep) {other : SessionId}
    (different : other ≠ id) :
    (tracker.armOver id callbacks (tracker.session id).reads.entries).2.enrolled other =
      tracker.enrolled other := by
  have added := (installEntries_added inStep.sound id callbacks (tracker.session id).reads.apart).2
  ext token
  constructor
  · rintro ⟨subscription, member, same, mine⟩
    rw [table_armOver, added.subscriptions] at member
    rcases List.mem_append.mp member with old | new
    · exact ⟨subscription, old, same, mine⟩
    · obtain ⟨read, _, made⟩ := List.mem_flatMap.mp new
      rw [(of_mem_ownSubscriptions made).2.1] at mine
      exact absurd (of_decide_eq_true mine).symm different
  · rintro ⟨subscription, member, mine⟩
    refine ⟨subscription, ?_, mine⟩
    rw [table_armOver, added.subscriptions]
    exact List.mem_append_left _ member

end Tracker

end ChangeTracking
