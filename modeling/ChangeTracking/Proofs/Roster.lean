import ChangeTracking.Proofs.TrackerInvariant
import Mathlib.Data.Finset.Dedup

/-! The subscriptions of a registrar as one ordered list. The roster keeps the live subscriptions in
order of registration and knows no index. Whatever is registered and cancelled at a registrar, its
table answers as the roster does, and the index stays a faithful extract of it, in which every
number is found by halving. -/
namespace ChangeTracking

/-- A live subscription: its number, whom it tells, and which changes it covers. -/
structure Enrolment (κ : Type) where
  id : Nat
  keys : Finset Key
  phase : Phase
  perceiver : Perceiver κ

/-- The live subscriptions in order of registration, and how many were ever made. -/
structure Roster (κ : Type) where
  issued : Nat
  enrolled : List (Enrolment κ)

/-- What can be done to the subscriptions of one registrar. -/
inductive SubscriptionOp (κ : Type) where
  | register (keys : List Key) (phase : Phase) (perceiver : Perceiver κ)
  | cancel (token : Token)
  | cancelAll

inductive SubscriptionReply where
  | registered (token : Token)
  | cancelled (found : Bool)
  | cleared (count : Nat)
deriving DecidableEq

variable {κ : Type}

namespace Roster

def empty : Roster κ := ⟨0, []⟩

/-- One subscription is added at the end, one is taken out, or all go. A token takes out nothing if
it comes from elsewhere or if its subscription is gone. -/
def perform (id : RegistrarId) (roster : Roster κ) :
    SubscriptionOp κ → SubscriptionReply × Roster κ
  | .register keys phase perceiver =>
    (.registered ⟨id, roster.issued⟩, ⟨roster.issued + 1,
      roster.enrolled ++ [⟨roster.issued, keys.toFinset, phase, perceiver⟩]⟩)
  | .cancel token =>
    if token.registrar = id ∧ ∃ enrolment ∈ roster.enrolled, enrolment.id = token.id then
      (.cancelled true,
        ⟨roster.issued, roster.enrolled.eraseP fun enrolment => enrolment.id = token.id⟩)
    else (.cancelled false, roster)
  | .cancelAll => (.cleared roster.enrolled.length, ⟨roster.issued, []⟩)

def performAll (id : RegistrarId) (roster : Roster κ) :
    List (SubscriptionOp κ) → List SubscriptionReply × Roster κ
  | [] => ([], roster)
  | op :: rest =>
    let (reply, roster) := roster.perform id op
    let (replies, roster) := roster.performAll id rest
    (reply :: replies, roster)

end Roster

namespace Tracker

/-- What the library does for the operations on a registrar. -/
def perform (id : RegistrarId) (tracker : Tracker κ) :
    SubscriptionOp κ → SubscriptionReply × Tracker κ
  | .register keys phase perceiver =>
    let (token, tracker) := tracker.register id (.ofList keys) phase perceiver
    (.registered token, tracker)
  | .cancel token =>
    let (found, tracker) := tracker.cancel id token
    (.cancelled found, tracker)
  | .cancelAll =>
    let (count, tracker) := tracker.cancelAll id
    (.cleared count, tracker)

def performAll (id : RegistrarId) (tracker : Tracker κ) :
    List (SubscriptionOp κ) → List SubscriptionReply × Tracker κ
  | [] => ([], tracker)
  | op :: rest =>
    let (reply, tracker) := tracker.perform id op
    let (replies, tracker) := tracker.performAll id rest
    (reply :: replies, tracker)

end Tracker

def Subscription.enrolment (subscription : Subscription κ) : Enrolment κ :=
  ⟨subscription.id, subscription.keys.toList.toFinset, subscription.phase, subscription.perceiver⟩

/-- A registrar whose table stands for a roster, seen through everything that reads the table. -/
structure Tracker.Represents (tracker : Tracker κ) (id : RegistrarId) (roster : Roster κ) :
    Prop where
  ascending : roster.enrolled.Pairwise fun left right => left.id < right.id
  found : ∀ number, ((tracker.table id).find? number).map (·.enrolment) =
    roster.enrolled.find? fun enrolment => enrolment.id = number
  snapshot : ∀ key phase, tracker.snapshot id key phase =
    (roster.enrolled.filter fun enrolment =>
      key ∈ enrolment.keys ∧ enrolment.phase = phase).map (·.perceiver)
  count : tracker.subscriptionCount id = roster.enrolled.length
  observed : ∀ key, tracker.observes id key = true ↔
    ∃ enrolment ∈ roster.enrolled, key ∈ enrolment.keys
  /-- What the index has for a key are numbers of live subscriptions that cover it. -/
  indexed : ∀ key ids, (tracker.table id).lookups.find? key = some ids →
    ids ≠ [] ∧ ids.Pairwise (· < ·) ∧
      ∀ number ∈ ids, ∃ enrolment ∈ roster.enrolled, enrolment.id = number ∧ key ∈ enrolment.keys
  located : ∀ enrolment ∈ roster.enrolled, ∀ key ∈ enrolment.keys, ∃ ids place,
    (tracker.table id).lookups.find? key = some ids ∧
      Table.locate? enrolment.id ids = some place ∧ ids[place]? = some enrolment.id

namespace Table
variable {table : Table κ}

def roster (table : Table κ) : Roster κ := ⟨table.nextId, table.subscriptions.map (·.enrolment)⟩

theorem mem_enrolment_keys {subscription : Subscription κ} {key : Key} :
    key ∈ subscription.enrolment.keys ↔ key ∈ subscription.keys :=
  List.mem_toFinset

theorem roster_register (table : Table κ) (keys : List Key) (phase : Phase)
    (perceiver : Perceiver κ) :
    (table.register (.ofList keys) phase perceiver).roster =
      ⟨table.roster.issued + 1,
        table.roster.enrolled ++ [⟨table.roster.issued, keys.toFinset, phase, perceiver⟩]⟩ := by
  have same : (KeySet.ofList keys).toList.toFinset = keys.toFinset := by
    ext key
    rw [List.mem_toFinset, List.mem_toFinset]
    exact KeySet.mem_ofList_iff keys key
  simp [roster, register, Subscription.enrolment, same]

private theorem eraseP_eq_filter {α β : Type} [DecidableEq β] (property : α → β) (value : β)
    {list : List α} (nodup : (list.map property).Nodup) :
    list.eraseP (fun entry => property entry = value) =
      list.filter fun entry => property entry ≠ value := by
  induction list with
  | nil => rfl
  | cons head rest ih =>
    obtain ⟨fresh, nodup⟩ := List.nodup_cons.mp nodup
    by_cases same : property head = value
    · have others : rest.filter (fun entry => property entry ≠ value) = rest := by
        apply List.filter_eq_self.mpr
        intro entry member
        have different : property entry ≠ value := fun equal =>
          fresh (same.trans equal.symm ▸ List.mem_map_of_mem member)
        simpa using different
      rw [List.eraseP_cons_of_pos (by simpa using same), List.filter_cons, if_neg (by simpa using same),
        others]
    · rw [List.eraseP_cons_of_neg (by simpa using same), List.filter_cons, if_pos (by simpa using same),
        ih nodup]

theorem Sound.roster_cancel? (sound : table.Sound) {number : Nat} {after : Table κ}
    (cancelled : table.cancel? number = some after) :
    after.roster = ⟨table.roster.issued,
      table.roster.enrolled.eraseP fun enrolment => enrolment.id = number⟩ := by
  obtain ⟨left, next⟩ := cancel?_subscriptions cancelled
  have nodup : (table.roster.enrolled.map (·.id)).Nodup := by
    rw [roster, List.map_map]
    exact sound.ids_nodup
  rw [eraseP_eq_filter _ _ nodup]
  simp only [roster, left, next, List.filter_map]
  rfl

theorem cancel?_isSome_iff {number : Nat} :
    (table.cancel? number).isSome = true ↔
      ∃ enrolment ∈ table.roster.enrolled, enrolment.id = number := by
  rw [← Option.ne_none_iff_isSome, Ne, cancel?_eq_none_iff]
  simp [roster, Subscription.enrolment]

end Table

namespace Tracker
variable {tracker : Tracker κ} {id : RegistrarId}

/-- A registrar that is there with a table in good order stands for its roster. -/
theorem represents_roster (sound : (tracker.table id).Sound) :
    tracker.Represents id (tracker.table id).roster where
  ascending := List.pairwise_map.mpr sound.ascending
  found number := by
    rw [Table.find?, Table.roster, List.find?_map]
    rfl
  snapshot key phase := by
    rw [snapshot, sound.snapshot_eq, Table.roster, List.filter_map, List.map_map]
    congr 1
    apply List.filter_congr
    intro subscription _
    simp only [Function.comp_apply, Table.mem_enrolment_keys]
    rfl
  count := (List.length_map _).symm
  observed key := by
    rw [observes, sound.observes_iff]
    simp [Table.roster, Table.mem_enrolment_keys]
  indexed key ids found := by
    have listed : (tracker.table id).covering key = ids := by rw [Table.covering, found]; rfl
    refine ⟨?_, listed ▸ sound.covering_ascending key, ?_⟩
    · rintro rfl
      exact sound.nonempty key found
    · intro number member
      rw [← listed, sound.covering] at member
      obtain ⟨subscription, covers, rfl⟩ := List.mem_map.mp member
      obtain ⟨present, covers⟩ := List.mem_filter.mp covers
      exact ⟨_, List.mem_map_of_mem present, rfl,
        Table.mem_enrolment_keys.mpr (of_decide_eq_true covers)⟩
  located enrolment member key covers := by
    obtain ⟨subscription, present, rfl⟩ := List.mem_map.mp member
    have listed : subscription.id ∈ (tracker.table id).covering key := by
      rw [sound.covering]
      have covers := Table.mem_enrolment_keys.mp covers
      exact List.mem_map_of_mem (List.mem_filter.mpr ⟨present, decide_eq_true covers⟩)
    have ascending := sound.covering_ascending key
    rw [Table.covering] at listed ascending
    rcases found : (tracker.table id).lookups.find? key with _ | ids
    · rw [found] at listed
      cases listed
    · rw [found, Option.getD_some] at listed ascending
      obtain ⟨place, here⟩ := List.getElem?_of_mem listed
      exact ⟨ids, place, rfl, (Table.locate?_eq_some_iff ascending).mpr here, here⟩

/-- An operation answers as on the roster, and leaves a registrar that stands for the result. -/
theorem perform_roster (live : tracker.isLive id = true) (sound : (tracker.table id).Sound)
    (op : SubscriptionOp κ) :
    (tracker.perform id op).1 = ((tracker.table id).roster.perform id op).1 ∧
      ((tracker.perform id op).2.table id).roster =
        ((tracker.table id).roster.perform id op).2 ∧
      (tracker.perform id op).2.isLive id = true ∧
      ((tracker.perform id op).2.table id).Sound := by
  have written (table : Table κ) : (tracker.setTable id table).table id = table := by
    rw [table_setTable_of_live tracker live, if_pos rfl]
  have alive (table : Table κ) : (tracker.setTable id table).isLive id = true := by
    rw [isLive_setTable, live]
  cases op with
  | register keys phase perceiver =>
    simp only [perform, register, Roster.perform, written]
    exact ⟨rfl, Table.roster_register _ keys phase perceiver, alive _,
      sound.register (.ofList keys) phase perceiver⟩
  | cancel token =>
    simp only [perform, cancel, Roster.perform, ← Table.cancel?_isSome_iff]
    by_cases own : token.registrar = id
    · rcases cancelled : (tracker.table id).cancel? token.id with _ | after
      · simp [own, live, sound]
      · simp only [own, written, alive, if_true, Option.isSome_some, true_and, and_true]
        exact ⟨sound.roster_cancel? cancelled, sound.cancel? cancelled⟩
    · simp [own, live, sound]
  | cancelAll =>
    simp only [perform, cancelAll, Roster.perform, written]
    exact ⟨congrArg SubscriptionReply.cleared (List.length_map _).symm, rfl, alive _, .clear _⟩

theorem performAll_roster (live : tracker.isLive id = true) (sound : (tracker.table id).Sound)
    (ops : List (SubscriptionOp κ)) :
    (tracker.performAll id ops).1 = ((tracker.table id).roster.performAll id ops).1 ∧
      ((tracker.performAll id ops).2.table id).roster =
        ((tracker.table id).roster.performAll id ops).2 ∧
      ((tracker.performAll id ops).2.table id).Sound := by
  induction ops generalizing tracker with
  | nil => exact ⟨rfl, rfl, sound⟩
  | cons op rest ih =>
    obtain ⟨reply, step, live, sound⟩ := tracker.perform_roster live sound op
    obtain ⟨replies, run, sound⟩ := ih live sound
    rw [step] at replies run
    exact ⟨congrArg₂ List.cons reply replies, run, sound⟩

/-- From its creation on, a registrar answers all operations on its subscriptions as the roster does
and stands for it. -/
theorem performAll_represents (tracker : Tracker κ) (ops : List (SubscriptionOp κ)) :
    let (id, created) := tracker.createRegistrar
    (created.performAll id ops).1 = (Roster.empty.performAll id ops).1 ∧
      (created.performAll id ops).2.Represents id (Roster.empty.performAll id ops).2 := by
  have live : tracker.createRegistrar.2.isLive tracker.createRegistrar.1 = true := by
    simp [isLive_createRegistrar]
  have fresh : tracker.createRegistrar.2.table tracker.createRegistrar.1 = ∅ := by
    rw [table_createRegistrar]
    simp [Tracker.table, createRegistrar]
  have sound : (tracker.createRegistrar.2.table tracker.createRegistrar.1).Sound := by
    rw [fresh]
    exact .empty
  obtain ⟨replies, run, sound⟩ := performAll_roster live sound ops
  rw [fresh] at replies run
  refine ⟨replies, ?_⟩
  have represents := represents_roster sound
  rw [run] at represents
  exact represents

end Tracker
end ChangeTracking
