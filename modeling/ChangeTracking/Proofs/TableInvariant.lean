import ChangeTracking.Table
import Mathlib.Data.List.Nodup

namespace ChangeTracking

theorem Key.ne_of_lt {left right : Key} (before : left < right) : left ≠ right := by
  rintro rfl
  exact Key.lt_irrefl left before

theorem KeySet.nodup (set : KeySet) : set.toList.Nodup := set.ascending.imp Key.ne_of_lt

namespace Table
variable {κ : Type} {table : Table κ}

/-- What keeps the index in step with the subscriptions. -/
structure Sound (table : Table κ) : Prop where
  ascending : table.subscriptions.Pairwise fun left right => left.id < right.id
  bounded : ∀ subscription ∈ table.subscriptions, subscription.id < table.nextId
  covering : ∀ key, table.covering key =
    (table.subscriptions.filter fun subscription => key ∈ subscription.keys).map (·.id)
  nonempty : ∀ key, table.lookups.find? key ≠ some []

theorem Sound.empty : (∅ : Table κ).Sound where
  ascending := .nil
  bounded := by intro _ member; cases member
  covering _ := rfl
  nonempty _ := by intro found; cases found

theorem Sound.clear (table : Table κ) : table.clear.Sound where
  ascending := .nil
  bounded := by intro _ member; cases member
  covering _ := rfl
  nonempty _ := by intro found; cases found

theorem Sound.ids_nodup (sound : table.Sound) : (table.subscriptions.map (·.id)).Nodup :=
  List.pairwise_map.mpr (sound.ascending.imp Nat.ne_of_lt)

theorem Sound.eq_of_id (sound : table.Sound) {left right : Subscription κ}
    (leftMember : left ∈ table.subscriptions) (rightMember : right ∈ table.subscriptions)
    (same : left.id = right.id) : left = right :=
  List.inj_on_of_nodup_map sound.ids_nodup leftMember rightMember same

theorem Sound.find?_eq_some_iff (sound : table.Sound) {id : Nat}
    {subscription : Subscription κ} :
    table.find? id = some subscription ↔
      subscription ∈ table.subscriptions ∧ subscription.id = id := by
  constructor
  · intro found
    exact ⟨List.mem_of_find?_eq_some found, by simpa using List.find?_some found⟩
  · rintro ⟨member, rfl⟩
    rcases found : table.find? subscription.id with _ | other
    · have absent := List.find?_eq_none.mp found subscription member
      simp at absent
    · have otherMember := List.mem_of_find?_eq_some found
      have same : other.id = subscription.id := by simpa using List.find?_some found
      rw [sound.eq_of_id otherMember member same]

theorem find?_eq_none_iff {id : Nat} :
    table.find? id = none ↔ ∀ subscription ∈ table.subscriptions, subscription.id ≠ id := by
  simp [find?]

/-- A snapshot finds the subscriptions that cover the key for the phase, and no others. -/
theorem Sound.snapshot_eq (sound : table.Sound) (key : Key) (phase : Phase) :
    table.snapshot key phase =
      (table.subscriptions.filter fun subscription =>
        key ∈ subscription.keys ∧ subscription.phase = phase).map (·.perceiver) := by
  have each : ∀ found ∈ table.subscriptions.filter fun subscription => key ∈ subscription.keys,
      table.find? found.id = some found := fun found member =>
    sound.find?_eq_some_iff.mpr ⟨List.mem_of_mem_filter member, rfl⟩
  have found : (table.covering key).filterMap table.find? =
      table.subscriptions.filter fun subscription => key ∈ subscription.keys := by
    rw [sound.covering, List.filterMap_map]
    exact (List.filterMap_congr each).trans List.filterMap_some
  rw [snapshot, found, List.filter_filter]
  congr 2
  funext subscription
  simp [Bool.and_comm]

theorem Sound.snapshot_append {after : Table κ} (sound : table.Sound) (later : after.Sound)
    {more : List (Subscription κ)} (added : after.subscriptions = table.subscriptions ++ more)
    (key : Key) (phase : Phase) :
    after.snapshot key phase = table.snapshot key phase ++
      (more.filter fun subscription =>
        key ∈ subscription.keys ∧ subscription.phase = phase).map (·.perceiver) := by
  rw [later.snapshot_eq, added, List.filter_append, List.map_append, sound.snapshot_eq]

theorem Sound.mem_snapshot_iff (sound : table.Sound) {key : Key} {phase : Phase}
    {perceiver : Perceiver κ} :
    perceiver ∈ table.snapshot key phase ↔ ∃ subscription ∈ table.subscriptions,
      key ∈ subscription.keys ∧ subscription.phase = phase ∧
        subscription.perceiver = perceiver := by
  simp [sound.snapshot_eq, and_assoc]

theorem Sound.observes_iff (sound : table.Sound) (key : Key) :
    table.observes key = true ↔
      ∃ subscription ∈ table.subscriptions, key ∈ subscription.keys := by
  have covering := sound.covering key
  rw [observes, Association.contains]
  rw [Table.covering] at covering
  rcases found : table.lookups.find? key with _ | ids
  · rw [found] at covering
    have nobody : (table.subscriptions.filter fun subscription => key ∈ subscription.keys) = [] :=
      List.map_eq_nil_iff.mp covering.symm
    simpa using List.filter_eq_nil_iff.mp nobody
  · rw [found, Option.getD_some] at covering
    have somebody : ids ≠ [] := by
      rintro rfl
      exact sound.nonempty key found
    obtain ⟨id, member⟩ := List.exists_mem_of_ne_nil ids somebody
    rw [covering] at member
    obtain ⟨subscription, present, _⟩ := List.mem_map.mp member
    obtain ⟨registered, covers⟩ := List.mem_filter.mp present
    simpa using ⟨subscription, registered, by simpa using covers⟩

private theorem find?_foldl_enter (id : Nat) (keys : List Key) (nodup : keys.Nodup)
    (lookups : Association Key (List Nat)) (key : Key) :
    (keys.foldl (enter id) lookups).find? key =
      if key ∈ keys then some ((lookups.find? key).getD [] ++ [id]) else lookups.find? key := by
  induction keys generalizing lookups with
  | nil => simp
  | cons head rest ih =>
    obtain ⟨fresh, nodup⟩ := List.nodup_cons.mp nodup
    rw [List.foldl_cons, ih nodup]
    by_cases same : key = head
    · subst same
      simp [fresh, enter]
    · simp [same, enter, Association.find?_insert_of_ne _ same]

theorem covering_register (table : Table κ) (keys : KeySet) (phase : Phase)
    (perceiver : Perceiver κ) (key : Key) :
    (table.register keys phase perceiver).covering key =
      table.covering key ++ if key ∈ keys then [table.nextId] else [] := by
  have entered := find?_foldl_enter table.nextId keys.toList keys.nodup table.lookups key
  by_cases covers : key ∈ keys
  · have listed : key ∈ keys.toList := covers
    simp [covering, register, entered, listed, covers]
  · have listed : key ∉ keys.toList := covers
    simp [covering, register, entered, listed, covers]

theorem Sound.register (sound : table.Sound) (keys : KeySet) (phase : Phase)
    (perceiver : Perceiver κ) : (table.register keys phase perceiver).Sound where
  ascending := by
    simp only [Table.register, List.pairwise_append, List.pairwise_cons]
    refine ⟨sound.ascending, ⟨by simp, .nil⟩, ?_⟩
    intro earlier member last found
    rw [List.mem_singleton.mp found]
    exact sound.bounded earlier member
  bounded := by
    intro subscription member
    rcases List.mem_append.mp member with earlier | last
    · exact Nat.lt_succ_of_lt (sound.bounded subscription earlier)
    · rw [List.mem_singleton.mp last]
      exact Nat.lt_succ_self _
  covering key := by
    rw [covering_register, sound.covering]
    by_cases covers : key ∈ keys <;> simp [Table.register, List.filter_append, covers]
  nonempty key := by
    have entered := find?_foldl_enter table.nextId keys.toList keys.nodup table.lookups key
    simp only [Table.register, entered]
    split
    · simp
    · exact sound.nonempty key

private theorem narrow_eq {id : Nat} {ids : List Nat} (ascending : ids.Pairwise (· < ·))
    {place : Nat} (here : ids[place]? = some id) {rounds start size : Nat} (after : start ≤ place)
    (before : place < start + size) (inside : start + size ≤ ids.length)
    (enough : size ≤ rounds + 1) : narrow id ids rounds start size = place := by
  obtain ⟨present, value⟩ := List.getElem?_eq_some_iff.mp here
  have order := List.pairwise_iff_getElem.mp ascending
  fun_induction narrow id ids rounds start size with
  | case1 start size => omega
  | case2 rounds start size several above ih =>
    have there : start + size / 2 < ids.length := by omega
    rw [List.getElem?_eq_getElem there, Option.any_some, decide_eq_true_eq] at above
    -- The middle is past the number, so the number stands in the lower half.
    refine ih after ?_ (by omega) (by omega)
    by_contra right
    rcases Nat.lt_or_eq_of_le (show start + size / 2 ≤ place by omega) with smaller | same
    · have smaller := order _ place there present smaller
      omega
    · subst same
      omega
  | case3 rounds start size several below ih =>
    have there : start + size / 2 < ids.length := by omega
    rw [List.getElem?_eq_getElem there, Option.any_some, decide_eq_true_eq] at below
    refine ih ?_ (by omega) (by omega) (by omega)
    by_contra left
    have larger := order place _ present there (Nat.lt_of_not_le left)
    omega
  | case4 rounds start size single => omega

/-- In an ascending list, a number is found just where it stands. -/
theorem locate?_eq_some_iff {id : Nat} {ids : List Nat} (ascending : ids.Pairwise (· < ·))
    {place : Nat} : locate? id ids = some place ↔ ids[place]? = some id := by
  rw [locate?, Option.filter_eq_some_iff, decide_eq_true_eq]
  constructor
  · exact fun found => found.2
  · intro here
    have inside := (List.getElem?_eq_some_iff.mp here).1
    have found : narrow id ids ids.length 0 ids.length = place :=
      narrow_eq ascending here (Nat.zero_le _) (by omega) (by omega) (Nat.le_succ _)
    exact ⟨congrArg some found, here⟩

theorem withdraw_eq_erase {ids : List Nat} (ascending : ids.Pairwise (· < ·)) (id : Nat) :
    withdraw id ids = ids.erase id := by
  unfold withdraw
  split
  · rename_i missing
    symm
    apply List.erase_of_not_mem
    intro member
    obtain ⟨place, here⟩ := List.getElem?_of_mem member
    rw [(locate?_eq_some_iff ascending).mpr here] at missing
    cases missing
  · rename_i place found
    have here := (locate?_eq_some_iff ascending).mp found
    obtain ⟨inside, value⟩ := List.getElem?_eq_some_iff.mp here
    have nodup : ids.Nodup := ascending.imp Nat.ne_of_lt
    rw [← value, nodup.erase_getElem]

/-- What is left under a key when a number is struck from it. -/
private def struck (id : Nat) : Option (List Nat) → Option (List Nat)
  | none => none
  | some ids => if (withdraw id ids).isEmpty then none else some (withdraw id ids)

private theorem find?_strike (id : Nat) (lookups : Association Key (List Nat)) (key other : Key) :
    (strike id lookups key).find? other =
      if other = key then struck id (lookups.find? key) else lookups.find? other := by
  by_cases same : other = key
  · subst same
    rcases found : lookups.find? other with _ | ids
    · simp [strike, struck, found]
    · by_cases last : (withdraw id ids).isEmpty = true <;> simp [strike, struck, found, last]
  · rcases found : lookups.find? key with _ | ids
    · simp [strike, found, same]
    · by_cases last : (withdraw id ids).isEmpty = true
      · simp [strike, found, last, same, Association.find?_erase_of_ne _ same]
      · simp [strike, found, last, same, Association.find?_insert_of_ne _ same]

private theorem find?_foldl_strike (id : Nat) (keys : List Key) (nodup : keys.Nodup)
    (lookups : Association Key (List Nat)) (key : Key) :
    (keys.foldl (strike id) lookups).find? key =
      if key ∈ keys then struck id (lookups.find? key) else lookups.find? key := by
  induction keys generalizing lookups with
  | nil => simp
  | cons head rest ih =>
    obtain ⟨fresh, nodup⟩ := List.nodup_cons.mp nodup
    rw [List.foldl_cons, ih nodup, find?_strike]
    by_cases same : key = head
    · subst same
      simp [fresh]
    · simp [same]

private theorem getD_struck (id : Nat) (ids : Option (List Nat)) :
    (struck id ids).getD [] = withdraw id (ids.getD []) := by
  rcases ids with _ | ids
  · simp [struck, withdraw, locate?]
  · by_cases last : (withdraw id ids).isEmpty = true
    · simp only [struck, last, if_true, Option.getD_none, Option.getD_some]
      exact (List.isEmpty_iff.mp last).symm
    · simp [struck, last]

theorem Sound.covering_ascending (sound : table.Sound) (key : Key) :
    (table.covering key).Pairwise (· < ·) := by
  rw [sound.covering]
  exact List.pairwise_map.mpr (sound.ascending.filter _)

private theorem Sound.erase_covering (sound : table.Sound) (id : Nat) (key : Key) :
    (table.covering key).erase id =
      ((table.subscriptions.filter fun subscription => subscription.id ≠ id).filter
        fun subscription => key ∈ subscription.keys).map (·.id) := by
  have nodup : (table.covering key).Nodup := (sound.covering_ascending key).imp Nat.ne_of_lt
  rw [nodup.erase_eq_filter, sound.covering, List.filter_map, List.filter_filter,
    List.filter_filter]
  congr 2
  funext subscription
  by_cases covers : key ∈ subscription.keys <;> simp [covers, bne, beq_eq_decide]

/-- A number that no subscription has cancels nothing; any other takes out its subscription
and nothing else. -/
theorem cancel?_eq_none_iff {id : Nat} :
    table.cancel? id = none ↔ ∀ subscription ∈ table.subscriptions, subscription.id ≠ id := by
  rw [cancel?, Option.map_eq_none_iff, find?_eq_none_iff]

theorem cancel?_subscriptions {id : Nat} {after : Table κ} (cancelled : table.cancel? id = some after) :
    after.subscriptions = table.subscriptions.filter (fun subscription => subscription.id ≠ id) ∧
      after.nextId = table.nextId := by
  obtain ⟨found, _, rfl⟩ := Option.map_eq_some_iff.mp cancelled
  exact ⟨rfl, rfl⟩

theorem Sound.cancel? (sound : table.Sound) {id : Nat} {after : Table κ}
    (cancelled : table.cancel? id = some after) : after.Sound := by
  obtain ⟨found, present, rfl⟩ := Option.map_eq_some_iff.mp cancelled
  obtain ⟨member, number⟩ := sound.find?_eq_some_iff.mp present
  have left := find?_foldl_strike id found.keys.toList found.keys.nodup table.lookups
  refine ⟨sound.ascending.filter _, ?_, ?_, ?_⟩
  · intro subscription kept
    exact sound.bounded subscription (List.mem_of_mem_filter kept)
  · intro key
    simp only [Table.covering, left]
    split
    · rw [getD_struck, ← Table.covering, withdraw_eq_erase (sound.covering_ascending key)]
      exact sound.erase_covering id key
    · rename_i uncovered
      -- The cancelled subscription is not among those that cover the key.
      have untouched : (table.covering key).erase id = table.covering key := by
        apply List.erase_of_not_mem
        intro listed
        rw [sound.covering] at listed
        obtain ⟨other, covers, same⟩ := List.mem_map.mp listed
        obtain ⟨registered, covers⟩ := List.mem_filter.mp covers
        have equal := sound.eq_of_id registered member (same.trans number.symm)
        subst equal
        exact uncovered (of_decide_eq_true covers)
      exact untouched.symm.trans (sound.erase_covering id key)
  · intro key
    simp only [left]
    split
    · rcases table.lookups.find? key with _ | ids
      · simp [struck]
      · by_cases last : (withdraw id ids).isEmpty = true
        · simp [struck, last]
        · intro emptied
          simp only [struck, last, Bool.false_eq_true, if_false, Option.some.injEq] at emptied
          exact last (List.isEmpty_iff.mpr emptied)
    · exact sound.nonempty key

end Table
end ChangeTracking
