import ChangeTracking.Key

namespace ChangeTracking

/-- A set of keys: the list of its members, each once, in ascending order. -/
structure KeySet where
  toList : List Key
  ascending : toList.Pairwise (· < ·)
deriving DecidableEq

namespace KeySet

/-- The ascending list with one more key, which is left alone if present. -/
def place (key : Key) : List Key → List Key
  | [] => [key]
  | head :: rest =>
    if key < head then key :: head :: rest
    else if key = head then head :: rest
    else head :: place key rest

theorem mem_place_iff (key other : Key) (keys : List Key) :
    other ∈ place key keys ↔ other = key ∨ other ∈ keys := by
  induction keys with
  | nil => simp [place]
  | cons head rest ih =>
    unfold place
    split
    · simp
    · split
      · rename_i same; subst same; simp
      · simp only [List.mem_cons, ih]; grind

private theorem ascending_place (key : Key) (keys : List Key)
    (ascending : keys.Pairwise (· < ·)) : (place key keys).Pairwise (· < ·) := by
  induction keys with
  | nil => simp [place]
  | cons head rest ih =>
    obtain ⟨below, tail⟩ := List.pairwise_cons.mp ascending
    unfold place
    split
    · rename_i before
      refine List.pairwise_cons.mpr ⟨fun other present => ?_, ascending⟩
      rcases List.mem_cons.mp present with rfl | present
      · exact before
      · exact Key.lt_trans before (below other present)
    · rename_i notBefore
      split
      · exact ascending
      · rename_i different
        refine List.pairwise_cons.mpr ⟨fun other present => ?_, ih tail⟩
        rcases (mem_place_iff key other rest).mp present with rfl | present
        · rcases Key.lt_or_eq_or_gt other head with before | same | after
          · exact absurd before notBefore
          · exact absurd same different
          · exact after
        · exact below other present

def empty : KeySet := ⟨[], List.Pairwise.nil⟩

def insert (set : KeySet) (key : Key) : KeySet :=
  ⟨place key set.toList, ascending_place key set.toList set.ascending⟩

/-- The set of the keys of a list, in whatever order and however often they stand there. -/
def ofList (keys : List Key) : KeySet := keys.foldl insert empty

def union (left right : KeySet) : KeySet := right.toList.foldl insert left

instance : EmptyCollection KeySet := ⟨empty⟩

instance : Inhabited KeySet := ⟨empty⟩

instance : Union KeySet := ⟨union⟩

instance : Membership Key KeySet where
  mem set key := key ∈ set.toList

instance (key : Key) (set : KeySet) : Decidable (key ∈ set) :=
  inferInstanceAs (Decidable (key ∈ set.toList))

def size (set : KeySet) : Nat := set.toList.length

theorem mem_insert_iff (set : KeySet) (key other : Key) :
    other ∈ set.insert key ↔ other = key ∨ other ∈ set :=
  mem_place_iff key other set.toList

private theorem mem_foldl_insert_iff (keys : List Key) (set : KeySet) (key : Key) :
    key ∈ keys.foldl insert set ↔ key ∈ set ∨ key ∈ keys := by
  induction keys generalizing set with
  | nil => simp
  | cons head rest ih =>
    rw [List.foldl_cons, ih, mem_insert_iff, List.mem_cons]
    grind

theorem mem_ofList_iff (keys : List Key) (key : Key) : key ∈ ofList keys ↔ key ∈ keys := by
  have blank : key ∉ empty := List.not_mem_nil
  rw [ofList, mem_foldl_insert_iff]
  exact ⟨fun found => found.resolve_left blank, Or.inr⟩

theorem mem_union_iff (left right : KeySet) (key : Key) :
    key ∈ left ∪ right ↔ key ∈ left ∨ key ∈ right :=
  mem_foldl_insert_iff right.toList left key

private theorem ascending_unique {left right : List Key} (leftAscending : left.Pairwise (· < ·))
    (rightAscending : right.Pairwise (· < ·)) (same : ∀ key, key ∈ left ↔ key ∈ right) :
    left = right := by
  induction left generalizing right with
  | nil =>
    cases right with
    | nil => rfl
    | cons head rest => exact absurd ((same head).mpr (by simp)) (by simp)
  | cons head rest ih =>
    cases right with
    | nil => exact absurd ((same head).mp (by simp)) (by simp)
    | cons other others =>
      obtain ⟨below, tail⟩ := List.pairwise_cons.mp leftAscending
      obtain ⟨above, otherTail⟩ := List.pairwise_cons.mp rightAscending
      have heads : head = other := by
        rcases List.mem_cons.mp ((same head).mp (by simp)) with equal | later
        · exact equal
        · rcases List.mem_cons.mp ((same other).mpr (by simp)) with equal | earlier
          · exact equal.symm
          · exact absurd (Key.lt_trans (below other earlier) (above head later)) (Key.lt_irrefl _)
      subst heads
      congr 1
      refine ih tail otherTail fun key => ⟨fun present => ?_, fun present => ?_⟩
      · rcases List.mem_cons.mp ((same key).mp (List.mem_cons_of_mem _ present)) with rfl | found
        · exact absurd (below key present) (Key.lt_irrefl key)
        · exact found
      · rcases List.mem_cons.mp ((same key).mpr (List.mem_cons_of_mem _ present)) with rfl | found
        · exact absurd (above key present) (Key.lt_irrefl key)
        · exact found

theorem ext_mem {left right : KeySet} (same : ∀ key, key ∈ left ↔ key ∈ right) : left = right := by
  cases left with
  | mk leftKeys leftAscending =>
    cases right with
    | mk rightKeys rightAscending =>
      have keys : leftKeys = rightKeys := ascending_unique leftAscending rightAscending same
      subst keys
      rfl

end KeySet
end ChangeTracking
