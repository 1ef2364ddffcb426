import ChangeTracking.AccessList
import Mathlib.Data.List.Nodup

namespace ChangeTracking

theorem filter_of_nodup_map {α β : Type} [DecidableEq β] {property : α → β} {list : List α}
    (nodup : (list.map property).Nodup) {entry : α} (member : entry ∈ list) :
    list.filter (fun other => property other = property entry) = [entry] := by
  induction list with
  | nil => cases member
  | cons head rest ih =>
    obtain ⟨fresh, nodup⟩ := List.nodup_cons.mp nodup
    rcases List.mem_cons.mp member with rfl | member
    · have others : rest.filter (fun other => property other = property entry) = [] := by
        apply List.filter_eq_nil_iff.mpr
        intro other present same
        exact fresh (of_decide_eq_true same ▸ List.mem_map_of_mem present)
      rw [List.filter_cons, if_pos (by simp), others]
    · have different : property head ≠ property entry := fun same =>
        fresh (same ▸ List.mem_map_of_mem member)
      rw [List.filter_cons, if_neg (by simpa using different), ih nodup member]

namespace AccessList

theorem apart (list : AccessList) :
    list.entries.Pairwise fun left right => left.registrar ≠ right.registrar := by
  apply list.ascending.imp
  intro left right before same
  rw [RegistrarId.lt_iff, same] at before
  exact Nat.lt_irrefl _ before

def registrars (list : AccessList) : List RegistrarId := list.entries.map (·.registrar)

theorem registrars_nodup (list : AccessList) : list.registrars.Nodup :=
  List.pairwise_map.mpr list.apart

private theorem find?_of_mem {entries : List AccessEntry}
    (apart : entries.Pairwise fun left right => left.registrar ≠ right.registrar)
    {entry : AccessEntry} (member : entry ∈ entries) :
    entries.find? (fun other => other.registrar = entry.registrar) = some entry := by
  induction entries with
  | nil => cases member
  | cons head rest ih =>
    obtain ⟨different, apart⟩ := List.pairwise_cons.mp apart
    rcases List.mem_cons.mp member with rfl | member
    · simp
    · simp [different entry member, ih apart member]

theorem keys_of_mem {list : AccessList} {entry : AccessEntry} (member : entry ∈ list.entries) :
    list.keys entry.registrar = entry.keys := by
  simp [keys, find?_of_mem list.apart member]

private theorem mem_registrars_place {read : AccessEntry} {entries : List AccessEntry}
    {id : RegistrarId} :
    id ∈ (place read entries).map (·.registrar) ↔
      id = read.registrar ∨ id ∈ entries.map (·.registrar) := by
  induction entries with
  | nil => simp [place]
  | cons head rest ih =>
    unfold place
    split
    · simp
    · split
      · rename_i same
        simp [same]
      · rw [List.map_cons, List.mem_cons, ih, List.map_cons, List.mem_cons, or_left_comm]

theorem mem_registrars_join {list : AccessList} {read : AccessEntry} {id : RegistrarId} :
    id ∈ (list.join read).registrars ↔ id = read.registrar ∨ id ∈ list.registrars :=
  mem_registrars_place

theorem mem_registrars_add {list : AccessList} {registrar id : RegistrarId} {key : Key} :
    id ∈ (list.add registrar key).registrars ↔ id = registrar ∨ id ∈ list.registrars :=
  mem_registrars_join

private def keysIn (entries : List AccessEntry) (id : RegistrarId) : KeySet :=
  ((entries.find? fun entry => entry.registrar = id).map (·.keys)).getD ∅

private theorem keysIn_cons (head : AccessEntry) (rest : List AccessEntry) (id : RegistrarId) :
    keysIn (head :: rest) id = if head.registrar = id then head.keys else keysIn rest id := by
  by_cases same : head.registrar = id <;> simp [keysIn, same]

private theorem keysIn_of_absent {entries : List AccessEntry} {id : RegistrarId}
    (absent : ∀ entry ∈ entries, entry.registrar ≠ id) : keysIn entries id = ∅ := by
  have none : entries.find? (fun entry => entry.registrar = id) = none :=
    List.find?_eq_none.mpr fun entry member => by simpa using absent entry member
  rw [keysIn, none]
  rfl

private theorem mem_keysIn_place (read : AccessEntry) {entries : List AccessEntry}
    (ascending : entries.Pairwise fun left right => left.registrar < right.registrar)
    (id : RegistrarId) (key : Key) :
    key ∈ keysIn (place read entries) id ↔
      (id = read.registrar ∧ key ∈ read.keys) ∨ key ∈ keysIn entries id := by
  have blank : key ∉ (∅ : KeySet) := List.not_mem_nil
  induction entries with
  | nil =>
    rw [place, keysIn_cons]
    by_cases same : id = read.registrar
    · simp [same, keysIn, blank]
    · simp [Ne.symm same, same, keysIn, blank]
  | cons head rest ih =>
    obtain ⟨below, ascending⟩ := List.pairwise_cons.mp ascending
    unfold place
    split
    · rename_i before
      rw [keysIn_cons]
      by_cases same : id = read.registrar
      · -- All entries belong to later registrars.
        have absent : keysIn (head :: rest) read.registrar = ∅ := by
          apply keysIn_of_absent
          intro entry member equal
          rw [RegistrarId.lt_iff] at before
          rcases List.mem_cons.mp member with rfl | member
          · rw [equal] at before
            exact Nat.lt_irrefl _ before
          · have later := below entry member
            rw [RegistrarId.lt_iff, equal] at later
            omega
        simp [same, absent, blank]
      · simp [same, Ne.symm same]
    · split
      · rename_i same
        simp only [keysIn_cons, same]
        by_cases here : head.registrar = id
        · simp [here, KeySet.mem_union_iff, or_comm]
        · simp [here, Ne.symm here]
      · rename_i different
        rw [keysIn_cons, keysIn_cons]
        by_cases here : head.registrar = id
        · have other : id ≠ read.registrar := fun same => different (same.symm.trans here.symm)
          simp [here, other]
        · simp [here, ih ascending]

theorem contains_iff {list : AccessList} {id : RegistrarId} {key : Key} :
    list.contains id key = true ↔
      ∃ entry ∈ list.entries, entry.registrar = id ∧ key ∈ entry.keys := by
  rw [contains, decide_eq_true_eq]
  constructor
  · intro covers
    rcases found : list.entries.find? (fun entry => entry.registrar = id) with _ | entry
    · rw [keys, found] at covers
      cases covers
    · rw [keys, found] at covers
      exact ⟨entry, List.mem_of_find?_eq_some found, by simpa using List.find?_some found, covers⟩
  · rintro ⟨entry, member, rfl, covers⟩
    rwa [keys_of_mem member]

theorem mem_registrars_iff {list : AccessList} {id : RegistrarId} :
    id ∈ list.registrars ↔ ∃ entry ∈ list.entries, entry.registrar = id := List.mem_map

theorem contains_join {list : AccessList} {read : AccessEntry} {id : RegistrarId}
    {key : Key} : (list.join read).contains id key = true ↔
      (id = read.registrar ∧ key ∈ read.keys) ∨ list.contains id key = true := by
  simp only [contains, decide_eq_true_eq]
  exact mem_keysIn_place read list.ascending id key

theorem contains_add {list : AccessList} {registrar id : RegistrarId} {key other : Key} :
    (list.add registrar key).contains id other = true ↔
      (id = registrar ∧ other = key) ∨ list.contains id other = true := by
  rw [add, contains_join, KeySet.mem_ofList_iff, List.mem_singleton]

theorem contains_merge {list other : AccessList} {id : RegistrarId} {key : Key} :
    (list.merge other).contains id key = true ↔
      list.contains id key = true ∨ other.contains id key = true := by
  rw [@contains_iff other, merge]
  generalize other.entries = entries
  induction entries generalizing list with
  | nil => simp
  | cons entry rest ih =>
    rw [List.foldl_cons, ih, contains_join, List.exists_mem_cons_iff]
    grind

theorem mem_registrars_merge {list other : AccessList} {id : RegistrarId} :
    id ∈ (list.merge other).registrars ↔ id ∈ list.registrars ∨ id ∈ other.registrars := by
  rw [@mem_registrars_iff other, merge]
  generalize other.entries = entries
  induction entries generalizing list with
  | nil => simp
  | cons entry rest ih =>
    rw [List.foldl_cons, ih, mem_registrars_join, List.exists_mem_cons_iff]
    grind

theorem filter_entries (list : AccessList) (id : RegistrarId) :
    list.entries.filter (fun entry => entry.registrar = id) =
      if id ∈ list.registrars then [⟨id, list.keys id⟩] else [] := by
  split
  · rename_i listed
    obtain ⟨entry, member, rfl⟩ := List.mem_map.mp listed
    rw [filter_of_nodup_map list.registrars_nodup member, keys_of_mem member]
  · rename_i absent
    apply List.filter_eq_nil_iff.mpr
    intro entry member here
    exact absent (of_decide_eq_true here ▸ List.mem_map_of_mem member)

private theorem registrars_ascending (list : AccessList) : list.registrars.Pairwise (· < ·) :=
  List.pairwise_map.mpr list.ascending

private theorem entries_eq (list : AccessList) :
    list.entries = list.registrars.map fun id => ⟨id, list.keys id⟩ := by
  rw [registrars, List.map_map]
  conv_lhs => rw [← List.map_id list.entries]
  refine List.map_congr_left fun entry member => ?_
  rw [Function.comp, keys_of_mem member, id]

theorem ext_pairs {left right : AccessList}
    (registrars : ∀ id, id ∈ left.registrars ↔ id ∈ right.registrars)
    (pairs : ∀ id key, left.contains id key = true ↔ right.contains id key = true) :
    left = right := by
  have perm : left.registrars.Perm right.registrars :=
    (List.perm_ext_iff_of_nodup left.registrars_nodup right.registrars_nodup).mpr registrars
  have order : left.registrars = right.registrars := by
    refine perm.eq_of_pairwise ?_ left.registrars_ascending right.registrars_ascending
    intro one other _ _ before after
    exact absurd before (Nat.lt_asymm after)
  have keys (id : RegistrarId) : left.keys id = right.keys id :=
    KeySet.ext_mem fun key => by simpa [contains] using pairs id key
  have entries : left.entries = right.entries := by
    rw [entries_eq left, entries_eq right, order]
    exact List.map_congr_left fun id _ => by rw [keys]
  cases left
  cases right
  cases entries
  rfl

theorem merge_assoc (first second third : AccessList) :
    (first.merge second).merge third = first.merge (second.merge third) := by
  refine ext_pairs (fun id => ?_) fun id key => ?_
  · simp only [mem_registrars_merge, or_assoc]
  · simp only [contains_merge, or_assoc]

theorem merge_comm (list other : AccessList) : list.merge other = other.merge list := by
  refine ext_pairs (fun id => ?_) fun id key => ?_
  · rw [mem_registrars_merge, mem_registrars_merge, or_comm]
  · rw [contains_merge, contains_merge, or_comm]

theorem merge_self (list : AccessList) : list.merge list = list := by
  refine ext_pairs (fun id => ?_) fun id key => ?_
  · rw [mem_registrars_merge, or_self]
  · rw [contains_merge, or_self]

theorem add_eq_merge (list : AccessList) (registrar : RegistrarId) (key : Key) :
    list.add registrar key = list.merge ((∅ : AccessList).add registrar key) := by
  have blank (id : RegistrarId) : (∅ : AccessList).registrars = [] ∧
      ∀ key, (∅ : AccessList).contains id key = false := ⟨rfl, fun _ => rfl⟩
  refine ext_pairs (fun id => ?_) fun id other => ?_
  · rw [mem_registrars_merge, mem_registrars_add, mem_registrars_add, (blank id).1, or_comm]
    simp
  · rw [contains_merge, contains_add, contains_add, (blank id).2, or_comm]
    simp

theorem empty_merge (list : AccessList) : (∅ : AccessList).merge list = list := by
  refine ext_pairs (fun id => ?_) fun id key => ?_
  · rw [mem_registrars_merge]
    exact or_iff_right List.not_mem_nil
  · rw [contains_merge]
    exact or_iff_right Bool.false_ne_true

/-- The list of reads, in whatever order and however often they were made. -/
def ofReads (reads : List (RegistrarId × Key)) : AccessList :=
  reads.foldl (fun list read => list.add read.1 read.2) ∅

theorem foldl_add (list : AccessList) (reads : List (RegistrarId × Key)) :
    reads.foldl (fun list read => list.add read.1 read.2) list = list.merge (ofReads reads) := by
  induction reads generalizing list with
  | nil => rfl
  | cons read rest ih => rw [ofReads, List.foldl_cons, List.foldl_cons, ih, ih (add ..),
      ← merge_assoc, ← add_eq_merge]

theorem ofReads_cons (read : RegistrarId × Key) (rest : List (RegistrarId × Key)) :
    ofReads (read :: rest) = ((∅ : AccessList).add read.1 read.2).merge (ofReads rest) := by
  rw [ofReads, List.foldl_cons, foldl_add]

theorem ofReads_append (reads more : List (RegistrarId × Key)) :
    ofReads (reads ++ more) = (ofReads reads).merge (ofReads more) := by
  rw [ofReads, List.foldl_append, foldl_add]
  rfl

theorem contains_ofReads {reads : List (RegistrarId × Key)} {id : RegistrarId} {key : Key} :
    (ofReads reads).contains id key = true ↔ (id, key) ∈ reads := by
  induction reads with
  | nil => exact iff_of_false Bool.false_ne_true List.not_mem_nil
  | cons read rest ih =>
    have blank : (∅ : AccessList).contains id key = false := rfl
    rw [ofReads_cons, contains_merge, contains_add, ih, blank, List.mem_cons, Prod.ext_iff]
    simp

theorem mem_keys_ofReads {reads : List (RegistrarId × Key)} {id : RegistrarId} {key : Key} :
    key ∈ (ofReads reads).keys id ↔ (id, key) ∈ reads := by
  rw [← contains_ofReads, contains, decide_eq_true_eq]

theorem mem_registrars_ofReads {reads : List (RegistrarId × Key)} {id : RegistrarId} :
    id ∈ (ofReads reads).registrars ↔ id ∈ reads.map (·.1) := by
  induction reads with
  | nil => exact iff_of_false List.not_mem_nil List.not_mem_nil
  | cons read rest ih =>
    rw [ofReads_cons, mem_registrars_merge, mem_registrars_add, ih, List.map_cons, List.mem_cons]
    exact or_congr_left (or_iff_left List.not_mem_nil)

end AccessList
end ChangeTracking
