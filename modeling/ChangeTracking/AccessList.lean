import ChangeTracking.KeySet
import ChangeTracking.Change

/-! Access lists: which keys a computation read from which registrar. Entries stand in
ascending order of registrar, so a list is determined by its pairs and the merge of two
lists is the union of their pairs. -/
namespace ChangeTracking

/-- The keys read from one registrar. -/
structure AccessEntry where
  registrar : RegistrarId
  keys : KeySet
deriving DecidableEq

structure AccessList where
  entries : List AccessEntry
  ascending : entries.Pairwise fun left right => left.registrar < right.registrar
deriving DecidableEq

namespace AccessList

/-- Entries with further keys for one registrar, joined to its entry if it has one. -/
def place (read : AccessEntry) : List AccessEntry → List AccessEntry
  | [] => [read]
  | head :: rest =>
    if read.registrar < head.registrar then read :: head :: rest
    else if read.registrar = head.registrar then ⟨head.registrar, head.keys ∪ read.keys⟩ :: rest
    else head :: place read rest

private theorem registrar_of_mem_place {read entry : AccessEntry} {entries : List AccessEntry}
    (present : entry ∈ place read entries) :
    entry.registrar = read.registrar ∨ ∃ old ∈ entries, old.registrar = entry.registrar := by
  induction entries with
  | nil => exact Or.inl (by rw [List.mem_singleton.mp present])
  | cons head rest ih =>
    unfold place at present
    split at present
    · rcases List.mem_cons.mp present with rfl | present
      · exact Or.inl rfl
      · exact Or.inr ⟨entry, present, rfl⟩
    · split at present
      · rename_i same
        rcases List.mem_cons.mp present with rfl | present
        · exact Or.inl same.symm
        · exact Or.inr ⟨entry, List.mem_cons_of_mem _ present, rfl⟩
      · rcases List.mem_cons.mp present with rfl | present
        · exact Or.inr ⟨entry, List.mem_cons_self, rfl⟩
        · rcases ih present with own | ⟨old, found, same⟩
          · exact Or.inl own
          · exact Or.inr ⟨old, List.mem_cons_of_mem _ found, same⟩

private theorem ascending_place (read : AccessEntry) (entries : List AccessEntry)
    (ascending : entries.Pairwise fun left right => left.registrar < right.registrar) :
    (place read entries).Pairwise fun left right => left.registrar < right.registrar := by
  induction entries with
  | nil => simp [place]
  | cons head rest ih =>
    obtain ⟨below, tail⟩ := List.pairwise_cons.mp ascending
    unfold place
    split
    · rename_i before
      refine List.pairwise_cons.mpr ⟨fun other present => ?_, ascending⟩
      rcases List.mem_cons.mp present with rfl | present
      · exact before
      · exact Nat.lt_trans before (below other present)
    · rename_i notBefore
      split
      · exact List.pairwise_cons.mpr ⟨below, tail⟩
      · rename_i different
        refine List.pairwise_cons.mpr ⟨fun other present => ?_, ih tail⟩
        rcases registrar_of_mem_place present with own | ⟨old, found, same⟩
        · rw [RegistrarId.lt_iff, own]
          rw [RegistrarId.lt_iff] at notBefore
          have apart : read.registrar.index ≠ head.registrar.index := fun equal =>
            different (by cases h : read.registrar; cases h' : head.registrar; simp_all)
          omega
        · exact same ▸ below old found

def empty : AccessList := ⟨[], List.Pairwise.nil⟩

instance : EmptyCollection AccessList := ⟨empty⟩

instance : Inhabited AccessList := ⟨empty⟩

def join (list : AccessList) (read : AccessEntry) : AccessList :=
  ⟨place read list.entries, ascending_place read list.entries list.ascending⟩

def add (list : AccessList) (registrar : RegistrarId) (key : Key) : AccessList :=
  list.join ⟨registrar, KeySet.ofList [key]⟩

/-- The union of two lists, registrar by registrar. -/
def merge (list other : AccessList) : AccessList := other.entries.foldl join list

def isEmpty (list : AccessList) : Bool := list.entries.isEmpty

def size (list : AccessList) : Nat := list.entries.length

/-- The number of keys in entries, each counted for its registrar. -/
def countKeys : List AccessEntry → Nat
  | [] => 0
  | entry :: rest => entry.keys.size + countKeys rest

/-- The number of pairs of a registrar and a key read from it. -/
def accessCount (list : AccessList) : Nat := countKeys list.entries

def keys (list : AccessList) (registrar : RegistrarId) : KeySet :=
  ((list.entries.find? fun entry => entry.registrar = registrar).map (·.keys)).getD ∅

def contains (list : AccessList) (registrar : RegistrarId) (key : Key) : Bool :=
  key ∈ list.keys registrar

end AccessList
end ChangeTracking
