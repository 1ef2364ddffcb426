import ChangeTracking.Change

namespace ChangeTracking

structure PerPhase (α : Type) where
  willChange : Option α
  didChange : Option α
deriving DecidableEq

namespace PerPhase
variable {α : Type}

def empty : PerPhase α := ⟨none, none⟩

instance : EmptyCollection (PerPhase α) := ⟨empty⟩

instance : Inhabited (PerPhase α) := ⟨empty⟩

def find? (slots : PerPhase α) : Phase → Option α
  | .willChange => slots.willChange
  | .didChange => slots.didChange

def insert (slots : PerPhase α) (phase : Phase) (value : α) : PerPhase α :=
  match phase with
  | .willChange => ⟨some value, slots.didChange⟩
  | .didChange => ⟨slots.willChange, some value⟩

def erase (slots : PerPhase α) : Phase → PerPhase α
  | .willChange => ⟨none, slots.didChange⟩
  | .didChange => ⟨slots.willChange, none⟩

def only (slots : PerPhase α) (phase : Phase) : PerPhase α :=
  match phase with
  | .willChange => ⟨slots.willChange, none⟩
  | .didChange => ⟨none, slots.didChange⟩

def isEmpty (slots : PerPhase α) : Bool := slots.willChange.isNone && slots.didChange.isNone

def toList (slots : PerPhase α) : List α := slots.willChange.toList ++ slots.didChange.toList

theorem find?_erase (slots : PerPhase α) (phase other : Phase) :
    (slots.erase phase).find? other = if other = phase then none else slots.find? other := by
  cases phase <;> cases other <;> rfl

theorem isEmpty_iff (slots : PerPhase α) :
    slots.isEmpty = true ↔ ∀ phase, slots.find? phase = none := by
  constructor
  · intro absent phase
    cases phase <;> simp_all [isEmpty, find?]
  · intro absent
    have will : slots.willChange = none := absent .willChange
    have did : slots.didChange = none := absent .didChange
    simp [isEmpty, will, did]

theorem isEmpty_eq_false_iff (slots : PerPhase α) :
    slots.isEmpty = false ↔ ∃ phase, (slots.find? phase).isSome = true := by
  rw [← Bool.not_eq_true, isEmpty_iff, Classical.not_forall]
  simp only [Option.isSome_iff_ne_none, ne_eq]

end PerPhase
end ChangeTracking
