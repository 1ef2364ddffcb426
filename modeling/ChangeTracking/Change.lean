import ChangeTracking.Key

namespace ChangeTracking

/-- Identity of a registrar: its place in the order of creation, counted from zero. -/
structure RegistrarId where
  index : Nat
deriving DecidableEq

namespace RegistrarId

/-- The number shown to people; the first registrar is number one. -/
def number (id : RegistrarId) : Nat := id.index + 1

instance : LT RegistrarId where
  lt left right := left.index < right.index

instance (left right : RegistrarId) : Decidable (left < right) :=
  inferInstanceAs (Decidable (left.index < right.index))

theorem lt_iff {left right : RegistrarId} : left < right ↔ left.index < right.index := Iff.rfl

end RegistrarId

/-- Identity of a session: its place in the order of creation, counted from zero. -/
structure SessionId where
  index : Nat
deriving DecidableEq

def SessionId.number (id : SessionId) : Nat := id.index + 1

/-- A change is reported once before the new value is written and once after. -/
inductive Phase where
  | willChange
  | didChange
deriving DecidableEq

def Phase.name : Phase → String
  | .willChange => "WillChange"
  | .didChange => "DidChange"

/-- One phase of a change to one property of the owner of one registrar. -/
structure ChangeEvent where
  registrar : RegistrarId
  key : Key
  phase : Phase
deriving DecidableEq

def RegistrarId.raised (owner : RegistrarId) (event : ChangeEvent) : Bool :=
  event.registrar == owner

end ChangeTracking
