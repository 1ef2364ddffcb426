import ChangeTracking.Change

namespace ChangeTracking

/-- Values of the type own a registrar each. -/
class Perceptible (P : Type) where
  registrar : P → RegistrarId

def Perceptible.raised {P : Type} [Perceptible P] (owner : P) (event : ChangeEvent) : Bool :=
  (registrar owner).raised event

structure Borrowed (P : Type) where
  target : P

structure Shared (P : Type) where
  target : P

instance {P : Type} [Perceptible P] : Perceptible (Borrowed P) where
  registrar borrowed := Perceptible.registrar borrowed.target

instance {P : Type} [Perceptible P] : Perceptible (Shared P) where
  registrar shared := Perceptible.registrar shared.target

@[simp] theorem Perceptible.raised_borrowed {P : Type} [Perceptible P] (owner : P) (event : ChangeEvent) :
    raised (⟨owner⟩ : Borrowed P) event = raised owner event := rfl

@[simp] theorem Perceptible.raised_shared {P : Type} [Perceptible P] (owner : P) (event : ChangeEvent) :
    raised (⟨owner⟩ : Shared P) event = raised owner event := rfl

end ChangeTracking
