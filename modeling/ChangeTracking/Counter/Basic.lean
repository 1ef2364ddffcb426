import ChangeTracking.Perceptible

namespace ChangeTracking

/-- What a counter holds, with the registrar through which its properties are observed. -/
structure Counter where
  registrar : RegistrarId
  count : Int
  name : String
deriving DecidableEq

structure CounterId where
  index : Nat
deriving DecidableEq

namespace Counter

def countKey : Key := ⟨"count"⟩

def nameKey : Key := ⟨"name"⟩

def fresh (registrar : RegistrarId) : Counter := ⟨registrar, 0, ""⟩

instance : Inhabited Counter := ⟨fresh ⟨0⟩⟩

instance : Perceptible Counter := ⟨(·.registrar)⟩

/-- Counters are compared by what they hold; their registrars do not matter. -/
def same (left right : Counter) : Bool := left.count == right.count && left.name == right.name

end Counter
end ChangeTracking
