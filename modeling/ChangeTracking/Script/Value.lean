

namespace ChangeTracking.Script

inductive Value where
  | null
  | bool (value : Bool)
  | int (value : Int64)
  | float (value : Float)
  | text (value : String)
  | list (items : List Value)

namespace Value

mutual
/-- Whether two values are of one kind and equal. Numbers with a point are compared as such, so
one that is no number is not even the same as itself, also inside a list. -/
def same : Value → Value → Bool
  | .null, .null => true
  | .bool left, .bool right => left == right
  | .int left, .int right => left == right
  | .float left, .float right => left == right
  | .text left, .text right => left == right
  | .list lefts, .list rights => sameItems lefts rights
  | _, _ => false

def sameItems : List Value → List Value → Bool
  | [], [] => true
  | left :: lefts, right :: rights => same left right && sameItems lefts rights
  | _, _ => false
end

/-- What a value becomes when another one is worked into it: whole numbers are added modulo
2^64, text is appended, a list takes the value as its last item; otherwise it is replaced. -/
def absorb : Value → Value → Value
  | .int left, .int right => .int (left + right)
  | .text left, .text right => .text (left ++ right)
  | .list items, value => .list (items ++ [value])
  | _, value => value

end Value
end ChangeTracking.Script
