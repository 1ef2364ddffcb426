import ChangeTracking.Counter.Tracked

namespace ChangeTracking

/-- Which properties a view shows. -/
inductive RenderMode where
  | count
  | name
  | both
deriving DecidableEq

def RenderMode.title : RenderMode → String
  | .count => "Count"
  | .name => "Name"
  | .both => "Both"

namespace Counter
variable {H : Host}

def countText (count : Int) : String := "count=" ++ toString count

def nameText (name : String) : String := "name=" ++ Quoted.encode name

def frame (counter : Counter) : RenderMode → String
  | .count => countText counter.count
  | .name => nameText counter.name
  | .both => countText counter.count ++ " " ++ nameText counter.name

/-- Renders a view, reading only the properties that it shows. -/
def view (id : CounterId) : RenderMode → Act H String
  | .count => do return countText (← readCount id)
  | .name => do return nameText (← readName id)
  | .both => do
    let count ← readCount id
    let name ← readName id
    return countText count ++ " " ++ nameText name

end Counter
end ChangeTracking
