import ChangeTracking.Counter.Basic
import ChangeTracking.Notification
import ChangeTracking.Recording
import ChangeTracking.Description
import ChangeTracking.Text.Quoted

namespace ChangeTracking.Counter
variable {H : Host}

def create : Act H CounterId := do
  let registrar ← Act.track (·.createRegistrar)
  modifyGet fun world =>
    (⟨world.counters.size⟩, { world with counters := world.counters.push (fresh registrar) })

/-- What a counter holds, without recording a read. -/
def peek (id : CounterId) : Act H Counter := do return ((← get).counters[id.index]?).getD default

def update (id : CounterId) (change : Counter → Counter) : Act H Unit :=
  modify fun world => { world with counters := world.counters.modify id.index change }

/-- A counter that holds the same under a registrar of its own. -/
def duplicate (id : CounterId) : Act H CounterId := do
  let origin ← peek id
  let copy ← create
  update copy fun counter => { counter with count := origin.count, name := origin.name }
  return copy

/-- Gives up a counter: nobody holds its registrar on behalf of it any more. -/
def discard (id : CounterId) : Act H Unit := do
  let counter ← peek id
  Act.modifyTracker (·.release counter.registrar)

def readCount (id : CounterId) : Act H Int := do
  let counter ← peek id
  access counter.registrar countKey
  return counter.count

def readName (id : CounterId) : Act H String := do
  let counter ← peek id
  access counter.registrar nameKey
  return counter.name

def writeCount (id : CounterId) (count : Int) : Act H Unit :=
  update id fun counter => { counter with count }

def writeName (id : CounterId) (name : String) : Act H Unit :=
  update id fun counter => { counter with name }

variable (call : Call H)

def setCount (id : CounterId) (count : Int) : Act H Unit := do
  withMutation call (← peek id).registrar countKey (writeCount id count)

def setName (id : CounterId) (name : String) : Act H Unit := do
  withMutation call (← peek id).registrar nameKey (writeName id name)

/-- Writes the count if it is another one; says whether it was written. -/
def setCountIfChanged (id : CounterId) (count : Int) : Act H Bool := do
  let counter ← peek id
  setIfChanged call counter.registrar countKey (· == ·) (pure counter.count) (writeCount id) count

def setNameIfChanged (id : CounterId) (name : String) : Act H Bool := do
  let counter ← peek id
  setIfChanged call counter.registrar nameKey (· == ·) (pure counter.name) (writeName id) name

def outline {κ : Type} (counter : Counter) (tracker : Tracker κ) : Outline :=
  .record "CounterModel"
    [("count", .atom (toString counter.count)), ("name", .atom (Quoted.encode counter.name)),
      ("registrar", tracker.registrarOutline counter.registrar)]

end ChangeTracking.Counter
