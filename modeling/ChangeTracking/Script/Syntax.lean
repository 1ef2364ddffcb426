import ChangeTracking.Counter.Program
import ChangeTracking.Script.Value

namespace ChangeTracking.Script

/-- Slots of different kinds may have the same name. -/
abbrev Slot := String

inductive SlotKind where
  | registrar
  | token
  | list
  | session
  | counter
  | cell
deriving DecidableEq

/-- A slot that an operation reads. -/
structure SlotRef where
  kind : SlotKind
  slot : Slot
deriving DecidableEq

mutual
inductive Op (V : Type) where
  | compareKeys (key other : Key)
  | create (into : Slot)
  | duplicate (source into : Slot)
  | drop (slot : Slot)
  | identify (slot : Slot)
  | describe (slot : Slot)
  | compare (slot other : Slot)
  | serialize (slot : Slot)
  | deserialize (text : String) (into : Slot)
  | access (slot : Slot) (key : Key)
  | willChange (slot : Slot) (key : Key)
  | didChange (slot : Slot) (key : Key)
  /-- A mutation with a body; it hands through the result, be it a value or an error. -/
  | mutate (slot : Slot) (key : Key) (body : List (Step V)) (result : Except (Option V) (Option V))
  | register (slot : Slot) (phase : Phase) (keys : List Key) (handler : Handler V) (into : Slot)
  | cancel (slot token : Slot)
  | cancelAll (slot : Slot)
  | countSubscriptions (slot : Slot)
  | observes (slot : Slot) (key : Key)
  | raised (slot : Slot)
  | store (value : Value) (cell : Slot)
  | load (cell : Slot)
  | setIfChanged (slot : Slot) (key : Key) (cell : Slot) (value : Value)
  | modify (slot : Slot) (key : Key) (cell : Slot) (value : Value) (body after : List (Step V))
  | isRecording
  | record (body : List (Step V)) (value : Option V) (into : Option Slot)
  | createList (into : Slot)
  | inspectList (list : Slot)
  | mergeLists (other list : Slot)
  | listKeys (list slot : Slot)
  | listContains (list slot : Slot) (key : Key)
  | describeList (list : Slot)
  | createSession (list into : Slot)
  | install (session : Slot) (will did : List (Handler V))
  | cancelSession (session : Slot)
  | shareSession (session into : Slot)
  | dropSession (session : Slot)
  | inspectSession (session : Slot)
  | describeCallbacks (will did : List (Handler V))
  /-- A tracked read whose callback is not told about the change. -/
  | trackOnce (body : List (Step V)) (value : Option V) (handler : Handler V)
  | track (body : List (Step V)) (value : Option V) (will did : Option (Handler V))
  | trackSession (body : List (Step V)) (value : Option V) (will did : List (Handler V))
      (into : Slot)
  | totals
  | panic (message : String)
  | catching (body : List (Step V))
  | thread (body : List (Step V))
  | createCounter (into : Slot)
  | dropCounter (counter : Slot)
  | duplicateCounter (counter into : Slot)
  | compareCounters (counter other : Slot)
  | readCount (counter : Slot)
  | readName (counter : Slot)
  | setCount (counter : Slot) (count : Int)
  | setName (counter : Slot) (name : String)
  | setCountIfChanged (counter : Slot) (count : Int)
  | setNameIfChanged (counter : Slot) (name : String)
  /-- The counter application, run some times with one sink for all that is written. -/
  | runLoop (config : RenderConfig) (runs : Nat) (limit : Option Nat)
  | fail (failure : Failure)
  | parseOptions (words : List String)
  | runProgram (words : List String)
  | incomplete (reads : List SlotRef) (field : String)
  | unknown (name : String)

/-- An operation under the name by which the log calls it. -/
structure Step (V : Type) where
  label : String
  op : Op V

/-- A callback: it notes its name and what it was given, and runs its body. -/
structure Handler (V : Type) where
  name : String
  body : List (Step V)
end

end ChangeTracking.Script
