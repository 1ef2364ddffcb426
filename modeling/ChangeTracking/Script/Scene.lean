import ChangeTracking.Script.Reply

/-! The scene in which a script runs: the slots with what they hold. A registrar lives while a
slot or a running operation holds it; the other things that slots name are never given up. -/
namespace ChangeTracking.Script

/-- A value with the mark that an operation is working on it. -/
structure Cell where
  value : Value
  borrowed : Bool

structure Scene where
  registrars : Association Slot RegistrarId
  /-- The registrar last put in each slot, even if it is gone. -/
  identities : Association Slot RegistrarId
  tokens : Association Slot Token
  lists : Association Slot AccessList
  sessions : Association Slot SessionId
  counters : Association Slot CounterId
  cells : Association Slot Cell
  /-- The counters on which operations are running. -/
  borrowed : List CounterId
  lastEvent : Option ChangeEvent
  steps : Nat

def Scene.empty : Scene := ⟨∅, ∅, ∅, ∅, ∅, ∅, ∅, [], none, 0⟩

/-- What a script hands to the library to be called. -/
inductive Listener (V : Type) where
  | event (handler : Handler V)
  | keyed (handler : Handler V)
  | plain (handler : Handler V)
  | post (mailbox : MailboxId)

abbrev host (V : Type) : Host := ⟨Listener V, Note V, Scene⟩

/-- Runs a script that is carried by an operation or a callback. -/
abbrev Enter (V : Type) := List (Step V) → Act (host V) Unit

variable {V : Type}

/-- Runs a callback: it leaves its note, remembers the event if it is told, and enters its body. -/
def Listener.call (enter : Enter V) : Call (host V)
  | .event handler, change => do
    Act.note (.event handler.name change)
    Act.modifyHost fun scene => { scene with lastEvent := some change }
    enter handler.body
  | .keyed handler, change => do
    Act.note (.call handler.name (some change.key))
    enter handler.body
  | .plain handler, _ => do
    Act.note (.call handler.name none)
    enter handler.body
  | .post mailbox, change => ChangeTracking.post mailbox change

/-- Scripts can be the surroundings of the counter application. -/
def posting (enter : Enter V) : Posting (host V) where
  call := Listener.call enter
  callback := .post
  call_callback _ _ := rfl

/-- An operation under way: it may turn out that it cannot be carried out. -/
abbrev Attempt (V : Type) := ExceptT Fault (Act (host V))

/-- A part of an operation that is carried out whatever happens. -/
def act {α : Type} (part : Act (host V) α) : Attempt V α := ExceptT.lift part

namespace Scene

/-- What a slot holds; an empty slot is a fault. -/
def lookup {α : Type} (kind : SlotKind) (table : Scene → Association Slot α) (slot : Slot) :
    Attempt V α := do
  match (table (← get).host).find? slot with
  | some found => return found
  | none => throw (.missing ⟨kind, slot⟩)

def registrar (slot : Slot) : Attempt V RegistrarId := lookup .registrar (·.registrars) slot

/-- The registrar last put in a slot, dead or alive. -/
def identity (slot : Slot) : Attempt V RegistrarId := lookup .registrar (·.identities) slot

def token (slot : Slot) : Attempt V Token := lookup .token (·.tokens) slot

def list (slot : Slot) : Attempt V AccessList := lookup .list (·.lists) slot

def session (slot : Slot) : Attempt V SessionId := lookup .session (·.sessions) slot

/-- A counter on which no operation is running. -/
def counter (slot : Slot) : Attempt V CounterId := do
  let found ← lookup .counter (·.counters) slot
  if (← get).host.borrowed.contains found then throw .counterBorrowed
  return found

/-- A cell on which no operation is working. -/
def cell (slot : Slot) : Attempt V Cell := do
  let found ← lookup .cell (·.cells) slot
  if found.borrowed then throw (.cellBorrowed slot)
  return found

/-- Goes through the lookups of an operation and keeps nothing of them. -/
def visit (ref : SlotRef) : Attempt V Unit := do
  match ref.kind with
  | .registrar => let _ ← registrar ref.slot
  | .token => let _ ← token ref.slot
  | .list => let _ ← list ref.slot
  | .session => let _ ← session ref.slot
  | .counter => let _ ← counter ref.slot
  | .cell => let _ ← cell ref.slot

def dropRegistrar (slot : Slot) : Act (host V) Bool := do
  match (← get).host.registrars.find? slot with
  | none => return false
  | some old =>
    Act.modifyHost fun scene => { scene with registrars := scene.registrars.erase slot }
    Act.modifyTracker (·.release old)
    return true

def putRegistrar (slot : Slot) : Act (host V) RegistrarId := do
  let id ← Act.track (·.createRegistrar)
  let _ ← dropRegistrar slot
  Act.modifyHost fun scene => { scene with
    registrars := scene.registrars.insert slot id
    identities := scene.identities.insert slot id }
  return id

def putToken (slot : Slot) (token : Token) : Act (host V) Unit :=
  Act.modifyHost fun scene => { scene with tokens := scene.tokens.insert slot token }

def putList (slot : Slot) (list : AccessList) : Act (host V) Unit :=
  Act.modifyHost fun scene => { scene with lists := scene.lists.insert slot list }

def putSession (slot : Slot) (id : SessionId) : Act (host V) Unit :=
  Act.modifyHost fun scene => { scene with sessions := scene.sessions.insert slot id }

/-- Empties a session slot; the session itself goes on. -/
def dropSession (slot : Slot) : Act (host V) Bool := do
  let present := (← get).host.sessions.contains slot
  Act.modifyHost fun scene => { scene with sessions := scene.sessions.erase slot }
  return present

def dropCounter (slot : Slot) : Act (host V) Bool := do
  match (← get).host.counters.find? slot with
  | none => return false
  | some old =>
    Act.modifyHost fun scene => { scene with counters := scene.counters.erase slot }
    Counter.discard old
    return true

def putCounter (slot : Slot) (id : CounterId) : Act (host V) Unit := do
  let _ ← dropCounter slot
  Act.modifyHost fun scene => { scene with counters := scene.counters.insert slot id }

def putCell (slot : Slot) (cell : Cell) : Act (host V) Unit :=
  Act.modifyHost fun scene => { scene with cells := scene.cells.insert slot cell }

def loadCell (slot : Slot) : Act (host V) Value := do
  return (((← get).host.cells.find? slot).map (·.value)).getD .null

def storeCell (slot : Slot) (value : Value) : Act (host V) Unit := putCell slot ⟨value, true⟩

/-- Works on a cell: while the work goes on, the cell is marked. -/
def borrowingCell {α : Type} (slot : Slot) (work : Act (host V) α) : Act (host V) α := do
  storeCell slot (← loadCell slot)
  Act.ensuring work do putCell slot ⟨← loadCell slot, false⟩

/-- Works on a counter: while the work goes on, it is marked and its registrar is held. -/
def borrowingCounter {α : Type} (id : CounterId) (work : Act (host V) α) : Act (host V) α := do
  Act.modifyHost fun scene => { scene with borrowed := id :: scene.borrowed }
  Act.ensuring (Act.holding (← Counter.peek id).registrar work) do
    Act.modifyHost fun scene => { scene with borrowed := scene.borrowed.erase id }

end Scene
end ChangeTracking.Script
