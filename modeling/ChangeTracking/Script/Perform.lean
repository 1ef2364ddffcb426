import ChangeTracking.Script.Scene
import ChangeTracking.Text.JsonSyntax

/-! Carrying out a single operation. All slots are looked up before anything is changed, so an
operation on a slot that is empty or not free has no effect. -/
namespace ChangeTracking.Script
variable {V : Type} (enter : Enter V)

def duplicate (source into : Slot) : Attempt V (Reply V) := do
  let _ ← Scene.registrar source
  return .registrar (← act (Scene.putRegistrar into))

/-- Reads a registrar. The value says nothing about it, so any value gives a fresh one. It is made
when the value ends; if something follows that value, the registrar is given up again. -/
def deserialize (text : String) (into : Slot) : Attempt V (Reply V) := do
  match JsonSyntax.read text with
  | .value => return .registrar (← act (Scene.putRegistrar into))
  | .valueAndMore =>
    let id ← act (Act.track (·.createRegistrar))
    act (Act.modifyTracker (·.release id))
    throw .invalidJson
  | .malformed => throw .invalidJson

/-- Runs a computation on the registrar of a slot, which is held meanwhile. -/
def onRegistrar {α : Type} (slot : Slot) (work : RegistrarId → Act (host V) α) : Attempt V α := do
  let id ← Scene.registrar slot
  act (Act.holding id (work id))

def notifyPhase (slot : Slot) (key : Key) (phase : Phase) : Attempt V (Reply V) := do
  onRegistrar slot fun id => notify (Listener.call enter) id key phase
  return .nothing

def mutate (slot : Slot) (key : Key) (body : List (Step V))
    (result : Except (Option V) (Option V)) : Attempt V (Reply V) :=
  onRegistrar slot fun id =>
    withMutation (Listener.call enter) id key do
      Act.note .body
      enter body
      return .result result

def register (slot : Slot) (phase : Phase) (keys : List Key) (handler : Handler V) (into : Slot) :
    Attempt V (Reply V) := do
  let id ← Scene.registrar slot
  let token ← act (Act.track (·.register id (.ofList keys) phase (.direct (.keyed handler))))
  act (Scene.putToken into token)
  return .token token

def cancel (slot token : Slot) : Attempt V (Reply V) := do
  let id ← Scene.registrar slot
  let found ← Scene.token token
  return .flag (← act (Act.track (·.cancel id found)))

structure Owner where
  registrar : RegistrarId

instance : Perceptible Owner := ⟨(·.registrar)⟩

def raised (slot : Slot) : Attempt V (Reply V) := do
  let owner : Owner := ⟨← Scene.registrar slot⟩
  match (← get).host.lastEvent with
  | none => throw .noEvent
  | some event => return .raised (Perceptible.raised owner event)

def store (value : Value) (slot : Slot) : Attempt V (Reply V) := do
  if ((← get).host.cells.find? slot).any (·.borrowed) then throw (.cellBorrowed slot)
  act (Scene.putCell slot ⟨value, false⟩)
  return .nothing

def onCell {α : Type} (slot cell : Slot) (work : RegistrarId → Act (host V) α) : Attempt V α := do
  let _ ← Scene.registrar slot
  let _ ← Scene.cell cell
  onRegistrar slot fun id => Scene.borrowingCell cell (work id)

def writeIfChanged (slot : Slot) (key : Key) (cell : Slot) (value : Value) :
    Attempt V (Reply V) := do
  return .written (← onCell slot cell fun id =>
    setIfChanged (Listener.call enter) id key Value.same (Scene.loadCell cell)
      (Scene.storeCell cell) value)

/-- A mutation that works a value into a cell, with a script before that and one after it. -/
def modifyCell (slot : Slot) (key : Key) (cell : Slot) (value : Value)
    (body after : List (Step V)) : Attempt V (Reply V) :=
  onCell slot cell fun id =>
    withMutation (Listener.call enter) id key do
      Act.note .body
      enter body
      Scene.storeCell cell ((← Scene.loadCell cell).absorb value)
      enter after
      return .modified (← Scene.loadCell cell)

def recordScript (body : List (Step V)) (value : Option V) (into : Option Slot) :
    Attempt V (Reply V) := do
  let (_, reads) ← act (record (enter body))
  match into with
  | none => pure ()
  | some slot => act (Scene.putList slot reads)
  return .recorded value reads

def mergeLists (other list : Slot) : Attempt V (Reply V) := do
  let added ← Scene.list other
  let merged := (← Scene.list list).merge added
  act (Scene.putList list merged)
  return .list merged

/-- A list can be described as a whole only as long as the order of its entries does not matter. -/
def describeList (slot : Slot) : Attempt V (Reply V) := do
  let list ← Scene.list slot
  if 1 < list.size then throw (.unordered list.size)
  return .description list.outline

/-- The callbacks that are left when they are given one after the other: of each phase the last. -/
def callbacks (will did : List (Handler V)) : PerPhase (Listener V) :=
  did.foldl (fun given handler => given.insert .didChange (.event handler))
    (will.foldl (fun given handler => given.insert .willChange (.event handler)) ∅)

def createSession (list into : Slot) : Attempt V (Reply V) := do
  let reads ← Scene.list list
  let id ← act (Act.track (·.createSession reads))
  act (Scene.putSession into id)
  return .session id

def installSession (session : Slot) (will did : List (Handler V)) : Attempt V (Reply V) := do
  let id ← Scene.session session
  match ← act (install id (callbacks will did)) with
  | .error error => throw (.tracking error)
  | .ok () => return .installed

def shareSession (session into : Slot) : Attempt V (Reply V) := do
  let id ← Scene.session session
  act (Scene.putSession into id)
  return .session id

/-- A script as a read that returns a value. -/
def readScript (body : List (Step V)) (value : Option V) : Act (host V) (Option V) := do
  enter body
  return value

def trackScript (body : List (Step V)) (value : Option V) (given : PerPhase (Listener V)) :
    Attempt V (Reply V) := do
  let (value, _) ← act (trackArmed (readScript enter body value) given)
  return .payload value

def trackSessionScript (body : List (Step V)) (value : Option V) (will did : List (Handler V))
    (into : Slot) : Attempt V (Reply V) := do
  match ← act (trackSession (readScript enter body value) (callbacks will did)) with
  | .error error => throw (.tracking error)
  | .ok (value, id) =>
    act (Scene.putSession into id)
    return .tracked value id

/-- Starts to unwind, unless a panic is unwinding already. -/
def startPanic (message : String) : Attempt V (Reply V) := do
  if (← act Act.getThread).unwinding then return .panicSkipped
  act (Act.panic message)

def onCounter {α : Type} (slot : Slot) (work : CounterId → Act (host V) α) : Attempt V α := do
  let id ← Scene.counter slot
  act (Scene.borrowingCounter id (work id))

def createCounter (into : Slot) : Attempt V (Reply V) := do
  let id ← act Counter.create
  act (Scene.putCounter into id)
  return .registrar (← act (Counter.peek id)).registrar

def duplicateCounter (counter into : Slot) : Attempt V (Reply V) := do
  let id ← onCounter counter Counter.duplicate
  act (Scene.putCounter into id)
  return .registrar (← act (Counter.peek id)).registrar

def compareCounters (counter other : Slot) : Attempt V (Reply V) := do
  let left ← Scene.counter counter
  let right ← Scene.counter other
  let first ← act (Counter.peek left)
  return .flag (first.same (← act (Counter.peek right)))

def runTimes : Nat → RenderLoop → Act (host V) (List (Except Failure RenderSummary) × RenderLoop)
  | 0, loop => return ([], loop)
  | runs + 1, loop => do
    let (result, loop) ← (RenderLoop.run (posting enter)).run.run loop
    let (results, loop) ← runTimes runs loop
    return (result :: results, loop)

def runLoop (config : RenderConfig) (runs : Nat) (limit : Option Nat) : Act (host V) (Reply V) := do
  let (summaries, loop) ← runTimes enter runs (← RenderLoop.create config (.empty limit))
  loop.discard
  return .runs summaries loop.sink.text

def perform : Op V → Attempt V (Reply V)
  | .compareKeys key other => return .keyComparison (.of key other)
  | .create into => do return .registrar (← act (Scene.putRegistrar into))
  | .duplicate source into => duplicate source into
  | .drop slot => do return .flag (← act (Scene.dropRegistrar slot))
  | .identify slot => do return .identity (← Scene.registrar slot)
  | .describe slot => do
    return .description ((← get).tracker.registrarOutline (← Scene.registrar slot))
  | .compare slot other => do
    return .registrarComparison (.of (← Scene.registrar slot) (← Scene.registrar other))
  | .serialize slot => do
    let _ ← Scene.registrar slot
    return .text "null"
  | .deserialize text into => deserialize text into
  | .access slot key => do
    let id ← Scene.registrar slot
    act (access id key)
    return .nothing
  | .willChange slot key => notifyPhase enter slot key .willChange
  | .didChange slot key => notifyPhase enter slot key .didChange
  | .mutate slot key body result => mutate enter slot key body result
  | .register slot phase keys handler into => register slot phase keys handler into
  | .cancel slot token => cancel slot token
  | .cancelAll slot => do
    let id ← Scene.registrar slot
    return .number (← act (Act.track (·.cancelAll id)))
  | .countSubscriptions slot => do
    return .number ((← get).tracker.subscriptionCount (← Scene.registrar slot))
  | .observes slot key => do return .flag ((← get).tracker.observes (← Scene.registrar slot) key)
  | .raised slot => raised slot
  | .store value slot => store value slot
  | .load slot => do return .loaded (← Scene.cell slot).value
  | .setIfChanged slot key cell value => writeIfChanged enter slot key cell value
  | .modify slot key cell value body after => modifyCell enter slot key cell value body after
  | .isRecording => do return .flag (← act isRecording)
  | .record body value into => recordScript enter body value into
  | .createList into => do
    act (Scene.putList into ∅)
    return .nothing
  | .inspectList list => do return .list (← Scene.list list)
  | .mergeLists other list => mergeLists other list
  | .listKeys list slot => do return .keys ((← Scene.list list).keys (← Scene.identity slot))
  | .listContains list slot key => do
    return .flag ((← Scene.list list).contains (← Scene.identity slot) key)
  | .describeList list => describeList list
  | .createSession list into => createSession list into
  | .install session will did => installSession session will did
  | .cancelSession session => do
    let id ← Scene.session session
    act (cancelSession id)
    return .nothing
  | .shareSession session into => shareSession session into
  | .dropSession session => do return .flag (← act (Scene.dropSession session))
  | .inspectSession session => do
    return .sessionReport (.of (← get).tracker (← Scene.session session))
  | .describeCallbacks will did =>
    return .callbacks (callbacks will did).isEmpty (callbacks will did).outline
  | .trackOnce body value handler =>
    trackScript enter body value ((∅ : PerPhase (Listener V)).insert .willChange (.plain handler))
  | .track body value will did => trackScript enter body value (callbacks will.toList did.toList)
  | .trackSession body value will did into => trackSessionScript enter body value will did into
  | .totals => do return .totals (← get).tracker.totals
  | .panic message => startPanic message
  | .catching body => do return .ended (← act (Act.attempt (enter body)))
  | .thread body => do return .ended (← act (Act.onThread (enter body)))
  | .createCounter into => createCounter into
  | .dropCounter counter => do return .flag (← act (Scene.dropCounter counter))
  | .duplicateCounter counter into => duplicateCounter counter into
  | .compareCounters counter other => compareCounters counter other
  | .readCount counter => do return .number (← onCounter counter Counter.readCount)
  | .readName counter => do return .text (← onCounter counter Counter.readName)
  | .setCount counter count => do
    onCounter counter fun id => Counter.setCount (Listener.call enter) id count
    return .nothing
  | .setName counter name => do
    onCounter counter fun id => Counter.setName (Listener.call enter) id name
    return .nothing
  | .setCountIfChanged counter count => do
    return .flag (← onCounter counter fun id =>
      Counter.setCountIfChanged (Listener.call enter) id count)
  | .setNameIfChanged counter name => do
    return .flag (← onCounter counter fun id =>
      Counter.setNameIfChanged (Listener.call enter) id name)
  | .runLoop config runs limit => act (runLoop enter config runs limit)
  | .fail cause => throw (.failure cause)
  | .parseOptions words =>
    match Options.parse words with
    | .error cause => throw (.refusal cause)
    | .ok options => return .options options
  | .runProgram words => return .ending (CounterProgram.run words)
  | .incomplete reads field => do
    reads.forM Scene.visit
    throw (.badOperation field)
  | .unknown name => throw (.badOperation name)

end ChangeTracking.Script
