import ChangeTracking.Script.Syntax

namespace ChangeTracking.Script

structure KeyComparison where
  key : Key
  equal : Bool
  order : Ordering
  sameHash : Bool

/-- Keys are told apart and hashed by their labels. -/
def KeyComparison.of (key other : Key) : KeyComparison :=
  ⟨key, key = other, key.order other, key = other⟩

/-- Registrars are no part of the value of their owners: any two are equal, and nothing of
them goes into a hash. Their identities differ. -/
structure RegistrarComparison where
  equal : Bool
  sameIdentity : Bool
  before : Bool
  hashedBytes : Nat

def RegistrarComparison.of (id other : RegistrarId) : RegistrarComparison :=
  ⟨true, id = other, id < other, 0⟩

structure SessionReport where
  id : SessionId
  status : SessionStatus
  changed : Option Key
  subscriptions : Nat
  outline : Outline

def SessionReport.of {κ : Type} (tracker : Tracker κ) (id : SessionId) : SessionReport where
  id
  status := (tracker.session id).status
  changed := (tracker.session id).changed
  subscriptions := tracker.sessionSubscriptions id
  outline := tracker.sessionOutline id

/-- The answer of an operation that could be carried out. -/
inductive Reply (V : Type) where
  | nothing
  | flag (value : Bool)
  | number (value : Int)
  | text (value : String)
  | payload (value : Option V)
  | keyComparison (comparison : KeyComparison)
  | registrar (id : RegistrarId)
  | identity (id : RegistrarId)
  | description (outline : Outline)
  | registrarComparison (comparison : RegistrarComparison)
  | result (result : Except (Option V) (Option V))
  | token (token : Token)
  | raised (value : Bool)
  | loaded (value : Value)
  | written (value : Bool)
  | modified (value : Value)
  | recorded (value : Option V) (reads : AccessList)
  | list (list : AccessList)
  | keys (keys : KeySet)
  | session (id : SessionId)
  | installed
  | sessionReport (report : SessionReport)
  | callbacks (isEmpty : Bool) (outline : Outline)
  | tracked (value : Option V) (session : SessionId)
  | totals (totals : Totals)
  | panicSkipped
  | ended (outcome : Except Panic Unit)
  | runs (summaries : List (Except Failure RenderSummary)) (output : String)
  | options (options : Options)
  | ending (ending : Ending)

/-- Whether the answer is no value at all, which is not worth a note. -/
def Reply.isNothing {V : Type} : Reply V → Bool
  | .nothing => true
  | .payload value => value.isNone
  | _ => false

/-- Why an operation was not carried out. -/
inductive Fault where
  | missing (ref : SlotRef)
  | cellBorrowed (cell : Slot)
  | counterBorrowed
  | noEvent
  | unordered (entries : Nat)
  | badOperation (what : String)
  | stepLimit
  | invalidJson
  | tracking (error : TrackingError)
  | failure (failure : Failure)
  | refusal (refusal : Refusal)
deriving DecidableEq

namespace Fault

def missingName : SlotKind → String
  | .registrar => "NoSuchRegistrar"
  | .token => "NoSuchToken"
  | .list => "NoSuchList"
  | .session => "NoSuchSession"
  | .counter => "NoSuchModel"
  | .cell => "NoSuchCell"

def name : Fault → String
  | .missing ref => missingName ref.kind
  | .cellBorrowed _ => "CellBorrowed"
  | .counterBorrowed => "ModelBorrowed"
  | .noEvent => "NoEvent"
  | .unordered _ => "Unordered"
  | .badOperation _ => "BadOp"
  | .stepLimit => "StepLimit"
  | .invalidJson => "InvalidJson"
  | .tracking .missingCallbacks => "MissingCallbacks"
  | .tracking .alreadyInstalled => "AlreadyInstalled"
  | .failure (.output _) => "Io"
  | .failure (.tracking _) => "Tracking"
  | .failure (.logging _) => "Logging"
  | .failure (.invalidArgument _) => "InvalidArgument"
  | .refusal cause => cause.name

def detail? : Fault → Option String
  | .missing ref => some ref.slot
  | .cellBorrowed cell => some cell
  | .counterBorrowed | .noEvent => some ""
  | .unordered entries => some (toString entries)
  | .badOperation what => some what
  | .stepLimit | .invalidJson | .refusal _ => none
  | .tracking error => some error.message
  | .failure cause => some cause.message

def exitCode? : Fault → Option Nat
  | .failure cause => some cause.exitCode
  | _ => none

end Fault

abbrev Outcome (V : Type) := Except Fault (Reply V)

/-- An entry of the log that comes from a script. -/
inductive Note (V : Type) where
  | call (name : String) (key : Option Key)
  | event (name : String) (event : ChangeEvent)
  | body
  /-- A script was left out because too many are active. -/
  | depthLimit
  | outcome (label : String) (outcome : Outcome V)

end ChangeTracking.Script
