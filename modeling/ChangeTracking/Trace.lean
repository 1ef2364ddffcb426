import ChangeTracking.Change

namespace ChangeTracking

inductive TraceLevel where
  | trace
  | debug
  | info
deriving DecidableEq

def TraceLevel.name : TraceLevel → String
  | .trace => "TRACE"
  | .debug => "DEBUG"
  | .info => "INFO"

inductive TraceEvent where
  | notified (registrar : RegistrarId) (key : Key) (phase : Phase) (perceivers : Nat)
  | installed (session : SessionId) (registrars subscriptions : Nat)
  | fired (session : SessionId) (event : ChangeEvent) (removed : Nat) (finished : Bool)
  | cancelled (session : SessionId) (removed : Nat)
  | viewInvalidated (step : Nat) (key : Key)
  | runComplete (renders notifications skippedWrites : UInt32)
deriving DecidableEq

namespace TraceEvent

def level : TraceEvent → TraceLevel
  | .notified .. => .trace
  | .installed .. | .fired .. | .cancelled .. | .viewInvalidated .. => .debug
  | .runComplete .. => .info

def message : TraceEvent → String
  | .notified .. => "perception.notify"
  | .installed .. => "perception.session.install"
  | .fired .. => "perception.session.fire"
  | .cancelled .. => "perception.session.cancel"
  | .viewInvalidated .. => "view invalidated"
  | .runComplete .. => "run complete"

end TraceEvent
end ChangeTracking
