import ChangeTracking.Session

namespace ChangeTracking

inductive Failure where
  | output (reason : String)
  | tracking (error : TrackingError)
  | logging (reason : String)
  | invalidArgument (reason : String)
deriving DecidableEq

namespace Failure

def message : Failure → String
  | .output reason => "I/O error: " ++ reason
  | .tracking error => "tracking error: " ++ error.message
  | .logging reason => "failed to install log subscriber: " ++ reason
  | .invalidArgument reason => "invalid argument: " ++ reason

/-- The exit code of a program that ends with the failure: two for misuse, one otherwise. -/
def exitCode : Failure → Nat
  | .invalidArgument _ => 2
  | .output _ | .tracking _ | .logging _ => 1

end Failure
end ChangeTracking
