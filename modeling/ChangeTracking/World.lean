import ChangeTracking.Tracker
import ChangeTracking.Counter.Basic

namespace ChangeTracking

/-- What the program around the library brings along: the callbacks that it hands over, the
notes that it adds to the log and the state of its own. -/
structure Host where
  Callback : Type
  Note : Type
  State : Type

/-- What belongs to one thread: the access list being recorded, if any, and whether a panic
is unwinding. -/
structure ThreadState where
  recording : Option AccessList
  unwinding : Bool

def ThreadState.fresh : ThreadState := ⟨none, false⟩

inductive LogEntry (H : Host) where
  | trace (event : TraceEvent)
  | note (entry : H.Note)

def LogEntry.ofReport {H : Host} (report : Option TraceEvent) : List (LogEntry H) :=
  report.toList.map .trace

/-- A queue of change events, the oldest first. -/
abbrev Mailbox := List ChangeEvent

structure MailboxId where
  index : Nat
deriving DecidableEq

/-- The tracked state, the thread that runs, the counters, the mailboxes, the log in the order
of time and the state of the host. -/
structure World (H : Host) where
  tracker : Tracker H.Callback
  thread : ThreadState
  counters : Array Counter
  mailboxes : Array Mailbox
  log : Array (LogEntry H)
  host : H.State

namespace World
variable {H : Host}

def initial (host : H.State) : World H := ⟨∅, .fresh, #[], #[], #[], host⟩

/-- The world after a step of the library with what it reported. -/
def advance (world : World H) (report : Option TraceEvent) (tracker : Tracker H.Callback) :
    World H :=
  { world with tracker, log := world.log ++ (LogEntry.ofReport report : List (LogEntry H)) }

end World
end ChangeTracking
