import ChangeTracking.PerPhase
import ChangeTracking.AccessList
import ChangeTracking.Table

namespace ChangeTracking

inductive SessionStatus where
  | pending
  | installed
  | fired
  | cancelled
deriving DecidableEq

namespace SessionStatus

/-- Whether no callback of the session can run any more. -/
def isTerminal : SessionStatus → Bool
  | .pending | .installed => false
  | .fired | .cancelled => true

def name : SessionStatus → String
  | .pending => "Pending"
  | .installed => "Installed"
  | .fired => "Fired"
  | .cancelled => "Cancelled"

end SessionStatus

/-- Why a session cannot be installed. -/
inductive TrackingError where
  | missingCallbacks
  | alreadyInstalled
deriving DecidableEq

def TrackingError.message : TrackingError → String
  | .missingCallbacks => "tracking session requires a will-change or did-change callback"
  | .alreadyInstalled => "tracking session is already installed"

/-- The subscriptions that a session holds against one registrar. -/
structure Installation where
  registrar : RegistrarId
  tokens : PerPhase Token
deriving DecidableEq

/-- A session over what was read: the callbacks still to be delivered, the subscriptions
held for them and the key of the last change delivered. -/
structure Session (κ : Type) where
  reads : AccessList
  status : SessionStatus
  callbacks : PerPhase κ
  installed : List Installation
  changed : Option Key

namespace Session
variable {κ : Type}

def create (reads : AccessList) : Session κ := ⟨reads, .pending, ∅, [], none⟩

instance : Inhabited (Session κ) := ⟨create ∅⟩

/-- The session after it got its callbacks and subscriptions for them. -/
def arm (session : Session κ) (callbacks : PerPhase κ) (installed : List Installation) :
    Session κ :=
  { session with status := .installed, callbacks, installed }

def cancel (session : Session κ) : Session κ :=
  { session with status := .cancelled, callbacks := ∅, installed := [] }

/-- The installations left when the tokens of one phase are taken out. -/
def withoutPhase (phase : Phase) (installed : List Installation) : List Installation :=
  installed.map fun entry => { entry with tokens := entry.tokens.erase phase }

def ofPhase (phase : Phase) (installed : List Installation) : List Installation :=
  installed.map fun entry => { entry with tokens := entry.tokens.only phase }

/-- Whether nothing is left to wait for once a phase is delivered. -/
def isLast (session : Session κ) (phase : Phase) : Bool := (session.callbacks.erase phase).isEmpty

/-- The session after it took up an event: what it held for the phase is gone, and with the last
phase the session has fired. -/
def fire (session : Session κ) (event : ChangeEvent) : Session κ :=
  { session with
    status := if session.isLast event.phase then .fired else .installed
    callbacks := session.callbacks.erase event.phase
    installed := if session.isLast event.phase then []
      else withoutPhase event.phase session.installed
    changed := some event.key }

/-- The installations that the session gives up when a phase is delivered. -/
def spent (session : Session κ) (phase : Phase) : List Installation :=
  if session.isLast phase then session.installed else ofPhase phase session.installed

end Session
end ChangeTracking
