import ChangeTracking.Session
import ChangeTracking.Trace

/-! All registrars and sessions of one process. The operations here are single steps on
that state: none of them runs a callback, they only say which one is due. -/
namespace ChangeTracking

/-- A registrar lives as long as somebody holds it. -/
structure Registrar (κ : Type) where
  table : Table κ
  holders : Nat

/-- How many sessions were installed with a subscription, were ended by a change and were
ended by their caller. -/
structure Totals where
  installed : Nat
  fired : Nat
  cancelled : Nat
deriving DecidableEq

structure Tracker (κ : Type) where
  registrars : Array (Registrar κ)
  sessions : Array (Session κ)
  totals : Totals

namespace Tracker
variable {κ : Type}

def empty : Tracker κ := ⟨#[], #[], ⟨0, 0, 0⟩⟩

instance : EmptyCollection (Tracker κ) := ⟨empty⟩

instance : Inhabited (Tracker κ) := ⟨empty⟩

def isLive (tracker : Tracker κ) (id : RegistrarId) : Bool :=
  match tracker.registrars[id.index]? with
  | none => false
  | some registrar => 0 < registrar.holders

/-- The subscriptions of a registrar; one that is gone has none. -/
def table (tracker : Tracker κ) (id : RegistrarId) : Table κ :=
  match tracker.registrars[id.index]? with
  | none => ∅
  | some registrar => registrar.table

/-- The tracker with one table written; nobody can write that of a registrar that is gone. -/
def setTable (tracker : Tracker κ) (id : RegistrarId) (table : Table κ) : Tracker κ :=
  { tracker with registrars := tracker.registrars.modify id.index fun registrar =>
      if registrar.holders = 0 then registrar else { registrar with table } }

def createRegistrar (tracker : Tracker κ) : RegistrarId × Tracker κ :=
  (⟨tracker.registrars.size⟩, { tracker with registrars := tracker.registrars.push ⟨∅, 1⟩ })

/-- One holder more; a registrar that is gone stays gone. -/
def retain (tracker : Tracker κ) (id : RegistrarId) : Tracker κ :=
  { tracker with registrars := tracker.registrars.modify id.index fun registrar =>
      if registrar.holders = 0 then registrar
      else { registrar with holders := registrar.holders + 1 } }

/-- One holder less; with the last of them the subscriptions go. -/
def release (tracker : Tracker κ) (id : RegistrarId) : Tracker κ :=
  { tracker with registrars := tracker.registrars.modify id.index fun registrar =>
      if registrar.holders ≤ 1 then ⟨registrar.table.clear, 0⟩
      else { registrar with holders := registrar.holders - 1 } }

def register (tracker : Tracker κ) (id : RegistrarId) (keys : KeySet) (phase : Phase)
    (perceiver : Perceiver κ) : Token × Tracker κ :=
  (⟨id, (tracker.table id).nextId⟩,
    tracker.setTable id ((tracker.table id).register keys phase perceiver))

/-- Removes the subscription of a token; a token of another registrar removes nothing. -/
def cancel (tracker : Tracker κ) (id : RegistrarId) (token : Token) : Bool × Tracker κ :=
  if token.registrar = id then
    match (tracker.table id).cancel? token.id with
    | none => (false, tracker)
    | some table => (true, tracker.setTable id table)
  else (false, tracker)

/-- Removes all subscriptions of a registrar and says how many they were. -/
def cancelAll (tracker : Tracker κ) (id : RegistrarId) : Nat × Tracker κ :=
  ((tracker.table id).size, tracker.setTable id (tracker.table id).clear)

def subscriptionCount (tracker : Tracker κ) (id : RegistrarId) : Nat := (tracker.table id).size

def observes (tracker : Tracker κ) (id : RegistrarId) (key : Key) : Bool :=
  (tracker.table id).observes key

def snapshot (tracker : Tracker κ) (id : RegistrarId) (key : Key) (phase : Phase) :
    List (Perceiver κ) := (tracker.table id).snapshot key phase

/-- The session of an identity. One that was never created counts as ended. -/
def session (tracker : Tracker κ) (id : SessionId) : Session κ :=
  (tracker.sessions[id.index]?).getD (Session.create ∅).cancel

def setSession (tracker : Tracker κ) (id : SessionId) (session : Session κ) : Tracker κ :=
  { tracker with sessions := tracker.sessions.setIfInBounds id.index session }

def createSession (tracker : Tracker κ) (reads : AccessList) : SessionId × Tracker κ :=
  (⟨tracker.sessions.size⟩,
    { tracker with sessions := tracker.sessions.push (Session.create reads) })

/-- The subscriptions of an installation that are still there to be removed, as its session
sees it: a registrar that is gone took its own with it. -/
def tokenCount (tracker : Tracker κ) (entry : Installation) : Nat :=
  if tracker.isLive entry.registrar then entry.tokens.toList.length else 0

def countTokens (tracker : Tracker κ) : List Installation → Nat
  | [] => 0
  | entry :: rest => tracker.tokenCount entry + tracker.countTokens rest

/-- The number of subscriptions of a session, as the session sees it. -/
def sessionSubscriptions (tracker : Tracker κ) (id : SessionId) : Nat :=
  tracker.countTokens (tracker.session id).installed

/-- A subscription for one phase on behalf of a session, if the phase is wanted. -/
def subscribe (tracker : Tracker κ) (id : SessionId) (read : AccessEntry) (wanted : PerPhase κ)
    (phase : Phase) : Option Token × Tracker κ :=
  match wanted.find? phase with
  | none => (none, tracker)
  | some _ =>
    let (token, tracker) :=
      tracker.register read.registrar read.keys phase (.session id read.registrar phase)
    (some token, tracker)

/-- The subscriptions of a session for what was read from one registrar, will-change first. -/
def installEntry (tracker : Tracker κ) (id : SessionId) (wanted : PerPhase κ) (read : AccessEntry) :
    Installation × Tracker κ :=
  let (willChange, tracker) := tracker.subscribe id read wanted .willChange
  let (didChange, tracker) := tracker.subscribe id read wanted .didChange
  (⟨read.registrar, ⟨willChange, didChange⟩⟩, tracker)

/-- The subscriptions of a session for all that was read, entry by entry; registrars that are
gone are passed over. -/
def installEntries (tracker : Tracker κ) (id : SessionId) (wanted : PerPhase κ) :
    List AccessEntry → List Installation × Tracker κ
  | [] => ([], tracker)
  | read :: rest =>
    if tracker.isLive read.registrar then
      let (entry, tracker) := tracker.installEntry id wanted read
      let (entries, tracker) := tracker.installEntries id wanted rest
      (entry :: entries, tracker)
    else tracker.installEntries id wanted rest

/-- Gives a pending session its callbacks and its subscriptions, over entries in any order. -/
def armOver (tracker : Tracker κ) (id : SessionId) (callbacks : PerPhase κ)
    (reads : List AccessEntry) : TraceEvent × Tracker κ :=
  let (installed, tracker) := tracker.installEntries id callbacks reads
  let subscriptions := tracker.countTokens installed
  let armed := (tracker.session id).arm callbacks installed
  let totals := if 0 < subscriptions
    then { tracker.totals with installed := tracker.totals.installed + 1 } else tracker.totals
  (.installed id installed.length subscriptions, { tracker.setSession id armed with totals })

/-- Installs a session. One that was cancelled while pending stays as it is, without a report. -/
def arm (tracker : Tracker κ) (id : SessionId) (callbacks : PerPhase κ) :
    Except TrackingError (Option TraceEvent × Tracker κ) :=
  match (tracker.session id).status with
  | .pending =>
    let (report, tracker) := tracker.armOver id callbacks (tracker.session id).reads.entries
    .ok (some report, tracker)
  | .cancelled => .ok (none, tracker)
  | .installed | .fired => .error .alreadyInstalled

/-- Removes the subscriptions of tokens and counts those that were still there. -/
def cancelTokens (tracker : Tracker κ) (id : RegistrarId) : List Token → Nat × Tracker κ
  | [] => (0, tracker)
  | token :: rest =>
    let (removed, tracker) := tracker.cancel id token
    let (more, tracker) := tracker.cancelTokens id rest
    (removed.toNat + more, tracker)

/-- Removes the subscriptions of installations and counts those that were still there. -/
def tearDown (tracker : Tracker κ) : List Installation → Nat × Tracker κ
  | [] => (0, tracker)
  | entry :: rest =>
    if tracker.isLive entry.registrar then
      let (removed, tracker) := tracker.cancelTokens entry.registrar entry.tokens.toList
      let (more, tracker) := tracker.tearDown rest
      (removed + more, tracker)
    else tracker.tearDown rest

/-- A callback that is due, with the report that goes before it and the state it will find. -/
structure Firing (κ : Type) where
  callback : κ
  report : TraceEvent
  tracker : Tracker κ

/-- The phase is delivered: its callback and its subscriptions are taken from the session,
which has fired when no callback is left. Nothing is due if the session does not wait for
the phase. -/
def fire? (tracker : Tracker κ) (id : SessionId) (event : ChangeEvent) : Option (Firing κ) :=
  let session := tracker.session id
  if session.status = .installed then
    (session.callbacks.find? event.phase).map fun callback =>
      let finished := session.isLast event.phase
      let (removed, tracker) :=
        (tracker.setSession id (session.fire event)).tearDown (session.spent event.phase)
      let totals := if finished
        then { tracker.totals with fired := tracker.totals.fired + 1 } else tracker.totals
      { callback, report := .fired id event removed finished, tracker := { tracker with totals } }
  else none

/-- Ends a session that has not ended yet; nothing happens to one that has. -/
def cancelSession? (tracker : Tracker κ) (id : SessionId) : Option (TraceEvent × Tracker κ) :=
  let session := tracker.session id
  if session.status.isTerminal then none
  else
    let (removed, tracker) := (tracker.setSession id session.cancel).tearDown session.installed
    let totals := { tracker.totals with cancelled := tracker.totals.cancelled + 1 }
    some (.cancelled id removed, { tracker with totals })

end Tracker
end ChangeTracking
