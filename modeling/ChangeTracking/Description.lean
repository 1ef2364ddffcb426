import ChangeTracking.Tracker
import ChangeTracking.Text.Outline

namespace ChangeTracking

/-- A key shows its label as it is, without quotes. -/
def Key.outline (key : Key) : Outline := .atom ("PropertyKey(" ++ key.label ++ ")")

def KeySet.outline (keys : KeySet) : Outline := .sequence (keys.toList.map Key.outline)

def RegistrarId.label (id : RegistrarId) : String := "registrar#" ++ toString id.number

def RegistrarId.outline (id : RegistrarId) : Outline :=
  .tuple "RegistrarId" [Outline.ofNat id.number]

def Phase.outline (phase : Phase) : Outline := .atom phase.name

def Token.outline (token : Token) : Outline :=
  .record "SubscriptionToken" [("registrar", token.registrar.outline), ("id", .ofNat token.id)]

/-- A registrar is described by its identity and the number of its subscriptions. -/
def Tracker.registrarOutline {κ : Type} (tracker : Tracker κ) (id : RegistrarId) : Outline :=
  .record "Registrar"
    [("id", id.outline), ("subscriptions", .ofNat (tracker.subscriptionCount id))]

def AccessList.outline (list : AccessList) : Outline :=
  .mapping (list.entries.map fun entry => (entry.registrar.outline, entry.keys.outline))

def SessionStatus.outline (status : SessionStatus) : Outline := .atom status.name

def Outline.ofOption : Option Outline → Outline
  | none => .atom "None"
  | some value => .tuple "Some" [value]

def Tracker.sessionOutline {κ : Type} (tracker : Tracker κ) (id : SessionId) : Outline :=
  let session := tracker.session id
  .record "TrackingSession"
    [("id", .ofNat id.number), ("status", session.status.outline),
      ("changed", .ofOption (session.changed.map Key.outline))]

/-- Of callbacks it is only shown whether they are there. -/
def PerPhase.outline {κ : Type} (callbacks : PerPhase κ) : Outline :=
  .record "Callbacks"
    [("will_change", .ofBool callbacks.willChange.isSome),
      ("did_change", .ofBool callbacks.didChange.isSome)]

end ChangeTracking
