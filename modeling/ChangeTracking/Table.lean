import ChangeTracking.Association
import ChangeTracking.KeySet
import ChangeTracking.Change

/-! The subscriptions of one registrar. They stand in the order of registration; beside
them an index gives for each key the numbers of the subscriptions that cover it, so that
a notification looks only at those. -/
namespace ChangeTracking

/-- Names a subscription: the registrar that issued it and the number it got there. -/
structure Token where
  registrar : RegistrarId
  id : Nat
deriving DecidableEq

/-- Who is told about a change: a callback of its own, or a session that waits for one
phase of changes on one registrar. -/
inductive Perceiver (κ : Type) where
  | direct (callback : κ)
  | session (id : SessionId) (registrar : RegistrarId) (phase : Phase)
deriving DecidableEq

structure Subscription (κ : Type) where
  id : Nat
  phase : Phase
  keys : KeySet
  perceiver : Perceiver κ

/-- The subscriptions of a registrar with their index; numbers are never used twice. -/
structure Table (κ : Type) where
  nextId : Nat
  subscriptions : List (Subscription κ)
  lookups : Association Key (List Nat)

namespace Table
variable {κ : Type}

def empty : Table κ := ⟨0, [], ∅⟩

instance : EmptyCollection (Table κ) := ⟨empty⟩

instance : Inhabited (Table κ) := ⟨empty⟩

def find? (table : Table κ) (id : Nat) : Option (Subscription κ) :=
  table.subscriptions.find? fun subscription => subscription.id = id

/-- The numbers of the subscriptions that cover a key, in order of registration. -/
def covering (table : Table κ) (key : Key) : List Nat := (table.lookups.find? key).getD []

def enter (id : Nat) (lookups : Association Key (List Nat)) (key : Key) :
    Association Key (List Nat) :=
  lookups.insert key ((lookups.find? key).getD [] ++ [id])

/-- The one place, in the stretch of an ascending list that begins at a place, where a number can
stand. Each round compares the number in the middle and keeps one half. -/
def narrow (id : Nat) (ids : List Nat) : (rounds start size : Nat) → Nat
  | 0, start, _ => start
  | rounds + 1, start, size =>
    if 1 < size then
      if (ids[start + size / 2]?).any (id < ·) then narrow id ids rounds start (size - size / 2)
      else narrow id ids rounds (start + size / 2) (size - size / 2)
    else start

/-- Where a number stands in an ascending list, if it is there. A stretch of one number is left
after at most as many rounds as there are numbers. -/
def locate? (id : Nat) (ids : List Nat) : Option Nat :=
  (some (narrow id ids ids.length 0 ids.length)).filter fun place => ids[place]? = some id

def withdraw (id : Nat) (ids : List Nat) : List Nat :=
  match locate? id ids with
  | none => ids
  | some place => ids.eraseIdx place

/-- The index with a subscription removed under a key; a key that nobody covers is dropped. -/
def strike (id : Nat) (lookups : Association Key (List Nat)) (key : Key) :
    Association Key (List Nat) :=
  match lookups.find? key with
  | none => lookups
  | some ids =>
    if (withdraw id ids).isEmpty then lookups.erase key else lookups.insert key (withdraw id ids)

def register (table : Table κ) (keys : KeySet) (phase : Phase) (perceiver : Perceiver κ) :
    Table κ where
  nextId := table.nextId + 1
  subscriptions := table.subscriptions ++ [⟨table.nextId, phase, keys, perceiver⟩]
  lookups := keys.toList.foldl (enter table.nextId) table.lookups

/-- The table without one subscription, if it is there. -/
def cancel? (table : Table κ) (id : Nat) : Option (Table κ) :=
  (table.find? id).map fun found => {
    nextId := table.nextId
    subscriptions := table.subscriptions.filter fun subscription => subscription.id ≠ id
    lookups := found.keys.toList.foldl (strike id) table.lookups }

/-- The table without subscriptions; the next number stays. -/
def clear (table : Table κ) : Table κ := ⟨table.nextId, [], ∅⟩

def size (table : Table κ) : Nat := table.subscriptions.length

def observes (table : Table κ) (key : Key) : Bool := table.lookups.contains key

def snapshot (table : Table κ) (key : Key) (phase : Phase) : List (Perceiver κ) :=
  (((table.covering key).filterMap table.find?).filter fun subscription =>
    subscription.phase = phase).map (·.perceiver)

end Table
end ChangeTracking
