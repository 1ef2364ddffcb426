

namespace ChangeTracking

structure Association (α β : Type) where
  entries : List (α × β)

namespace Association
variable {α β : Type}

def empty : Association α β := ⟨[]⟩

instance : EmptyCollection (Association α β) := ⟨empty⟩

instance : Inhabited (Association α β) := ⟨empty⟩

def keys (table : Association α β) : List α := table.entries.map (·.1)

variable [DecidableEq α]

def lookup (key : α) : List (α × β) → Option β
  | [] => none
  | (other, value) :: rest => if other = key then some value else lookup key rest

def find? (table : Association α β) (key : α) : Option β := lookup key table.entries

def contains (table : Association α β) (key : α) : Bool := (table.find? key).isSome

def place (key : α) (value : β) : List (α × β) → List (α × β)
  | [] => [(key, value)]
  | (other, old) :: rest =>
    if other = key then (key, value) :: rest else (other, old) :: place key value rest

def insert (table : Association α β) (key : α) (value : β) : Association α β :=
  ⟨place key value table.entries⟩

def erase (table : Association α β) (key : α) : Association α β :=
  ⟨table.entries.filter fun entry => entry.1 ≠ key⟩

@[simp] theorem find?_empty (key : α) : (empty : Association α β).find? key = none := rfl

private theorem lookup_place_self (key : α) (value : β) (entries : List (α × β)) :
    lookup key (place key value entries) = some value := by
  induction entries with
  | nil => simp [place, lookup]
  | cons entry rest ih =>
    unfold place
    split
    · simp [lookup]
    · rename_i different; simp [lookup, different, ih]

private theorem lookup_place_of_ne {key other : α} (different : other ≠ key) (value : β)
    (entries : List (α × β)) : lookup other (place key value entries) = lookup other entries := by
  induction entries with
  | nil => simp [place, lookup, Ne.symm different]
  | cons entry rest ih =>
    unfold place
    split
    · rename_i same; subst same; simp [lookup, Ne.symm different]
    · simp [lookup, ih]

private theorem lookup_filter_self (key : α) (entries : List (α × β)) :
    lookup key (entries.filter fun entry => entry.1 ≠ key) = none := by
  induction entries with
  | nil => rfl
  | cons entry rest ih =>
    by_cases same : entry.1 = key
    · simpa [same] using ih
    · simp only [ne_eq, decide_not] at ih
      simp [same, lookup, ih]

private theorem lookup_filter_of_ne {key other : α} (different : other ≠ key)
    (entries : List (α × β)) :
    lookup other (entries.filter fun entry => entry.1 ≠ key) = lookup other entries := by
  induction entries with
  | nil => rfl
  | cons entry rest ih =>
    simp only [ne_eq, decide_not] at ih
    by_cases same : entry.1 = key
    · simp [same, lookup, ih, Ne.symm different]
    · simp [same, lookup, ih]

@[simp] theorem find?_insert_self (table : Association α β) (key : α) (value : β) :
    (table.insert key value).find? key = some value := lookup_place_self key value table.entries

theorem find?_insert_of_ne (table : Association α β) {key other : α} (different : other ≠ key)
    (value : β) : (table.insert key value).find? other = table.find? other :=
  lookup_place_of_ne different value table.entries

@[simp] theorem find?_erase_self (table : Association α β) (key : α) :
    (table.erase key).find? key = none := lookup_filter_self key table.entries

theorem find?_erase_of_ne (table : Association α β) {key other : α} (different : other ≠ key) :
    (table.erase key).find? other = table.find? other :=
  lookup_filter_of_ne different table.entries

end Association
end ChangeTracking
