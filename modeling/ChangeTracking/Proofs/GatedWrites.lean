import ChangeTracking.Proofs.Bracketing

/-! Gated writes. A value is written to a place only if it is another one than the value there; then the
write is a mutation like any other, and otherwise nothing happens. So a sequence of gated writes does
what plain ones do for those values that differ when their turn comes, whatever the subscribers do
meanwhile, and also where some of them panic. -/
namespace ChangeTracking
variable {H : Host} {α β : Type}

/-- A place in the world that keeps a value, apart from what the library keeps there, and that can be
borrowed. -/
structure Place (H : Host) (α : Type) where
  value : World H → α
  assign : α → World H → World H
  borrowed : World H → Prop
  value_assign : ∀ new world, value (assign new world) = new
  borrowed_assign : ∀ new world, borrowed world → borrowed (assign new world)
  value_apart : ∀ (world : World H) tracker thread log,
    value { world with tracker, thread, log } = value world
  borrowed_apart : ∀ (world : World H) tracker thread log,
    borrowed world → borrowed { world with tracker, thread, log }

namespace Place

def read (place : Place H α) : Act H α := do return place.value (← get)

def write (place : Place H α) (new : α) : Act H Unit := modify (place.assign new)

end Place

/-- A computation that cannot touch a place while it is borrowed. -/
def Act.Leaves (act : Act H β) (place : Place H α) : Prop :=
  ∀ world, place.borrowed world → place.borrowed (act.run world).2 ∧
    place.value (act.run world).2 = place.value world

namespace Act.Leaves
variable {γ : Type} {place : Place H α}

theorem pure (value : β) : (pure value : Act H β).Leaves place := fun _ held => ⟨held, rfl⟩

theorem panic (message : String) : (Act.panic message : Act H β).Leaves place :=
  fun _ held => ⟨held, rfl⟩

theorem bind {act : Act H β} {rest : β → Act H γ} (first : act.Leaves place)
    (second : ∀ value, (rest value).Leaves place) : (act >>= rest).Leaves place := by
  intro world held
  have left := first world held
  rw [Act.run_bind]
  rcases ran : act.run world with ⟨_ | value, after⟩ <;> rw [ran] at left
  · exact left
  · obtain ⟨still, same⟩ := second value after left.1
    exact ⟨still, same.trans left.2⟩

theorem conduct (step : Tracker H.Callback → β × Option TraceEvent × Tracker H.Callback) :
    (Act.conduct step).Leaves place :=
  fun world held => ⟨place.borrowed_apart world _ _ _ held, place.value_apart world _ _ _⟩

theorem note (entry : H.Note) : (Act.note entry).Leaves place :=
  fun world held => ⟨place.borrowed_apart world _ _ _ held, place.value_apart world _ _ _⟩

section Notifications
variable {call : Call H} (untouched : ∀ callback event, (call callback event).Leaves place)
include untouched

theorem deliver (event : ChangeEvent) (perceiver : Perceiver H.Callback) :
    (deliver call event perceiver).Leaves place := by
  cases perceiver with
  | direct callback => exact untouched callback event
  | session id registrar phase =>
    refine (conduct _).bind fun due => ?_
    cases due with
    | none => exact pure ()
    | some callback => exact untouched callback _

theorem deliverAll (event : ChangeEvent) (perceivers : List (Perceiver H.Callback)) :
    (deliverAll call event perceivers).Leaves place := by
  induction perceivers with
  | nil => exact pure ()
  | cons perceiver rest ih => exact (deliver untouched event perceiver).bind fun _ => ih

theorem notify (registrar : RegistrarId) (key : Key) (phase : Phase) :
    (notify call registrar key phase).Leaves place :=
  (conduct _).bind fun perceivers => deliverAll untouched _ perceivers

end Notifications

end Act.Leaves

/-- A value that is written to a place, as a change of a property. -/
structure PropertyWrite (α : Type) where
  registrar : RegistrarId
  key : Key
  value : α

section Writes
variable (call : Call H) (place : Place H α) (same : α → α → Bool)

def PropertyWrite.plain (write : PropertyWrite α) : Act H Unit :=
  withMutation call write.registrar write.key (place.write write.value)

/-- A gated write: it compares with what is there. -/
def PropertyWrite.gated (write : PropertyWrite α) : Act H Bool :=
  setIfChanged call write.registrar write.key same place.read place.write write.value

/-- Whether a write would change what is there, as far as comparing can tell. -/
def PropertyWrite.differs (write : PropertyWrite α) (world : World H) : Bool :=
  !same (place.value world) write.value

/-- How a gated write can go: its outcome, the world that it leaves and the worlds before that one. -/
inductive GatedWrite (world : World H) (write : PropertyWrite α) :
    Except Panic Bool → World H → List (World H) → Prop where
  | leftOut (equal : write.differs place same world = false) :
      GatedWrite world write (.ok false) world [world]
  | refused {panic : Panic} {after : World H} (differs : write.differs place same world = true)
      (first : (notify call write.registrar write.key .willChange).run world = (.error panic, after))
      (old : place.value after = place.value world) :
      GatedWrite world write (.error panic) after
        ((notify call write.registrar write.key .willChange).history world [world])
  /-- The new value is written between the two notifications and stays, also if somebody who was told
  of did-change panicked. -/
  | written {begun after : World H} {outcome : Except Panic Unit}
      (differs : write.differs place same world = true)
      (first : (notify call write.registrar write.key .willChange).run world = (.ok (), begun))
      (old : place.value begun = place.value world)
      (second : (notify call write.registrar write.key .didChange).run
        (place.assign write.value begun) = (outcome, after))
      (new : place.value after = write.value) :
      GatedWrite world write (outcome.map fun _ => true) after
        ((notify call write.registrar write.key .didChange).history (place.assign write.value begun)
          (begun :: (notify call write.registrar write.key .willChange).history world [world]))

end Writes

section Runs
variable {call : Call H} {place : Place H α} {same : α → α → Bool} {write : PropertyWrite α}
  {world : World H}

private theorem PropertyWrite.gated_eq : write.gated call place same = (place.read >>= fun here =>
    if same here write.value = true then pure false else do
      write.plain call place
      return true) := rfl

private theorem Place.run_read : place.read.run world = (.ok (place.value world), world) := rfl

theorem PropertyWrite.gated_of_equal (call : Call H)
    (equal : write.differs place same world = false) (past : List (World H)) :
    (write.gated call place same).run world = (.ok false, world) ∧
      (write.gated call place same).history world past = world :: past := by
  have equal : same (place.value world) write.value = true := by simpa [differs] using equal
  rw [gated_eq, Act.run_bind_ok place.run_read, Act.history_bind_ok place.run_read, if_pos equal]
  exact ⟨rfl, rfl⟩

theorem PropertyWrite.gated_of_differs (call : Call H)
    (differs : write.differs place same world = true) (past : List (World H)) :
    (write.gated call place same).run world =
        (((write.plain call place).run world).1.map fun _ => true,
          ((write.plain call place).run world).2) ∧
      (write.gated call place same).history world past =
        (write.plain call place).history world (world :: past) := by
  have other : ¬ same (place.value world) write.value = true := by
    simpa [PropertyWrite.differs] using differs
  rw [gated_eq, Act.run_bind_ok place.run_read, Act.history_bind_ok place.run_read, if_neg other,
    Act.run_bind, Act.history_bind]
  have read : place.read.history world past = world :: past := rfl
  rw [read]
  rcases (write.plain call place).run world with ⟨_ | _, after⟩ <;> exact ⟨rfl, rfl⟩

/-- A gated write says that it was made if the value differed and nobody panicked. -/
theorem PropertyWrite.gated_eq_true_iff : ((write.gated call place same).run world).1 = .ok true ↔
    write.differs place same world = true ∧ ((write.plain call place).run world).1 = .ok () := by
  rcases differs : write.differs place same world
  · rw [(write.gated_of_equal call differs []).1]
    simp
  · rw [(write.gated_of_differs call differs []).1]
    rcases (write.plain call place).run world with ⟨_ | _, after⟩ <;> simp [Except.map]

/-- Each gated write to a place that is borrowed goes in one of the ways that there are. -/
theorem PropertyWrite.gatedWrite
    (untouched : ∀ callback event, (call callback event).Leaves place) (write : PropertyWrite α)
    (held : place.borrowed world) :
    place.borrowed ((write.gated call place same).run world).2 ∧
      GatedWrite call place same world write ((write.gated call place same).run world).1
        ((write.gated call place same).run world).2
        ((write.gated call place same).history world []) := by
  rcases differs : write.differs place same world
  · obtain ⟨run, history⟩ := write.gated_of_equal call differs []
    rw [run, history]
    exact ⟨held, .leftOut differs⟩
  · obtain ⟨run, history⟩ := write.gated_of_differs call differs []
    have told := Act.Leaves.notify untouched write.registrar write.key .willChange world held
    rw [run, history]
    rcases first : (notify call write.registrar write.key .willChange).run world with
      ⟨panic | _, begun⟩ <;> rw [first] at told <;> obtain ⟨held, old⟩ := told
    · obtain ⟨plain, past⟩ := withMutation_of_refused (place.write write.value) first [world]
      rw [PropertyWrite.plain, plain, past]
      exact ⟨held, .refused differs first old⟩
    · have inside : (place.write write.value).run begun =
          (.ok (), place.assign write.value begun) := rfl
      obtain ⟨plain, past⟩ := withMutation_of_returned first inside [world]
      have told := Act.Leaves.notify untouched write.registrar write.key .didChange
        (place.assign write.value begun) (place.borrowed_assign _ _ held)
      rw [place.value_assign] at told
      rcases second : (notify call write.registrar write.key .didChange).run
        (place.assign write.value begun) with ⟨outcome, after⟩
      rw [second] at plain told
      rw [PropertyWrite.plain, plain, past]
      have done := GatedWrite.written differs first old second told.2
      refine ⟨told.1, ?_⟩
      cases outcome <;> exact done

end Runs

/-- The second list is the first one, but that it may say an item several times in a row. -/
inductive Stutters {γ : Type} : List γ → List γ → Prop where
  | nil : Stutters [] []
  | cons (item : γ) {short long : List γ} (rest : Stutters short long) :
      Stutters (item :: short) (item :: long)
  | again {item : γ} {short long : List γ} (rest : Stutters (item :: short) long) :
      Stutters (item :: short) (item :: long)

namespace Stutters
variable {γ : Type} {short long : List γ}

theorem refl (items : List γ) : Stutters items items := by
  induction items with
  | nil => exact nil
  | cons item rest ih => exact cons item ih

theorem append_left (front : List γ) (back : Stutters short long) :
    Stutters (front ++ short) (front ++ long) := by
  induction front with
  | nil => exact back
  | cons item rest ih => exact cons item ih

end Stutters

namespace Act
variable {ι : Type} {perform : ι → Act H β}

/-- Computations one after the other, each of them run to its end: a panic of one does not keep the
others from running. -/
def each (perform : ι → Act H β) : List ι → Act H (List (Except Panic β))
  | [] => return []
  | item :: rest => do
    let result ← attempt (perform item)
    let results ← each perform rest
    return result :: results

theorem run_each_cons (item : ι) {rest : List ι} {world after : World H}
    {results : List (Except Panic β)}
    (later : (each perform rest).run ((perform item).run world).2 = (.ok results, after)) :
    (each perform (item :: rest)).run world =
      (.ok (((perform item).run world).1 :: results), after) := by
  rw [each, run_bind_ok (run_attempt _ _), run_bind_ok later]
  rfl

theorem run_each (perform : ι → Act H β) (items : List ι) (world : World H) :
    ∃ results after, (each perform items).run world = (.ok results, after) := by
  induction items generalizing world with
  | nil => exact ⟨[], world, rfl⟩
  | cons item rest ih =>
    obtain ⟨results, after, later⟩ := ih ((perform item).run world).2
    exact ⟨_, after, run_each_cons item later⟩

theorem after_each_cons (item : ι) (rest : List ι) (world : World H) :
    ((each perform (item :: rest)).run world).2 =
      ((each perform rest).run ((perform item).run world).2).2 := by
  obtain ⟨results, after, later⟩ := run_each perform rest ((perform item).run world).2
  rw [run_each_cons item later, later]

theorem history_each_cons (item : ι) (rest : List ι) (world : World H) (past : List (World H)) :
    (each perform (item :: rest)).history world past =
      (each perform rest).history ((perform item).run world).2
        ((perform item).history world past) := by
  obtain ⟨results, after, later⟩ := run_each perform rest ((perform item).run world).2
  rw [each, history_bind_ok (run_attempt _ _), history_bind_ok later]
  rfl

theorem each_at {items : List ι} {world after : World H} {results : List (Except Panic β)}
    (ran : (each perform items).run world = (.ok results, after)) {index : Nat} {item : ι}
    (listed : items[index]? = some item) :
    let before := ((each perform (items.take index)).run world).2
    results[index]? = some ((perform item).run before).1 ∧
      ((each perform (items.take (index + 1))).run world).2 = ((perform item).run before).2 := by
  intro before
  induction items generalizing world index results with
  | nil => cases listed
  | cons first rest ih =>
    obtain ⟨others, last, later⟩ := run_each perform rest ((perform first).run world).2
    rw [run_each_cons first later] at ran
    cases ran
    cases index with
    | zero =>
      cases listed
      exact ⟨rfl, after_each_cons _ [] world⟩
    | succ index =>
      obtain ⟨result, next⟩ := ih later listed
      have moment : before =
          ((each perform (rest.take index)).run ((perform first).run world).2).2 :=
        after_each_cons first _ world
      rw [moment, List.take_succ_cons, after_each_cons]
      exact ⟨result, next⟩

theorem each_keeps {holds : World H → Prop}
    (kept : ∀ item world, holds world → holds ((perform item).run world).2) (items : List ι)
    {world : World H} (start : holds world) : holds ((each perform items).run world).2 := by
  induction items generalizing world with
  | nil => exact start
  | cons item rest ih =>
    rw [after_each_cons]
    exact ih (kept item world start)

/-- A computation goes through the same worlds after a past with repetitions as after one without. -/
theorem stutters_history (act : Act H β) {world : World H} {past long : List (World H)}
    (before : Stutters (world :: past) (world :: long)) :
    Stutters ((act.run world).2 :: act.history world past)
      ((act.run world).2 :: act.history world long) := by
  obtain ⟨recent, trail⟩ := act.suffix_history world []
  have trail : act.trail world = recent ++ [world] := trail.symm
  rw [← trail_append, ← trail_append, trail, List.append_assoc, List.append_assoc]
  exact before.append_left recent

end Act

/-- What a gated write tells of the plain one that it was, if it was one. -/
def plainResult? : Except Panic Bool → Option (Except Panic Unit)
  | .ok false => none
  | .ok true => some (.ok ())
  | .error panic => some (.error panic)

section Sequences
variable (call : Call H) (place : Place H α) (same : α → α → Bool)

/-- Those of a sequence of gated writes that differ from what is there when their turn comes. -/
def differing : World H → List (PropertyWrite α) → List (PropertyWrite α)
  | _, [] => []
  | world, write :: rest =>
    let later := differing ((write.gated call place same).run world).2 rest
    if write.differs place same world then write :: later else later

/-- How a sequence of gated writes goes on, write by write. -/
theorem each_gated_plain (writes : List (PropertyWrite α)) (world : World H) :
    ∃ results after,
      (Act.each (·.gated call place same) writes).run world = (.ok results, after) ∧
      (Act.each (·.plain call place) (differing call place same world writes)).run world =
        (.ok (results.filterMap plainResult?), after) ∧
      ∀ past long, Stutters (world :: past) (world :: long) →
        Stutters (after :: (Act.each (·.plain call place)
            (differing call place same world writes)).history world past)
          (after :: (Act.each (·.gated call place same) writes).history world long) := by
  induction writes generalizing world with
  | nil => exact ⟨[], world, rfl, rfl, fun _ _ before => before⟩
  | cons write rest ih =>
    obtain ⟨results, after, gated, plain, stutters⟩ := ih ((write.gated call place same).run world).2
    refine ⟨_, after, Act.run_each_cons write gated, ?_⟩
    rcases differs : write.differs place same world
    · have gone (past : List (World H)) := write.gated_of_equal call differs past
      have run := (gone []).1
      have left : differing call place same world (write :: rest) =
          differing call place same world rest := by
        rw [differing, differs, run]
        rfl
      rw [run] at plain stutters
      rw [left, run]
      refine ⟨plain, fun past long before => ?_⟩
      rw [Act.history_each_cons, run, (gone long).2]
      exact stutters past (world :: long) (.again before)
    · have gone (past : List (World H)) := write.gated_of_differs call differs past
      have run := (gone []).1
      have made : differing call place same world (write :: rest) =
          write :: differing call place same ((write.plain call place).run world).2 rest := by
        rw [differing, differs, run]
        rfl
      rw [run] at plain stutters
      rw [made, run]
      refine ⟨?_, fun past long before => ?_⟩
      · rw [Act.run_each_cons write plain]
        rcases (write.plain call place).run world with ⟨_ | _, after⟩ <;> rfl
      · rw [Act.history_each_cons, Act.history_each_cons, run, (gone long).2]
        exact stutters _ _ (Act.stutters_history _ (.again before))

end Sequences

/-- A sequence of gated writes to a place that no callback can touch while it is borrowed. Each of them
goes by what is there when its turn comes. Together they end as the plain writes of those values that
differ then, and pass through the same worlds in the same order. -/
theorem gated_writes_as_plain {call : Call H} {place : Place H α}
    (untouched : ∀ callback event, (call callback event).Leaves place) (same : α → α → Bool)
    (writes : List (PropertyWrite α)) {world : World H} (held : place.borrowed world) :
    ∃ results after,
      (Act.each (·.gated call place same) writes).run world = (.ok results, after) ∧
      (∀ index write, writes[index]? = some write →
        let before := ((Act.each (·.gated call place same) (writes.take index)).run world).2
        let ran := (write.gated call place same).run before
        results[index]? = some ran.1 ∧
          ((Act.each (·.gated call place same) (writes.take (index + 1))).run world).2 = ran.2 ∧
          (ran.1 = .ok true ↔ write.differs place same before = true ∧
            ((write.plain call place).run before).1 = .ok ()) ∧
          GatedWrite call place same before write ran.1 ran.2
            ((write.gated call place same).history before [])) ∧
      (Act.each (·.plain call place) (differing call place same world writes)).run world =
        (.ok (results.filterMap plainResult?), after) ∧
      Stutters
        ((Act.each (·.plain call place) (differing call place same world writes)).trail world)
        ((Act.each (·.gated call place same) writes).trail world) := by
  obtain ⟨results, after, gated, plain, stutters⟩ := each_gated_plain call place same writes world
  refine ⟨results, after, gated, fun index write listed => ?_, plain, ?_⟩
  · obtain ⟨result, next⟩ := Act.each_at gated listed
    have still : place.borrowed
        ((Act.each (·.gated call place same) (writes.take index)).run world).2 :=
      Act.each_keeps (fun write _ held => (write.gatedWrite untouched held).1) _ held
    exact ⟨result, next, PropertyWrite.gated_eq_true_iff, (write.gatedWrite untouched still).2⟩
  · rw [Act.trail, Act.trail, gated, plain]
    exact stutters [] [] (.refl _)

/-- A reading, if there is one, and whether it is being written. -/
structure Meter where
  reading : Option Nat
  inUse : Bool

/-- A host that keeps a meter and notes the changes that it is told of. -/
def Host.meter : Host := ⟨Bool, ChangeEvent, Meter⟩

def Meter.place : Place Host.meter (Option Nat) where
  value world := Meter.reading world.host
  assign reading world := { world with host := ({ world.host with reading } : Meter) }
  borrowed world := Meter.inUse world.host = true
  value_assign _ _ := rfl
  borrowed_assign _ _ held := held
  value_apart _ _ _ _ := rfl
  borrowed_apart _ _ _ _ held := held

namespace Meter

def same : Option Nat → Option Nat → Bool
  | some here, some new => here == new
  | _, _ => false

def reset (meter : Meter) : Meter := if meter.inUse then meter else { meter with reading := none }

/-- One callback notes the change, resets the meter if it can and reports another change while it runs.
The other one panics. -/
def call : Call Host.meter
  | false, event => do
    Act.note event
    Act.modifyHost reset
    notify (fun _ event => Act.note event) event.registrar ⟨"d"⟩ .willChange
  | true, _ => Act.panic "stop"

theorem call_leaves (callback : Bool) (event : ChangeEvent) :
    (call callback event).Leaves place := by
  have quiet (event : ChangeEvent) : (Act.note event : Act Host.meter Unit).Leaves place :=
    Act.Leaves.note (H := Host.meter) event
  have resets : (Act.modifyHost reset : Act Host.meter Unit).Leaves place := by
    intro world held
    have same : reset world.host = world.host := if_pos held
    have kept : ((Act.modifyHost reset : Act Host.meter Unit).run world).2 = world :=
      congrArg (fun host => ({ world with host } : World Host.meter)) same
    rw [kept]
    exact ⟨held, rfl⟩
  cases callback with
  | true => exact .panic _
  | false =>
    exact (quiet event).bind fun _ => resets.bind fun _ => .notify (fun _ => quiet) _ _ _

/-- Changes of two of three properties meet a panic, one of them before the write and one after it. -/
def watched : Act Host.meter Unit := do
  let registrar ← Act.track (·.createRegistrar)
  let watch (keys : List Key) (phase : Phase) (callback : Bool) : Act Host.meter Token :=
    Act.track (·.register registrar (.ofList keys) phase (.direct callback))
  let _ ← watch [⟨"a"⟩, ⟨"d"⟩] .willChange false
  let _ ← watch [⟨"b"⟩] .willChange true
  let _ ← watch [⟨"c"⟩] .didChange true

/-- Readings that are written one after the other; after a panic the last one is written again. -/
def readings : List (PropertyWrite (Option Nat)) :=
  [⟨⟨0⟩, ⟨"a"⟩, some 1⟩, ⟨⟨0⟩, ⟨"b"⟩, some 2⟩, ⟨⟨0⟩, ⟨"b"⟩, some 1⟩, ⟨⟨0⟩, ⟨"c"⟩, some 3⟩,
    ⟨⟨0⟩, ⟨"c"⟩, some 3⟩, ⟨⟨0⟩, ⟨"a"⟩, none⟩, ⟨⟨0⟩, ⟨"a"⟩, none⟩]

end Meter

/-- The write that was refused has left the old reading and the one that panicked afterwards the new one,
and a reading that is not there differs from itself. -/
theorem gated_writes_as_plain_of_readings :
    let world := (Meter.watched.run (World.initial (⟨none, true⟩ : Meter))).2
    (∀ callback event, (Meter.call callback event).Leaves Meter.place) ∧
      Meter.place.borrowed world ∧ ∃ results after,
        (Act.each (·.gated Meter.call Meter.place Meter.same) Meter.readings).run world =
          (.ok results, after) ∧
        results = [.ok true, .error ⟨"stop"⟩, .ok false, .error ⟨"stop"⟩, .ok false, .ok true,
          .ok true] ∧
        (Act.each (·.plain Meter.call Meter.place)
          (differing Meter.call Meter.place Meter.same world Meter.readings)).run world =
            (.ok [.ok (), .error ⟨"stop"⟩, .error ⟨"stop"⟩, .ok (), .ok ()], after) := by
  intro world
  have held : Meter.place.borrowed world := by rfl
  refine ⟨Meter.call_leaves, held, ?_⟩
  obtain ⟨results, after, gated, _, plain, _⟩ :=
    gated_writes_as_plain Meter.call_leaves Meter.same Meter.readings held
  have said :
      ((Act.each (·.gated Meter.call Meter.place Meter.same) Meter.readings).run world).1 =
        .ok [.ok true, .error ⟨"stop"⟩, .ok false, .error ⟨"stop"⟩, .ok false, .ok true, .ok true] := by
    decide +kernel
  obtain rfl := Except.ok.inj ((congrArg Prod.fst gated).symm.trans said)
  exact ⟨_, after, gated, rfl, plain⟩

end ChangeTracking
