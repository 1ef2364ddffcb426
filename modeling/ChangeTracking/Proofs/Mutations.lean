import ChangeTracking.Proofs.TableHistory

/-! Programs that report changes by mutations only. They write down where a mutation begins and where
it ends, so that the log of a run tells at every moment which mutations are in progress. -/
namespace ChangeTracking
variable {H : Host} {discipline : Discipline H} {α β : Type}

/-- What is written down about mutations: one of a property begins, or the last one begun ends. -/
inductive Mark where
  | begun (registrar : RegistrarId) (key : Key)
  | ended

/-- The mutations in progress after a mark, the last one begun first. -/
def Mark.follow (inProgress : List (RegistrarId × Key)) : Mark → List (RegistrarId × Key)
  | .begun registrar key => (registrar, key) :: inProgress
  | .ended => inProgress.tail

/-- How a host writes marks. A call is no mark, and a mark is no call. -/
structure Ledger (discipline : Discipline H) where
  note : Mark → H.Note
  mark? : H.Note → Option Mark
  mark?_note : ∀ mark, mark? (note mark) = some mark
  mark?_call : ∀ callback event, mark? (discipline.note callback event) = none
  heard_note : ∀ mark, discipline.heard (note mark) = none

namespace Ledger
variable (ledger : Ledger discipline)

def entryMark? : LogEntry H → Option Mark
  | .trace _ => none
  | .note note => ledger.mark? note

/-- The mutations in progress, the last one begun first. -/
def inProgress (world : World H) : List (RegistrarId × Key) :=
  (world.log.toList.filterMap ledger.entryMark?).foldl Mark.follow []

def mutation (call : Call H) (registrar : RegistrarId) (key : Key) (body : Act H α) : Act H α := do
  Act.note (ledger.note (.begun registrar key))
  Act.ensuring (withMutation (discipline.announced call) registrar key body)
    (Act.note (ledger.note .ended))

end Ledger

/-- Whether a token may have been handed out to a caller. Sessions keep theirs to themselves. -/
def Tracker.mayBeKnown {κ : Type} (tracker : Tracker κ) (id : RegistrarId) (token : Token) : Bool :=
  match (tracker.table id).find? token.id with
  | some ⟨_, _, _, .session ..⟩ => false
  | _ => true

/-- Cancels by a token as far as callers can have it. -/
def cancelKnown (id : RegistrarId) (token : Token) : Act H Bool :=
  Act.track fun tracker =>
    if tracker.mayBeKnown id token then tracker.cancel id token else (false, tracker)

/-- What such a program can do at one stroke. -/
inductive QuietMove (ledger : Ledger discipline) (world : World H) : World H → Prop where
  | own {after : World H} (own : discipline.Own world after)
      (unmarked : ledger.inProgress after = ledger.inProgress world) : QuietMove ledger world after
  | thread (thread : ThreadState) : QuietMove ledger world { world with thread }
  | createRegistrar :
      QuietMove ledger world { world with tracker := world.tracker.createRegistrar.2 }
  | retain (id : RegistrarId) :
      QuietMove ledger world { world with tracker := world.tracker.retain id }
  | release (id : RegistrarId) :
      QuietMove ledger world { world with tracker := world.tracker.release id }
  | register (id : RegistrarId) (keys : KeySet) (phase : Phase) {callback : H.Callback}
      (direct : discipline.direct callback) :
      QuietMove ledger world
        { world with tracker := (world.tracker.register id keys phase (.direct callback)).2 }
  | cancel {id : RegistrarId} {token : Token} (known : world.tracker.mayBeKnown id token = true) :
      QuietMove ledger world { world with tracker := (world.tracker.cancel id token).2 }
  | cancelAll (id : RegistrarId) :
      QuietMove ledger world { world with tracker := (world.tracker.cancelAll id).2 }
  | createSession (reads : AccessList) :
      QuietMove ledger world { world with tracker := (world.tracker.createSession reads).2 }
  | arm {id : SessionId} {callbacks : PerPhase H.Callback}
      (pending : (world.tracker.session id).status = .pending)
      (given : callbacks.isEmpty = false) :
      QuietMove ledger world (world.advance
        (some (world.tracker.armOver id callbacks (world.tracker.session id).reads.entries).1)
        (world.tracker.armOver id callbacks (world.tracker.session id).reads.entries).2)
  | cancelSession {id : SessionId} {report : TraceEvent} {tracker : Tracker H.Callback}
      (ended : world.tracker.cancelSession? id = some (report, tracker)) :
      QuietMove ledger world (world.advance (some report) tracker)

theorem QuietMove.stay {ledger : Ledger discipline} {world after : World H} (same : after = world) :
    QuietMove ledger world after :=
  .own (by subst same; exact ⟨rfl, rfl, [], by simp, by simp⟩) (by rw [same])

theorem QuietMove.move {ledger : Ledger discipline} {world after : World H}
    (quiet : QuietMove ledger world after) (past : List (World H)) :
    Move discipline past world after := by
  cases quiet with
  | own own => exact .own own
  | thread => exact .thread _
  | createRegistrar => exact .createRegistrar
  | retain id => exact .retain id
  | release id => exact .release id
  | register id keys phase direct => exact .register id keys phase direct
  | cancel => exact .cancel _ _
  | cancelAll id => exact .cancelAll id
  | createSession reads => exact .createSession reads
  | arm pending given => exact .arm pending given
  | cancelSession ended => exact .cancelSession ended

/-- A program that reports changes by mutations only. Its callbacks are such programs in turn. -/
inductive Mutator (ledger : Ledger discipline) : {α : Type} → Act H α → Prop where
  | done {α : Type} (value : α) : Mutator ledger (.done value)
  | unwind {α : Type} (panic : Panic) : Mutator ledger (.unwind panic : Act H α)
  | step {α : Type} {change : World H → α × World H}
      (quiet : ∀ world, QuietMove ledger world (change world).2) :
      Mutator ledger (.step change .done)
  | bind {α β : Type} {act : Act H α} {rest : α → Act H β} (first : Mutator ledger act)
      (second : ∀ value, Mutator ledger (rest value)) : Mutator ledger (act >>= rest)
  | attempt {α : Type} {act : Act H α} (body : Mutator ledger act) : Mutator ledger act.attempt
  | mutation {α : Type} {call : Call H} {body : Act H α}
      (answers : ∀ callback event, Mutator ledger (call callback event))
      (inside : Mutator ledger body) (registrar : RegistrarId) (key : Key) :
      Mutator ledger (ledger.mutation call registrar key body)

variable {ledger : Ledger discipline}

namespace Ledger
variable {world after : World H}

theorem inProgress_append {entries : List (LogEntry H)}
    (log : after.log.toList = world.log.toList ++ entries) :
    ledger.inProgress after =
      (entries.filterMap ledger.entryMark?).foldl Mark.follow (ledger.inProgress world) := by
  rw [inProgress, log, List.filterMap_append, List.foldl_append, inProgress]

theorem inProgress_of_unmarked {entries : List (LogEntry H)}
    (log : after.log.toList = world.log.toList ++ entries)
    (unmarked : ∀ entry ∈ entries, ledger.entryMark? entry = none) :
    ledger.inProgress after = ledger.inProgress world := by
  rw [inProgress_append log, List.filterMap_eq_nil_iff.mpr unmarked, List.foldl_nil]

theorem inProgress_of_log_eq (same : after.log = world.log) :
    ledger.inProgress after = ledger.inProgress world := by
  rw [inProgress, same, inProgress]

theorem inProgress_advance (world : World H) (report : Option TraceEvent)
    (tracker : Tracker H.Callback) :
    ledger.inProgress (world.advance report tracker) = ledger.inProgress world := by
  have log : (world.advance report tracker).log.toList =
      world.log.toList ++ LogEntry.ofReport report := by
    simp [World.advance]
  refine inProgress_of_unmarked log fun entry member => ?_
  obtain ⟨event, _, rfl⟩ := List.mem_map.mp member
  rfl

theorem inProgress_hear (world : World H) (mark : Mark) :
    ledger.inProgress (world.hear (ledger.note mark)) = mark.follow (ledger.inProgress world) := by
  rw [inProgress_append (world.log_hear _)]
  simp [entryMark?, ledger.mark?_note]

theorem own_hear (world : World H) (mark : Mark) :
    discipline.Own world (world.hear (ledger.note mark)) := by
  refine ⟨rfl, rfl, [.note (ledger.note mark)], ?_, world.log_hear _⟩
  intro entry member
  rw [List.mem_singleton.mp member]
  exact ledger.heard_note mark

end Ledger

theorem QuietMove.inProgress {world after : World H} (quiet : QuietMove ledger world after) :
    ledger.inProgress after = ledger.inProgress world := by
  cases quiet with
  | own own unmarked => exact unmarked
  | arm => exact Ledger.inProgress_advance ..
  | cancelSession => exact Ledger.inProgress_advance ..
  | _ => exact Ledger.inProgress_of_log_eq rfl

namespace Tracker
variable {κ : Type} {before after : Tracker κ}

theorem Grown.mayBeKnown (grown : before.Grown after) (sound : before.Sound) (later : after.Sound)
    {id : RegistrarId} {token : Token} (issued : token.id < (before.table id).nextId)
    (known : before.mayBeKnown id token = true) : after.mayBeKnown id token = true := by
  rcases found : (after.table id).find? token.id with _ | subscription
  · rw [Tracker.mayBeKnown, found]
  · obtain ⟨member, same⟩ := (later.tables id).find?_eq_some_iff.mp found
    have there := (grown.old id subscription member).resolve_right (by omega)
    have earlier := (sound.tables id).find?_eq_some_iff.mpr ⟨there, same⟩
    rw [Tracker.mayBeKnown, earlier] at known
    rwa [Tracker.mayBeKnown, found]

theorem mayBeKnown_register {tracker : Tracker κ} (sound : tracker.Sound) {id : RegistrarId}
    (live : tracker.isLive id = true) (keys : KeySet) (phase : Phase) (callback : κ) :
    (tracker.register id keys phase (.direct callback)).2.mayBeKnown id
      (tracker.register id keys phase (.direct callback)).1 = true := by
  have added := register_added sound live keys phase (.direct callback)
  have found := (added.sound.tables id).find?_eq_some_iff.mpr
    ⟨by rw [added.subscriptions, if_pos rfl]; exact List.mem_append_right _ List.mem_cons_self, rfl⟩
  have number : (tracker.register id keys phase (.direct callback)).1.id =
      (tracker.table id).nextId := rfl
  rw [mayBeKnown, number, found]

end Tracker

/-- Whoever cancels by a token that a registration of theirs gave out just cancels. -/
theorem Evolution.run_cancelKnown {world registered moment : World H} {past later : List (World H)}
    (evolution : Evolution discipline (moment :: later))
    (passed : registered :: world :: past <:+ moment :: later) {id : RegistrarId}
    (live : world.tracker.isLive id = true) {keys : KeySet} {phase : Phase} {callback : H.Callback}
    (given : registered.tracker = (world.tracker.register id keys phase (.direct callback)).2) :
    (cancelKnown id (world.tracker.register id keys phase (.direct callback)).1).run moment =
      (Act.track fun tracker =>
        tracker.cancel id (world.tracker.register id keys phase (.direct callback)).1).run
          moment := by
  have sound := (evolution.inStep registered (passed.subset List.mem_cons_self)).sound
  have before := (evolution.inStep world (passed.subset (by simp))).sound
  have now := (evolution.inStep moment List.mem_cons_self).sound
  have added := Tracker.register_added before live keys phase (.direct callback)
  have grown := evolution.grown_of_mem (passed.subset List.mem_cons_self)
  have issued : (world.tracker.table id).nextId < (registered.tracker.table id).nextId := by
    rw [given, added.nextId, if_pos rfl]
    simp
  have known := given ▸ Tracker.mayBeKnown_register before live keys phase callback
  have still := grown.mayBeKnown sound now issued known
  rw [cancelKnown, Act.run_track, Act.run_track, if_pos still]

namespace Mutator

theorem resume (result : Except Panic α) : Mutator ledger (Act.resume result : Act H α) := by
  cases result with
  | ok value => exact done value
  | error panic => exact unwind panic

theorem onThreadState (change : ThreadState → α × ThreadState) :
    Mutator ledger (Act.onThreadState change : Act H α) :=
  step fun _ => .thread _

theorem whileUnwinding {act : Act H α} (body : Mutator ledger act) :
    Mutator ledger act.whileUnwinding :=
  (onThreadState _).bind fun _ =>
    body.attempt.bind fun result => (onThreadState _).bind fun _ => resume result

theorem onThread {act : Act H α} (body : Mutator ledger act) : Mutator ledger act.onThread :=
  (onThreadState _).bind fun _ => body.attempt.bind fun _ => (onThreadState _).bind fun _ => done _

theorem record {act : Act H α} (body : Mutator ledger act) : Mutator ledger (record act) :=
  (onThreadState _).bind fun _ => body.attempt.bind fun result =>
    (onThreadState _).bind fun _ => (resume result).bind fun _ => done _

theorem cancelKnown (id : RegistrarId) (token : Token) :
    Mutator ledger (cancelKnown id token : Act H Bool) := by
  refine step fun world => ?_
  by_cases known : world.tracker.mayBeKnown id token = true
  · simpa [known] using QuietMove.cancel known
  · simpa [known] using QuietMove.stay rfl

theorem arm (id : SessionId) {callbacks : PerPhase H.Callback}
    (given : callbacks.isEmpty = false) : Mutator ledger (arm id callbacks : Act H _) := by
  have quiet (world : World H) :
      QuietMove ledger world ((ChangeTracking.arm id callbacks).run world).2 := by
    rcases run_arm id callbacks world with same | ⟨pending, armed⟩
    · exact .stay same
    · exact armed ▸ .arm pending given
  exact step quiet

theorem install (id : SessionId) (callbacks : PerPhase H.Callback) :
    Mutator ledger (install id callbacks : Act H _) := by
  unfold ChangeTracking.install
  split
  · exact done _
  · rename_i given
    exact arm id (by simpa using given)

theorem cancelSession (id : SessionId) : Mutator ledger (cancelSession id : Act H _) := by
  have quiet (world : World H) :
      QuietMove ledger world ((ChangeTracking.cancelSession id).run world).2 := by
    rcases run_cancelSession id world with same | ⟨report, tracker, ended, left⟩
    · exact .stay same
    · exact left ▸ .cancelSession ended
  exact step quiet

theorem trackSession {act : Act H α} (body : Mutator ledger act)
    (callbacks : PerPhase H.Callback) : Mutator ledger (trackSession act callbacks) := by
  unfold ChangeTracking.trackSession
  split
  · exact done _
  · rename_i given
    refine bind (bind body.record fun _ => bind ?_ fun id => ?_) fun _ => done _
    · exact step fun _ => .createSession _
    · exact (arm id (by simpa using given)).bind fun _ => done _

theorem composed {act : Act H α} (mutator : Mutator ledger act) : Composed discipline act := by
  induction mutator with
  | done value => exact .done value
  | unwind panic => exact .unwind panic
  | step quiet => exact .step fun world past => (quiet world).move _
  | bind _ _ first second => exact first.bind second
  | attempt _ body => exact body.attempt
  | mutation _ _ registrar key answers inside =>
    have mark (mark : Mark) : Composed discipline (Act.note (ledger.note mark)) :=
      .step fun world _ => .own (Ledger.own_hear world mark)
    exact (mark _).bind fun _ => (inside.withMutation answers registrar key).ensuring (mark _)

end Mutator

namespace Act

/-- A computation ends with the mutations in progress with which it began, and these are in progress
all the time. -/
def Nests (ledger : Ledger discipline) (act : Act H α) : Prop :=
  ∀ world, ledger.inProgress (act.run world).2 = ledger.inProgress world ∧
    ∀ moment ∈ act.history world [], ledger.inProgress world <:+ ledger.inProgress moment

namespace Nests

theorem done (value : α) : (.done value : Act H α).Nests ledger := fun _ => ⟨rfl, by simp [history]⟩

theorem unwind (panic : Panic) : (.unwind panic : Act H α).Nests ledger :=
  fun _ => ⟨rfl, by simp [history]⟩

theorem step {change : World H → α × World H}
    (unmarked : ∀ world, ledger.inProgress (change world).2 = ledger.inProgress world) :
    (Act.step change .done).Nests ledger := by
  intro world
  refine ⟨unmarked world, fun moment member => ?_⟩
  obtain rfl := List.mem_singleton.mp member
  exact List.suffix_refl _

theorem bind {act : Act H α} {rest : α → Act H β} (first : act.Nests ledger)
    (second : ∀ value, (rest value).Nests ledger) : (act >>= rest).Nests ledger := by
  intro world
  obtain ⟨same, inside⟩ := first world
  rcases ending : act.run world with ⟨result, after⟩
  rw [ending] at same
  cases result with
  | error panic =>
    rw [run_bind, history_bind, ending]
    exact ⟨same, inside⟩
  | ok value =>
    obtain ⟨again, later⟩ := second value after
    rw [run_bind_ok ending, history_bind_ok ending, history_eq_append]
    refine ⟨again.trans same, fun moment member => ?_⟩
    rcases List.mem_append.mp member with new | old
    · rw [← same]
      exact later moment new
    · exact inside moment old

theorem attempt {act : Act H α} (body : act.Nests ledger) : act.attempt.Nests ledger := body

theorem resume (result : Except Panic α) : (Act.resume result : Act H α).Nests ledger := by
  cases result with
  | ok value => exact done value
  | error panic => exact unwind panic

theorem onThreadState (change : ThreadState → α × ThreadState) :
    (Act.onThreadState change : Act H α).Nests ledger :=
  step fun _ => Ledger.inProgress_of_log_eq rfl

theorem whileUnwinding {act : Act H α} (body : act.Nests ledger) :
    act.whileUnwinding.Nests ledger :=
  (onThreadState _).bind fun _ =>
    body.attempt.bind fun result => (onThreadState _).bind fun _ => resume result

theorem conduct (step : Tracker H.Callback → α × Option TraceEvent × Tracker H.Callback) :
    (Act.conduct step : Act H α).Nests ledger :=
  Nests.step fun _ => Ledger.inProgress_advance ..

section Callbacks
variable {call : Call H} (answers : ∀ callback event, (call callback event).Nests ledger)
include answers

theorem announced (callback : H.Callback) (event : ChangeEvent) :
    (discipline.announced call callback event).Nests ledger := by
  refine (step fun world => ?_).bind fun _ => answers callback event
  refine Ledger.inProgress_of_unmarked (world.log_hear _) fun entry member => ?_
  rw [List.mem_singleton.mp member]
  exact ledger.mark?_call callback event

theorem deliverAll (event : ChangeEvent) (perceivers : List (Perceiver H.Callback)) :
    (deliverAll (discipline.announced call) event perceivers).Nests ledger := by
  have deliver (perceiver : Perceiver H.Callback) :
      (deliver (discipline.announced call) event perceiver).Nests ledger := by
    cases perceiver with
    | direct callback => exact announced answers callback event
    | session id registrar phase =>
      refine (conduct _).bind fun due => ?_
      cases due with
      | none => exact done ()
      | some callback => exact announced answers callback _
  induction perceivers with
  | nil => exact done ()
  | cons perceiver rest ih => exact (deliver perceiver).bind fun _ => ih

theorem notify (registrar : RegistrarId) (key : Key) (phase : Phase) :
    (notify (discipline.announced call) registrar key phase).Nests ledger :=
  (conduct _).bind fun perceivers => deliverAll answers ⟨registrar, key, phase⟩ perceivers

theorem withMutation {body : Act H α} (inside : body.Nests ledger) (registrar : RegistrarId)
    (key : Key) : (withMutation (discipline.announced call) registrar key body).Nests ledger := by
  refine (notify answers registrar key .willChange).bind fun _ => inside.attempt.bind fun result => ?_
  have last := notify answers registrar key .didChange
  cases result with
  | ok value => exact last.bind fun _ => done value
  | error panic => exact last.whileUnwinding.bind fun _ => unwind panic

end Callbacks
end Nests
end Act

namespace Ledger
variable (ledger) (call : Call H) (registrar : RegistrarId) (key : Key) (body : Act H α)
  (world : World H)

theorem run_mutation :
    (ledger.mutation call registrar key body).run world =
      (((withMutation (discipline.announced call) registrar key body).run
          (world.hear (ledger.note (.begun registrar key)))).1,
        ((withMutation (discipline.announced call) registrar key body).run
          (world.hear (ledger.note (.begun registrar key)))).2.hear (ledger.note .ended)) := by
  rw [mutation, Act.run_bind_ok rfl, Act.ensuring, Act.run_bind_ok (Act.run_attempt _ _),
    Act.run_bind_ok rfl, Act.run_resume]
  rfl

theorem history_mutation (past : List (World H)) :
    (ledger.mutation call registrar key body).history world past =
      ((withMutation (discipline.announced call) registrar key body).run
          (world.hear (ledger.note (.begun registrar key)))).2 ::
        (withMutation (discipline.announced call) registrar key body).history
          (world.hear (ledger.note (.begun registrar key))) (world :: past) := by
  rw [mutation, Act.history_bind_ok rfl, Act.ensuring, Act.history_bind_ok (Act.run_attempt _ _),
    Act.history_bind_ok rfl, Act.history_resume]
  rfl

end Ledger

/-- Mutations begin and end within each other. -/
theorem Mutator.nests {act : Act H α} (mutator : Mutator ledger act) : act.Nests ledger := by
  induction mutator with
  | done value => exact .done value
  | unwind panic => exact .unwind panic
  | step quiet => exact .step fun world => (quiet world).inProgress
  | bind _ _ first second => exact first.bind second
  | attempt _ body => exact body.attempt
  | mutation _ _ registrar key answers inside =>
    intro world
    rename_i call body
    obtain ⟨same, during⟩ := Act.Nests.withMutation answers inside registrar key
      (world.hear (ledger.note (.begun registrar key)))
    rw [Ledger.inProgress_hear] at same during
    rw [Ledger.run_mutation, Ledger.history_mutation, Ledger.inProgress_hear, same]
    refine ⟨rfl, fun moment member => ?_⟩
    have more : ledger.inProgress world <:+
        Mark.follow (ledger.inProgress world) (.begun registrar key) := List.suffix_cons _ _
    rw [Act.history_eq_append] at member
    rcases List.mem_cons.mp member with rfl | member
    · rw [same]
      exact more
    · rcases List.mem_append.mp member with inside | start
      · exact more.trans (during moment inside)
      · obtain rfl := List.mem_singleton.mp start
        exact List.suffix_refl _

/-- A mutation has been in progress since an earlier moment. -/
def Ledger.InProgressSince (ledger : Ledger discipline) (property : RegistrarId × Key)
    (start worlds : List (World H)) : Prop :=
  ∀ moment earlier, moment :: earlier <:+ worlds → start <:+ moment :: earlier →
    property ∈ ledger.inProgress moment

theorem Ledger.InProgressSince.cons {property : RegistrarId × Key} {start past : List (World H)}
    {world : World H} (since : ledger.InProgressSince property start past)
    (still : property ∈ ledger.inProgress world) :
    ledger.InProgressSince property start (world :: past) := by
  intro moment earlier passed started
  rcases List.suffix_cons_iff.mp passed with same | inside
  · cases same
    exact still
  · exact since moment earlier inside started

/-- What was in progress when a computation began has been in progress since then. -/
theorem Act.Nests.since {act : Act H α} (nests : act.Nests ledger) {world : World H}
    (past : List (World H)) {property : RegistrarId × Key}
    (begun : property ∈ ledger.inProgress world) :
    ledger.InProgressSince property (world :: past) ((act.run world).2 :: act.history world past) := by
  intro moment earlier passed started
  obtain ⟨same, inside⟩ := nests world
  obtain ⟨front, trail⟩ := passed
  obtain ⟨between, rest⟩ := started
  cases between with
  | nil =>
    cases rest
    exact begun
  | cons first more =>
    obtain ⟨rfl, rfl⟩ := List.cons.inj rest
    have own : front ++ first :: (more ++ [world]) = act.trail world := by
      refine (List.append_left_inj past).mp ?_
      rw [act.trail_append, ← trail]
      simp
    have member : first ∈ act.trail world := own ▸ by simp
    rcases List.mem_cons.mp member with rfl | member
    · rwa [same]
    · exact (inside first member).subset begun

end ChangeTracking
