import ChangeTracking.Proofs.Delivery
import ChangeTracking.Proofs.PairedPhases
import ChangeTracking.Proofs.Provenance

/-! Will-change comes before did-change. Where changes are reported by mutations only, the
did-change of a property is announced after its will-change has reached everybody who was there; and
who came in between, came while the mutation was in progress. So a session that is armed for both
phases while none of its properties is being mutated gets will-change first, whatever is nested and
whoever panics. -/
namespace ChangeTracking
variable {H : Host} {discipline : Discipline H} {ledger : Ledger discipline}

/-- A session was armed for both phases at a moment when no mutation of a property that it has read
was in progress. -/
def ArmedApart (ledger : Ledger discipline) (worlds : List (World H)) (id : SessionId) : Prop :=
  ∃ after before past, after :: before :: past <:+ worlds ∧
    (before.tracker.session id).status = .pending ∧
    (∀ phase, after.tracker.Awaits id phase) ∧
    ∀ registrar key, (registrar, key) ∈ ledger.inProgress before →
      (before.tracker.session id).reads.contains registrar key = false

def World.phases (world : World H) (id : SessionId) : List Phase := (world.firings id).map (·.phase)

namespace ArmedApart
variable {worlds : List (World H)} {world after : World H} {past : List (World H)} {id : SessionId}

theorem mono {more : List (World H)} (armed : ArmedApart ledger worlds id)
    (kept : worlds <:+ more) : ArmedApart ledger more id := by
  obtain ⟨after, before, past, suffix, step⟩ := armed
  exact ⟨after, before, past, suffix.trans kept, step⟩

theorem of_begun (armed : ArmedApart ledger worlds id) (evolution : Evolution discipline worlds)
    (earlier : world :: past <:+ worlds) (begun : world.Begun id) :
    ArmedApart ledger (world :: past) id := by
  obtain ⟨after, before, rest, suffix, pending, step⟩ := armed
  rcases List.suffix_or_suffix_of_suffix suffix earlier with inside | outside
  · exact ⟨after, before, rest, inside, pending, step⟩
  · rcases List.suffix_cons_iff.mp outside with same | outside
    · rw [same]
      exact ⟨after, before, rest, List.suffix_refl _, pending, step⟩
    · have run := evolution.of_suffix ((List.suffix_cons _ _).trans suffix)
      have order := run.later_of_mem (outside.subset List.mem_cons_self)
      exact absurd pending (begun.later order).2

/-- At each step, a session that was armed apart had been armed before, or was still pending. -/
theorem of_step {before : World H} (armed : ArmedApart ledger (after :: before :: past) id) :
    (before.tracker.session id).status = .pending ∨ ArmedApart ledger (before :: past) id := by
  obtain ⟨_, _, _, moment, pending, step⟩ := armed
  rcases List.suffix_cons_iff.mp moment with same | inside
  · cases same
    exact .inl pending
  · exact .inr ⟨_, _, _, inside, pending, step⟩

/-- A session that was armed apart, and has read a property which has been mutated since an earlier
moment, was armed before that. -/
theorem before_mutation {start : List (World H)} (armed : ArmedApart ledger (after :: past) id)
    (evolution : Evolution discipline (after :: past)) (started : world :: start <:+ after :: past)
    {registrar : RegistrarId} {key : Key} (read : after.HasRead id registrar key)
    (since : ledger.InProgressSince (registrar, key) (world :: start) (after :: past)) :
    ∃ earlier rest, earlier :: rest <:+ world :: start ∧
      ∀ phase, earlier.tracker.Awaits id phase := by
  obtain ⟨earlier, before, rest, suffix, pending, awaits, apart⟩ := armed
  have passed := (List.suffix_cons earlier _).trans suffix
  rcases List.suffix_or_suffix_of_suffix suffix started with first | second
  · exact ⟨earlier, _, first, awaits⟩
  · rcases List.suffix_cons_iff.mp second with same | second
    · obtain ⟨rfl, rfl⟩ := List.cons.inj same
      exact ⟨_, _, List.suffix_refl _, awaits⟩
    · -- It was armed in the course of the mutation, but then it has not read the property.
      have created : id.index < before.tracker.sessions.size :=
        Tracker.index_lt_of_status (by simp [pending])
      have keeps := evolution.keepsReads_of_mem (passed.subset List.mem_cons_self)
      have unread := apart registrar key (since before rest passed second)
      rw [← keeps id created, read.2] at unread
      cases unread

end ArmedApart

structure Paced (ledger : Ledger discipline) (worlds : List (World H)) : Prop where
  evolution : Evolution discipline worlds
  paired : ∀ world ∈ worlds, world.tracker.Paired
  ordered : ∀ world past, world :: past <:+ worlds → ∀ id, ArmedApart ledger (world :: past) id →
    world.phases id <+: [.willChange, .didChange]

private theorem Later.phases {earlier world : World H} (later : Later earlier world) {id : SessionId}
    {phase : Phase} (taken : phase ∈ earlier.phases id) : phase ∈ world.phases id :=
  ((later.firings id).map _).subset taken

private theorem Evolution.phases_of_pending {world : World H} {past : List (World H)}
    (evolution : Evolution discipline (world :: past)) {id : SessionId}
    (pending : (world.tracker.session id).status = .pending) : world.phases id = [] := by
  have life := (evolution.lived id world past rfl).life
    (Tracker.index_lt_of_status (by simp [pending]))
  rw [pending] at life
  generalize events : world.events id = reports at life
  cases life
  rw [World.phases, World.firings, events]
  rfl

private theorem phases_concat {phases : List Phase} {phase : Phase}
    (order : phases <+: [.willChange, .didChange]) (once : (phases ++ [phase]).Nodup)
    (second : phase = .didChange → .willChange ∈ phases) :
    phases ++ [phase] <+: [.willChange, .didChange] := by
  obtain ⟨rest, whole⟩ := order
  match phases, whole with
  | [], _ =>
    cases phase with
    | willChange => exact ⟨[.didChange], rfl⟩
    | didChange => cases second rfl
  | [first], whole =>
    cases whole
    cases phase with
    | willChange => simp at once
    | didChange => exact List.prefix_refl _
  | [first, next], whole =>
    cases whole
    cases phase <;> simp at once
  | _ :: _ :: _ :: _, whole => simp at whole

private theorem SessionStep.firings_cases {past : List (World H)} {world after : World H}
    (step : SessionStep discipline past world after) (id : SessionId) :
    after.firings id = world.firings id ∨
      ∃ event, after.firings id = world.firings id ++ [event] ∧
        (world.tracker.session id).status = .installed := by
  cases step.fate id with
  | kept _ _ events => exact .inl (by rw [World.firings, events, World.firings])
  | created _ _ _ events => exact .inl (by rw [World.firings, events, World.firings])
  | turn report turn events =>
    have firings : after.firings id = world.firings id ++ report.delivered?.toList := by
      rw [World.firings, events, List.filterMap_append, World.firings]
      cases report <;> rfl
    generalize after.tracker.session id = session at turn
    cases turn with
    | arm => exact .inl (by simpa [TraceEvent.delivered?] using firings)
    | cancel => exact .inl (by simpa [TraceEvent.delivered?] using firings)
    | @fire event _ _ installed => exact .inr ⟨event, firings, installed⟩

namespace Paced
variable {world after : World H} {past : List (World H)}

theorem start (host : H.State) : Paced ledger [World.initial host] where
  evolution := .start host
  paired world member := by
    rw [List.mem_singleton.mp member]
    exact .empty
  ordered world past suffix id _ := by
    rcases List.suffix_cons_iff.mp suffix with same | absent
    · cases same
      exact List.nil_prefix
    · cases List.suffix_nil.mp absent

/-- The phases stay in order if each session that takes up did-change has had will-change. -/
theorem extend (paced : Paced ledger (world :: past))
    (evolution : Evolution discipline (after :: world :: past)) (paired : after.tracker.Paired)
    (second : ∀ id event, after.firings id = world.firings id ++ [event] →
      event.phase = .didChange → ArmedApart ledger (world :: past) id →
        .willChange ∈ world.phases id) : Paced ledger (after :: world :: past) where
  evolution := evolution
  paired := List.forall_mem_cons.mpr ⟨paired, paced.paired⟩
  ordered last rest suffix id armed := by
    rcases List.suffix_cons_iff.mp suffix with same | inside
    · cases same
      have before := paced.ordered world past (List.suffix_refl _) id
      rcases evolution.sessionStep.firings_cases id with same | ⟨event, more, installed⟩
      · rw [World.phases, same, ← World.phases]
        rcases armed.of_step with pending | armed
        · rw [paced.evolution.phases_of_pending pending]
          exact List.nil_prefix
        · exact before armed
      · have armed := armed.of_step.resolve_left (by simp [installed])
        obtain ⟨_, _, life⟩ := evolution.events_life List.mem_cons_self id
        have once : ((after.firings id).map (·.phase)).Nodup := life.nodup
        rw [more, List.map_append] at once
        rw [World.phases, more, List.map_append]
        exact phases_concat (before armed) once fun did => second id event more did armed
    · exact paced.ordered last rest inside id armed

theorem still (paced : Paced ledger (world :: past))
    (evolution : Evolution discipline (after :: world :: past)) (paired : after.tracker.Paired)
    (firings : ∀ id, after.firings id = world.firings id) :
    Paced ledger (after :: world :: past) := by
  refine paced.extend evolution paired fun id event more => ?_
  rw [firings, List.self_eq_append_right] at more
  cases more

theorem move (paced : Paced ledger (world :: past)) (settled : world.Settled)
    (move : Move discipline (world :: past) world after) (paired : after.tracker.Paired) :
    Paced ledger (after :: world :: past) := by
  refine paced.still (.move paced.evolution settled move) paired fun id => ?_
  obtain ⟨entries, log, idle⟩ := move.log
  have none : (entries.filterMap (LogEntry.lifeEvent? id)).filterMap TraceEvent.delivered? = [] := by
    refine List.eq_nil_iff_forall_not_mem.mpr fun event member => ?_
    obtain ⟨entry, present, fired⟩ := mem_delivered_iff.mp member
    rw [idle entry present] at fired
    cases fired
  rw [World.firings, World.events_append log, List.filterMap_append, none, List.append_nil]
  rfl

/-- The event of a notification reaches a session if it is about will-change, or if the session has
had will-change in case it was armed apart. -/
def Reaches (ledger : Ledger discipline) (past : List (World H)) (event : ChangeEvent)
    (perceiver : Perceiver H.Callback) : Prop :=
  Told past perceiver event.key ∧ ∀ id registrar phase, perceiver = .session id registrar phase →
    registrar = event.registrar ∧ phase = event.phase ∧ (phase = .didChange →
      ∃ earlier before, earlier :: before <:+ past ∧ earlier.Begun id ∧
        (ArmedApart ledger (earlier :: before) id → .willChange ∈ earlier.phases id))

theorem Reaches.mono {event : ChangeEvent} {perceiver : Perceiver H.Callback}
    {later : List (World H)} (reaches : Reaches ledger past event perceiver)
    (kept : past <:+ later) : Reaches ledger later event perceiver := by
  refine ⟨reaches.1.mono kept, fun id registrar phase same => ?_⟩
  obtain ⟨source, wanted, second⟩ := reaches.2 id registrar phase same
  refine ⟨source, wanted, fun did => ?_⟩
  obtain ⟨earlier, before, moment, facts⟩ := second did
  exact ⟨earlier, before, moment.trans kept, facts⟩

end Paced

/-- From a world in which it has its turn, a computation keeps the phases in order. -/
def Paces (ledger : Ledger discipline) {α : Type} (act : Act H α) : Prop :=
  act.Keeps (Paced ledger)

namespace Paces
variable {world : World H} {past : List (World H)} {call : Call H}
  (answers : ∀ callback event, Paces ledger (call callback event))
include answers

private theorem fire (paced : Paced ledger (world :: past)) (settled : world.Settled)
    {id : SessionId} {event : ChangeEvent}
    (reaches : Paced.Reaches ledger (world :: past) event
      (.session id event.registrar event.phase)) :
    (fire (discipline.announced call) id event).Carries (Paced ledger) world past := by
  rcases due : world.tracker.fire? id event with _ | firing
  · rw [Act.Carries, run_fire_none due, history_fire_none due]
    exact ⟨paced.move settled (.stay rfl) (paced.paired world List.mem_cons_self), settled⟩
  · have fired := Tracker.of_fire? due
    have inStep := paced.evolution.inStep world List.mem_cons_self
    have paired := (paced.paired world List.mem_cons_self).fire inStep fired
    have evolution := Evolution.fire paced.evolution settled reaches.1 due
    obtain ⟨removed, report⟩ := fired.report
    have events := SessionStep.events_of_turn (World.advance_log world firing.report firing.tracker)
      (show firing.report.session? = some id by rw [report]; rfl)
    have taken : Paced ledger
        (world.advance (some firing.report) firing.tracker :: world :: past) := by
      refine paced.extend evolution paired fun other taken more did armed => ?_
      rw [World.firings, events, List.filterMap_append, ← World.firings,
        List.append_cancel_left_eq] at more
      split at more
      · rename_i same
        subst same
        obtain rfl : event = taken := by simpa [report, TraceEvent.delivered?] using more
        obtain ⟨earlier, before, moment, begun, told⟩ :=
          (reaches.2 other _ _ rfl).2.2 did
        have order := paced.evolution.later_of_mem (moment.subset List.mem_cons_self)
        exact order.phases (told (armed.of_begun paced.evolution moment begun))
      · cases more
    have heard := taken.still (.call evolution due) paired fun other => ?_
    · rw [Act.Carries, run_fire_some due, history_fire_some due]
      exact Act.Keeps.announced answers heard
    · rw [World.firings, World.events_append (World.log_hear ..)]
      simp [LogEntry.lifeEvent?, World.firings]

private theorem deliver (paced : Paced ledger (world :: past)) (settled : world.Settled)
    {event : ChangeEvent} {perceiver : Perceiver H.Callback}
    (reaches : Paced.Reaches ledger (world :: past) event perceiver) :
    (deliver (discipline.announced call) event perceiver).Carries (Paced ledger) world past := by
  cases perceiver with
  | direct callback =>
    have paired := paced.paired world List.mem_cons_self
    exact Act.Keeps.announced answers (paced.move settled (.call reaches.1) paired)
  | session id registrar phase =>
    obtain ⟨rfl, rfl, _⟩ := reaches.2 id registrar phase rfl
    exact fire answers paced settled reaches

private theorem notify (paced : Paced ledger (world :: past)) (settled : world.Settled)
    (registrar : RegistrarId) (key : Key) (phase : Phase)
    (second : phase = .didChange → ∀ id,
      .session id registrar phase ∈ world.tracker.snapshot registrar key phase →
        ArmedApart ledger (world :: past) id → .willChange ∈ world.phases id) :
    (notify (discipline.announced call) registrar key phase).Carries (Paced ledger) world past := by
  have inStep := paced.evolution.inStep world List.mem_cons_self
  have begins : Move discipline (world :: past) world (world.notified registrar key phase) :=
    .of_notified ..
  have start := paced.move settled begins (paced.paired world List.mem_cons_self)
  rw [Act.Carries, run_notify, history_notify]
  refine Act.Carries.deliverAll (fun past perceiver => Paced.Reaches ledger past
    ⟨registrar, key, phase⟩ perceiver) Paced.Reaches.mono
    (fun _ _ _ paced settled reaches => deliver answers paced settled reaches) start
    (begins.settled settled) fun perceiver found => ⟨⟨world, by simp, registrar, phase, found⟩, ?_⟩
  rintro id source wanted rfl
  obtain ⟨rfl, rfl⟩ := inStep.eq_of_mem_snapshot found
  have begun := World.Begun.of_installed (inStep.awaits_of_mem_snapshot found).1
  exact ⟨rfl, rfl, fun did => ⟨world, past, List.suffix_cons _ _, begun, second did id found⟩⟩

end Paces

section Mutation
variable {call : Call H} {world opened ended : World H} {past later : List (World H)}
  {registrar : RegistrarId} {key : Key}
  (returned : (notify (discipline.announced call) registrar key .willChange).run world =
    (.ok (), opened))
  (kept : opened ::
    (notify (discipline.announced call) registrar key .willChange).history world past <:+
      ended :: later)
  (since : ledger.InProgressSince (registrar, key) (world :: past) (ended :: later))
include returned kept since

private theorem Paced.heard (answers : ∀ callback event, Evolves discipline (call callback event))
    (paced : Paced ledger (world :: past)) (settled : world.Settled)
    (evolution : Evolution discipline (ended :: later)) {id : SessionId}
    (found : .session id registrar .didChange ∈ ended.tracker.snapshot registrar key .didChange)
    (armed : ArmedApart ledger (ended :: later) id) : .willChange ∈ ended.phases id := by
  have started := Act.suffix_history (notify (discipline.announced call) registrar key .willChange)
    world past
  rw [returned] at started
  have waits := (evolution.inStep ended List.mem_cons_self).awaits_of_mem_snapshot found
  have running : (ended.tracker.session id).status ≠ .cancelled := by simp [waits.1]
  have read := evolution.told_read ⟨ended, List.mem_cons_self, registrar, .didChange, found⟩
  obtain ⟨earlier, rest, moment, both⟩ :=
    armed.before_mutation evolution (started.trans kept) read since
  have order := paced.evolution.later_of_mem (moment.subset List.mem_cons_self)
  have passed : world ∈ ended :: later := (started.trans kept).subset List.mem_cons_self
  -- When the mutation began, the session waited for will-change and was told, or it had had it before.
  rcases order.awaited id .willChange (both _) with awaits | done
  · have inStep := paced.evolution.inStep world List.mem_cons_self
    have present := evolution.found_before passed (.of_installed awaits.1) found
    have listed := (paced.paired world List.mem_cons_self).found inStep awaits present
    have done := notify_done answers paced.evolution settled (by rw [returned]) listed awaits
    rw [returned] at done
    have last := evolution.later_of_mem (kept.subset List.mem_cons_self)
    exact (done.later last).2.resolve_right running
  · have created := Nat.lt_of_lt_of_le (both .willChange).index_lt order.size
    have done : world.Done id .willChange := ⟨created, done⟩
    exact (done.later (evolution.later_of_mem passed)).2.resolve_right running

end Mutation

namespace Paces
variable {α : Type}

theorem step {change : World H → α × World H}
    (quiet : ∀ world, QuietMove ledger world (change world).2) :
    Paces ledger (.step change .done) := by
  intro world past paced settled
  have move := (quiet world).move (world :: past)
  have paired := (quiet world).paired (paced.evolution.inStep world List.mem_cons_self)
    (paced.paired world List.mem_cons_self)
  exact ⟨paced.move settled move paired, move.settled settled⟩

theorem onThreadState (change : ThreadState → α × ThreadState) :
    Paces ledger (Act.onThreadState change : Act H α) := step fun _ => .thread _

theorem mark (mark : Mark) : Paces ledger (Act.note (ledger.note mark)) := by
  intro world past paced settled
  have move : Move discipline (world :: past) world (world.hear (ledger.note mark)) :=
    .own (Ledger.own_hear world mark)
  exact ⟨paced.move settled move (paced.paired world List.mem_cons_self), move.settled settled⟩

section Mutation
variable {call : Call H} {body act : Act H α} {world : World H} {past : List (World H)}

private theorem whileUnwinding (paced : Paced ledger (world :: past)) (settled : world.Settled)
    (inside : act.Carries (Paced ledger) world.unwindingNow (world :: past)) :
    act.whileUnwinding.Carries (Paced ledger) world past := by
  refine (onThreadState _ world past paced settled).bind fun before after ending _ _ => ?_
  cases ending
  exact inside.ensuring (onThreadState _)

variable (answers : ∀ callback event, Mutator ledger (call callback event))
  (paces : ∀ callback event, Paces ledger (call callback event))
  (nests : body.Nests ledger) (inside : Paces ledger body) (registrar : RegistrarId) (key : Key)
include answers paces nests inside

private theorem withMutation (paced : Paced ledger (world :: past)) (settled : world.Settled)
    (begun : (registrar, key) ∈ ledger.inProgress world) :
    (withMutation (discipline.announced call) registrar key body).Carries (Paced ledger) world
      past := by
  have evolves := fun callback event => (answers callback event).composed.evolves
  have nested := fun callback event => (answers callback event).nests
  have through := (Act.Nests.notify nested registrar key .willChange).bind fun _ => nests.attempt
  refine (notify paces paced settled registrar key .willChange nofun).bind
    fun _ opened returned paced' settled' => ?_
  refine Act.Carries.bind (Act.Keeps.attempt inside opened _ paced' settled')
    fun result ended ran closing idle => ?_
  have since := through.since past begun
  have same := (through world).1
  rw [Act.run_bind_ok returned, ran] at since same
  rw [Act.history_bind_ok returned] at since
  have kept := Act.suffix_history body.attempt opened
    ((ChangeTracking.notify (discipline.announced call) registrar key .willChange).history world past)
  rw [ran] at kept
  cases result with
  | ok value =>
    have last := notify paces closing idle registrar key .didChange fun _ id =>
      paced.heard returned kept since evolves settled closing.evolution
    exact last.bind fun _ after _ => Act.Keeps.done value after _
  | error panic =>
    -- The panic is put off until the notification at the end is through.
    have unwinds : Paced ledger (ended.unwindingNow :: ended :: _) :=
      closing.move idle (.thread _) (closing.paired ended List.mem_cons_self)
    have still : ledger.inProgress ended.unwindingNow = ledger.inProgress world :=
      (Ledger.inProgress_of_log_eq rfl).trans same
    have last := notify paces unwinds (idle.of_log_eq rfl) registrar key .didChange fun _ id =>
      paced.heard returned (kept.trans (List.suffix_cons _ _)) (since.cons (still ▸ begun)) evolves
        settled unwinds.evolution
    exact (whileUnwinding closing idle last).bind fun _ after _ => Act.Keeps.unwind panic after _

theorem mutation : Paces ledger (ledger.mutation call registrar key body) := by
  intro world past paced settled
  refine (mark _ world past paced settled).bind fun _ begun ending marked idle => ?_
  obtain rfl : world.hear (ledger.note (.begun registrar key)) = begun := congrArg Prod.snd ending
  have inProgress : (registrar, key) ∈
      ledger.inProgress (world.hear (ledger.note (.begun registrar key))) := by
    rw [Ledger.inProgress_hear]
    exact List.mem_cons_self
  exact (withMutation answers paces nests inside registrar key marked idle inProgress).ensuring
    (mark _)

end Mutation

end Paces

/-- Every run of a program that reports changes by mutations only keeps the phases in order. -/
theorem Mutator.paces {α : Type} {act : Act H α} (mutator : Mutator ledger act) :
    Paces ledger act := by
  induction mutator with
  | done value => exact Act.Keeps.done value
  | unwind panic => exact Act.Keeps.unwind panic
  | step quiet => exact .step quiet
  | bind _ _ first second => exact Act.Keeps.bind first second
  | attempt _ body => exact Act.Keeps.attempt body
  | mutation answers body registrar key paces inside =>
    exact .mutation answers paces body.nests inside registrar key

/-- A session that was armed for both phases while none of its properties was being mutated has its
callback for will-change called before the one for did-change, and each of them once. -/
theorem Mutator.phases_in_order {α : Type} {act : Act H α} (mutator : Mutator ledger act)
    (host : H.State) {id : SessionId}
    (armed : ArmedApart ledger (act.trail (World.initial host)) id) {world : World H}
    (passed : world ∈ act.trail (World.initial host)) :
    (world.callsOf discipline id).map (·.event.phase) <+: [.willChange, .didChange] := by
  have paced := (mutator.paces _ _ (.start host) (fun _ _ _ _ => by simp [World.initial])).1
  have last := paced.ordered _ _ (List.suffix_refl _) id armed
  have phases : (world.callsOf discipline id).map (·.event.phase) <+: world.phases id := by
    rw [World.phases, (paced.evolution.answered_of_mem passed).fired id, List.map_append,
      List.map_map]
    exact List.prefix_append _ _
  have order := paced.evolution.later_of_mem passed
  exact phases.trans (((order.firings id).map _).trans last)

/-- A host whose callbacks are numbers, and whose notes tell of calls and mutations. -/
def Host.marking : Host := ⟨Nat, Sum (Nat × ChangeEvent) Mark, Unit⟩

def Discipline.marking : Discipline Host.marking where
  note callback event := .inl (callback, event)
  heard := Sum.getLeft?
  heard_note _ _ := rfl
  direct _ := True

def Ledger.marking : Ledger Discipline.marking where
  note := .inr
  mark? := Sum.getRight?
  mark?_note _ := rfl
  mark?_call _ _ := rfl
  heard_note _ := rfl

def trackAndPanic : Act Host.marking Unit := do
  let registrar ← Act.track (·.createRegistrar)
  let _ ← trackSession (access registrar ⟨"a"⟩) ⟨some (0 : Nat), some (1 : Nat)⟩
  Ledger.marking.mutation (fun _ _ => pure ()) registrar ⟨"a"⟩ (.unwind ⟨"stop"⟩)

theorem mutator_trackAndPanic : Mutator Ledger.marking trackAndPanic :=
  (Mutator.step fun _ => .createRegistrar).bind fun registrar =>
    (Mutator.trackSession (.onThreadState _) _).bind fun _ =>
      .mutation (fun _ _ => .done ()) (.unwind _) registrar _

/-- The session hears of both phases, though the mutation panics. -/
theorem Mutator.phases_in_order_of_trackAndPanic :
    ((trackAndPanic.run (World.initial ())).2.callsOf Discipline.marking ⟨0⟩).map
        (·.event.phase) = [.willChange, .didChange] ∧
      ArmedApart Ledger.marking (trackAndPanic.trail (World.initial ())) ⟨0⟩ ∧
      ((trackAndPanic.run (World.initial ())).2.callsOf Discipline.marking ⟨0⟩).map
        (·.event.phase) <+: [.willChange, .didChange] := by
  have armed : ArmedApart Ledger.marking (trackAndPanic.trail (World.initial ())) ⟨0⟩ := by
    refine ⟨_, _, _, List.drop_suffix 10 (trackAndPanic.trail (World.initial ())), ?_, ?_, ?_⟩
    · decide
    · intro phase
      cases phase <;> exact ⟨by decide, by decide⟩
    · intro registrar key member
      cases member
  exact ⟨by decide, armed,
    mutator_trackAndPanic.phases_in_order () armed List.mem_cons_self⟩

end ChangeTracking
