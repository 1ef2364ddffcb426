import ChangeTracking.Proofs.Bystanders
import ChangeTracking.Proofs.TrackedReads

/-! Callbacks that track again. Each callback of a chain does nothing but track the same reads with
the next one. The session that it arms stands in the tables while the notification that called it
still runs, but this notification does not reach it: each change that hits calls one callback of the
chain, until there is none left. -/
namespace ChangeTracking
variable {H : Host} {discipline : Discipline H}

/-- Tracks reads with a callback, if there is one. -/
def rearm (reads : List Read) : Option H.Callback → Act H Unit
  | none => pure ()
  | some callback => trackWillChange (readEach reads) callback

/-- A call that reports a change: a mutation with its body, or only the notice that there will be
one. -/
structure Change (discipline : Discipline H) where
  registrar : RegistrarId
  key : Key
  body : Option (Bystander discipline)

namespace Change

/-- What is reported before the change. -/
def event (change : Change discipline) : ChangeEvent :=
  ⟨change.registrar, change.key, .willChange⟩

def isHit (reads : List Read) (change : Change discipline) : Bool :=
  (change.registrar, change.key) ∈ reads

def perform (call : Call H) (change : Change discipline) : Act H Unit :=
  match change.body with
  | none => notify (discipline.announced call) change.registrar change.key .willChange
  | some body => withMutation (discipline.announced call) change.registrar change.key body.act

def performAll (call : Call H) : List (Change discipline) → Act H Unit
  | [] => pure ()
  | change :: rest => do
    change.perform call
    performAll call rest

end Change

namespace World
variable {start world after : World H} {reads : List Read} {count : Nat}
  {waiting : Option H.Callback}

/-- A world in which, since a start, sessions over the same reads have fired one after the other, and
one more waits if there is a callback for it. -/
structure Rearmed (start : World H) (reads : List Read) (count : Nat)
    (waiting : Option H.Callback) (world : World H) : Prop where
  due : world.due = none
  inStep : world.tracker.InStep
  isLive : ∀ id, world.tracker.isLive id = start.tracker.isLive id
  size : world.tracker.sessions.size =
    start.tracker.sessions.size + count + waiting.toList.length
  fired : ∀ index < count,
    (world.tracker.session ⟨start.tracker.sessions.size + index⟩).status = .fired
  waits : ∀ callback, waiting = some callback →
    (world.tracker.session ⟨start.tracker.sessions.size + count⟩).status = .installed ∧
      (world.tracker.session ⟨start.tracker.sessions.size + count⟩).callbacks =
        ⟨some callback, none⟩
  subscriptions : ∀ id, start.tracker.isLive id = true → ∃ number,
    (world.tracker.table id).subscriptions = (start.tracker.table id).subscriptions ++
      if waiting.isSome ∧ id ∈ reads.map (·.1)
      then [⟨number, .willChange, (AccessList.ofReads reads).keys id,
        .session ⟨start.tracker.sessions.size + count⟩ id .willChange⟩]
      else []

namespace Rearmed

theorem nothing (idle : start.due = none) (inStep : start.tracker.InStep) :
    start.Rearmed reads 0 none start where
  due := idle
  inStep := inStep
  isLive _ := rfl
  size := rfl
  fired _ below := absurd below (Nat.not_lt_zero _)
  waits _ waiting := by cases waiting
  subscriptions _ _ := ⟨0, by simp⟩

theorem of_tracker_eq (rearmed : start.Rearmed reads count waiting world)
    (tracker : after.tracker = world.tracker) (due : after.due = none) :
    start.Rearmed reads count waiting after where
  due := due
  inStep := tracker ▸ rearmed.inStep
  isLive := tracker ▸ rearmed.isLive
  size := tracker ▸ rearmed.size
  fired := tracker ▸ rearmed.fired
  waits := tracker ▸ rearmed.waits
  subscriptions := tracker ▸ rearmed.subscriptions

theorem rearm (discipline : Discipline H) (rearmed : start.Rearmed reads count none world)
    (waiting : Option H.Callback) :
    ∃ after, (rearm reads waiting).run world = (.ok (), after) ∧
      after.calls discipline = world.calls discipline ∧
      start.Rearmed reads count waiting after := by
  cases waiting with
  | none => exact ⟨world, rfl, rfl, rearmed⟩
  | some callback =>
    have size : world.tracker.sessions.size = start.tracker.sessions.size + count := rearmed.size
    have armed : start.Rearmed reads count (some callback) (world.tracked reads callback) := by
      refine ⟨due_tracked .., inStep_tracked _ _ rearmed.inStep, ?_, ?_, ?_, ?_, ?_⟩
      · intro id
        rw [isLive_tracked _ _ rearmed.inStep, rearmed.isLive]
      · rw [size_tracked, size]
        rfl
      · intro index below
        have other : start.tracker.sessions.size + index ≠ world.tracker.sessions.size := by omega
        rw [session_tracked_of_ne _ _ other]
        exact rearmed.fired index below
      · intro same waiting
        cases waiting
        rw [← size]
        exact session_tracked ..
      · intro id live
        obtain ⟨_, before⟩ := rearmed.subscriptions id live
        refine ⟨(world.tracker.table id).nextId, ?_⟩
        rw [subscriptions_tracked _ _ rearmed.inStep ((rearmed.isLive id).trans live), before, size]
        by_cases read : id ∈ reads.map (·.1) <;> simp [read]
    exact ⟨(world.tracked reads callback).gained reads,
      run_trackWillChange rfl (run_readEach reads world.recordingAnew) callback,
      calls_tracked .., armed.of_tracker_eq rfl armed.due⟩

theorem fire {callback : H.Callback} (inStep : start.tracker.InStep)
    (rearmed : start.Rearmed reads count (some callback) world)
    (event : ChangeEvent) (phase : event.phase = .willChange) :
    ∃ firing, world.tracker.fire? ⟨start.tracker.sessions.size + count⟩ event = some firing ∧
      firing.callback = callback ∧
      ((world.advance (some firing.report) firing.tracker).hear
          (discipline.note callback event)).calls discipline = world.calls discipline ++
        [⟨some ⟨start.tracker.sessions.size + count⟩, callback, event⟩] ∧
      start.Rearmed reads (count + 1) none
        ((world.advance (some firing.report) firing.tracker).hear
          (discipline.note callback event)) := by
  obtain ⟨installed, callbacks⟩ := rearmed.waits callback rfl
  have awaits : world.tracker.Awaits ⟨start.tracker.sessions.size + count⟩ event.phase :=
    ⟨installed, by rw [callbacks, phase]; rfl⟩
  have last : (world.tracker.session ⟨start.tracker.sessions.size + count⟩).isLast event.phase =
      true := by rw [Session.isLast, callbacks, phase]; rfl
  rcases due : world.tracker.fire? ⟨start.tracker.sessions.size + count⟩ event with _ | firing
  · exact absurd awaits (Tracker.fire?_eq_none_iff.mp due)
  · have fired := Tracker.of_fire? due
    have mine : some callback = some firing.callback := by
      rw [← fired.callback, callbacks, phase]
      rfl
    obtain ⟨removed, report⟩ := fired.report
    obtain ⟨totals, left⟩ := fired.tracker
    refine ⟨firing, rfl, (Option.some.inj mine).symm, ?_, ?_⟩
    · rw [report]
      exact calls_hear ..
    · refine ⟨due_hear .., rearmed.inStep.fire fired, ?_, ?_, ?_, ?_, ?_⟩
      · intro id
        exact (rearmed.inStep.isLive_fire fired id).trans (rearmed.isLive id)
      · exact fired.size.trans rearmed.size
      · intro index below
        refine (congrArg Session.status (fired.session _)).trans ?_
        split
        · simp [Session.fire, last]
        · rename_i other
          have earlier : index ≠ count := by
            rintro rfl
            exact other rfl
          exact rearmed.fired index (by omega)
      · intro _ none
        cases none
      · intro id live
        obtain ⟨number, before⟩ := rearmed.subscriptions id live
        refine ⟨number, ?_⟩
        have after : (firing.tracker.table id).subscriptions = _ :=
          rearmed.inStep.subscriptions_fire fired id
        have kept : (start.tracker.table id).subscriptions.filter (fun subscription =>
            !subscription.perceiver.isFor ⟨start.tracker.sessions.size + count⟩ event.phase) =
            (start.tracker.table id).subscriptions := by
          apply List.filter_eq_self.mpr
          intro subscription member
          rcases perceiver : subscription.perceiver with callback | ⟨other, source, wanted⟩
          · rfl
          · obtain ⟨_, _, holds, _⟩ :=
              inStep.owned id subscription member other source wanted perceiver
            have old := Tracker.Awaits.index_lt ((inStep.sessions other).waits_of_holds holds)
            have different : other ≠ ⟨start.tracker.sessions.size + count⟩ := by
              rintro rfl
              exact absurd old (Nat.not_lt.mpr (Nat.le_add_right ..))
            simp [Perceiver.isFor, different]
        refine after.trans ?_
        rw [before, List.filter_append, kept]
        split <;> simp [Perceiver.isFor, phase]

/-- A notification finds the session that waits, behind all who were there at the start. -/
theorem snapshot (inStep : start.tracker.InStep)
    (rearmed : start.Rearmed reads count waiting world) {registrar : RegistrarId}
    (live : start.tracker.isLive registrar = true) (key : Key) (phase : Phase) :
    world.tracker.snapshot registrar key phase = start.tracker.snapshot registrar key phase ++
      if waiting.isSome ∧ (registrar, key) ∈ reads ∧ phase = .willChange
      then [.session ⟨start.tracker.sessions.size + count⟩ registrar .willChange] else [] := by
  have covers : key ∈ (AccessList.ofReads reads).keys registrar ↔ (registrar, key) ∈ reads :=
    AccessList.mem_keys_ofReads
  obtain ⟨number, subscriptions⟩ := rearmed.subscriptions registrar live
  rw [Tracker.snapshot, (inStep.sound.tables registrar).snapshot_append
    (rearmed.inStep.sound.tables registrar) subscriptions]
  congr 1
  by_cases read : (registrar, key) ∈ reads
  · have touched : registrar ∈ reads.map (·.1) := List.mem_map_of_mem (f := (·.1)) read
    cases waiting <;> cases phase <;> simp [covers, read, touched]
  · have unread : ¬ (waiting.isSome ∧ (registrar, key) ∈ reads ∧ phase = .willChange) :=
      fun all => read all.2.1
    rw [if_neg unread]
    split <;> simp [covers, read]

theorem snapshot_eq_nil (inStep : start.tracker.InStep)
    (rearmed : start.Rearmed reads count waiting world) {registrar : RegistrarId} {key : Key}
    {phase : Phase} (unobserved : start.tracker.snapshot registrar key phase = [])
    (other : ¬ (waiting.isSome ∧ (registrar, key) ∈ reads ∧ phase = .willChange)) :
    world.tracker.snapshot registrar key phase = [] := by
  by_cases live : start.tracker.isLive registrar = true
  · rw [rearmed.snapshot inStep live, unobserved, if_neg other]
    rfl
  · have gone : world.tracker.isLive registrar = false :=
      (rearmed.isLive registrar).trans (by simpa using live)
    rw [Tracker.snapshot, (rearmed.inStep.sound.tables registrar).snapshot_eq,
      rearmed.inStep.sound.gone registrar gone]
    rfl

end Rearmed
end World

/-- The call that a hit leads to after a number of others: that of the next callback of the chain, on
behalf of the session that was armed with it. -/
def nextCall (start : World H) (chain : List H.Callback) (hits : Nat) (event : ChangeEvent) :
    Option (Invocation H.Callback) :=
  chain[hits]?.map fun callback =>
    ⟨some ⟨start.tracker.sessions.size + hits⟩, callback, event⟩

section Chain
variable {start world : World H} {reads : List Read} {chain : List H.Callback} {call : Call H}
  {hits : Nat} {registrar : RegistrarId} {key : Key}
  (inStep : start.tracker.InStep)
  (live : ∀ read ∈ reads, start.tracker.isLive read.1 = true)
  (answers : ∀ index callback, chain[index]? = some callback → ∀ event,
    call callback event = rearm reads chain[index + 1]?)
  (rearmed : start.Rearmed reads (min chain.length hits) chain[hits]? world)
include inStep live answers rearmed

private theorem notify_hit (unobserved : start.tracker.snapshot registrar key .willChange = [])
    (hit : (registrar, key) ∈ reads) :
    ∃ after, (notify (discipline.announced call) registrar key .willChange).run world =
        (.ok (), after) ∧
      after.calls discipline = world.calls discipline ++
        (nextCall start chain hits ⟨registrar, key, .willChange⟩).toList ∧
      start.Rearmed reads (min chain.length (hits + 1)) chain[hits + 1]? after := by
  rcases next : chain[hits]? with _ | callback
  · have long : chain.length ≤ hits := List.getElem?_eq_none_iff.mp next
    have nobody := rearmed.snapshot_eq_nil inStep unobserved (by simp [next])
    refine ⟨world, run_notify_of_nobody nobody, by simp [nextCall, next], ?_⟩
    rw [next, Nat.min_eq_left long] at rearmed
    rw [Nat.min_eq_left (Nat.le_succ_of_le long),
      List.getElem?_eq_none_iff.mpr (Nat.le_succ_of_le long)]
    exact rearmed
  · obtain ⟨short, _⟩ := List.getElem?_eq_some_iff.mp next
    rw [next, Nat.min_eq_right (Nat.le_of_lt short)] at rearmed
    have found : world.tracker.snapshot registrar key .willChange =
        [.session ⟨start.tracker.sessions.size + hits⟩ registrar .willChange] := by
      rw [rearmed.snapshot inStep (live _ hit), unobserved]
      simp [hit]
    have begun : start.Rearmed reads hits (some callback)
        (world.notified registrar key .willChange) :=
      rearmed.of_tracker_eq rfl (World.due_notified rearmed.due ..)
    obtain ⟨firing, due, rfl, calls, fired⟩ :=
      begun.fire inStep ⟨registrar, key, .willChange⟩ rfl
    obtain ⟨after, run, quiet, armed⟩ := fired.rearm discipline chain[hits + 1]?
    have told : (deliver (discipline.announced call) ⟨registrar, key, .willChange⟩
        (.session ⟨start.tracker.sessions.size + hits⟩ registrar .willChange)).run
          (world.notified registrar key .willChange) = (.ok (), after) := by
      refine (run_fire_some due).trans ?_
      rw [Discipline.announced, answers hits firing.callback next]
      exact run
    refine ⟨after, ?_, ?_, ?_⟩
    · rw [run_notify, found]
      exact Act.run_bind_ok told
    · rw [quiet, calls, World.calls_notified]
      simp [nextCall, next]
    · rwa [Nat.min_eq_right short]

private theorem notify_willChange (change : Change discipline)
    (unobserved : start.tracker.snapshot change.registrar change.key .willChange = []) :
    ∃ after, (notify (discipline.announced call) change.registrar change.key .willChange).run world =
        (.ok (), after) ∧
      after.calls discipline = world.calls discipline ++
        (if change.isHit reads then nextCall start chain hits change.event else none).toList ∧
      start.Rearmed reads (min chain.length (hits + (change.isHit reads).toNat))
        chain[hits + (change.isHit reads).toNat]? after := by
  by_cases hit : (change.registrar, change.key) ∈ reads
  · simpa [Change.isHit, Change.event, hit] using
      notify_hit inStep live answers rearmed unobserved hit
  · have nobody := rearmed.snapshot_eq_nil inStep unobserved fun all => hit all.2.1
    refine ⟨world, run_notify_of_nobody nobody, ?_, ?_⟩
    · simp [Change.isHit, hit]
    · simpa [Change.isHit, hit] using rearmed

/-- A change calls the next callback of the chain if it hits, and nobody otherwise. -/
theorem Change.perform_rearmed (change : Change discipline)
    (unobserved : ∀ phase, start.tracker.snapshot change.registrar change.key phase = []) :
    ∃ after, (change.perform call).run world = (.ok (), after) ∧
      after.calls discipline = world.calls discipline ++
        (if change.isHit reads then nextCall start chain hits change.event else none).toList ∧
      start.Rearmed reads (min chain.length (hits + (change.isHit reads).toNat))
        chain[hits + (change.isHit reads).toNat]? after := by
  obtain ⟨middle, first, calls, armed⟩ :=
    notify_willChange inStep live answers rearmed change (unobserved .willChange)
  unfold perform
  split
  · exact ⟨middle, first, calls, armed⟩
  · rename_i body _
    obtain ⟨returned, own⟩ := body.inert middle
    have kept := armed.of_tracker_eq own.1 (own.due armed.due)
    have nobody := kept.snapshot_eq_nil inStep (unobserved .didChange) fun all => nomatch all.2.2
    have attempted : body.act.attempt.run middle = (.ok (.ok ()), (body.act.run middle).2) := by
      rw [Act.run_attempt, returned]
    refine ⟨(body.act.run middle).2, ?_, by rw [own.calls, calls], kept⟩
    rw [withMutation, Act.run_bind_ok first, Act.run_bind_ok attempted]
    exact Act.run_bind_ok (run_notify_of_nobody nobody)

/-- After any changes, as many sessions have fired as there were hits, up to the end of the chain. -/
theorem Change.performAll_rearmed (changes : List (Change discipline))
    (unobserved : ∀ change ∈ changes, ∀ phase,
      start.tracker.snapshot change.registrar change.key phase = []) :
    ∃ after, (performAll call changes).run world = (.ok (), after) ∧
      start.Rearmed reads (min chain.length (hits + changes.countP (·.isHit reads)))
        chain[hits + changes.countP (·.isHit reads)]? after := by
  induction changes generalizing hits world with
  | nil => exact ⟨world, rfl, rearmed⟩
  | cons change rest ih =>
    obtain ⟨middle, first, _, armed⟩ :=
      change.perform_rearmed inStep live answers rearmed (unobserved change (by simp))
    obtain ⟨after, later, done⟩ := ih armed fun other member => unobserved other (by simp [member])
    have count : hits + (change :: rest).countP (·.isHit reads) =
        hits + (change.isHit reads).toNat + rest.countP (·.isHit reads) := by
      rw [List.countP_cons]
      cases change.isHit reads
      · simp
      · simp only [if_true, Bool.toNat_true]
        omega
    rw [count]
    exact ⟨after, (Act.run_bind_ok first).trans later, done⟩

end Chain

/-- A chain of callbacks, each of which tracks the same reads again with the next one: whatever was
changed since the first was armed, a change of what is read calls the next callback of the chain, and
no other; any other change, and any change after the end of the chain, calls nobody. Meanwhile those
sessions that were hit have fired, the last one waits with one subscription at each registrar that was
read from, and nothing else is left of the chain. -/
theorem Reachable.rearming {start : World H} (reachable : Reachable discipline start)
    {call : Call H} {reads : List Read} {chain : List H.Callback}
    (live : ∀ read ∈ reads, start.tracker.isLive read.1 = true)
    (answers : ∀ index callback, chain[index]? = some callback → ∀ event,
      call callback event = rearm reads chain[index + 1]?)
    (earlier : List (Change discipline)) (change : Change discipline)
    (unobserved : ∀ reported ∈ change :: earlier, ∀ phase,
      start.tracker.snapshot reported.registrar reported.key phase = []) :
    let hits := earlier.countP (·.isHit reads)
    ∃ before after,
      (do rearm reads chain[0]?; Change.performAll call earlier).run start = (.ok (), before) ∧
      start.Rearmed reads (min chain.length hits) chain[hits]? before ∧
      (change.perform call).run before = (.ok (), after) ∧
      after.calls discipline = before.calls discipline ++
        (if change.isHit reads then nextCall start chain hits change.event else none).toList := by
  obtain ⟨past, evolution⟩ := reachable.evolution
  obtain ⟨_, _, _, _, _, idle⟩ := reachable
  have inStep := evolution.inStep start List.mem_cons_self
  obtain ⟨armed, first, _, rearmed⟩ :=
    (World.Rearmed.nothing idle inStep).rearm discipline chain[0]?
  have rearmed : start.Rearmed reads (min chain.length 0) chain[0]? armed := by
    rwa [Nat.min_zero]
  obtain ⟨before, later, kept⟩ := Change.performAll_rearmed inStep live answers rearmed earlier
    fun other member => unobserved other (by simp [member])
  rw [Nat.zero_add] at kept
  obtain ⟨after, run, calls, _⟩ :=
    change.perform_rearmed inStep live answers kept (unobserved change (by simp))
  exact ⟨before, after, (Act.run_bind_ok first).trans later, kept, run, calls⟩

/-- Two callbacks for two keys of one registrar: each number tracks both keys again with the number
after it. -/
def readBoth : List Read := [(⟨0⟩, ⟨"a"⟩), (⟨0⟩, ⟨"b"⟩)]

def twoCallbacks : List Host.plain.Callback := [(0 : Nat), (1 : Nat)]

def rearmNext : Call Host.plain := fun callback _ => rearm readBoth twoCallbacks[Nat.succ callback]?

/-- A change that hits, and one that does not. -/
def firstChanges : List (Change Discipline.plain) := [⟨⟨0⟩, ⟨"a"⟩, some .idle⟩, ⟨⟨0⟩, ⟨"c"⟩, none⟩]

/-- The next change that hits calls the second callback. -/
theorem Reachable.rearming_of_readBoth :
    (∀ read ∈ readBoth, oneRegistrar.tracker.isLive read.1 = true) ∧
      (∀ index callback, twoCallbacks[index]? = some callback → ∀ event,
        rearmNext callback event = rearm readBoth twoCallbacks[index + 1]?) ∧
      ∃ before after,
        (do rearm readBoth twoCallbacks[0]?; Change.performAll rearmNext firstChanges).run
            oneRegistrar = (.ok (), before) ∧
          oneRegistrar.Rearmed readBoth 1 (some (1 : Nat)) before ∧
          ((⟨⟨0⟩, ⟨"b"⟩, none⟩ : Change Discipline.plain).perform rearmNext).run before =
            (.ok (), after) ∧
          after.calls Discipline.plain = before.calls Discipline.plain ++
            [⟨some ⟨1⟩, (1 : Nat), ⟨⟨0⟩, ⟨"b"⟩, .willChange⟩⟩] := by
  have live : ∀ read ∈ readBoth, oneRegistrar.tracker.isLive read.1 = true := by decide
  have answers : ∀ index callback, twoCallbacks[index]? = some callback → ∀ event,
      rearmNext callback event = rearm readBoth twoCallbacks[index + 1]? := by
    intro index callback found event
    match index with
    | 0 => cases found; rfl
    | 1 => cases found; rfl
    | _ + 2 => cases found
  have unobserved : ∀ change ∈ (⟨⟨0⟩, ⟨"b"⟩, none⟩ : Change Discipline.plain) :: firstChanges,
      ∀ phase, oneRegistrar.tracker.snapshot change.registrar change.key phase = [] :=
    fun _ _ _ => snapshot_oneRegistrar ..
  exact ⟨live, answers,
    reachable_oneRegistrar.rearming live answers firstChanges ⟨⟨0⟩, ⟨"b"⟩, none⟩ unobserved⟩

end ChangeTracking
