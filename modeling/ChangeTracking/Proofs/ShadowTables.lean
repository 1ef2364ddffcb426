import ChangeTracking.Proofs.ShadowSessions

namespace ChangeTracking

section Places
variable {α : Type} {property : Nat → α → Prop} {list : List α}

theorem forall_getElem?_concat {last : α}
    (old : ∀ index item, list[index]? = some item → property index item)
    (new : property list.length last) (index : Nat) (item : α)
    (found : (list ++ [last])[index]? = some item) : property index item := by
  rw [List.getElem?_append] at found
  split at found
  · exact old index item found
  · rename_i outside
    rw [List.getElem?_singleton] at found
    split at found
    · have here : index = list.length := by omega
      cases found
      exact here ▸ new
    · cases found

theorem forall_getElem?_set {place : Nat} {other : α}
    (old : ∀ index item, index ≠ place → list[index]? = some item → property index item)
    (new : property place other) (index : Nat) (item : α)
    (found : (list.set place other)[index]? = some item) : property index item := by
  rw [List.getElem?_set] at found
  split at found
  · rename_i here
    subst here
    split at found
    · cases found
      exact new
    · cases found
  · rename_i elsewhere
    exact old index item (Ne.symm elsewhere) found

private theorem countP_set_add (counts : α → Bool) {index : Nat} {old : α} (new : α)
    (found : list[index]? = some old) :
    (list.set index new).countP counts + (counts old).toNat =
      list.countP counts + (counts new).toNat := by
  induction list generalizing index with
  | nil => cases found
  | cons head rest ih =>
    cases index with
    | zero =>
      cases found
      cases last : counts old <;> cases next : counts new <;> simp [last, next]
    | succ index =>
      rw [List.set_cons_succ, List.countP_cons, List.countP_cons, Nat.add_right_comm, ih found]
      omega

end Places

variable {n : Nat} {κ : Type}

def Shadow.pendingPhases (shadow : Shadow n) : List Phase :=
  [.willChange, .didChange].filter fun phase => shadow.pending phase

/-- Those who wait at a registrar on behalf of one session. -/
def Tracked.perceivers (registrar : Fin n) (index : Nat) (tracked : Tracked n κ) :
    List (Perceiver κ) :=
  if tracked.shadow.touches registrar
  then tracked.shadow.pendingPhases.map (.session ⟨index⟩ ⟨registrar⟩ ·) else []

/-- Those who wait at a registrar, for sessions that are numbered on from an index. -/
def waitingFrom (registrar : Fin n) : Nat → List (Tracked n κ) → List (Perceiver κ)
  | _, [] => []
  | index, tracked :: rest =>
    tracked.perceivers registrar index ++ waitingFrom registrar (index + 1) rest

section Waiting
variable {registrar : Fin n} {start : Nat} {sessions : List (Tracked n κ)}

theorem mem_perceivers_iff {index : Nat} {tracked : Tracked n κ} {perceiver : Perceiver κ} :
    perceiver ∈ tracked.perceivers registrar index ↔
      ∃ phase, tracked.shadow.touches registrar = true ∧ tracked.shadow.pending phase = true ∧
        perceiver = .session ⟨index⟩ ⟨registrar⟩ phase := by
  unfold Tracked.perceivers
  split
  · rename_i touched
    simp only [Shadow.pendingPhases, List.mem_map, List.mem_filter, touched, true_and, eq_comm]
    apply exists_congr
    intro phase
    cases phase <;> simp
  · rename_i other
    simp [other]

theorem mem_waitingFrom_iff {perceiver : Perceiver κ} :
    perceiver ∈ waitingFrom registrar start sessions ↔
      ∃ index tracked phase, sessions[index]? = some tracked ∧
        tracked.shadow.touches registrar = true ∧ tracked.shadow.pending phase = true ∧
          perceiver = .session ⟨start + index⟩ ⟨registrar⟩ phase := by
  induction sessions generalizing start with
  | nil => simp [waitingFrom]
  | cons head rest ih =>
    rw [waitingFrom, List.mem_append, mem_perceivers_iff, ih]
    constructor
    · rintro (⟨phase, touched, pending, rfl⟩ | ⟨index, tracked, phase, found, rest⟩)
      · exact ⟨0, head, phase, rfl, touched, pending, rfl⟩
      · refine ⟨index + 1, tracked, phase, found, ?_⟩
        rwa [Nat.add_right_comm] at rest
    · rintro ⟨index, tracked, phase, found, touched, pending, rfl⟩
      cases index with
      | zero =>
        cases found
        exact .inl ⟨phase, touched, pending, rfl⟩
      | succ index =>
        refine .inr ⟨index, tracked, phase, found, touched, pending, ?_⟩
        rw [Nat.add_right_comm, ← Nat.add_assoc]

theorem waitingFrom_append (more : List (Tracked n κ)) :
    waitingFrom registrar start (sessions ++ more) =
      waitingFrom registrar start sessions ++
        waitingFrom registrar (start + sessions.length) more := by
  induction sessions generalizing start with
  | nil => rfl
  | cons head rest ih =>
    rw [List.cons_append, waitingFrom, ih, waitingFrom, List.append_assoc, List.length_cons,
      Nat.add_right_comm, ← Nat.add_assoc]

theorem length_waitingFrom : (waitingFrom registrar start sessions).length =
    (sessions.map fun tracked =>
      if tracked.shadow.touches registrar then tracked.shadow.pendingCount else 0).sum := by
  induction sessions generalizing start with
  | nil => rfl
  | cons head rest ih =>
    rw [waitingFrom, List.length_append, ih, List.map_cons, List.sum_cons]
    congr 1
    unfold Tracked.perceivers
    split
    · rw [List.length_map, Shadow.pendingPhases, Shadow.pendingCount]
      cases will : head.shadow.pending .willChange <;>
        cases did : head.shadow.pending .didChange <;> simp [will, did]
    · rfl

private theorem filter_waitingFrom {mine : Perceiver κ → Bool} {id : SessionId}
    (own : ∀ perceiver, mine perceiver = true → perceiver.isOf id = true)
    (before : id.index < start) :
    (waitingFrom registrar start sessions).filter (fun perceiver => !mine perceiver) =
      waitingFrom registrar start sessions := by
  apply List.filter_eq_self.mpr
  intro perceiver member
  obtain ⟨index, _, phase, _, _, _, rfl⟩ := mem_waitingFrom_iff.mp member
  by_contra hit
  have same := own _ (by simpa using hit)
  rw [Perceiver.isOf, decide_eq_true_eq] at same
  have here : start + index = id.index := congrArg SessionId.index same
  omega

theorem filter_waitingFrom_set {mine : Perceiver κ → Bool} {index position : Nat}
    {tracked after : Tracked n κ} (found : sessions[index]? = some tracked)
    (shift : position = start + index)
    (own : ∀ perceiver, mine perceiver = true → perceiver.isOf ⟨position⟩ = true)
    (left : (tracked.perceivers registrar position).filter (fun perceiver => !mine perceiver) =
      after.perceivers registrar position) :
    (waitingFrom registrar start sessions).filter (fun perceiver => !mine perceiver) =
      waitingFrom registrar start (sessions.set index after) := by
  induction sessions generalizing start index with
  | nil => cases found
  | cons head rest ih =>
    cases index with
    | zero =>
      cases found
      obtain rfl : position = start := shift
      rw [waitingFrom, List.filter_append, left, filter_waitingFrom own (Nat.lt_succ_self _)]
      rfl
    | succ index =>
      have kept : (head.perceivers registrar start).filter (fun perceiver => !mine perceiver) =
          head.perceivers registrar start := by
        apply List.filter_eq_self.mpr
        intro perceiver member
        obtain ⟨phase, _, _, rfl⟩ := mem_perceivers_iff.mp member
        by_contra hit
        have same := own _ (by simpa using hit)
        rw [Perceiver.isOf, decide_eq_true_eq] at same
        have here : start = position := congrArg SessionId.index same
        omega
      rw [waitingFrom, List.filter_append, kept, ih found (by omega)]
      rfl

end Waiting

/-- How many sessions were installed with subscriptions, have fired and were cancelled. -/
def totalsOf (sessions : List (Tracked n κ)) : Totals where
  installed := sessions.countP fun tracked => tracked.shadow.reads.Nonempty
  fired := sessions.countP fun tracked => tracked.shadow.status = .fired
  cancelled := sessions.countP fun tracked => tracked.shadow.status = .cancelled

/-- A tracker that keeps what the model keeps, in its own way. -/
structure Mirrors (sessions : List (Tracked n κ)) (tracker : Tracker κ) : Prop where
  inStep : tracker.InStep
  live : ∀ registrar : Fin n, tracker.isLive ⟨registrar⟩ = true
  size : tracker.sessions.size = sessions.length
  sound : ∀ tracked ∈ sessions, tracked.Sound
  same : ∀ index tracked, sessions[index]? = some tracked →
    Matches tracked (tracker.session ⟨index⟩)
  perceivers : ∀ registrar : Fin n,
    (tracker.table ⟨registrar⟩).subscriptions.map (·.perceiver) =
      waitingFrom registrar 0 sessions
  totals : tracker.totals = totalsOf sessions

namespace Mirrors
variable {sessions : List (Tracked n κ)} {tracker : Tracker κ} {index : Nat}
  {tracked after : Tracked n κ}

private theorem set {next : Tracker κ} (mirrors : Mirrors sessions tracker)
    (found : sessions[index]? = some tracked) (inStep : next.InStep)
    (live : ∀ registrar, next.isLive registrar = tracker.isLive registrar)
    (size : next.sessions.size = tracker.sessions.size) (sound : after.Sound)
    (same : Matches after (next.session ⟨index⟩))
    (others : ∀ id : SessionId, id.index ≠ index → next.session id = tracker.session id)
    {mine : Perceiver κ → Bool}
    (subscriptions : ∀ registrar, (next.table registrar).subscriptions =
      (tracker.table registrar).subscriptions.filter fun subscription =>
        !mine subscription.perceiver)
    (own : ∀ perceiver, mine perceiver = true → perceiver.isOf ⟨index⟩ = true)
    (left : ∀ registrar : Fin n, (tracked.perceivers registrar index).filter (fun perceiver =>
      !mine perceiver) = after.perceivers registrar index)
    (totals : next.totals = totalsOf (sessions.set index after)) :
    Mirrors (sessions.set index after) next where
  inStep := inStep
  live registrar := (live _).trans (mirrors.live registrar)
  size := by rw [size, mirrors.size, List.length_set]
  sound other member := by
    rcases List.mem_or_eq_of_mem_set member with old | rfl
    · exact mirrors.sound other old
    · exact sound
  same := by
    apply forall_getElem?_set
    · intro position other elsewhere present
      rw [others ⟨position⟩ elsewhere]
      exact mirrors.same position other present
    · exact same
  perceivers registrar := by
    rw [subscriptions, ← filter_waitingFrom_set found (Nat.zero_add _).symm own (left registrar),
      ← mirrors.perceivers, List.filter_map]
    rfl
  totals := totals

private theorem totalsOf_set (found : sessions[index]? = some tracked)
    (reads : after.shadow.reads = tracked.shadow.reads)
    (running : tracked.shadow.status = .installed) :
    totalsOf (sessions.set index after) =
      ⟨(totalsOf sessions).installed,
        (totalsOf sessions).fired + (decide (after.shadow.status = .fired)).toNat,
        (totalsOf sessions).cancelled + (decide (after.shadow.status = .cancelled)).toNat⟩ := by
  have installed := countP_set_add (fun tracked : Tracked n κ =>
    decide tracked.shadow.reads.Nonempty) after found
  have fired := countP_set_add (fun tracked : Tracked n κ =>
    decide (tracked.shadow.status = .fired)) after found
  have cancelled := countP_set_add (fun tracked : Tracked n κ =>
    decide (tracked.shadow.status = .cancelled)) after found
  simp only [reads, Nat.add_right_cancel_iff] at installed
  simp only [running, reduceCtorEq, decide_false, Bool.toNat_false, Nat.add_zero] at fired cancelled
  rw [totalsOf, installed, fired, cancelled]
  rfl

theorem fire (mirrors : Mirrors sessions tracker) (found : sessions[index]? = some tracked)
    {event : ChangeEvent} {firing : Tracker.Firing κ}
    (fired : tracker.FiredBy ⟨index⟩ event firing)
    (pending : tracked.shadow.pending event.phase = true) :
    Mirrors (sessions.set index (tracked.deliver event)) firing.tracker := by
  have sound := mirrors.sound tracked (List.mem_of_getElem? found)
  have same := mirrors.same index tracked found
  have running := Shadow.status_of_pending pending
  have next : Matches (tracked.deliver event) (firing.tracker.session ⟨index⟩) := by
    rw [fired.session, if_pos rfl]
    exact same.deliver sound pending
  refine mirrors.set found (mirrors.inStep.fire fired) (mirrors.inStep.isLive_fire fired) fired.size
    (sound.deliver pending) next ?_
    (mirrors.inStep.subscriptions_fire fired)
    (fun perceiver mine => Perceiver.isOf_iff.mpr ⟨event.phase, mine⟩) ?_ ?_
  · intro id other
    rw [fired.session, if_neg (fun here => other (congrArg SessionId.index here))]
  · intro registrar
    unfold Tracked.perceivers
    by_cases touched : tracked.shadow.touches registrar = true
    · have after : (tracked.deliver event).shadow.touches registrar = true := touched
      rw [if_pos touched, if_pos after, List.filter_map]
      simp [Shadow.pendingPhases, Tracked.deliver, Shadow.pending_deliver, List.filter_filter,
        Perceiver.isFor, Function.comp_def, Bool.and_comm]
    · have after : ¬ (tracked.deliver event).shadow.touches registrar = true := touched
      rw [if_neg touched, if_neg after]
      rfl
  · have status := next.status
    rw [fired.session, if_pos rfl] at status
    have reads : (tracked.deliver event).shadow.reads = tracked.shadow.reads := rfl
    rw [fired.totals, totalsOf_set found reads running, ← status, mirrors.totals]
    by_cases last : (tracker.session ⟨index⟩).isLast event.phase = true <;>
      simp [Session.fire, last]

theorem cancel (mirrors : Mirrors sessions tracker) (found : sessions[index]? = some tracked)
    {report : TraceEvent} {next : Tracker κ} (ended : tracker.CancelledBy ⟨index⟩ report next)
    (live : tracked.shadow.live = true) :
    Mirrors (sessions.set index tracked.cancel) next := by
  have sound := mirrors.sound tracked (List.mem_of_getElem? found)
  have running := Shadow.live_iff.mp live
  have shadow : tracked.cancel.shadow = { tracked.shadow with cancelled := true } := by
    rw [Tracked.cancel, Shadow.cancel, if_pos live]
  obtain ⟨totals, left⟩ := ended.tracker
  refine mirrors.set found (mirrors.inStep.cancelSession ended) (fun registrar => ?_)
    (by simp [left]) sound.cancel ?_ (fun id other => ?_)
    (mirrors.inStep.subscriptions_cancelSession ended) (fun _ mine => mine)
    (fun registrar => ?_) ?_
  · have before : (tracker.setSession ⟨index⟩ (tracker.session ⟨index⟩).cancel).Sound :=
      ⟨mirrors.inStep.sound.tables, mirrors.inStep.sound.gone⟩
    rw [left]
    exact (Tracker.tearDown_removed before _).isLive registrar
  · rw [ended.session, if_pos rfl]
    exact (mirrors.same index tracked found).cancel live
  · rw [ended.session, if_neg (fun here => other (congrArg SessionId.index here))]
  · have none : tracked.cancel.perceivers registrar index = [] := by
      simp [Tracked.perceivers, Shadow.pendingPhases, shadow, Shadow.pending, Shadow.live]
    rw [none]
    apply List.filter_eq_nil_iff.mpr
    intro perceiver member
    obtain ⟨phase, _, _, rfl⟩ := mem_perceivers_iff.mp member
    simp [Perceiver.isOf]
  · rw [ended.totals, totalsOf_set found (by rw [shadow]) running, mirrors.totals]
    simp [shadow, Shadow.status]

end Mirrors
end ChangeTracking
