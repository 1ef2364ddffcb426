import ChangeTracking.Proofs.NotificationOrder

/-! A mutation brackets its body. All who are subscribed for will-change are told before the body
begins, and those who are subscribed for did-change when it has ended are told then, whether it
returned or panicked. Only a panic of the first of these notifications leaves out the rest. -/
namespace ChangeTracking
variable {H : Host} {discipline : Discipline H} {α : Type}

/-- The world in which a panic goes on unwinding, after what has run in between. -/
def World.unwindingAs (after ended : World H) : World H :=
  { after with thread := { after.thread with unwinding := ended.thread.unwinding } }

theorem Act.history_whileUnwinding (act : Act H α) (world : World H) (past : List (World H)) :
    act.whileUnwinding.history world past =
      (act.run world.unwindingNow).2 :: act.history world.unwindingNow (world :: past) := by
  simp only [whileUnwinding, ensuring]
  rw [history_bind_ok (run_onThreadState _ _), history_bind_ok (run_attempt _ _),
    history_bind_ok (run_onThreadState _ _), history_resume]
  rfl

section Runs
variable {call : Call H} {body : Act H α} {registrar : RegistrarId} {key : Key}
  {world begun ended : World H} {panic : Panic}

theorem withMutation_of_refused (body : Act H α)
    (first : (notify call registrar key .willChange).run world = (.error panic, begun))
    (past : List (World H)) :
    (withMutation call registrar key body).run world = (.error panic, begun) ∧
      (withMutation call registrar key body).history world past =
        (notify call registrar key .willChange).history world past := by
  rw [withMutation, Act.run_bind, Act.history_bind, first]
  exact ⟨rfl, rfl⟩

variable (first : (notify call registrar key .willChange).run world = (.ok (), begun))
include first

theorem withMutation_of_returned {value : α} (inside : body.run begun = (.ok value, ended))
    (past : List (World H)) :
    (withMutation call registrar key body).run world =
        (((notify call registrar key .didChange).run ended).1.map fun _ => value,
          ((notify call registrar key .didChange).run ended).2) ∧
      (withMutation call registrar key body).history world past =
        (notify call registrar key .didChange).history ended
          (body.history begun ((notify call registrar key .willChange).history world past)) := by
  have attempted : body.attempt.run begun = (.ok (.ok value), ended) := by
    rw [Act.run_attempt, inside]
  rw [withMutation, Act.run_bind_ok first, Act.run_bind_ok attempted, Act.history_bind_ok first,
    Act.history_bind_ok attempted, Act.history_attempt]
  rw [Act.run_bind, Act.history_bind]
  rcases (notify call registrar key .didChange).run ended with ⟨_ | _, after⟩ <;> exact ⟨rfl, rfl⟩

/-- A panic of the body is held up until the second notification has returned. -/
theorem withMutation_of_unwound {after : World H}
    (inside : body.run begun = (.error panic, ended))
    (closed : (notify call registrar key .didChange).run ended.unwindingNow = (.ok (), after))
    (past : List (World H)) :
    (withMutation call registrar key body).run world = (.error panic, after.unwindingAs ended) ∧
      (withMutation call registrar key body).history world past =
        after :: (notify call registrar key .didChange).history ended.unwindingNow (ended ::
          body.history begun ((notify call registrar key .willChange).history world past)) := by
  have attempted : body.attempt.run begun = (.ok (.error panic), ended) := by
    rw [Act.run_attempt, inside]
  have notified : (notify call registrar key .didChange).whileUnwinding.run ended =
      (.ok (), after.unwindingAs ended) := by
    rw [Act.run_whileUnwinding, closed]
    rfl
  rw [withMutation, Act.run_bind_ok first, Act.run_bind_ok attempted, Act.history_bind_ok first,
    Act.history_bind_ok attempted, Act.history_attempt]
  rw [Act.run_bind_ok notified, Act.history_bind_ok notified, Act.history_whileUnwinding, closed]
  exact ⟨rfl, rfl⟩

end Runs

section Course
variable (discipline) (call : Call H) (registrar : RegistrarId) (key : Key) (body : Act H α)
  (world : World H)

/-- The worlds of a mutation before its body has ended, the most recent first. -/
def pastBody (begun : World H) : List (World H) :=
  body.history begun
    ((notify (discipline.announced call) registrar key .willChange).history world [])

/-- The body of a mutation has run once, after all who were subscribed for will-change were told. -/
structure BodyRan (begun : World H) (result : Except Panic α) (ended : World H) : Prop where
  first : Course discipline call world ⟨registrar, key, .willChange⟩
    (world.subscribed ⟨registrar, key, .willChange⟩)
  announced : (notify (discipline.announced call) registrar key .willChange).run world =
    (.ok (), begun)
  inside : body.run begun = (result, ended)
  /-- Who is subscribed for did-change when the body has ended was so at every earlier moment of the
  mutation at which this subscription had been made. -/
  lasting : ∀ moment ∈ ended :: pastBody discipline call registrar key body world begun,
    ∀ subscription ∈ ended.subscribed ⟨registrar, key, .didChange⟩,
      subscription ∈ moment.subscribed ⟨registrar, key, .didChange⟩ ∨
        (moment.tracker.table registrar).nextId ≤ subscription.id

/-- How a mutation can go: its outcome, the world that it leaves and the worlds before that one. -/
inductive Bracketed : Except Panic α → World H → List (World H) → Prop where
  | refused {panic : Panic} {after : World H} {told : List (Subscription H.Callback)}
      (first : Course discipline call world ⟨registrar, key, .willChange⟩ told)
      (panicked : (notify (discipline.announced call) registrar key .willChange).run world =
        (.error panic, after)) :
      Bracketed (.error panic) after
        ((notify (discipline.announced call) registrar key .willChange).history world [])
  /-- The body returned. Its value is that of the mutation, unless somebody who was told of
  did-change panicked. -/
  | returned {value : α} {begun ended after : World H} {told : List (Subscription H.Callback)}
      {outcome : Except Panic Unit}
      (ran : BodyRan discipline call registrar key body world begun (.ok value) ended)
      (second : Course discipline call ended ⟨registrar, key, .didChange⟩ told)
      (closed : (notify (discipline.announced call) registrar key .didChange).run ended =
        (outcome, after)) :
      Bracketed (outcome.map fun _ => value) after
        ((notify (discipline.announced call) registrar key .didChange).history ended
          (pastBody discipline call registrar key body world begun))
  /-- The body panicked. All who were subscribed for did-change were told, and then the panic went
  on. -/
  | unwound {panic : Panic} {begun ended after : World H}
      (ran : BodyRan discipline call registrar key body world begun (.error panic) ended)
      (second : Course discipline call ended.unwindingNow ⟨registrar, key, .didChange⟩
        (ended.subscribed ⟨registrar, key, .didChange⟩))
      (closed : (notify (discipline.announced call) registrar key .didChange).run
        ended.unwindingNow = (.ok (), after)) :
      Bracketed (.error panic) (after.unwindingAs ended)
        (after :: (notify (discipline.announced call) registrar key .didChange).history
          ended.unwindingNow (ended :: pastBody discipline call registrar key body world begun))
  /-- The body panicked, and so did somebody who was told of did-change while this panic was
  unwinding. That ends the whole program, so nothing is said about what comes then. -/
  | aborted {panic another : Panic} {begun ended after : World H}
      {told : List (Subscription H.Callback)}
      (ran : BodyRan discipline call registrar key body world begun (.error panic) ended)
      (second : Course discipline call ended.unwindingNow ⟨registrar, key, .didChange⟩ told)
      (closed : (notify (discipline.announced call) registrar key .didChange).run
        ended.unwindingNow = (.error another, after))
      (result : Except Panic α) (last : World H) (past : List (World H)) :
      Bracketed result last past

end Course

/-- What is subscribed at a moment of a run was so at every earlier moment at which the subscription
had been made. -/
theorem Evolution.subscribed_before {world moment : World H} {past : List (World H)}
    (evolution : Evolution discipline (world :: past)) (passed : moment ∈ world :: past)
    {event : ChangeEvent} {subscription : Subscription H.Callback}
    (present : subscription ∈ world.subscribed event) :
    subscription ∈ moment.subscribed event ∨
      (moment.tracker.table event.registrar).nextId ≤ subscription.id := by
  obtain ⟨member, wanted⟩ := List.mem_filter.mp present
  refine ((evolution.grown_of_mem passed).old event.registrar subscription member).imp_left ?_
  exact fun earlier => List.mem_filter.mpr ⟨earlier, wanted⟩

private theorem BodyRan.bracketed {call : Call H} {registrar : RegistrarId} {key : Key}
    {body : Act H α} {world begun ended : World H} {result : Except Panic α}
    {past : List (World H)}
    (ran : BodyRan discipline call registrar key body world begun result ended)
    (evolution : Evolution discipline (ended :: past)) (settled : ended.Settled)
    (answers : ∀ callback event, Evolves discipline (call callback event)) :
    Bracketed discipline call registrar key body world
      ((withMutation (discipline.announced call) registrar key body).run world).1
      ((withMutation (discipline.announced call) registrar key body).run world).2
      ((withMutation (discipline.announced call) registrar key body).history world []) := by
  cases result with
  | ok value =>
    obtain ⟨told, second⟩ := evolution.exists_course settled answers ⟨registrar, key, .didChange⟩
    obtain ⟨run, history⟩ := withMutation_of_returned ran.announced ran.inside []
    rw [run, history]
    exact .returned ran second rfl
  | error panic =>
    have unwinding : Evolution discipline (ended.unwindingNow :: ended :: past) :=
      evolution.move settled (.thread _)
    obtain ⟨told, second⟩ := unwinding.exists_course (settled.of_log_eq rfl) answers
      ⟨registrar, key, .didChange⟩
    rcases closed : (notify (discipline.announced call) registrar key .didChange).run
      ended.unwindingNow with ⟨outcome, after⟩
    cases outcome with
    | error another => exact .aborted ran second closed _ _ _
    | ok =>
      obtain rfl := second.all (by rw [closed])
      obtain ⟨run, history⟩ := withMutation_of_unwound ran.announced ran.inside closed []
      rw [run, history]
      exact .unwound ran second closed

/-- Whatever is done by the callbacks and by the body, a mutation brackets its body. -/
theorem Reachable.mutation_bracketed {world : World H} (reachable : Reachable discipline world)
    {call : Call H} (answers : ∀ callback event, Client discipline (call callback event))
    {body : Act H α} (client : Client discipline body) (registrar : RegistrarId) (key : Key) :
    Bracketed discipline call registrar key body world
      ((withMutation (discipline.announced call) registrar key body).run world).1
      ((withMutation (discipline.announced call) registrar key body).run world).2
      ((withMutation (discipline.announced call) registrar key body).history world []) := by
  obtain ⟨past, before⟩ := reachable.evolution
  have evolves := fun callback event => (answers callback event).evolves
  have opens := Evolves.notify evolves registrar key .willChange world past before reachable.settled
  obtain ⟨told, first⟩ :=
    before.exists_course reachable.settled evolves ⟨registrar, key, .willChange⟩
  rcases announced : (notify (discipline.announced call) registrar key .willChange).run world
    with ⟨outcome, begun⟩
  cases outcome with
  | error panic =>
    obtain ⟨run, history⟩ := withMutation_of_refused body announced []
    rw [run, history]
    exact .refused first announced
  | ok =>
    obtain rfl := first.all (by rw [announced])
    rw [Act.Carries, announced] at opens
    rcases inside : body.run begun with ⟨result, ended⟩
    have runs := client.evolves begun _ opens.1 opens.2
    rw [Act.Carries, inside] at runs
    have ran : BodyRan discipline call registrar key body world begun result ended := by
      refine ⟨first, announced, inside, fun moment passed subscription present => ?_⟩
      refine runs.1.subscribed_before ?_ present
      rw [Act.history_eq_append _ world past, Act.history_append]
      exact List.mem_append_left past passed
    exact ran.bracketed runs.1 runs.2 evolves

def subscribePhases : Act Host.plain RegistrarId := do
  let registrar ← Act.track (·.createRegistrar)
  let _ ← Act.track (·.register registrar (.ofList [⟨"a"⟩]) .willChange (.direct (0 : Nat)))
  let _ ← Act.track (·.register registrar (.ofList [⟨"a"⟩]) .didChange (.direct (1 : Nat)))
  return registrar

theorem client_subscribePhases : Client Discipline.plain subscribePhases :=
  .bind .createRegistrar fun _ =>
    .bind (.register _ _ _ trivial) fun _ => .bind (.register _ _ _ trivial) fun _ => .done _

def replaceAndPanic : Act Host.plain Unit := do
  let _ ← Act.track (·.cancel ⟨0⟩ ⟨⟨0⟩, 1⟩)
  let _ ← Act.track (·.register ⟨0⟩ (.ofList [⟨"a"⟩]) .didChange (.direct (2 : Nat)))
  .unwind ⟨"stop"⟩

theorem client_replaceAndPanic : Client Discipline.plain replaceAndPanic :=
  .bind (.cancel _ _) fun _ => .bind (.register _ _ _ trivial) fun _ => .panic _

/-- The callback that came instead is told of did-change, and the panic goes on after it. -/
theorem Reachable.mutation_bracketed_of_replaceAndPanic :
    let world := (subscribePhases.run (World.initial ())).2
    let mutation := withMutation (Discipline.plain.announced fun _ _ => pure ()) ⟨0⟩ ⟨"a"⟩
      replaceAndPanic
    (mutation.run world).1 = .error ⟨"stop"⟩ ∧
      ((mutation.run world).2.calls Discipline.plain).map (·.callback) = [(0 : Nat), (2 : Nat)] ∧
      Bracketed Discipline.plain (fun _ _ => pure ()) ⟨0⟩ ⟨"a"⟩ replaceAndPanic world
        (mutation.run world).1 (mutation.run world).2 (mutation.history world []) := by
  have reachable : Reachable Discipline.plain (subscribePhases.run (World.initial ())).2 :=
    ⟨_, subscribePhases, (), client_subscribePhases, List.mem_cons_self, rfl⟩
  exact ⟨rfl, by rfl, reachable.mutation_bracketed (fun _ _ => .done ()) client_replaceAndPanic
    ⟨0⟩ ⟨"a"⟩⟩

end ChangeTracking
