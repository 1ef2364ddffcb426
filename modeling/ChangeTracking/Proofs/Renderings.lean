import ChangeTracking.Counter.RenderLoop
import ChangeTracking.Proofs.History

namespace ChangeTracking
variable {H : Host} {α β : Type}

private theorem Act.bind_done (act : Act H α) : act.bind .done = act := by
  induction act with
  | done value => rfl
  | unwind panic => rfl
  | step change next ih => exact congrArg (Act.step change) (funext ih)
  | guarded body next _ ih => exact congrArg (Act.guarded body) (funext ih)

namespace Rendering

theorem bind_bind {γ : Type} (first : Rendering H α) (second : α → Rendering H β)
    (third : β → Rendering H γ) :
    first >>= second >>= third = first >>= fun value => second value >>= third := by
  have lawful : LawfulMonad (Act H) := .mk' _ Act.bind_done (fun _ _ => rfl) Act.bind_assoc
  exact bind_assoc first second third

/-- How an action ends, with the application and the world that it leaves. -/
def ending (action : Rendering H α) (loop : RenderLoop) (world : World H) :
    Except Panic (Except Failure α × RenderLoop) × World H :=
  (action.run.run loop).run world

section Endings
variable {loop after : RenderLoop} {world left : World H}

@[simp] theorem ending_pure (value : α) :
    ending (pure value) loop world = (.ok (.ok value, loop), world) := rfl

@[simp] theorem ending_get : ending (get : Rendering H RenderLoop) loop world =
    (.ok (.ok loop, loop), world) := rfl

@[simp] theorem ending_modify (change : RenderLoop → RenderLoop) :
    ending (modify change : Rendering H Unit) loop world = (.ok (.ok (), change loop), world) := rfl

private theorem ending_bind (action : Rendering H α) (rest : α → Rendering H β) :
    ending (action >>= rest) loop world =
      (action.run.run loop >>= fun ended => (ExceptT.bindCont rest ended.1).run ended.2).run world :=
  rfl

theorem ending_bind_ok {action : Rendering H α} {rest : α → Rendering H β} {value : α}
    (first : ending action loop world = (.ok (.ok value, after), left)) :
    ending (action >>= rest) loop world = ending (rest value) after left := by
  rw [ending_bind, Act.run_bind_ok first]
  rfl

theorem ending_bind_error {action : Rendering H α} {rest : α → Rendering H β} {failure : Failure}
    (first : ending action loop world = (.ok (.error failure, after), left)) :
    ending (action >>= rest) loop world = (.ok (.error failure, after), left) := by
  rw [ending_bind, Act.run_bind_ok first]
  rfl

theorem ending_lift {act : Act H α} {value : α} (run : act.run world = (.ok value, left)) :
    ending (liftM act) loop world = (.ok (.ok value, loop), left) := by
  have lifted : ending (liftM act : Rendering H α) loop world =
      ((act >>= fun value => pure (value, loop)) >>= fun ended =>
        pure (.ok ended.1, ended.2)).run world := rfl
  rw [lifted, Act.run_bind_ok (Act.run_bind_ok run)]
  rfl

end Endings

/-- An action returns with what is said, or its output had no room, and then it ends with something else
that is said; an output without a limit stays without one. -/
def Leads (action : Rendering H α) (loop : RenderLoop) (world : World H)
    (broken : RenderLoop → World H → Prop) (holds : α → RenderLoop → World H → Prop) : Prop :=
  ∃ result after left, ending action loop world = (.ok (result, after), left) ∧
    (loop.sink.room = none → after.sink.room = none) ∧
    match result with
    | .ok value => holds value after left
    | .error failure =>
      failure = .output "writer full" ∧ after.sink.room ≠ none ∧ broken after left

namespace Leads
variable {loop : RenderLoop} {world : World H} {action : Rendering H α} {rest : α → Rendering H β}
  {broken : RenderLoop → World H → Prop} {holds : α → RenderLoop → World H → Prop}
  {later : β → RenderLoop → World H → Prop}

theorem of_ok {value : α} {after : RenderLoop} {left : World H}
    (ended : ending action loop world = (.ok (.ok value, after), left))
    (room : after.sink.room = loop.sink.room) (good : holds value after left) :
    Leads action loop world broken holds :=
  ⟨.ok value, after, left, ended, fun free => room.trans free, good⟩

theorem of_eq {other : Rendering H α} {after : RenderLoop} {left : World H}
    (same : ending action loop world = ending other after left)
    (room : after.sink.room = loop.sink.room) (leads : Leads other after left broken holds) :
    Leads action loop world broken holds := by
  obtain ⟨result, final, last, finished, still, outcome⟩ := leads
  exact ⟨result, final, last, same.trans finished, fun free => still (room.trans free), outcome⟩

theorem bind (first : Leads action loop world broken holds)
    (second : ∀ value after left, holds value after left →
      Leads (rest value) after left broken later) :
    Leads (action >>= rest) loop world broken later := by
  obtain ⟨result, after, left, ended, free, good⟩ := first
  cases result with
  | error failure =>
    exact ⟨.error failure, after, left, ending_bind_error ended, free, good⟩
  | ok value =>
    obtain ⟨result, final, last, finished, still, outcome⟩ := second value after left good
    exact ⟨result, final, last, (ending_bind_ok ended).trans finished, still ∘ free, outcome⟩

theorem of_bind_ok {value : α} {after : RenderLoop} {left : World H}
    (first : ending action loop world = (.ok (.ok value, after), left))
    (room : after.sink.room = loop.sink.room)
    (second : Leads (rest value) after left broken later) :
    Leads (action >>= rest) loop world broken later :=
  .of_eq (ending_bind_ok first) room second

theorem mono {more : α → RenderLoop → World H → Prop}
    (leads : Leads action loop world broken holds)
    (weaker : ∀ value after left, holds value after left → more value after left) :
    Leads action loop world broken more := by
  obtain ⟨result, after, left, ended, free, good⟩ := leads
  refine ⟨result, after, left, ended, free, ?_⟩
  cases result with
  | error failure => exact good
  | ok value => exact weaker value after left good

theorem weaken {worse : RenderLoop → World H → Prop}
    (leads : Leads action loop world broken holds)
    (weaker : ∀ after left, broken after left → worse after left) :
    Leads action loop world worse holds := by
  obtain ⟨result, after, left, ended, free, good⟩ := leads
  refine ⟨result, after, left, ended, free, ?_⟩
  cases result with
  | error failure => exact ⟨good.1, good.2.1, weaker after left good.2.2⟩
  | ok value => exact good

theorem and {worse : RenderLoop → World H → Prop} {more : α → RenderLoop → World H → Prop}
    (first : Leads action loop world broken holds) (second : Leads action loop world worse more) :
    Leads action loop world (fun after left => broken after left ∧ worse after left)
      (fun value after left => holds value after left ∧ more value after left) := by
  obtain ⟨result, after, left, ended, free, good⟩ := first
  obtain ⟨_, _, _, same, _, better⟩ := second
  rw [ended] at same
  cases same
  refine ⟨result, after, left, ended, free, ?_⟩
  cases result with
  | error failure => exact ⟨good.1, good.2.1, good.2.2, better.2.2⟩
  | ok value => exact ⟨good, better⟩

theorem ended (leads : Leads action loop world broken holds) :
    Leads action loop world
      (fun after left => ending action loop world =
          (.ok (.error (.output "writer full"), after), left) ∧ broken after left)
      (fun value after left =>
        ending action loop world = (.ok (.ok value, after), left) ∧ holds value after left) := by
  obtain ⟨result, after, left, ended, free, good⟩ := leads
  refine ⟨result, after, left, ended, free, ?_⟩
  cases result with
  | error failure =>
    obtain ⟨rfl, full, cut⟩ := good
    exact ⟨rfl, full, ended, cut⟩
  | ok value => exact ⟨ended, good⟩

/-- Where the output has no limit, an action returns. -/
theorem returns (leads : Leads action loop world broken holds) (unlimited : loop.sink.room = none) :
    ∃ value after left, ending action loop world = (.ok (.ok value, after), left) ∧
      after.sink.room = none ∧ holds value after left := by
  obtain ⟨result, after, left, ended, free, good⟩ := leads
  cases result with
  | error failure => exact absurd (free unlimited) good.2.1
  | ok value => exact ⟨value, after, left, ended, free unlimited, good⟩

end Leads
end Rendering
end ChangeTracking
