import RoleWatch.Text.Bytes

/-!
What holds after a computation over a world. A computation of several steps is followed one step
at a time, from what holds after the first step to what holds after the others.
-/
namespace RoleWatch

variable {World α β : Type}

/-- What holds of the answer and the world after a computation from one world. -/
def After (step : StateM World α) (w : World) (holds : α → World → Prop) : Prop :=
  holds (step w).1 (step w).2

namespace After

variable {w : World}

theorem pure {a : α} {holds : α → World → Prop} (now : holds a w) :
    After (Pure.pure a) w holds := now

theorem bind {first : StateM World α} {next : α → StateM World β} {between : α → World → Prop}
    {holds : β → World → Prop} (reached : After first w between)
    (goes_on : ∀ a w', between a w' → After (next a) w' holds) : After (first >>= next) w holds :=
  goes_on _ _ reached

theorem mono {step : StateM World α} {weak strong : α → World → Prop} (after : After step w strong)
    (follows : ∀ a w', strong a w' → weak a w') : After step w weak :=
  follows _ _ after

theorem run (step : StateM World α) (w : World) : After step w fun a w' => step w = (a, w') := rfl

theorem of_run {step : StateM World α} {holds : α → World → Prop} {a : α} {w' : World}
    (after : After step w holds) (run : step w = (a, w')) : holds a w' := by
  unfold After at after
  rwa [run] at after

end After

end RoleWatch
