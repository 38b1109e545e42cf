import RoleWatch.Proofs.Watch.Tending
import RoleWatch.Watch.Vigil

/-!
The timed loop makes no calls about registrations but those of the watch it runs, so what the watch
keeps up the loop keeps up, and when the loop ends nothing is left registered.
-/
namespace RoleWatch

variable {World : Type}

/-- A relation that the watch's calls keep up, and the loop's own calls as well. -/
structure Station.Keeps (station : Station World) (t : Target)
    (kept : List Registration → World → Prop) : Prop extends station.toHost.Keeps t kept where
  now {there : List Registration} {w : World} (now : kept there w) :
    After station.now w fun _ w' => kept there w'
  wait {there : List Registration} {w : World} (span : Millis) (now : kept there w) :
    After (station.wait span) w fun _ w' => kept there w'
  beat {there : List Registration} {w : World} (now : kept there w) :
    After station.beat w fun _ w' => kept there w'

namespace Vigil

variable {station : Station World} {v : Vigil} {t : Target} {w : World}
  {kept : List Registration → World → Prop}

structure Tidy (kept : List Registration → World → Prop) (t : Target) (v : Vigil) (w : World) :
    Prop where
  target : v.sentry.target = t
  tidy : v.sentry.Tidy kept w

theorem start_tidy (keeps : station.Keeps t kept) (fresh : v.sentry = .ofTarget t)
    (now : kept [] w) : After (v.start station) w fun result w' => result.2.Tidy kept t w' := by
  apply After.bind (keeps.beat now)
  intro _ w₁ kept₁
  apply After.bind (keeps.now kept₁)
  intro _ w₂ kept₂
  rw [fresh]
  apply After.bind (Sentry.start_done keeps.toKeeps kept₂)
  intro _ w₃ done
  exact After.pure ⟨done.target, done.tidy⟩

theorem look_tidy (keeps : station.Keeps t kept) (tidy : v.Tidy kept t w) :
    After (v.look station) w fun ending w' => ending.2.target = t ∧ ending.2.Tidy kept w' := by
  obtain ⟨rfl, tidy⟩ := tidy
  unfold look
  split
  · exact After.mono (Sentry.recheck_done keeps.toKeeps tidy) fun _ _ done =>
      ⟨done.target, done.tidy⟩
  · exact After.pure ⟨rfl, tidy⟩

theorem beat_tidy (keeps : station.Keeps t kept) (tidy : v.Tidy kept t w) :
    After (v.beat station) w fun result w' => result.2.Tidy kept t w' := by
  apply After.bind (keeps.note _ tidy.tidy.kept)
  intro _ w₁ kept₁
  apply After.bind (keeps.beat kept₁)
  intro _ w₂ kept₂
  apply After.bind (look_tidy keeps ⟨tidy.target, ⟨kept₂, tidy.tidy.fitting⟩⟩)
  rintro ⟨failure | ⟨⟩, s⟩ w₃ ⟨target, tidy₃⟩
  · exact After.pure ⟨target, tidy₃⟩
  · apply After.bind (keeps.now tidy₃.kept)
    intro _ w₄ kept₄
    exact After.pure ⟨target, ⟨kept₄, tidy₃.fitting⟩⟩

theorem prepare_tidy (keeps : station.Keeps t kept) (tidy : v.Tidy kept t w) :
    After (v.prepare station) w fun result w' => result.2.Tidy kept t w' := by
  apply After.bind (keeps.now tidy.tidy.kept)
  intro now w₁ kept₁
  have tidy₁ : v.Tidy kept t w₁ := ⟨tidy.target, ⟨kept₁, tidy.tidy.fitting⟩⟩
  have due : After (v.beatIfDue station (now - v.lastBeat)) w₁ fun result w' =>
      result.2.Tidy kept t w' := by
    unfold beatIfDue
    split
    · exact beat_tidy keeps tidy₁
    · exact After.pure tidy₁
  apply After.bind due
  rintro ⟨failure | ⟨⟩, v'⟩ w₂ tidy₂
  · exact After.pure tidy₂
  · apply After.bind (keeps.note _ tidy₂.tidy.kept)
    intro _ w₃ kept₃
    exact After.pure ⟨tidy₂.target, ⟨kept₃, tidy₂.tidy.fitting⟩⟩

theorem receive_tidy (keeps : station.Keeps t kept) (tidy : v.Tidy kept t w)
    (arrival : Except IoError Arrival) :
    After (v.receive station arrival) w fun result w' => result.2.Tidy kept t w' := by
  unfold receive
  split
  · exact After.pure tidy
  · exact After.pure tidy
  · rename_i batch
    obtain ⟨rfl, tidy⟩ := tidy
    apply After.bind (Sentry.attend_done keeps.toKeeps tidy batch)
    intro _ w₁ done
    exact After.pure ⟨done.target, done.tidy⟩
  · split
    · exact After.pure tidy
    · apply After.bind (keeps.note _ tidy.tidy.kept)
      intro _ w₁ kept₁
      exact After.pure ⟨tidy.target, ⟨kept₁, tidy.tidy.fitting⟩⟩

theorem turn_tidy (keeps : station.Keeps t kept) (tidy : v.Tidy kept t w) :
    After (v.turn station) w fun result w' => result.2.Tidy kept t w' := by
  apply After.bind (prepare_tidy keeps tidy)
  rintro ⟨failure | budget, v'⟩ w₁ tidy₁
  · exact After.pure tidy₁
  · apply After.bind (keeps.wait budget tidy₁.tidy.kept)
    intro arrival w₂ kept₂
    exact receive_tidy keeps ⟨tidy₁.target, ⟨kept₂, tidy₁.tidy.fitting⟩⟩ arrival

theorem turns_tidy {turn : Vigil → StateM World (Option (Except Failure Unit) × Vigil)}
    (keeps_on : ∀ {v : Vigil} {w : World}, v.Tidy kept t w →
      After (turn v) w fun result w' => result.2.Tidy kept t w')
    (limit : Nat) (tidy : v.Tidy kept t w) :
    After (turns turn limit v) w fun result w' => result.2.Tidy kept t w' := by
  induction limit generalizing v w with
  | zero => exact After.pure tidy
  | succ n ih =>
    apply After.bind (keeps_on tidy)
    rintro ⟨_ | failure | ⟨⟩, v'⟩ w₁ tidy₁
    · exact After.pure tidy₁
    · exact After.pure tidy₁
    · exact ih tidy₁

theorem goOn_tidy {turn : Vigil → StateM World (Option (Except Failure Unit) × Vigil)}
    (keeps : station.Keeps t kept) (keeps_on : ∀ {v : Vigil} {w : World}, v.Tidy kept t w →
      After (turn v) w fun result w' => result.2.Tidy kept t w')
    (fresh : v.sentry = .ofTarget t) (limit : Nat) (now : kept [] w) :
    After (goOn turn station limit v) w fun result w' => result.2.Tidy kept t w' := by
  apply After.bind (start_tidy keeps fresh now)
  rintro ⟨failure | ⟨⟩, v'⟩ w₁ tidy
  · exact After.pure tidy
  · exact turns_tidy keeps_on limit tidy

theorem finish_releases (keeps : station.Keeps t kept) (tidy : v.Tidy kept t w)
    (failure : Failure) : After (v.finish station failure) w fun _ w' => kept [] w' := by
  obtain ⟨rfl, tidy⟩ := tidy
  apply After.bind (Sentry.release_done keeps.toKeeps tidy)
  rintro s w₁ ⟨kept₁, -⟩
  exact After.bind (keeps.note _ kept₁) fun _ _ after => After.pure after

/-- A loop that has ended, with turns of any kind, has ended all registrations. -/
theorem runBy_releases {turn : Vigil → StateM World (Option (Except Failure Unit) × Vigil)}
    (keeps : station.Keeps t kept) (keeps_on : ∀ {v : Vigil} {w : World}, v.Tidy kept t w →
      After (turn v) w fun result w' => result.2.Tidy kept t w')
    (fresh : v.sentry = .ofTarget t) (limit : Nat) (now : kept [] w) :
    After (runBy turn station limit v) w fun result w' => result.1.isSome → kept [] w' := by
  apply After.bind (keeps.note _ now)
  intro _ w₁ kept₁
  apply After.bind (goOn_tidy keeps keeps_on fresh limit kept₁)
  rintro ⟨_ | failure, v'⟩ w₂ tidy₂
  · exact After.pure (by simp)
  · apply After.bind (finish_releases keeps tidy₂ failure)
    intro _ w₃ kept₃
    exact After.pure fun _ => kept₃

theorem run_releases (keeps : station.Keeps t kept) (fresh : v.sentry = .ofTarget t)
    (limit : Nat) (now : kept [] w) :
    After (v.run station limit) w fun result w' => result.1.isSome → kept [] w' := by
  refine runBy_releases keeps (fun tidy => ?_) fresh limit now
  exact After.bind (turn_tidy keeps tidy) fun _ _ after => After.pure after

end Vigil

end RoleWatch
