import RoleWatch.Proofs.Bench.Trial

/-!
Between operations that succeed, the watch holds what its phase calls for and nothing else: the
directory's registration while the file is awaited, the file's while it is watched.
-/
namespace RoleWatch

/-- What the watch reaches while every operation succeeds, if the world may change in any way
between two operations. -/
inductive Sentry.Reached {World : Type} (host : Host World) (job : Assignment) (t : Target) :
    Sentry → Prop where
  | start {w w' : World} {s : Sentry} (began : (ofTarget t).start host job w = ((.ok (), s), w')) :
      Reached host job t s
  | attend {w w' : World} {s s' : Sentry} {batch : List Event} (before : Reached host job t s)
      (did : s.attend host job batch w = ((.ok (), s'), w')) : Reached host job t s'
  | recheck {w w' : World} {s s' : Sentry} (before : Reached host job t s)
      (did : s.recheck host job w = ((.ok (), s'), w')) : Reached host job t s'

theorem Sentry.Reached.settled {World : Type} {host : Host World} {job : Assignment} {t : Target}
    {s : Sentry} (reached : s.Reached host job t) : s.held.Settled := by
  -- Nothing has to be kept up in the world, but that the phase fits goes into the induction.
  suffices s.held.Fitting ∧ s.held.Settled from this.2
  induction reached with
  | start began =>
    have done := (start_done (host.keeps_nothing t) trivial).of_run began
    exact ⟨done.tidy.fitting, done.settled trivial rfl⟩
  | attend before did ih =>
    have done := (attend_done (host.keeps_nothing _) ⟨trivial, ih.1⟩ _).of_run did
    exact ⟨done.tidy.fitting, done.settled ih.2 rfl⟩
  | recheck before did ih =>
    have done := (recheck_done (host.keeps_nothing _) ⟨trivial, ih.1⟩).of_run did
    exact ⟨done.tidy.fitting, done.settled ih.2 rfl⟩

open Bench

/-- Over any surroundings the holding is settled between operations, and on a stage its one handle
is that of the only registration, which is the directory's or the file's as the phase demands. -/
theorem holding_matches_phase :
    (∀ {World : Type} (host : Host World) (job : Assignment) (t : Target) (s : Sentry),
      s.Reached host job t → s.held.Settled) ∧
    ∀ (job : Assignment) (t : Target) (first scene : Scene) (s : Sentry),
      first.notifier.active = [] → Trial job t first (fun _ _ => True) scene s →
        (∃ d, s.held = ⟨.awaiting, some d, none⟩ ∧
          scene.notifier.active = [⟨d, t.dir, .directoryInterest⟩]) ∨
        ∃ f, s.held = ⟨.watching, none, some f⟩ ∧
          scene.notifier.active = [⟨f, t.file, .fileInterest⟩] := by
  refine ⟨fun host job t s reached => reached.settled, ?_⟩
  intro job t first scene s empty trial
  have room : 2 ≤ max 2 first.notifier.maxActive := Nat.le_max_left ..
  obtain ⟨rfl, tidy, settled⟩ := trial.tidy room ⟨empty, Nat.le_max_right ..⟩
  have listed := tidy.kept.active
  rcases Holding.settled_cases settled with ⟨d, held⟩ | ⟨f, held⟩
  · rw [held] at listed
    exact .inl ⟨d, held, listed⟩
  · rw [held] at listed
    exact .inr ⟨f, held, listed⟩

open Example in
/-- The file is deleted and the watch hears of it: the directory is watched. -/
theorem holding_matches_phase_after_deletion : ∃ (scene : Scene) (s : Sentry),
    stage.notifier.active = [] ∧ Trial job target stage (fun _ _ => True) scene s ∧
    s.held = ⟨.awaiting, some ⟨2⟩, none⟩ ∧
    ((∃ d, s.held = ⟨.awaiting, some d, none⟩ ∧
        scene.notifier.active = [⟨d, target.dir, .directoryInterest⟩]) ∨
      ∃ f, s.held = ⟨.watching, none, some f⟩ ∧
        scene.notifier.active = [⟨f, target.file, .fileInterest⟩]) := by
  have began : Trial job target stage (fun _ _ => True) _ _ := .of_start rfl
  have deleted := began.of_step (.happen (.delete target.file)) trivial rfl
  have heard := deleted.of_step (.deliver 0) trivial rfl
  exact ⟨_, _, rfl, heard, rfl, holding_matches_phase.2 job target stage _ _ rfl heard⟩

end RoleWatch
