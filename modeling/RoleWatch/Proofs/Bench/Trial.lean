import RoleWatch.Proofs.Bench.Activity
import RoleWatch.Proofs.Bench.Registering
import RoleWatch.Proofs.Watch.Tending

/-!
Trials of the watch on a stage: it begins, and then things happen and operations are called in any
order. Over a stage the list of registrations is always the list of those the watch holds.
-/
namespace RoleWatch.Bench

inductive Deed where
  | happen (activity : Activity)
  | deliver (span : Millis)
  | attend (batch : List Event)
  | recheck

def Deed.run (job : Assignment) (s : Sentry) : Deed → StateM Scene Sentry.Ending
  | .happen activity => do
    Scene.apply activity
    return (.ok (), s)
  | .deliver span => do
    match ← Scene.wait span with
    | .ok (.events batch) => s.attend Scene.host job batch
    | _ => return (.ok (), s)
  | .attend batch => s.attend Scene.host job batch
  | .recheck => s.recheck Scene.host job

/-- What a trial with steps of a certain kind reaches while every operation succeeds. -/
inductive Trial (job : Assignment) (t : Target) (first : Scene) (may : Scene → Deed → Prop) :
    Scene → Sentry → Prop where
  | start {scene : Scene} {s : Sentry}
      (began : (Sentry.ofTarget t).start Scene.host job first = ((.ok (), s), scene)) :
      Trial job t first may scene s
  | step {scene scene' : Scene} {s s' : Sentry} {deed : Deed}
      (before : Trial job t first may scene s) (allowed : may scene deed)
      (did : deed.run job s scene = ((.ok (), s'), scene')) : Trial job t first may scene' s'

namespace Notifier

theorem addWatch_active (n : Notifier) (p : Path) (interest : Mask) :
    (n.addWatch p interest).2.active =
      n.active ++ Registration.granted p interest (n.addWatch p interest).1 := by
  have came := n.addWatch_registers p interest
  generalize n.addWatch p interest = out at came
  cases came with
  | refused | missing => exact (List.append_nil _).symm
  | granted => rfl

end Notifier

structure Scene.Lists (most : Nat) (there : List Registration) (scene : Scene) : Prop where
  active : scene.notifier.active = there
  maxActive : scene.notifier.maxActive ≤ most

theorem Scene.host_keeps_list (t : Target) {most : Nat} (room : 2 ≤ most) :
    Scene.host.Keeps t (Scene.Lists most) where
  openFile _ now := now
  addWatch {there scene path interest} wanted now := by
    obtain ⟨rfl, bound⟩ := now
    have added := (scene.notifier.addWatch_registers path interest).maxActive_le
    have few := wanted.room
    exact ⟨Notifier.addWatch_active .., by simp [host, onNotifier]; omega⟩
  removeWatch {there scene handle} _ now := by
    obtain ⟨rfl, bound⟩ := now
    refine ⟨Notifier.removeWatch_active .., ?_⟩
    exact (scene.notifier.removeWatch_releases handle).maxActive.symm ▸ bound
  perform _ _ now := ⟨now.active, now.maxActive⟩
  note _ now := ⟨now.active, now.maxActive⟩

theorem Scene.Lists.undisturbed {most : Nat} {there : List Registration} {scene : Scene}
    {n : Notifier} (lists : scene.Lists most there)
    (undisturbed : scene.notifier.Undisturbed n) :
    Scene.Lists most there { scene with notifier := n } :=
  ⟨undisturbed.active.trans lists.active, undisturbed.maxActive.symm ▸ lists.maxActive⟩

theorem Scene.wait_lists {most : Nat} {there : List Registration} {scene : Scene}
    (lists : scene.Lists most there) (span : Millis) :
    After (Scene.wait span) scene fun _ scene' => scene'.Lists most there := by
  have read : After (Scene.onNotifier Notifier.read) scene fun _ scene' =>
      scene'.Lists most there := lists.undisturbed (Notifier.read_undisturbed _)
  apply After.bind read
  rintro (_ | arrival) scene' after
  · exact ⟨after.active, after.maxActive⟩
  · exact after

theorem Deed.run_done {job : Assignment} {s : Sentry} {scene : Scene} {most : Nat}
    (room : 2 ≤ most) (tidy : s.Tidy (Scene.Lists most) scene) (deed : Deed) :
    After (deed.run job s) scene (Sentry.Done (Scene.Lists most) s.held.Settled s.target) := by
  have keeps := Scene.host_keeps_list s.target room
  have stays : ∀ {scene'}, Scene.Lists most (s.held.registrations s.target) scene' →
      Sentry.Done (Scene.Lists most) s.held.Settled s.target (.ok (), s) scene' :=
    fun lists => ⟨rfl, ⟨lists, tidy.fitting⟩, fun settled _ => settled⟩
  cases deed with
  | happen activity =>
    have applied : After (Scene.apply activity) scene fun _ scene' =>
        scene'.Lists most (s.held.registrations s.target) :=
      tidy.kept.undisturbed (Notifier.apply_undisturbed _ activity)
    exact After.bind applied fun _ _ after => After.pure (stays after)
  | deliver span =>
    apply After.bind (Scene.wait_lists tidy.kept span)
    rintro (cause | batch | _ | _) scene' after
    · exact After.pure (stays after)
    · exact Sentry.attend_done keeps ⟨after, tidy.fitting⟩ batch
    · exact After.pure (stays after)
    · exact After.pure (stays after)
  | attend batch => exact Sentry.attend_done keeps tidy batch
  | recheck => exact Sentry.recheck_done keeps tidy

/-- In a trial on a stage without registrations, the watch is settled between operations and holds
what the stage lists. -/
theorem Trial.tidy {job : Assignment} {t : Target} {first : Scene} {may : Scene → Deed → Prop}
    {scene : Scene} {s : Sentry} (trial : Trial job t first may scene s) {most : Nat}
    (room : 2 ≤ most) (empty : first.Lists most []) :
    s.target = t ∧ s.Tidy (Scene.Lists most) scene ∧ s.held.Settled := by
  induction trial with
  | start began =>
    have done := (Sentry.start_done (Scene.host_keeps_list t room) empty).of_run began
    exact ⟨done.target, done.tidy, done.settled trivial rfl⟩
  | step before allowed did ih =>
    obtain ⟨target, tidy, settled⟩ := ih
    have done := (Deed.run_done room tidy _).of_run did
    exact ⟨done.target.trans target, done.tidy, done.settled settled rfl⟩

theorem Trial.of_start {job : Assignment} {t : Target} {first : Scene}
    {may : Scene → Deed → Prop}
    (ok : ((Sentry.ofTarget t).start Scene.host job first).1.1 = .ok ()) :
    Trial job t first may ((Sentry.ofTarget t).start Scene.host job first).2
      ((Sentry.ofTarget t).start Scene.host job first).1.2 :=
  .start (Prod.ext (Prod.ext ok rfl) rfl)

theorem Trial.of_step {job : Assignment} {t : Target} {first : Scene} {may : Scene → Deed → Prop}
    {scene : Scene} {s : Sentry} (before : Trial job t first may scene s) (deed : Deed)
    (allowed : may scene deed) (ok : (deed.run job s scene).1.1 = .ok ()) :
    Trial job t first may (deed.run job s scene).2 (deed.run job s scene).1.2 :=
  .step before allowed (Prod.ext (Prod.ext ok rfl) rfl)

/-! The stage of the examples: `/e/f` holds the marker `m`. -/

namespace Example

def target : Target := ⟨⟨[0x2f, 0x65, 0x2f, 0x66]⟩, ⟨[0x2f, 0x65]⟩, [0x66]⟩

def job : Assignment := ⟨target.file, ⟨"m", by decide, by decide⟩, 8, "s"⟩

def stage : Scene :=
  .ofTree ⟨[([.root], .directory), (target.dir.parts, .directory),
    (target.file.parts, .file [0x6d])]⟩ false []

end Example

end RoleWatch.Bench
