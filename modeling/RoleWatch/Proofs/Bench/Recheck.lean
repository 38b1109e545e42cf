import RoleWatch.Proofs.Bench.Outcome
import RoleWatch.Proofs.Bench.Trial

/-!
Looking at the file unasked settles everything at once, whatever was missed before: the phase is
then the one that the files call for, and looking again only repeats the order.
-/
namespace RoleWatch

variable {World : Type}

def Sentry.rechecks (host : Host World) (job : Assignment) :
    Nat → Sentry → StateM World Sentry.Ending
  | 0, s => return (.ok (), s)
  | n + 1, s => do
    match ← s.recheck host job with
    | (.error failure, s) => return (.error failure, s)
    | (.ok (), s) => s.rechecks host job n

open Bench

namespace Sentry

variable {job : Assignment} {s : Sentry} {scene : Scene}

theorem InStep.iff {tree : Tree} {phase : Phase} {orders : List (Verb × String)}
    (fits : InStep job tree phase orders) :
    phase = .watching ↔ ∃ content, tree.Holds job.path content := by
  cases fits with
  | watching holds => simp [Exists.intro _ holds]
  | awaiting silent => simpa using not_exists.2 silent

theorem InStep.of_holds {tree : Tree} {phase : Phase} {orders : List (Verb × String)}
    (fits : InStep job tree phase orders) {content : Bytes} (holds : tree.Holds job.path content) :
    orders = [(job.verbOf content, job.service)] := by
  cases fits with
  | watching other =>
    have same := other.1.symm.trans holds.1
    simp only [Option.some.injEq, Node.file.injEq] at same
    rw [same]
  | awaiting silent => exact absurd holds (silent content)

theorem InStep.of_silent {tree : Tree} {phase : Phase} {orders : List (Verb × String)}
    (fits : InStep job tree phase orders) (silent : tree.Silent job.path) : orders = [] := by
  cases fits with
  | watching holds => exact absurd holds (silent _)
  | awaiting => rfl

theorem Looked.inStep {s' : Sentry} {scene' : Scene}
    (looked : s.Looked job scene (.ok (), s') scene') : ∃ orders,
      InStep job scene.notifier.tree s'.held.phase orders ∧ scene.Goes orders scene' := by
  cases looked with
  | found holds watching new went => exact ⟨_, by rw [watching]; exact .watching holds, went⟩
  | missing silent awaiting known went => exact ⟨_, by rw [awaiting]; exact .awaiting silent, went⟩

theorem recheck_inStep (room : 1 ≤ job.lineLimit) (own : job.path = s.target.file)
    (free : scene.notifier.refusals = []) {s' : Sentry} {scene' : Scene}
    (did : s.recheck Scene.host job scene = ((.ok (), s'), scene')) : ∃ orders,
      InStep job scene.notifier.tree s'.held.phase orders ∧ scene.Goes orders scene' := by
  by_cases fits : ∃ orders, InStep job scene.notifier.tree s.held.phase orders
  · obtain ⟨orders, fits⟩ := fits
    obtain ⟨same, went⟩ := (recheck_of_inStep room fits).of_run did
    cases same
    exact ⟨orders, fits, went.goes⟩
  · exact ((recheck_looked room own free (not_exists.1 fits)).of_run did).1.inStep

theorem recheck_error (room : 1 ≤ job.lineLimit) (own : job.path = s.target.file)
    (free : scene.notifier.refusals = []) {failure : Failure} {s' : Sentry} {scene' : Scene}
    (did : s.recheck Scene.host job scene = ((.error failure, s'), scene')) :
    s.held.phase = .watching ∧ scene.notifier.tree.Silent job.path ∧
      scene.notifier.tree.exists? s.target.dir = false := by
  by_cases fits : ∃ orders, InStep job scene.notifier.tree s.held.phase orders
  · obtain ⟨orders, fits⟩ := fits
    have ended := ((recheck_of_inStep room fits).of_run did).1
    simp at ended
  · obtain ⟨looked, succeeds⟩ := (recheck_looked room own free (not_exists.1 fits)).of_run did
    cases phase : s.held.phase with
    | awaiting =>
      have ended := succeeds phase
      simp at ended
    | watching =>
      rw [phase] at fits
      refine ⟨rfl, fun content holds => fits ⟨_, .watching holds⟩, ?_⟩
      cases looked with
      | lost gone => exact gone

/-- In a phase that fits, looking again and again repeats the order and does nothing else. -/
theorem rechecks_of_inStep {orders : List (Verb × String)} (room : 1 ≤ job.lineLimit)
    (fits : InStep job scene.notifier.tree s.held.phase orders) (n : Nat) :
    After (s.rechecks Scene.host job n) scene fun ending scene' =>
      ending = (.ok (), s) ∧ scene.Orders (List.replicate n orders).flatten scene' := by
  -- The notifier is the same after each time, so the phase still fits before the next.
  induction n generalizing scene with
  | zero => exact ⟨rfl, rfl, (List.append_nil _).symm⟩
  | succ n ih =>
    apply After.bind (recheck_of_inStep room fits)
    rintro _ w ⟨rfl, once⟩
    apply After.mono (ih (once.notifier ▸ fits))
    rintro _ w' ⟨rfl, rest⟩
    exact ⟨rfl, once.trans rest⟩

end Sentry

/-- Whatever happened before, looking at the file unasked brings the phase and the service in line
with the files as long as no registration is refused. From then on, while the files stay as they
are, looking again any number of times calls for no registration and leaves the watch as it is; each
time gives the same order again, or none if there is nothing in the file. -/
theorem rechecks_converge {job : Assignment} {s : Sentry} {scene : Scene}
    (room : 1 ≤ job.lineLimit) (own : job.path = s.target.file)
    (free : scene.notifier.refusals = []) :
    (∀ s' scene', s.recheck Scene.host job scene = ((.ok (), s'), scene') →
      (s'.held.phase = .watching ↔ ∃ content, scene.notifier.tree.Holds s.target.file content) ∧
      (∀ content, scene.notifier.tree.Holds s.target.file content →
        scene'.served.getLast? = some (job.verbOf content, job.service)) ∧
      ∀ n, ∃ later, s'.rechecks Scene.host job n scene' = ((.ok (), s'), later) ∧
        later.notifier.calls = scene'.notifier.calls ∧
        (∀ content, scene.notifier.tree.Holds s.target.file content →
          later.served = scene'.served ++ List.replicate n (job.verbOf content, job.service)) ∧
        (scene.notifier.tree.Silent s.target.file → later.served = scene'.served)) ∧
    ∀ failure s' scene', s.recheck Scene.host job scene = ((.error failure, s'), scene') →
      s.held.phase = .watching ∧ scene.notifier.tree.Silent s.target.file ∧
        scene.notifier.tree.exists? s.target.dir = false := by
  rw [← own]
  refine ⟨?_, fun failure s' scene' did => Sentry.recheck_error room own free did⟩
  intro s' scene' did
  obtain ⟨orders, fits, went⟩ := Sentry.recheck_inStep room own free did
  refine ⟨fits.iff, ?_, ?_⟩
  · intro content holds
    rw [went.served, fits.of_holds holds, List.getLast?_concat]
  · intro n
    have still : Sentry.InStep job scene'.notifier.tree s'.held.phase orders :=
      went.steady.tree.symm ▸ fits
    obtain ⟨same, again⟩ := Sentry.rechecks_of_inStep room still n
    refine ⟨_, Prod.ext same rfl, congrArg Notifier.calls again.notifier, ?_, ?_⟩
    · intro content holds
      rw [again.served, fits.of_holds holds, List.flatten_replicate_singleton]
    · intro silent
      rw [again.served, fits.of_silent silent, List.flatten_replicate_nil, List.append_nil]

open Example in
/-- The file declares a master, and looking at it says so again; then it goes away and no one is
told, and looking at it finds that out. -/
theorem rechecks_converge_after_silent_removal : ∃ (before scene : Scene) (s₀ s : Sentry),
    Trial job target stage (fun _ _ => True) before s₀ ∧
    (∃ s' after, s₀.recheck Scene.host job before = ((.ok (), s'), after) ∧
      after.served.getLast? = some (.enable, "s")) ∧
    Trial job target stage (fun _ _ => True) scene s ∧ s.held.phase = .watching ∧
    1 ≤ job.lineLimit ∧ job.path = s.target.file ∧ scene.notifier.refusals = [] ∧
    ∃ s' scene', s.recheck Scene.host job scene = ((.ok (), s'), scene') ∧
      s'.held = ⟨.awaiting, some ⟨2⟩, none⟩ ∧
      ∀ n, ∃ later, s'.rechecks Scene.host job n scene' = ((.ok (), s'), later) ∧
        later.notifier.calls = scene'.notifier.calls := by
  have began : Trial job target stage (fun _ _ => True) _ _ := .of_start rfl
  have removed := began.of_step (.happen (.remove target.file)) trivial rfl
  refine ⟨_, _, _, _, began, ?_, removed, rfl, by decide, rfl, rfl, ?_⟩
  · generalize first : (Sentry.ofTarget target).start _ _ _ = ran
    have own : job.path = ran.1.2.target.file := by rw [← first]; rfl
    have free : ran.2.notifier.refusals = [] := by rw [← first]; rfl
    have did : (ran.1.2.recheck Scene.host job ran.2).1 = (.ok (), ran.1.2) := by
      rw [← first]; rfl
    have holds : ran.2.notifier.tree.Holds ran.1.2.target.file [0x6d] := by
      rw [← first]
      exact ⟨rfl, by decide⟩
    have converged := (rechecks_converge (by decide) own free).1 _ _ (Prod.ext did rfl)
    exact ⟨_, _, Prod.ext did rfl, converged.2.1 _ holds⟩
  · generalize first : Deed.run _ _ _ _ = ran
    have own : job.path = ran.1.2.target.file := by rw [← first]; rfl
    have free : ran.2.notifier.refusals = [] := by rw [← first]; rfl
    have did : (ran.1.2.recheck Scene.host job ran.2).1 =
        (.ok (), ⟨target, .awaiting, some ⟨2⟩, none⟩) := by rw [← first]; rfl
    refine ⟨_, _, Prod.ext did rfl, rfl, fun n => ?_⟩
    have converged := (rechecks_converge (by decide) own free).1 _ _ (Prod.ext did rfl)
    obtain ⟨later, repeats, calls, -⟩ := converged.2.2 n
    exact ⟨later, repeats, calls⟩

end RoleWatch
