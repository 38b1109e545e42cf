import RoleWatch.Proofs.Bench.Outcome

/-!
How loud the watch is. In calm surroundings, where registrations are not refused, the service obeys
and the directory stays, an error is logged once for each loss of the file and once if the directory
is gone, and never by looking again; a warning is logged once for each batch with lost events.
-/
namespace RoleWatch

/-- How many entries are at a level. -/
def Log.amount (level : Level) (entries : List Entry) : Nat :=
  entries.countP fun e => e.level = level

@[simp] theorem Log.amount_append (level : Level) (entries more : List Entry) :
    amount level (entries ++ more) = amount level entries + amount level more :=
  List.countP_append ..

/-- The file cannot be read, or nothing is in it. -/
def Assignment.unreadable (job : Assignment) (tree : Bench.Tree) : Bool :=
  !(job.roleOf (tree.openFile job.path)).isOk

/-- How many errors are logged for a verdict, if the file cannot be read or if it can. -/
def Verdict.alarms (unreadable : Bool) : Verdict → Nat
  | .directoryGone | .fileGone => 1
  | .changed => unreadable.toNat
  | .idle | .appeared => 0

namespace Bench.Scene

/-- Nothing injected stands in the way of the watch, and its directory is there. -/
structure Calm (t : Target) (scene : Scene) : Prop where
  obeys : scene.refuses = false
  free : scene.notifier.refusals = []
  there : scene.notifier.tree.exists? t.dir = true

/-- So many errors and warnings are added to the log. -/
def Adds (errors warnings : Nat) (scene scene' : Scene) : Prop :=
  ∃ new, scene'.log = scene.log ++ new ∧ Log.amount .error new = errors ∧
    Log.amount .warn new = warnings

structure Logs (errors warnings : Nat) (scene scene' : Scene) : Prop where
  tree : scene'.notifier.tree = scene.notifier.tree
  refusals : scene'.notifier.refusals = scene.notifier.refusals
  refuses : scene'.refuses = scene.refuses
  adds : Adds errors warnings scene scene'

variable {t : Target} {scene a b c : Scene} {errors warnings more others : Nat}

theorem Logs.refl (scene : Scene) : Logs 0 0 scene scene :=
  ⟨rfl, rfl, rfl, [], (List.append_nil _).symm, rfl, rfl⟩

theorem Adds.trans (first : Adds errors warnings a b) (second : Adds more others b c) :
    Adds (errors + more) (warnings + others) a c := by
  obtain ⟨new, earlier, errors, warnings⟩ := first
  obtain ⟨new', later, more, others⟩ := second
  refine ⟨new ++ new', ?_, ?_, ?_⟩
  · rw [later, earlier, List.append_assoc]
  · rw [Log.amount_append, errors, more]
  · rw [Log.amount_append, warnings, others]

theorem Logs.trans (first : Logs errors warnings a b) (second : Logs more others b c) :
    Logs (errors + more) (warnings + others) a c :=
  ⟨second.tree.trans first.tree, second.refusals.trans first.refusals,
    second.refuses.trans first.refuses, first.adds.trans second.adds⟩

theorem Logs.then_quiet (first : Logs errors warnings a b) (second : Logs 0 0 b c) :
    Logs errors warnings a c := first.trans second

theorem Logs.after_quiet (first : Logs 0 0 a b) (second : Logs errors warnings b c) :
    Logs errors warnings a c := by
  simpa using first.trans second

theorem Calm.logs (calm : Calm t a) (logs : Logs errors warnings a b) : Calm t b where
  obeys := logs.refuses.trans calm.obeys
  free := logs.refusals.trans calm.free
  there := logs.tree.symm ▸ calm.there

theorem note_logs (entry : Log.Entry) (scene : Scene) :
    After (host.note entry) scene fun _ scene' =>
      Logs (Log.amount .error [entry]) (Log.amount .warn [entry]) scene scene' :=
  ⟨rfl, rfl, rfl, [entry], rfl, rfl, rfl⟩

theorem call_logs {α : Type} (call : Notifier → α × Notifier)
    (steady : scene.notifier.Steady (call scene.notifier).2) :
    After (onNotifier call) scene fun answer scene' =>
      answer = (call scene.notifier).1 ∧ Logs 0 0 scene scene' :=
  ⟨rfl, steady.tree, steady.refusals, rfl, [], (List.append_nil _).symm, rfl, rfl⟩

theorem addWatch_logs (free : scene.notifier.refusals = []) {p : Path}
    (there : scene.notifier.tree.exists? p = true) (interest : Mask) :
    After (host.addWatch p interest) scene fun answer scene' =>
      (∃ h, answer = .ok h) ∧ Logs 0 0 scene scene' := by
  obtain ⟨steady, ⟨-, granted, -⟩ | ⟨absent, -⟩⟩ := Notifier.addWatch_free free p interest
  · apply After.mono (call_logs (fun n => n.addWatch p interest) steady)
    rintro _ scene' ⟨rfl, logs⟩
    exact ⟨⟨_, granted⟩, logs⟩
  · simp [there] at absent

theorem dropHeld_logs (held : Option Handle) (scene : Scene) :
    After (Sentry.dropHeld host held) scene fun _ scene' => Logs 0 0 scene scene' := by
  cases held with
  | none => exact Logs.refl scene
  | some handle =>
    apply After.bind (call_logs (fun n => n.removeWatch handle)
      (scene.notifier.removeWatch_steady handle))
    rintro (cause | ⟨⟩) w ⟨-, logs⟩
    · exact After.mono (note_logs _ w) fun _ _ noted => logs.then_quiet noted
    · exact After.mono (note_logs _ w) fun _ _ noted => logs.then_quiet noted

end Bench.Scene

open Bench Scene

theorem Bench.Tree.exists?_of_content {tree : Tree} {p : Path} {content : Bytes}
    (found : tree.content p = .ok content) : tree.exists? p = true := by
  unfold Tree.content at found
  split at found
  · rename_i here
    simp [exists?, here]
  · cases found
  · cases found

variable {job : Assignment} {t : Target} {s : Sentry} {scene : Scene}

inductive Assignment.Enforces (job : Assignment) (tree : Tree) : Except Failure Role → Prop where
  | unread {failure : Failure} (light : failure.isFatal = false)
      (unreadable : job.unreadable tree = true) : Enforces job tree (.error failure)
  | read {role : Role} (readable : job.unreadable tree = false)
      (there : tree.exists? job.path = true) : Enforces job tree (.ok role)

theorem Assignment.enforces_roleOf (job : Assignment) (tree : Tree) :
    job.Enforces tree (job.roleOf (tree.openFile job.path)) := by
  cases answer : job.roleOf (tree.openFile job.path) with
  | error failure =>
    exact .unread (not_fatal_of_roleOf answer)
      (by simp [unreadable, answer, Except.isOk, Except.toBool])
  | ok role =>
    obtain ⟨content, found, -⟩ := content_of_role answer
    exact .read (by simp [unreadable, answer, Except.isOk, Except.toBool])
      (Tree.exists?_of_content found)

theorem Assignment.enforce_logs (job : Assignment) (obeys : scene.refuses = false) :
    After (job.enforce host) scene fun answer scene' =>
      job.Enforces scene.notifier.tree answer ∧ Logs 0 0 scene scene' := by
  have read : After (job.readRole host) scene fun answer scene' =>
      job.Enforces scene.notifier.tree answer ∧ scene' = scene :=
    ⟨job.enforces_roleOf scene.notifier.tree, rfl⟩
  apply After.bind read
  rintro (failure | role) scene ⟨answered, rfl⟩
  · exact After.bind (note_logs _ _) fun _ _ noted => After.pure ⟨answered, noted⟩
  · have announced : After (host.note (job.announcement (.ofRole role))) scene fun _ scene' =>
        Logs 0 0 scene scene' := by
      cases role <;> exact note_logs _ _
    apply After.bind announced
    intro _ w said
    have performed : After (host.perform (.ofRole role) job.service) w fun answer w' =>
        answer = .ok () ∧ Logs 0 0 w w' := by
      refine ⟨?_, rfl, rfl, rfl, [], (List.append_nil _).symm, rfl, rfl⟩
      simp [host, Scene.perform, said.refuses.trans obeys]
    apply After.bind performed
    rintro _ w₁ ⟨rfl, done⟩
    exact After.bind (note_logs _ w₁) fun _ _ noted =>
      After.pure ⟨answered, (said.then_quiet done).then_quiet noted⟩

namespace Sentry

/-- An operation of the watch ends in some way, with so many errors and warnings logged. -/
structure Alarms (s : Sentry) (outcome : Except Failure Unit) (errors warnings : Nat)
    (scene : Scene) (ending : Ending) (scene' : Scene) : Prop where
  outcome : ending.1 = outcome
  target : ending.2.target = s.target
  logs : scene.Logs errors warnings scene'

variable {outcome : Except Failure Unit} {errors warnings before earlier : Nat}

theorem Alarms.since {scene₁ scene' : Scene} {ending : Ending}
    (logs : scene.Logs before earlier scene₁)
    (alarms : s.Alarms outcome errors warnings scene₁ ending scene') :
    s.Alarms outcome (before + errors) (earlier + warnings) scene ending scene' :=
  ⟨alarms.outcome, alarms.target, logs.trans alarms.logs⟩

theorem Alarms.since_quiet {scene₁ scene' : Scene} {ending : Ending}
    (logs : scene.Logs 0 0 scene₁)
    (alarms : s.Alarms outcome errors warnings scene₁ ending scene') :
    s.Alarms outcome errors warnings scene ending scene' :=
  ⟨alarms.outcome, alarms.target, logs.after_quiet alarms.logs⟩

theorem watchFile_logs (there : scene.notifier.tree.exists? s.target.file = true)
    (free : scene.notifier.refusals = []) :
    After (s.watchFile host) scene fun answer scene' =>
      (∃ f, answer = .ok f) ∧ scene.Logs 0 0 scene' := by
  apply After.bind (addWatch_logs free there .fileInterest)
  rintro _ w ⟨⟨f, rfl⟩, logs⟩
  exact After.pure ⟨⟨f, rfl⟩, logs⟩

/-- Looking for the awaited file is never loud. -/
theorem promote_alarms (own : job.path = s.target.file) (calm : scene.Calm t) :
    After (s.promote host job) scene (s.Alarms (.ok ()) 0 0 scene) := by
  apply After.bind (job.enforce_logs calm.obeys)
  rintro _ w ⟨answered, logs⟩
  cases answered with
  | unread light =>
    simp only [light]
    exact After.bind (note_logs _ w) fun _ _ noted =>
      After.pure ⟨rfl, rfl, logs.then_quiet noted⟩
  | read _ there =>
    apply After.bind (watchFile_logs (own ▸ logs.tree ▸ there) (calm.logs logs).free)
    rintro _ w₁ ⟨⟨f, rfl⟩, logs₁⟩
    apply After.bind (dropHeld_logs s.held.dir w₁)
    intro _ w₂ logs₂
    exact After.bind (note_logs _ w₂) fun _ _ noted => After.pure
      ⟨rfl, rfl, ((logs.then_quiet logs₁).then_quiet logs₂).then_quiet noted⟩

theorem watchDir_alarms (calm : scene.Calm s.target) :
    After (s.watchDir host) scene (s.Alarms (.ok ()) 0 0 scene) := by
  unfold watchDir
  cases s.held.dir with
  | some d => exact After.pure ⟨rfl, rfl, .refl scene⟩
  | none =>
    apply After.bind (addWatch_logs calm.free calm.there .directoryInterest)
    rintro _ w ⟨⟨d, rfl⟩, logs⟩
    exact After.pure ⟨rfl, rfl, logs⟩

theorem awaitFile_alarms (own : job.path = s.target.file) (calm : scene.Calm s.target) :
    After (s.awaitFile host job) scene (s.Alarms (.ok ()) 0 0 scene) := by
  apply After.bind (dropHeld_logs s.held.file scene)
  intro _ w₁ logs₁
  apply After.bind (watchDir_alarms (s := s.withFile none) (calm.logs logs₁))
  rintro ⟨_, s'⟩ w₂ ⟨rfl, target, logs₂⟩
  apply After.bind (note_logs _ w₂)
  intro _ w₃ noted
  have logs := (logs₁.then_quiet logs₂).then_quiet noted
  have same : (s'.inPhase .awaiting).target = s.target := target
  apply After.mono (promote_alarms (own.trans (congrArg Target.file same.symm)) (calm.logs logs))
  intro ending w₄ alarms
  exact ⟨alarms.outcome, alarms.target.trans same, logs.then_quiet alarms.logs⟩

theorem giveUp_alarms (own : job.path = s.target.file) (calm : scene.Calm s.target)
    (message : String) (fields : List (String × Log.Value)) :
    After (do host.note ⟨.error, message, fields⟩; s.awaitFile host job) scene
      (s.Alarms (.ok ()) 1 0 scene) := by
  apply After.bind (note_logs _ scene)
  intro _ w noted
  exact After.mono (awaitFile_alarms own (calm.logs noted)) fun _ _ alarms => alarms.since noted

theorem refresh_alarms (own : job.path = s.target.file) (calm : scene.Calm s.target) :
    After (s.refresh host job) scene
      (s.Alarms (.ok ()) (job.unreadable scene.notifier.tree).toNat 0 scene) := by
  apply After.bind (job.enforce_logs calm.obeys)
  rintro _ w ⟨answered, logs⟩
  cases answered with
  | unread light unreadable =>
    simp only [light, unreadable]
    exact After.mono (giveUp_alarms own (calm.logs logs) _ _) fun _ _ => .since_quiet logs
  | read readable =>
    rw [readable]
    exact After.pure ⟨rfl, rfl, logs⟩

theorem start_alarms (own : job.path = t.file) (calm : scene.Calm t) :
    After ((ofTarget t).start host job) scene
      ((ofTarget t).Alarms (.ok ()) (job.unreadable scene.notifier.tree).toNat 0 scene) := by
  apply After.bind (note_logs _ scene)
  intro _ w₀ began
  apply After.bind (job.enforce_logs (calm.logs began).obeys)
  rintro _ w ⟨answered, enforced⟩
  have logs := began.after_quiet enforced
  rw [began.tree] at answered
  cases answered with
  | unread light unreadable =>
    simp only [light, unreadable]
    exact After.mono (giveUp_alarms own (calm.logs logs) _ _) fun _ _ => .since_quiet logs
  | read readable there =>
    -- Nothing takes the file away between reading it and watching it.
    rw [readable]
    apply After.bind (watchFile_logs (s := ofTarget t) (own ▸ logs.tree ▸ there)
      (calm.logs logs).free)
    rintro _ w₁ ⟨⟨f, rfl⟩, watched⟩
    exact After.bind (note_logs _ w₁) fun _ _ noted =>
      After.pure ⟨rfl, rfl, (logs.then_quiet watched).then_quiet noted⟩

/-- How a verdict is acted on: how that ends, and how many errors are logged. -/
theorem act_alarms (own : job.path = s.target.file) (calm : scene.Calm s.target) (j : Judgement) :
    After (s.act host job j) scene
      (s.Alarms
        (if j.verdict = .directoryGone then .error (.fatal (.directoryRemoved s.target.dir))
          else .ok ())
        (j.verdict.alarms (job.unreadable scene.notifier.tree)) 0 scene) := by
  unfold act
  cases verdict : j.verdict with
  | idle => exact After.pure ⟨rfl, rfl, .refl scene⟩
  | directoryGone =>
    exact After.bind (note_logs _ scene) fun _ _ noted => After.pure ⟨rfl, rfl, noted⟩
  | appeared =>
    apply After.bind (note_logs _ scene)
    intro _ w noted
    exact After.mono (promote_alarms own (calm.logs noted)) fun _ _ => .since_quiet noted
  | fileGone => exact giveUp_alarms own calm _ _
  | changed =>
    apply After.bind (note_logs _ scene)
    intro _ w noted
    apply After.mono (refresh_alarms own (calm.logs noted))
    intro _ _ alarms
    rw [noted.tree] at alarms
    exact alarms.since_quiet noted

end Sentry

end RoleWatch
