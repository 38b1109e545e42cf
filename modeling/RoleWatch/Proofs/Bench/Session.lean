import RoleWatch.Proofs.Bench.Alarms
import RoleWatch.Proofs.Bench.Course
import RoleWatch.Proofs.Watch.Classification

/-!
Runs of the watch on a stage, call by call. In calm surroundings each loss of the file is one error
in the log, however often the file is looked for afterwards.
-/
namespace RoleWatch.Bench

open Scene

variable {job : Assignment} {t : Target} {s : Sentry} {scene : Scene}

inductive Task where
  | attend (batch : List Event)
  | recheck
  | release

namespace Task

def run (job : Assignment) (s : Sentry) : Task → StateM Scene Sentry.Ending
  | .attend batch => s.attend host job batch
  | .recheck => s.recheck host job
  | .release => do
    let s ← s.release host
    return (.ok (), s)

/-- The file is watched, and it is gone or a look at it that is called for fails. -/
def loses (job : Assignment) (s : Sentry) (tree : Tree) : Task → Bool
  | .attend batch =>
    let verdict := (Judgement.ofBatch s.held s.target.name batch).verdict
    s.held.phase = .watching &&
      (verdict = .fileGone || verdict = .changed && job.unreadable tree)
  | .recheck => s.held.phase = .watching && job.unreadable tree
  | .release => false

def meetsEnd (s : Sentry) : Task → Bool
  | .attend batch => (Judgement.ofBatch s.held s.target.name batch).verdict = .directoryGone
  | .recheck | .release => false

def overflows : Task → Bool
  | .attend batch => batch.any fun e => e.mask.has .overflow
  | .recheck | .release => false

/-- How a call ends. -/
def outcome (s : Sentry) (task : Task) : Except Failure Unit :=
  if task.meetsEnd s then .error (.fatal (.directoryRemoved s.target.dir)) else .ok ()

/-- How many errors a call logs. -/
def errors (job : Assignment) (s : Sentry) (tree : Tree) (task : Task) : Nat :=
  (task.loses job s tree || task.meetsEnd s).toNat

theorem errors_attend (job : Assignment) (s : Sentry) (tree : Tree) (batch : List Event) :
    errors job s tree (.attend batch) =
      (Judgement.ofBatch s.held s.target.name batch).verdict.alarms (job.unreadable tree) := by
  cases phase : s.held.phase with
  | awaiting =>
    have verdicts := Judgement.verdict_awaiting phase s.target.name batch
    rcases verdicts with verdict | verdict | verdict <;>
      simp [errors, loses, meetsEnd, phase, verdict, Verdict.alarms]
  | watching =>
    have verdicts := Judgement.verdict_watching phase s.target.name batch
    rcases verdicts with verdict | verdict | verdict <;>
      simp [errors, loses, meetsEnd, phase, verdict, Verdict.alarms]

theorem errors_eq_add (job : Assignment) (s : Sentry) (tree : Tree) (task : Task) :
    task.errors job s tree = (task.loses job s tree).toNat + (task.meetsEnd s).toNat := by
  cases task with
  | attend batch =>
    cases phase : s.held.phase with
    | awaiting => simp [errors, loses, phase]
    | watching =>
      have verdicts := Judgement.verdict_watching phase s.target.name batch
      rcases verdicts with verdict | verdict | verdict <;>
        simp [errors, loses, meetsEnd, phase, verdict]
  | recheck | release => simp [errors, meetsEnd]

theorem loses_of_awaiting (job : Assignment) {s : Sentry} (awaiting : s.held.phase = .awaiting)
    (tree : Tree) (task : Task) : task.loses job s tree = false := by
  cases task <;> simp [loses, awaiting]

section

variable (own : job.path = s.target.file) (calm : scene.Calm s.target)

include own calm

theorem attend_alarms (batch : List Event) :
    After (s.attend host job batch) scene
      (s.Alarms (outcome s (.attend batch)) (errors job s scene.notifier.tree (.attend batch))
        (overflows (.attend batch)).toNat scene) := by
  have acts {w : Scene} (logs : scene.Logs 0 (overflows (.attend batch)).toNat w) :
      After (s.act host job (Judgement.ofBatch s.held s.target.name batch)) w
        (s.Alarms (outcome s (.attend batch)) (errors job s scene.notifier.tree (.attend batch))
          (overflows (.attend batch)).toNat scene) := by
    apply After.mono (Sentry.act_alarms own (calm.logs logs) _)
    intro _ _ alarms
    rw [logs.tree, ← errors_attend] at alarms
    simpa [outcome, meetsEnd] using alarms.since logs
  apply After.bind (note_logs _ scene)
  intro _ w noted
  dsimp only
  rw [Judgement.ofBatch_overflowed]
  cases lost : Judgement.sawOverflow batch with
  | true =>
    have said : overflows (.attend batch) = true := lost
    exact After.bind (note_logs _ w) fun _ _ warned =>
      acts (said.symm ▸ noted.after_quiet warned)
  | false =>
    have said : overflows (.attend batch) = false := lost
    exact acts (said.symm ▸ noted)

theorem recheck_alarms :
    After (s.recheck host job) scene
      (s.Alarms (.ok ()) (errors job s scene.notifier.tree .recheck) 0 scene) := by
  apply After.bind (note_logs _ scene)
  intro _ w noted
  cases phase : s.held.phase with
  | watching =>
    apply After.mono (Sentry.refresh_alarms own (calm.logs noted))
    intro _ _ alarms
    rw [noted.tree] at alarms
    simpa [errors, loses, meetsEnd, phase] using alarms.since_quiet noted
  | awaiting =>
    apply After.mono (Sentry.promote_alarms own (calm.logs noted))
    intro _ _ alarms
    simpa [errors, loses, meetsEnd, phase] using alarms.since_quiet noted

end

theorem release_logs :
    After (s.release host) scene fun released scene' =>
      released.target = s.target ∧ scene.Logs 0 0 scene' := by
  apply After.bind (dropHeld_logs s.held.file scene)
  intro _ w₁ logs₁
  apply After.bind (dropHeld_logs s.held.dir w₁)
  intro _ w₂ logs₂
  exact After.bind (note_logs _ w₂) fun _ _ noted =>
    After.pure ⟨rfl, (logs₁.then_quiet logs₂).then_quiet noted⟩

theorem run_alarms (own : job.path = t.file) (target : s.target = t) (calm : scene.Calm t)
    (task : Task) :
    After (task.run job s) scene
      (s.Alarms (task.outcome s) (task.errors job s scene.notifier.tree) task.overflows.toNat
        scene) := by
  subst target
  cases task with
  | attend batch => exact attend_alarms own calm batch
  | recheck => exact recheck_alarms own calm
  | release =>
    apply After.bind release_logs
    rintro released w ⟨target, logs⟩
    exact After.pure ⟨rfl, target, logs⟩

end Task

structure Occasion where
  task : Task
  sentry : Sentry
  scene : Scene

namespace Occasion

def loses (job : Assignment) (o : Occasion) : Bool :=
  o.task.loses job o.sentry o.scene.notifier.tree

def meetsEnd (o : Occasion) : Bool := o.task.meetsEnd o.sentry

def overflows (o : Occasion) : Bool := o.task.overflows

def left (job : Assignment) (o : Occasion) : Scene := (o.task.run job o.sentry o.scene).2

end Occasion

/-- A run of the watch on a stage: it begins, and then calls are made until one of them fails, while
anything happens in between. Each call finds calm surroundings. -/
inductive Session (job : Assignment) (t : Target) (first : Scene) :
    List Occasion → Scene → Sentry.Ending → Prop where
  | start (calm : first.Calm t) :
      Session job t first [] ((Sentry.ofTarget t).start host job first).2
        ((Sentry.ofTarget t).start host job first).1
  | meanwhile {calls : List Occasion} {scene : Scene} {ending : Sentry.Ending}
      (before : Session job t first calls scene ending) (turn : Notifier.Turn) (span : Millis) :
      Session job t first calls
        { scene with notifier := turn.on scene.notifier, time := scene.time + span } ending
  | call {calls : List Occasion} {scene : Scene} {ending : Sentry.Ending}
      (before : Session job t first calls scene ending) (ok : ending.1 = .ok ())
      (calm : scene.Calm t) (task : Task) :
      Session job t first (calls ++ [⟨task, ending.2, scene⟩]) (task.run job ending.2 scene).2
        (task.run job ending.2 scene).1

namespace Session

variable {first : Scene} {calls : List Occasion} {ending : Sentry.Ending}

/-- Each call finds the watch on its target, and calm surroundings. -/
theorem found (own : job.path = t.file) (session : Session job t first calls scene ending) :
    ending.2.target = t ∧ ∀ o ∈ calls, o.sentry.target = t ∧ o.scene.Calm t := by
  induction session with
  | start calm => exact ⟨(Sentry.start_alarms own calm).target, nofun⟩
  | meanwhile _ _ _ ih => exact ih
  | call before ok calm task ih =>
    obtain ⟨target, all⟩ := ih
    have alarms := task.run_alarms own target calm
    refine ⟨alarms.target.trans target, fun o among => ?_⟩
    rcases List.mem_append.1 among with earlier | now
    · exact all o earlier
    · obtain rfl := List.mem_singleton.1 now
      exact ⟨target, calm⟩

theorem each_logs (own : job.path = t.file) (session : Session job t first calls scene ending)
    {o : Occasion} (among : o ∈ calls) :
    o.scene.Logs (o.loses job || o.meetsEnd).toNat o.overflows.toNat (o.left job) := by
  obtain ⟨target, calm⟩ := (session.found own).2 o among
  exact (o.task.run_alarms own target calm).logs

theorem adds (own : job.path = t.file) (session : Session job t first calls scene ending) :
    first.Adds
      (calls.countP (Occasion.loses job) + (job.unreadable first.notifier.tree).toNat +
        (!ending.1.isOk).toNat)
      (calls.countP Occasion.overflows) scene := by
  induction session with
  | start calm =>
    have alarms := Sentry.start_alarms own calm
    rw [alarms.outcome]
    simpa [Except.isOk, Except.toBool] using alarms.logs.adds
  | meanwhile _ _ _ ih => exact ih
  | @call calls scene ending before ok calm task ih =>
    have target := (before.found own).1
    have alarms := task.run_alarms own target calm
    have failed : (!(task.outcome ending.2).isOk) = task.meetsEnd ending.2 := by
      unfold Task.outcome
      cases task.meetsEnd ending.2 <;> rfl
    have one (counts : Occasion → Bool) (o : Occasion) : [o].countP counts = (counts o).toNat := by
      cases counted : counts o <;> simp [counted]
    obtain ⟨new, log, errors, warnings⟩ := ih.trans alarms.logs.adds
    refine ⟨new, log, ?_, ?_⟩
    · rw [errors, ok, alarms.outcome, failed, List.countP_append, one, Task.errors_eq_add]
      simp only [Occasion.loses, Except.isOk, Except.toBool, Bool.not_true, Bool.toNat_false]
      omega
    · rw [warnings, List.countP_append, one]
      rfl

/-- A run ends by itself only once its directory is gone. -/
theorem failed (own : job.path = t.file) (session : Session job t first calls scene ending)
    {failure : Failure} (failed : ending.1 = .error failure) :
    failure = .fatal (.directoryRemoved t.dir) ∧
      ∃ before o, calls = before ++ [o] ∧ o.meetsEnd = true := by
  induction session with
  | start calm =>
    rw [(Sentry.start_alarms own calm).outcome] at failed
    cases failed
  | meanwhile _ _ _ ih => exact ih failed
  | call before ok calm task ih =>
    have target := (before.found own).1
    have alarms := task.run_alarms own target calm
    rw [alarms.outcome, Task.outcome, target] at failed
    split at failed
    · rename_i gone
      cases failed
      exact ⟨rfl, _, _, rfl, gone⟩
    · cases failed

/-- What a run has come to. -/
structure Counted (job : Assignment) (t : Target) (first : Scene) (calls : List Occasion)
    (scene : Scene) (ending : Sentry.Ending) : Prop where
  began : first.Adds (job.unreadable first.notifier.tree).toNat 0
    ((Sentry.ofTarget t).start host job first).2
  /-- A call is loud exactly if it loses the file or learns that the directory is gone, and warns
  exactly if events were lost. -/
  each : ∀ o ∈ calls,
    o.scene.Adds (o.loses job || o.meetsEnd).toNat o.overflows.toNat (o.left job)
  retries : ∀ o ∈ calls, o.sentry.held.phase = .awaiting → o.meetsEnd = false →
    o.scene.Adds 0 o.overflows.toNat (o.left job)
  total : first.Adds
    (calls.countP (Occasion.loses job) + (job.unreadable first.notifier.tree).toNat +
      (!ending.1.isOk).toNat)
    (calls.countP Occasion.overflows) scene
  ended : ∀ failure, ending.1 = .error failure → failure = .fatal (.directoryRemoved t.dir) ∧
    ∃ before o, calls = before ++ [o] ∧ o.meetsEnd = true

theorem calm (session : Session job t first calls scene ending) : first.Calm t := by
  induction session with
  | start calm => exact calm
  | meanwhile _ _ _ ih => exact ih
  | call _ _ _ _ ih => exact ih

/-- Errors are logged once for each loss and never by looking again. -/
theorem alarms_counted (own : job.path = t.file)
    (session : Session job t first calls scene ending) :
    Counted job t first calls scene ending where
  began := (Sentry.start_alarms own session.calm).logs.adds
  each _ among := (session.each_logs own among).adds
  retries o among awaiting goes_on := by
    have adds := (session.each_logs own among).adds
    rw [goes_on, Occasion.loses, Task.loses_of_awaiting job awaiting] at adds
    exact adds
  total := session.adds own
  ended _ failed := session.failed own failed

open Example in
/-- The file goes, it is looked for in vain, events are lost, and at last the directory moves away:
two errors and one warning. -/
theorem alarms_counted_of_departure :
    ∃ (calls : List Occasion) (scene : Scene) (ending : Sentry.Ending),
    Example.job.path = target.file ∧ Session Example.job target stage calls scene ending ∧
    calls.length = 4 ∧ calls.countP (Occasion.loses Example.job) = 1 ∧ stage.Adds 2 1 scene ∧
    ending.1 = .error (.fatal (.directoryRemoved target.dir)) := by
  have calm : stage.Calm target := ⟨rfl, rfl, rfl⟩
  have began : Session Example.job target stage _ _ _ := .start calm
  have deleted := began.meanwhile (.activity (.delete target.file)) 0
  have lost := deleted.call rfl ⟨rfl, rfl, rfl⟩ (.attend [.onSelf ⟨1⟩ (.ofFlags [.deleteSelf])])
  have sought := lost.call rfl ⟨rfl, rfl, rfl⟩ .recheck
  have overflowed := sought.call rfl ⟨rfl, rfl, rfl⟩ (.attend [.lost])
  have departed := overflowed.call rfl ⟨rfl, rfl, rfl⟩
    (.attend [.onSelf ⟨2⟩ (.ofFlags [.moveSelf])])
  exact ⟨_, _, _, rfl, departed, rfl, rfl, (departed.alarms_counted rfl).total, rfl⟩

end Session

end RoleWatch.Bench
