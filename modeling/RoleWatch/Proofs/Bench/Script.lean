import RoleWatch.Proofs.Bench.Course

/-!
What is set up for the reads of a scripted source. The cues are a queue of their own: activity puts
cues at its end and each read takes the first of them, whatever else there is; and what activity
does besides is the same whatever cues there are.
-/
namespace RoleWatch.Bench

def Activity.cues : Activity → List Cue
  | .later cue => [cue]
  | _ => []

namespace Notifier

section Cues

variable (n : Notifier) (cues : List Cue) (reads : Nat)

@[simp] theorem withScript_tree : (n.withScript cues reads).tree = n.tree := rfl

@[simp] theorem withScript_pending : (n.withScript cues reads).pending = n.pending := rfl

@[simp] theorem withTree_withScript (tree : Tree) :
    (n.withScript cues reads).withTree tree = (n.withTree tree).withScript cues reads := rfl

@[simp] theorem tellSelf_withScript (p : Path) (mask : Mask) :
    (n.withScript cues reads).tellSelf p mask = (n.tellSelf p mask).withScript cues reads := rfl

@[simp] theorem tellParent_withScript (p : Path) (mask : Mask) :
    (n.withScript cues reads).tellParent p mask = (n.tellParent p mask).withScript cues reads := by
  unfold tellParent
  split
  · rfl
  · rfl

@[simp] theorem drop_withScript (p : Path) :
    (n.withScript cues reads).drop p = (n.drop p).withScript cues reads := rfl

@[simp] theorem write_withScript (p : Path) (content : Bytes) :
    (n.withScript cues reads).write p content = (n.write p content).withScript cues reads := by
  simp [write]

theorem sweep_withScript (paths : List Path) :
    (n.withScript cues reads).sweep paths = (n.sweep paths).withScript cues reads := by
  induction paths generalizing n with
  | nil => rfl
  | cons p rest ih => exact ih (n.takeAway p)

theorem removeDirectory_withScript (dir : Path) : (n.withScript cues reads).removeDirectory dir =
    (n.removeDirectory dir).withScript cues reads := by
  cases removed : n.tree.remove? dir with
  | none => simp [removeDirectory, removed]
  | some tree =>
    have removed' : (n.withScript cues reads).tree.remove? dir = some tree := removed
    rw [removeDirectory_eq removed, removeDirectory_eq removed', withTree_withScript,
      sweep_withScript]
    rfl

/-- Activity does the same whatever cues there are, and puts those that it sets up behind them. -/
theorem apply_withScript (a : Activity) : (n.withScript cues reads).apply a =
    (n.apply a).withScript (cues ++ a.cues) reads := by
  cases a with
  | later cue => rfl
  | removeDirectory dir =>
    simp only [Activity.cues, List.append_nil]
    exact removeDirectory_withScript n cues reads dir
  | create p content =>
    cases there : n.tree.isFile p with
    | true => simp [Activity.cues, apply, create, there]
    | false => simp [Activity.cues, apply, create, there]
  | delete p =>
    simp only [Activity.cues, List.append_nil, apply, delete, withScript_tree]
    split
    · rfl
    · simp
  | move source target =>
    simp only [Activity.cues, List.append_nil, apply, move, withScript_tree]
    split
    · rfl
    · simp
  | write p content => simp [Activity.cues, apply]
  | _ => simp only [Activity.cues, List.append_nil]; rfl

theorem applyAll_withScript (activities : List Activity) :
    (n.withScript cues reads).applyAll activities =
      (n.applyAll activities).withScript (cues ++ activities.flatMap Activity.cues) reads := by
  induction activities generalizing n cues with
  | nil => simp [applyAll]
  | cons a rest ih =>
    have next := ih (n.apply a) (cues ++ a.cues)
    rw [← apply_withScript, List.append_assoc] at next
    exact next

end Cues

def Turn.acts (script : List Cue) : Turn → List Activity
  | .activity what => [what]
  | .read => match script with
    | .act activities :: _ => activities
    | _ => []
  | .addWatch .. | .removeWatch .. => []

def Turn.left (script : List Cue) : Turn → List Cue
  | .read => script.tail
  | _ => script

/-- The cues after a turn: a read has taken the first, and those that were set up come last. -/
def Turn.leaves (script : List Cue) (turn : Turn) : List Cue :=
  turn.left script ++ (turn.acts script).flatMap Activity.cues

/-- The cues that wait after some turns from the beginning, told by the turns alone. -/
def scripted (turns : List Turn) : List Cue := turns.foldl Turn.leaves []

theorem apply_cues (n : Notifier) (a : Activity) : (n.apply a).cues = n.cues ++ a.cues :=
  congrArg cues (apply_withScript n n.cues n.reads a)

theorem Turn.cues_on (n : Notifier) (turn : Turn) : (turn.on n).cues = turn.leaves n.cues := by
  cases turn with
  | addWatch p interest =>
    exact (n.addWatch_registers p interest).beside.cues.trans (List.append_nil _).symm
  | removeWatch h => exact (removeWatch_steady n h).cues.trans (List.append_nil _).symm
  | activity what => exact (n.apply_cues what).trans (by simp [leaves, acts, left])
  | read =>
    have went := n.read_reads
    unfold on
    generalize n.read = out at went
    cases went with
    | plain script => simp [leaves, acts, left, script, handOut, withScript]
    | @acted activities rest script =>
      rw [applyAll_withScript]
      simp [leaves, acts, left, script, handOut, withScript]
    | interrupted script => simp [leaves, acts, left, script, withScript]
    | failed script => simp [leaves, acts, left, script, withScript]

theorem cues_course (tree : Tree) (turns : List Turn) :
    (course (ofTree tree) turns).cues = scripted turns := by
  have from_any (n : Notifier) : (n.course turns).cues = turns.foldl Turn.leaves n.cues := by
    induction turns generalizing n with
    | nil => rfl
    | cons turn rest ih =>
      rw [List.foldl_cons, ← turn.cues_on]
      exact ih (turn.on n)
  exact from_any (ofTree tree)

end Notifier

end RoleWatch.Bench
