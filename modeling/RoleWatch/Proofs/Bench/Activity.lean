import RoleWatch.Bench.Scene

/-!
What activity on the files leaves alone. It changes the files, the queue and what is kept for later
reads, and may drop registrations; which registrations there are is up to the calls of the watch.
-/
namespace RoleWatch.Bench

namespace Notifier

/-- The registrations, the handles issued and the calls made are the same. -/
structure Undisturbed (n n' : Notifier) : Prop where
  active : n'.active = n.active
  nextId : n'.nextId = n.nextId
  calls : n'.calls = n.calls
  maxActive : n'.maxActive = n.maxActive

namespace Undisturbed

theorem refl (n : Notifier) : Undisturbed n n := ⟨rfl, rfl, rfl, rfl⟩

theorem trans {a b c : Notifier} (first : Undisturbed a b) (second : Undisturbed b c) :
    Undisturbed a c :=
  ⟨second.active.trans first.active, second.nextId.trans first.nextId,
    second.calls.trans first.calls, second.maxActive.trans first.maxActive⟩

end Undisturbed

theorem tellSelf_undisturbed (n : Notifier) (p : Path) (mask : Mask) :
    Undisturbed n (n.tellSelf p mask) := ⟨rfl, rfl, rfl, rfl⟩

theorem tellParent_undisturbed (n : Notifier) (p : Path) (mask : Mask) :
    Undisturbed n (n.tellParent p mask) := by
  unfold tellParent
  split
  · exact ⟨rfl, rfl, rfl, rfl⟩
  · exact .refl n

theorem drop_undisturbed (n : Notifier) (p : Path) : Undisturbed n (n.drop p) :=
  ⟨rfl, rfl, rfl, rfl⟩

theorem withTree_undisturbed (n : Notifier) (tree : Tree) : Undisturbed n (n.withTree tree) :=
  ⟨rfl, rfl, rfl, rfl⟩

theorem write_undisturbed (n : Notifier) (p : Path) (content : Bytes) :
    Undisturbed n (n.write p content) :=
  ((withTree_undisturbed ..).trans (tellSelf_undisturbed ..)).trans (tellParent_undisturbed ..)

theorem create_undisturbed (n : Notifier) (p : Path) (content : Bytes) :
    Undisturbed n (n.create p content) := by
  unfold create
  split
  · exact write_undisturbed ..
  · exact (withTree_undisturbed ..).trans (tellParent_undisturbed ..)

theorem delete_undisturbed (n : Notifier) (p : Path) : Undisturbed n (n.delete p) := by
  unfold delete
  split
  · exact .refl n
  · exact (((withTree_undisturbed ..).trans (tellSelf_undisturbed ..)).trans
      (drop_undisturbed ..)).trans (tellParent_undisturbed ..)

theorem move_undisturbed (n : Notifier) (source target : Path) :
    Undisturbed n (n.move source target) := by
  unfold move
  split
  · exact .refl n
  · exact (((withTree_undisturbed ..).trans (tellSelf_undisturbed ..)).trans
      (tellParent_undisturbed ..)).trans (tellParent_undisturbed ..)

/-- What a removal tells the registrations of a path that goes. -/
def takeAway (n : Notifier) (p : Path) : Notifier :=
  (n.tellSelf p (.ofFlags [.deleteSelf])).drop p

def sweep (n : Notifier) (paths : List Path) : Notifier := paths.foldl takeAway n

theorem takeAway_undisturbed (n : Notifier) (p : Path) : Undisturbed n (n.takeAway p) :=
  (tellSelf_undisturbed ..).trans (drop_undisturbed ..)

theorem removeDirectory_eq {n : Notifier} {dir : Path} {tree : Tree}
    (removed : n.tree.remove? dir = some tree) : n.removeDirectory dir =
      (n.withTree tree).sweep ((n.active.map Registration.path).filter (·.isWithin dir)) := by
  simp only [removeDirectory, removed]
  rfl

theorem sweep_related (related : Notifier → Notifier → Prop) (refl : ∀ n, related n n)
    (trans : ∀ {a b c}, related a b → related b c → related a c)
    (each : ∀ n p, related n (takeAway n p)) (n : Notifier) (paths : List Path) :
    related n (n.sweep paths) := by
  induction paths generalizing n with
  | nil => exact refl n
  | cons p rest ih => exact trans (each n p) (ih (n.takeAway p))

theorem removeDirectory_undisturbed (n : Notifier) (dir : Path) :
    Undisturbed n (n.removeDirectory dir) := by
  cases removed : n.tree.remove? dir with
  | none =>
    simp only [removeDirectory, removed]
    exact .refl n
  | some tree =>
    rw [removeDirectory_eq removed]
    exact (withTree_undisturbed ..).trans
      (sweep_related _ .refl .trans takeAway_undisturbed ..)

theorem apply_undisturbed (n : Notifier) (a : Activity) : Undisturbed n (n.apply a) := by
  cases a with
  | addFile | addDirectory | remove | rename => exact withTree_undisturbed ..
  | create p content => exact create_undisturbed ..
  | write p content => exact write_undisturbed ..
  | delete p => exact delete_undisturbed ..
  | move source target => exact move_undisturbed ..
  | removeDirectory p => exact removeDirectory_undisturbed ..
  | push | refuseNext | later => exact ⟨rfl, rfl, rfl, rfl⟩

theorem applyAll_related (related : Notifier → Notifier → Prop) (refl : ∀ n, related n n)
    (trans : ∀ {a b c}, related a b → related b c → related a c)
    (each : ∀ n a, related n (n.apply a)) (n : Notifier) (activities : List Activity) :
    related n (n.applyAll activities) := by
  induction activities generalizing n with
  | nil => exact refl n
  | cons a rest ih => exact trans (each n a) (ih (n.apply a))

theorem applyAll_undisturbed (n : Notifier) (activities : List Activity) :
    Undisturbed n (n.applyAll activities) :=
  applyAll_related _ .refl .trans apply_undisturbed n activities

/-! How a read goes. -/

/-- The same source after so many reads, with so many cues left for the next. -/
def withScript (n : Notifier) (cues : List Cue) (reads : Nat) : Notifier := { n with cues, reads }

def handOut (n : Notifier) : Option (Except IoError Arrival) × Notifier :=
  (if n.pending = [] then none else some (.ok (.events n.pending)), { n with pending := [] })

/-- The ways of a read, by the cue that it meets. -/
inductive Reads (n : Notifier) : Option (Except IoError Arrival) × Notifier → Prop where
  | plain (script : n.cues = []) : Reads n (n.withScript [] (n.reads + 1)).handOut
  | acted {activities : List Activity} {rest : List Cue} (script : n.cues = .act activities :: rest) :
      Reads n ((n.withScript rest (n.reads + 1)).applyAll activities).handOut
  | interrupted {rest : List Cue} (script : n.cues = .interrupt :: rest) :
      Reads n (some (.ok .interrupted), n.withScript rest (n.reads + 1))
  | failed {kind : IoError.Kind} {rest : List Cue} (script : n.cues = .fail kind :: rest) :
      Reads n (some (.error (.bare kind)), n.withScript rest (n.reads + 1))

theorem read_of_plain {n : Notifier} (script : n.cues = []) :
    n.read = (n.withScript [] (n.reads + 1)).handOut := by
  unfold read nextCue handOut takePending withScript
  simp only [script]
  cases n.pending <;> simp

theorem read_of_acted {n : Notifier} {activities : List Activity} {rest : List Cue}
    (script : n.cues = .act activities :: rest) :
    n.read = ((n.withScript rest (n.reads + 1)).applyAll activities).handOut := by
  unfold read nextCue handOut takePending withScript
  simp only [script]
  cases left : (applyAll _ activities).pending <;> simp

theorem read_reads (n : Notifier) : n.Reads n.read := by
  cases script : n.cues with
  | nil => exact read_of_plain script ▸ .plain script
  | cons cue rest =>
    cases cue with
    | act activities => exact read_of_acted script ▸ .acted script
    | interrupt =>
      have met : n.read = (some (.ok .interrupted), n.withScript rest (n.reads + 1)) := by
        simp only [read, nextCue, script, withScript]
      exact met ▸ .interrupted script
    | fail kind =>
      have met : n.read = (some (.error (.bare kind)), n.withScript rest (n.reads + 1)) := by
        simp only [read, nextCue, script, withScript]
      exact met ▸ .failed script

theorem read_undisturbed (n : Notifier) : Undisturbed n n.read.2 := by
  have went := n.read_reads
  generalize n.read = out at went
  have met (cues : List Cue) (reads : Nat) : Undisturbed n (n.withScript cues reads) :=
    ⟨rfl, rfl, rfl, rfl⟩
  have handed (m : Notifier) : Undisturbed m m.handOut.2 := ⟨rfl, rfl, rfl, rfl⟩
  cases went with
  | plain => exact (met _ _).trans (handed _)
  | acted => exact ((met _ _).trans (applyAll_undisturbed _ _)).trans (handed _)
  | interrupted | failed => exact met _ _

end Notifier

end RoleWatch.Bench
