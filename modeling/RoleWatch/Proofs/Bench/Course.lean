import RoleWatch.Proofs.Bench.Activity
import RoleWatch.Proofs.Bench.Outcome
import RoleWatch.Proofs.Bench.Trial
import RoleWatch.Proofs.Watch.Numbering

/-!
The course of a scripted source of events: registrations taken on and ended, activity on the files,
and reads, in any order. Its registrations have handles of their own.
-/
namespace RoleWatch.Bench.Notifier

inductive Turn where
  | addWatch (path : Path) (interest : Mask)
  | removeWatch (handle : Handle)
  | activity (what : Activity)
  | read

def Turn.on (n : Notifier) : Turn → Notifier
  | .addWatch path interest => (n.addWatch path interest).2
  | .removeWatch handle => (n.removeWatch handle).2
  | .activity what => n.apply what
  | .read => n.read.2

def course (n : Notifier) (turns : List Turn) : Notifier := turns.foldl Turn.on n

/-- A source as it comes about, over some files and with some first handle. -/
def Reached (n : Notifier) : Prop :=
  ∃ tree nextId turns, n = course { ofTree tree with nextId } turns

def listing : Listing Notifier Turn Registration where
  on := Turn.on
  next := nextId
  entries := active
  handle := (·.handle)
  steps n turn := by
    cases turn with
    | addWatch p interest =>
      rcases (n.addWatch_registers p interest).lists with ⟨next, active⟩ | ⟨next, active⟩
      · exact .inl ⟨next, active ▸ .refl _⟩
      · exact .inr ⟨_, rfl, next, active⟩
    | removeWatch h =>
      refine .inl ⟨n.removeWatch_nextId h, ?_⟩
      rw [Turn.on, removeWatch_active]
      exact List.eraseP_sublist.subperm
    | activity what =>
      have same := n.apply_undisturbed what
      exact .inl ⟨same.nextId, same.active ▸ .refl _⟩
    | read =>
      have same := n.read_undisturbed
      exact .inl ⟨same.nextId, same.active ▸ .refl _⟩

variable {n : Notifier}

abbrev Numbered (n : Notifier) : Prop := listing.Numbered n

theorem Reached.numbered (reached : n.Reached) : n.Numbered := by
  obtain ⟨tree, nextId, turns, rfl⟩ := reached
  have start : Numbered { ofTree tree with nextId } := Handle.Numbered.nil nextId
  exact start.run turns

theorem Numbered.undisturbed (numbered : n.Numbered) {n' : Notifier} (same : Undisturbed n n') :
    n'.Numbered := by
  change Handle.Numbered (n'.active.map (·.handle)) n'.nextId
  rw [same.active, same.nextId]
  exact numbered

end RoleWatch.Bench.Notifier
