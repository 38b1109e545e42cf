import RoleWatch.Bench.Tree
import RoleWatch.Duty.Assignment
import RoleWatch.Proofs.Duty.Line
import RoleWatch.Proofs.Duty.Marking

/-!
What an assignment reads from files in memory. If it looks at any of the first line, the file
declares a role exactly if it is there and not empty.
-/
namespace RoleWatch

namespace FirstLine

theorem read_data {content : Bytes} {limit : Nat} (nonempty : content ≠ []) (room : 1 ≤ limit) :
    read [.data content] limit = .ok (upToNewline (content.take limit)) := by
  have whole : Source.failure? [.data content] = none := by simp [Source.failure?]
  have held : Source.content [.data content] = content := by simp [Source.content, nonempty]
  rw [read_eq whole room, held, if_neg nonempty]

theorem read_data_nil (limit : Nat) : read [.data []] limit = .error nothing := by
  cases limit <;> rfl

end FirstLine

/-- A file that is not empty stands at a path. -/
def Bench.Tree.Holds (tree : Tree) (p : Path) (content : Bytes) : Prop :=
  tree.get? p = some (.file content) ∧ content ≠ []

def Bench.Tree.Silent (tree : Tree) (p : Path) : Prop := ∀ content, ¬ tree.Holds p content

theorem Bench.Tree.silent_or_holds (tree : Tree) (p : Path) :
    tree.Silent p ∨ ∃ content, tree.Holds p content := by
  by_cases silent : tree.Silent p
  · exact .inl silent
  · exact .inr (Classical.not_forall_not.1 silent)

namespace Assignment

/-- What a content calls for: the service is to run here exactly if the marker is declared, as far
as the content is looked at. -/
def verbOf (job : Assignment) (content : Bytes) : Verb :=
  if Declares (Bytes.ofText job.marker.text) (content.take job.lineLimit) then .enable
  else .disable

theorem ofRole_roleOf_line (job : Assignment) (content : Bytes) :
    Verb.ofRole (job.marker.roleOf (FirstLine.upToNewline (content.take job.lineLimit))) =
      job.verbOf content := by
  rw [Marker.roleOf_upToNewline, Verb.ofRole_roleOf]
  rfl

variable {job : Assignment} {tree : Bench.Tree}

theorem roleOf_of_holds (room : 1 ≤ job.lineLimit) {content : Bytes}
    (holds : tree.Holds job.path content) :
    ∃ role, job.roleOf (tree.openFile job.path) = .ok role ∧
      Verb.ofRole role = job.verbOf content := by
  obtain ⟨found, nonempty⟩ := holds
  have opened : tree.openFile job.path = .ok [.data content] := by
    simp [Bench.Tree.openFile, Bench.Tree.content, found, Except.map]
  refine ⟨_, ?_, job.ofRole_roleOf_line content⟩
  simp only [roleOf, opened, Except.bind, FirstLine.read_data nonempty room]

theorem roleOf_of_silent (silent : tree.Silent job.path) :
    ∃ failure, job.roleOf (tree.openFile job.path) = .error failure := by
  unfold roleOf Bench.Tree.openFile Bench.Tree.content
  cases found : tree.get? job.path with
  | none => exact ⟨_, rfl⟩
  | some node =>
    cases node with
    | directory => exact ⟨_, rfl⟩
    | file content =>
      have blank : content = [] :=
        Classical.byContradiction fun nonempty => silent content ⟨found, nonempty⟩
      subst blank
      simp only [Except.map, Except.bind, FirstLine.read_data_nil]
      exact ⟨_, rfl⟩

theorem content_of_role {role : Role}
    (declared : job.roleOf (tree.openFile job.path) = .ok role) :
    ∃ content, tree.content job.path = .ok content ∧ Verb.ofRole role = job.verbOf content := by
  rcases tree.silent_or_holds job.path with silent | ⟨content, found, nonempty⟩
  · obtain ⟨failure, refused⟩ := roleOf_of_silent silent
    simp [refused] at declared
  · have there : tree.content job.path = .ok content := by simp [Bench.Tree.content, found]
    refine ⟨content, there, ?_⟩
    by_cases room : 1 ≤ job.lineLimit
    · obtain ⟨role', declared', verb⟩ := roleOf_of_holds room ⟨found, nonempty⟩
      cases declared.symm.trans declared'
      exact verb
    · -- A line of no bytes is never read.
      have none : job.lineLimit = 0 := by omega
      simp [roleOf, Bench.Tree.openFile, there, Except.map, Except.bind, FirstLine.read, none,
        FirstLine.collect] at declared

end Assignment

end RoleWatch
