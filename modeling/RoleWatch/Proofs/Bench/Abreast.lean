import RoleWatch.Proofs.Bench.Nearby
import RoleWatch.Proofs.Bench.Outcome

/-!
What keeps the watch abreast of its file by events alone. Whatever it does not know yet is in the
queue under the handle it holds: while it awaits the file, that the file came; while it watches the
file, that the file was written or went away.
-/
namespace RoleWatch

open Bench

namespace Target

structure Setting (t : Target) (n : Notifier) : Prop where
  present : (n.tree.at? t.dir.parts).isSome = true
  file : n.tree.get? t.file = none ∨ ∃ content, n.tree.Holds t.file content
  refusals : n.refusals = []
  cues : n.cues = []
  pending : ∀ e ∈ n.pending, ∀ h, e.handle = some h → h.id < n.nextId
  dropped : ∀ h ∈ n.dropped, h.id < n.nextId

/-- What is known while the file is awaited under a handle. -/
structure Awaited (t : Target) (d : Handle) (n : Notifier) : Prop where
  issued : d.id < n.nextId
  live : d ∉ n.dropped
  stays : ∀ e ∈ n.pending, e.handle = some d → e.name = none → ¬ e.mask.meets Mask.gone = true
  /-- If the file is there, that it came is queued. -/
  announced : n.tree.get? t.file = none ∨ ∃ e ∈ n.pending,
    e.handle = some d ∧ e.name = some t.name ∧ e.mask.meets Mask.appeared = true

/-- What is known while the file is watched under a handle: that it went is queued, or else it is
there, and that it was written is queued, or else the last order is for what is in it. -/
structure Watched (t : Target) (job : Assignment) (f : Handle) (n : Notifier)
    (served : List (Verb × String)) : Prop where
  issued : f.id < n.nextId
  word : (∃ e ∈ n.pending, e.handle = some f ∧ e.mask.meets Mask.gone = true) ∨
    (f ∉ n.dropped ∧ ∃ content, n.tree.Holds t.file content ∧
      ((∃ e ∈ n.pending, e.handle = some f ∧ e.mask.has .modify = true) ∨
        served.getLast? = some (job.verbOf content, job.service)))

variable {t : Target} {n n' : Notifier} {activity : Activity}

theorem Setting.absent (setting : Setting t n) (silent : n.tree.Silent t.file) :
    n.tree.get? t.file = none := by
  refine setting.file.resolve_right ?_
  rintro ⟨content, holds⟩
  exact silent content holds

theorem Setting.steady (setting : Setting t n) (steady : n.Steady n') : Setting t n' where
  present := steady.tree ▸ setting.present
  file := steady.tree ▸ setting.file
  refusals := steady.refusals.trans setting.refusals
  cues := steady.cues.trans setting.cues
  pending e member h named :=
    Nat.lt_of_lt_of_le (setting.pending e (steady.pending ▸ member) h named) steady.nextId
  dropped h member :=
    Nat.lt_of_lt_of_le (setting.dropped h (steady.dropped h member)) steady.nextId

theorem Setting.not_dropped (setting : Setting t n) (steady : n.Steady n') {h : Handle}
    (new : n.Issued n' h) : h ∉ n'.dropped := by
  intro member
  have old := setting.dropped h (steady.dropped h member)
  exact Nat.not_lt.2 new.1 old

theorem Setting.apply (setting : Setting t n) (whole : t.file.parts = t.place t.name)
    (nearby : t.Nearby n.tree activity) {r : Registration} (only : n.active = [r])
    (issued : r.handle.id < n.nextId) : Setting t (n.apply activity) := by
  have each : ∀ q ∈ n.active, q.handle.id < n.nextId := by
    intro q member
    rw [only, List.mem_singleton] at member
    exact member ▸ issued
  obtain ⟨place, -, ripple⟩ := nearby.ripple
  have nextId := ripple.undisturbed.nextId
  refine ⟨?_, ?_, ripple.refusals.trans setting.refusals, ripple.cues.trans setting.cues, ?_, ?_⟩
  · rw [nearby.dir whole setting.present]
    exact setting.present
  · cases nearby.effect whole setting.present setting.file with
    | aside same live =>
      refine setting.file.imp same.trans ?_
      rintro ⟨content, found, full⟩
      exact ⟨content, same.trans found, full⟩
    | written holds => exact .inr ⟨_, holds⟩
    | made holds => exact .inr ⟨_, holds⟩
    | removed gone => exact .inl gone
  · intro e member h named
    rw [nextId]
    rcases ripple.told e member h named with before | ⟨r, active, rfl, -⟩
    · exact setting.pending e before h named
    · exact each r active
  · intro h member
    rw [nextId]
    rcases ripple.dropped h member with before | ⟨r, active, rfl, -⟩
    · exact setting.dropped h before
    · exact each r active

theorem Awaited.apply {d : Handle} (awaited : Awaited t d n) (setting : Setting t n)
    (whole : t.file.parts = t.place t.name) (nearby : t.Nearby n.tree activity)
    (only : n.active = [t.dirWatch d]) : Awaited t d (n.apply activity) := by
  obtain ⟨place, elsewhere, ripple⟩ := nearby.ripple
  -- The one registration is the directory's own, and what happens nearby happens below it.
  have of_dir : ∀ r ∈ n.active, r.path.parts ≠ place := by
    intro r active
    rw [only, List.mem_singleton] at active
    subst active
    exact elsewhere.symm
  refine ⟨ripple.undisturbed.nextId ▸ awaited.issued, ?_, ?_, ?_⟩
  · intro member
    rcases ripple.dropped d member with before | ⟨r, active, -, stands⟩
    · exact awaited.live before
    · exact of_dir r active stands
  · intro e member named nameless
    rcases ripple.told e member d named with before | ⟨r, active, -, stands⟩
    · exact awaited.stays e before named nameless
    · exact absurd (stands nameless) (of_dir r active)
  · cases nearby.effect whole setting.present setting.file with
    | aside same live =>
      rw [same]
      refine awaited.announced.imp id ?_
      rintro ⟨e, queued, told⟩
      exact ⟨e, ripple.kept e queued, told⟩
    | written holds same heard there =>
      obtain ⟨e, queued, told⟩ := awaited.announced.resolve_left there
      exact .inr ⟨e, ripple.kept e queued, told⟩
    | made holds absent heard => exact .inr (heard d only awaited.live)
    | removed gone => exact .inl gone

theorem Watched.apply {job : Assignment} {f : Handle} {served : List (Verb × String)}
    (watched : Watched t job f n served) (setting : Setting t n)
    (whole : t.file.parts = t.place t.name) (nearby : t.Nearby n.tree activity)
    (only : n.active = [t.fileWatch f]) : Watched t job f (n.apply activity) served := by
  obtain ⟨place, -, ripple⟩ := nearby.ripple
  refine ⟨ripple.undisturbed.nextId ▸ watched.issued, ?_⟩
  -- Once its end is queued nothing that happens later matters: the batch will be judged by it.
  rcases watched.word with ⟨e, queued, told⟩ | ⟨live, content, holds, known⟩
  · exact .inl ⟨e, ripple.kept e queued, told⟩
  cases nearby.effect whole setting.present setting.file with
  | aside same kept =>
    refine .inr ⟨fun member => live (kept f only member), content, ?_, ?_⟩
    · exact ⟨same.trans holds.1, holds.2⟩
    · refine known.imp ?_ id
      rintro ⟨e, queued, told⟩
      exact ⟨e, ripple.kept e queued, told⟩
  | written now same heard there =>
    exact .inr ⟨same ▸ live, _, now, .inl (heard f only live)⟩
  | made now absent =>
    have clash := absent.symm.trans holds.1
    simp at clash
  | removed gone heard => exact .inl (heard f only live)

end Target

end RoleWatch
