import RoleWatch.Proofs.Bench.Course
import RoleWatch.Proofs.Watch.Roster

/-!
What the calls for registrations come to at a scripted source of events: how one is refused or
granted, and what is left when one ends.
-/
namespace RoleWatch.Bench.Notifier

variable {n : Notifier} {h k : Handle}

/-- A registration that fails leaves all as it was but the calls made, unless a refusal was set up
for its path: then the first of those is used up, and gives the cause. -/
def Refused (n : Notifier) (p : Path) (interest : Mask) (cause : IoError) (n' : Notifier) : Prop :=
  ∃ refusals, n' = { n.record (.add p interest) with refusals } ∧
    (refusals = n.refusals ∧ (∀ refusal ∈ n.refusals, refusal.1.same p = false) ∨
      ∃ before q kind after, n.refusals = before ++ (q, kind) :: after ∧ q.same p = true ∧
        (∀ refusal ∈ before, refusal.1.same p = false) ∧ refusals = before ++ after ∧
          cause = .bare kind)

theorem addWatch_refused {p : Path} {interest : Mask} {cause : IoError}
    (failed : (n.addWatch p interest).1 = .error cause) :
    n.Refused p interest cause (n.addWatch p interest).2 := by
  have came := n.addWatch_registers p interest
  generalize n.addWatch p interest = out at came failed
  cases came with
  | @refused before after q kind queued own first =>
    obtain rfl := Except.error.inj failed
    exact ⟨_, rfl, .inr ⟨before, q, kind, after, queued, own, first, rfl, rfl⟩⟩
  | missing free => exact ⟨n.refusals, rfl, .inl ⟨rfl, free⟩⟩
  | granted => nomatch failed

def Listed (n : Notifier) : Prop := ∀ h ∈ n.dropped, ∃ r ∈ n.active, r.handle = h

theorem mem_dropped_removeWatch (listed : n.Listed) :
    h ∈ (n.removeWatch k).2.dropped ↔ h ∈ n.dropped ∧ h ≠ k := by
  have came := n.removeWatch_releases k
  generalize n.removeWatch k = out at came
  cases came with
  | unknown free =>
    refine ⟨fun member => ⟨member, ?_⟩, And.left⟩
    rintro rfl
    obtain ⟨r, active, own⟩ := listed h member
    exact free r active own
  | late => simp
  | ended _ live =>
    refine ⟨fun member => ⟨member, ?_⟩, And.left⟩
    rintro rfl
    exact live member

theorem mem_active_removeWatch (numbered : n.Numbered) {r : Registration} :
    r ∈ (n.removeWatch k).2.active ↔ r ∈ n.active ∧ r.handle ≠ k := by
  have distinct : (n.active.map Registration.handle).Nodup := numbered.distinct
  rw [removeWatch_active, Roster.eraseP_key distinct]
  simp

theorem removeWatch_pending (n : Notifier) (k : Handle) :
    (n.removeWatch k).2.pending = n.pending :=
  (removeWatch_steady n k).pending

end RoleWatch.Bench.Notifier
