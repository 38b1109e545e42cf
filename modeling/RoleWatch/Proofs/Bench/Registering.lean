import RoleWatch.Bench.Notifier

/-!
The two calls for registrations of a scripted source: how one is refused or granted, and what is
left when one ends. What else is known of the calls is read off from here.
-/
namespace RoleWatch.Bench.Notifier

variable {n : Notifier} {p : Path} {interest : Mask} {h : Handle}

/-- A registration is refused as was set up, refused because nothing is there, or granted under the
next handle. -/
inductive Registers (n : Notifier) (p : Path) (interest : Mask) :
    Except IoError Handle × Notifier → Prop where
  | refused {before after : List (Path × IoError.Kind)} {q : Path} {kind : IoError.Kind}
      (queued : n.refusals = before ++ (q, kind) :: after) (own : q.same p = true)
      (first : ∀ refusal ∈ before, refusal.1.same p = false) :
      Registers n p interest
        (.error (.bare kind), { n.record (.add p interest) with refusals := before ++ after })
  | missing (free : ∀ refusal ∈ n.refusals, refusal.1.same p = false)
      (absent : n.tree.exists? p = false) :
      Registers n p interest
        (.error (.worded .notFound s!"{p.display} does not exist"), n.record (.add p interest))
  | granted (free : ∀ refusal ∈ n.refusals, refusal.1.same p = false)
      (there : n.tree.exists? p = true) :
      Registers n p interest
        (.ok ⟨n.nextId⟩,
          { n.record (.add p interest) with
            nextId := n.nextId + 1
            active := n.active ++ [⟨⟨n.nextId⟩, p, interest⟩]
            maxActive := max n.maxActive (n.active.length + 1) })

theorem addWatch_registers (n : Notifier) (p : Path) (interest : Mask) :
    n.Registers p interest (n.addWatch p interest) := by
  unfold addWatch
  dsimp only
  split
  · rename_i i found
    have found : n.refusals.findIdx? (fun refusal => refusal.1.same p) = some i := found
    obtain ⟨below, own, first⟩ := List.findIdx?_eq_some_iff_getElem.1 found
    have split := List.take_append_drop i n.refusals
    rw [List.drop_eq_getElem_cons below] at split
    have kind : ((n.record (.add p interest)).refusals[i]?.map Prod.snd).getD .other =
        n.refusals[i].2 := by simp [record, below]
    rw [kind]
    have left : (n.record (.add p interest)).refusals.eraseIdx i =
        n.refusals.take i ++ n.refusals.drop (i + 1) := List.eraseIdx_eq_take_drop_succ ..
    rw [left]
    -- The search stopped at the first that fits, so none before it does.
    refine .refused split.symm own fun refusal before => ?_
    obtain ⟨j, within, rfl⟩ := List.mem_take_iff_getElem.1 before
    exact Bool.not_eq_true _ ▸ first j (by omega)
  · rename_i none
    have free : ∀ refusal ∈ n.refusals, refusal.1.same p = false :=
      List.findIdx?_eq_none_iff.1 none
    split
    · rename_i there
      have granted : n.Registers p interest _ := .granted free there
      simpa [record] using granted
    · rename_i absent
      exact .missing free (Bool.not_eq_true _ ▸ absent)

/-- Nothing is registered under a handle, its registration was dropped before, or it ends. -/
inductive Releases (n : Notifier) (h : Handle) : Except IoError Unit × Notifier → Prop where
  | unknown (free : ∀ r ∈ n.active, r.handle ≠ h) :
      Releases n h (.error (.worded .notFound "unknown watch"), n.record (.remove h))
  | late (there : ∃ r ∈ n.active, r.handle = h) (gone : h ∈ n.dropped) :
      Releases n h (.error (.worded .invalidInput "watch already dropped"),
        { n.record (.remove h) with
          active := n.active.eraseP (·.handle = h)
          dropped := n.dropped.filter (· ≠ h) })
  | ended (there : ∃ r ∈ n.active, r.handle = h) (live : h ∉ n.dropped) :
      Releases n h
        (.ok (), { n.record (.remove h) with active := n.active.eraseP (·.handle = h) })

theorem removeWatch_releases (n : Notifier) (h : Handle) : n.Releases h (n.removeWatch h) := by
  unfold removeWatch
  dsimp only
  split
  · rename_i missing
    exact .unknown (by simpa [record] using missing)
  · rename_i i found
    have found : n.active.findIdx? (fun r => r.handle = h) = some i := found
    obtain ⟨below, own, -⟩ := List.findIdx?_eq_some_iff_getElem.1 found
    have there : ∃ r ∈ n.active, r.handle = h :=
      ⟨_, List.getElem_mem below, of_decide_eq_true own⟩
    have left : (n.record (.remove h)).active.eraseIdx i =
        n.active.eraseP (·.handle = h) := by
      rw [List.eraseP_eq_eraseIdx, found]
      rfl
    rw [left]
    split
    · exact .late there (by assumption)
    · exact .ended there (by assumption)

/-- What a call for a registration leaves as it is. -/
structure Beside (n n' : Notifier) : Prop where
  tree : n'.tree = n.tree
  pending : n'.pending = n.pending
  cues : n'.cues = n.cues
  dropped : n'.dropped = n.dropped

namespace Registers

variable {out : Except IoError Handle × Notifier} (came : n.Registers p interest out)

include came

theorem beside : n.Beside out.2 := by
  cases came <;> exact ⟨rfl, rfl, rfl, rfl⟩

theorem maxActive_le : out.2.maxActive ≤ max n.maxActive (n.active.length + 1) := by
  cases came with
  | refused | missing => exact Nat.le_max_left ..
  | granted => exact Nat.le_refl _

/-- Nothing is listed that was not, or one more at the end, under the next handle. -/
theorem lists : (out.2.nextId = n.nextId ∧ out.2.active = n.active) ∨
    out.2.nextId = n.nextId + 1 ∧ out.2.active = n.active ++ [⟨⟨n.nextId⟩, p, interest⟩] := by
  cases came with
  | refused | missing => exact .inl ⟨rfl, rfl⟩
  | granted => exact .inr ⟨rfl, rfl⟩

end Registers

namespace Releases

variable {out : Except IoError Unit × Notifier} (came : n.Releases h out)

include came

theorem active : out.2.active = n.active.eraseP (·.handle = h) := by
  cases came with
  | unknown free =>
    have kept : n.active.eraseP (·.handle = h) = n.active :=
      List.eraseP_of_forall_not (by simpa using free)
    exact kept.symm
  | late | ended => rfl

theorem nextId : out.2.nextId = n.nextId := by
  cases came <;> rfl

theorem maxActive : out.2.maxActive = n.maxActive := by
  cases came <;> rfl

end Releases

theorem removeWatch_active (n : Notifier) (h : Handle) :
    (n.removeWatch h).2.active = n.active.eraseP (·.handle = h) :=
  (n.removeWatch_releases h).active

theorem removeWatch_nextId (n : Notifier) (h : Handle) :
    (n.removeWatch h).2.nextId = n.nextId :=
  (n.removeWatch_releases h).nextId

end RoleWatch.Bench.Notifier
