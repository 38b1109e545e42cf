import Mathlib.Data.List.Nodup
import Mathlib.Data.List.Perm.Subperm
import RoleWatch.Watch.Roster

/-! Rosters whose entries have keys: an entry is found, and leaves, by a key that it shares with no
other. -/
namespace RoleWatch

namespace Roster

variable {α κ : Type}

theorem leave_perm (p : α → Bool) (entries : List α) :
    (leave p entries).Perm (entries.eraseP p) := by
  rw [List.eraseP_eq_eraseIdx]
  unfold leave
  cases entries.findIdx? p with
  | none => exact .refl _
  | some i =>
    dsimp only
    rw [List.eraseIdx_eq_take_drop_succ]
    exact swapOut_perm entries i

theorem leave_subperm (p : α → Bool) (entries : List α) : (leave p entries).Subperm entries :=
  (leave_perm p entries).subperm.trans List.eraseP_sublist.subperm

variable [DecidableEq κ] {key : α → κ} {entries : List α}

theorem eraseP_key (distinct : (entries.map key).Nodup) (k : κ) :
    entries.eraseP (fun entry => key entry = k) = entries.filter fun entry => key entry ≠ k := by
  induction entries with
  | nil => rfl
  | cons first rest ih =>
    obtain ⟨fresh, distinct⟩ := List.nodup_cons.1 distinct
    by_cases here : key first = k
    · -- The key does not come again, so nothing else is filtered out.
      have others : ∀ entry ∈ rest, key entry ≠ k := by
        rintro entry member rfl
        exact fresh (here ▸ List.mem_map_of_mem member)
      have kept : rest.filter (fun entry => key entry ≠ k) = rest :=
        List.filter_eq_self.2 fun entry member => by simpa using others entry member
      rw [List.eraseP_cons_of_pos (by simpa using here),
        List.filter_cons_of_neg (by simpa using here), kept]
    · rw [List.eraseP_cons_of_neg (by simpa using here),
        List.filter_cons_of_pos (by simpa using here), ih distinct]

theorem leave_perm_filter (distinct : (entries.map key).Nodup) (k : κ) :
    (leave (fun entry => key entry = k) entries).Perm (entries.filter fun entry => key entry ≠ k) :=
  eraseP_key distinct k ▸ leave_perm _ entries

/-- Where no two entries share a key, one is found under its own. -/
theorem find?_key (distinct : (entries.map key).Nodup) {k : κ} {entry : α} :
    entries.find? (fun entry => key entry = k) = some entry ↔ entry ∈ entries ∧ key entry = k := by
  constructor
  · intro found
    exact ⟨List.mem_of_find?_eq_some found, by simpa using List.find?_some found⟩
  · rintro ⟨member, rfl⟩
    cases found : entries.find? (fun other => key other = key entry) with
    | none =>
      have missed := List.find?_eq_none.1 found entry member
      simp at missed
    | some other =>
      have same : key other = key entry := by simpa using List.find?_some found
      have also := List.mem_of_find?_eq_some found
      rw [List.inj_on_of_nodup_map distinct also member same]

end Roster

end RoleWatch
