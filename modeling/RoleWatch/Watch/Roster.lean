/-!
Lists kept in no particular order. An entry leaves by giving its place to the last one, and the
others stay where they are.
-/
namespace RoleWatch.Roster

variable {α : Type}

/-- A list without the entry at an index, the last entry in its place. -/
def swapOut (entries : List α) (i : Nat) : List α :=
  match (entries.drop (i + 1)).getLast? with
  | none => entries.take i
  | some last => entries.take i ++ last :: (entries.drop (i + 1)).dropLast

def leave (p : α → Bool) (entries : List α) : List α :=
  match entries.findIdx? p with
  | none => entries
  | some i => swapOut entries i

theorem swapOut_perm (entries : List α) (i : Nat) :
    (swapOut entries i).Perm (entries.take i ++ entries.drop (i + 1)) := by
  unfold swapOut
  split
  · rename_i none
    simp [List.getLast?_eq_none_iff.1 none]
  · rename_i last found
    refine List.Perm.append_left _ ?_
    obtain ⟨front, split⟩ := List.getLast?_eq_some_iff.1 found
    rw [split, List.dropLast_concat]
    exact (List.perm_append_singleton last front).symm

end RoleWatch.Roster
