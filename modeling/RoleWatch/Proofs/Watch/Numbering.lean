import Mathlib.Data.List.Nodup
import Mathlib.Data.List.Perm.Subperm
import RoleWatch.Watch.Event

/-!
Handles given by counting. Whoever counts up with each handle that it issues, and never back, issues
none twice, and what it lists by its handles is never mistaken for something listed before.
-/
namespace RoleWatch

/-- None of the handles has come up to the next number, and none is there twice. -/
structure Handle.Numbered (handles : List Handle) (next : Nat) : Prop where
  given : ∀ h ∈ handles, h.id < next
  distinct : handles.Nodup

namespace Handle.Numbered

variable {handles fewer : List Handle} {next : Nat}

theorem nil (next : Nat) : Numbered [] next := ⟨nofun, .nil⟩

theorem fresh (numbered : Numbered handles next) : ⟨next⟩ ∉ handles :=
  fun member => Nat.lt_irrefl _ (numbered.given _ member)

theorem push (numbered : Numbered handles next) : Numbered (handles ++ [⟨next⟩]) (next + 1) := by
  constructor
  · intro h member
    rcases List.mem_append.1 member with old | new
    · exact Nat.lt_succ_of_lt (numbered.given h old)
    · obtain rfl := List.mem_singleton.1 new
      exact Nat.lt_succ_self _
  · rw [← List.concat_eq_append]
    exact numbered.distinct.concat numbered.fresh

theorem of_subperm (numbered : Numbered handles next) (less : fewer.Subperm handles) :
    Numbered fewer next := by
  obtain ⟨same, perm, within⟩ := less
  exact ⟨fun h member => numbered.given h (within.subset (perm.mem_iff.2 member)),
    perm.nodup_iff.1 (within.nodup numbered.distinct)⟩

end Handle.Numbered

/-- A system that lists entries by their handles. In a step some of them go, or one comes under the
next handle. -/
structure Listing (State Step Entry : Type) where
  on : State → Step → State
  next : State → Nat
  entries : State → List Entry
  handle : Entry → Handle
  steps : ∀ s step, next (on s step) = next s ∧ (entries (on s step)).Subperm (entries s) ∨
    ∃ entry, handle entry = ⟨next s⟩ ∧ next (on s step) = next s + 1 ∧
      entries (on s step) = entries s ++ [entry]

namespace Listing

variable {State Step Entry : Type} {l : Listing State Step Entry} {s : State} {e other : Entry}

def Numbered (l : Listing State Step Entry) (s : State) : Prop :=
  Handle.Numbered ((l.entries s).map l.handle) (l.next s)

theorem Numbered.on (numbered : l.Numbered s) (step : Step) : l.Numbered (l.on s step) := by
  unfold Numbered
  rcases l.steps s step with ⟨same, kept, perm, within⟩ | ⟨entry, handle, next, entries⟩
  · rw [same]
    exact Handle.Numbered.of_subperm numbered ⟨_, perm.map _, within.map _⟩
  · rw [next, entries, List.map_append, List.map_singleton, handle]
    exact Handle.Numbered.push numbered

theorem Numbered.run (numbered : l.Numbered s) (steps : List Step) :
    l.Numbered (steps.foldl l.on s) := by
  induction steps generalizing s with
  | nil => exact numbered
  | cons step rest ih => exact ih (numbered.on step)

/-- A handle names one entry. -/
theorem Numbered.sole (numbered : l.Numbered s) (member : e ∈ l.entries s)
    (also : other ∈ l.entries s) (same : l.handle other = l.handle e) : other = e :=
  List.inj_on_of_nodup_map numbered.distinct also member same

variable (l)

theorem listed_before {steps : List Step} (now : e ∈ l.entries (steps.foldl l.on s))
    (given : (l.handle e).id < l.next s) : e ∈ l.entries s := by
  induction steps generalizing s with
  | nil => exact now
  | cons step rest ih =>
    rcases l.steps s step with ⟨same, fewer⟩ | ⟨entry, handle, next, entries⟩
    · exact fewer.subset (ih now (same ▸ given))
    · have soon : e ∈ l.entries (l.on s step) := ih now (by omega)
      rw [entries] at soon
      rcases List.mem_append.1 soon with old | new
      · exact old
      · obtain rfl := List.mem_singleton.1 new
        rw [handle] at given
        exact absurd given (Nat.lt_irrefl _)

/-- A handle that was given and is not listed any more stays away. -/
theorem stays_away {h : Handle} (given : h.id < l.next s) (gone : ∀ e ∈ l.entries s, l.handle e ≠ h)
    (steps : List Step) : ∀ e ∈ l.entries (steps.foldl l.on s), l.handle e ≠ h := by
  rintro e now rfl
  exact gone e (l.listed_before now given) rfl

end Listing

/-- A system whose steps count up by one for each handle that they issue. -/
structure Counter (State Step : Type) where
  on : State → Step → State
  next : State → Nat
  issues : State → Step → Option Handle
  counts : ∀ s step, issues s step = none ∧ next (on s step) = next s ∨
    issues s step = some ⟨next s⟩ ∧ next (on s step) = next s + 1

namespace Counter

variable {State Step : Type} (c : Counter State Step) {s : State} {steps : List Step} {h : Handle}

def issued (s : State) : List Step → List Handle
  | [] => []
  | step :: rest => (c.issues s step).toList ++ issued (c.on s step) rest

theorem next_le (s : State) (step : Step) : c.next s ≤ c.next (c.on s step) := by
  rcases c.counts s step with ⟨-, same⟩ | ⟨-, up⟩ <;> omega

theorem next_le_run (s : State) (steps : List Step) : c.next s ≤ c.next (steps.foldl c.on s) := by
  induction steps generalizing s with
  | nil => exact Nat.le_refl _
  | cons step rest ih => exact Nat.le_trans (c.next_le s step) (ih (c.on s step))

theorem issued_bounds (among : h ∈ c.issued s steps) :
    c.next s ≤ h.id ∧ h.id < c.next (steps.foldl c.on s) := by
  induction steps generalizing s with
  | nil => exact absurd among List.not_mem_nil
  | cons step rest ih =>
    rcases List.mem_append.1 among with now | soon
    · rcases c.counts s step with ⟨nothing, -⟩ | ⟨given, up⟩
      · simp [nothing] at now
      · obtain rfl : h = ⟨c.next s⟩ := by simpa [given] using now
        have passed : c.next s < c.next (c.on s step) := by omega
        exact ⟨Nat.le_refl _, Nat.lt_of_lt_of_le passed (c.next_le_run (c.on s step) rest)⟩
    · have bounds := ih soon
      exact ⟨Nat.le_trans (c.next_le s step) bounds.1, bounds.2⟩

theorem issued_increasing (s : State) (steps : List Step) :
    (c.issued s steps).Pairwise (·.id < ·.id) := by
  induction steps generalizing s with
  | nil => exact .nil
  | cons step rest ih =>
    rw [issued]
    rcases c.counts s step with ⟨nothing, -⟩ | ⟨given, up⟩
    · simpa [nothing] using ih (c.on s step)
    · rw [given]
      refine List.pairwise_cons.2 ⟨fun h later => ?_, ih (c.on s step)⟩
      have from_then := (c.issued_bounds later).1
      rw [up] at from_then
      exact from_then

end Counter

end RoleWatch
