import RoleWatch.Proofs.Toml.Order
import RoleWatch.Settings.Section

/-!
What a fold over the entries of a table makes of a record. Each key stands for one item of the
record and leaves the others alone, so after entries with keys of their own every item has the
value of its entry, or its old value if it has none.
-/
namespace RoleWatch.Settings

open Toml (Entries)

/-- The items that a list of keys sets: what each is called, how its value is read, and where it
stands in the record. -/
structure Schema (α : Type) where
  keys : List (Key α)
  Item : Type
  name : Item → String
  Worth : Item → Type
  read : (i : Item) → Toml.Value → Except Misfit (Worth i)
  get : (i : Item) → α → Worth i
  put : (i : Item) → α → Worth i → α
  -- No two items share a key or a place, and together they are the whole record.
  name_injective : ∀ i j, name i = name j → i = j
  get_put : ∀ i s x, get i (put i s x) = x
  get_put_of_ne : ∀ i j s x, i ≠ j → get i (put j s x) = get i s
  ext : ∀ s t, (∀ i, get i s = get i t) → s = t
  known : ∀ key ∈ keys, ∃ i, name i = key.name
  setEntry_name : ∀ i s v, setEntry keys s (name i, v) = (read i v).map (put i s)

namespace Schema

variable {α : Type} {f : Schema α} {entries : Entries} {standing s : α}

/-- The record after some entries, over one that stands when nothing is said. -/
def load (f : Schema α) (standing : α) (entries : Entries) : Except Misfit α :=
  entries.foldlM (setEntry f.keys) standing

def Takes (f : Schema α) (entry : String × Toml.Value) : Prop :=
  ∃ i x, f.name i = entry.1 ∧ f.read i entry.2 = .ok x

/-- What some entries make of each item of a record that stood before. -/
structure Tells (f : Schema α) (entries : Entries) (standing s : α) : Prop where
  read : ∀ i v, entries.lookup (f.name i) = some v → f.read i v = .ok (f.get i s)
  kept : ∀ i, entries.lookup (f.name i) = none → f.get i s = f.get i standing

theorem put_get (f : Schema α) (i : f.Item) (s : α) : f.put i s (f.get i s) = s := by
  refine f.ext _ _ fun j => ?_
  by_cases same : j = i
  · subst same
    exact f.get_put _ _ _
  · exact f.get_put_of_ne _ _ _ _ same

theorem load_cons (i : f.Item) (v : Toml.Value) (rest : Entries) :
    f.load standing ((f.name i, v) :: rest) =
      (f.read i v).bind fun x => f.load (f.put i standing x) rest := by
  rw [load, List.foldlM_cons, f.setEntry_name]
  cases f.read i v <;> rfl

theorem load_cons_unknown {entry : String × Toml.Value} (rest : Entries)
    (unknown : ∀ i, f.name i ≠ entry.1) :
    f.load standing (entry :: rest) = .error (.unknownKey entry.1 (f.keys.map Key.name)) := by
  have none : f.keys.find? (fun key => key.name = entry.1) = none :=
    List.find?_eq_none.mpr fun key among hit => by
      obtain ⟨i, named⟩ := f.known key among
      exact unknown i (named.trans (of_decide_eq_true hit))
  rw [load, List.foldlM_cons, setEntry, none]
  rfl

theorem load_cons_standing {i : f.Item} {v : Toml.Value}
    (red : f.read i v = .ok (f.get i standing)) (rest : Entries) :
    f.load standing ((f.name i, v) :: rest) = f.load standing rest := by
  rw [load_cons, red]
  exact congrArg (f.load · rest) (f.put_get i standing)

/-- Loading succeeds exactly if every key is known and every value can be read. -/
theorem loads_iff (f : Schema α) (standing : α) (entries : Entries) :
    (∃ s, f.load standing entries = .ok s) ↔ ∀ entry ∈ entries, f.Takes entry := by
  induction entries generalizing standing with
  | nil => exact ⟨fun _ => nofun, fun _ => ⟨standing, rfl⟩⟩
  | cons entry rest ih =>
    obtain ⟨title, v⟩ := entry
    rw [List.forall_mem_cons]
    by_cases known : ∃ i, f.name i = title
    · obtain ⟨i, rfl⟩ := known
      rw [load_cons]
      cases red : f.read i v with
      | error misfit =>
        refine ⟨nofun, ?_⟩
        rintro ⟨⟨j, x, named, taken⟩, -⟩
        cases f.name_injective j i named
        rw [red] at taken
        cases taken
      | ok x =>
        refine (ih _).trans ⟨fun others => ⟨⟨i, x, rfl, red⟩, others⟩, And.right⟩
    · rw [load_cons_unknown rest (not_exists.mp known)]
      refine ⟨nofun, ?_⟩
      rintro ⟨⟨j, _, named, -⟩, -⟩
      exact absurd ⟨j, named⟩ known

theorem Tells.cons {i : f.Item} {v : Toml.Value} {x : f.Worth i}
    (told : f.Tells entries (f.put i standing x) s) (red : f.read i v = .ok x)
    (once : f.name i ∉ entries.map Prod.fst) :
    f.Tells ((f.name i, v) :: entries) standing s := by
  have skip (j : f.Item) (same : ¬ j = i) :
      ((f.name i, v) :: entries).lookup (f.name j) = entries.lookup (f.name j) := by
    have differs : (f.name j == f.name i) = false :=
      beq_eq_false_iff_ne.mpr fun named => same (f.name_injective j i named)
    rw [List.lookup_cons, differs]
  constructor
  case read =>
    intro j w found
    by_cases same : j = i
    · cases same
      rw [List.lookup_cons_self] at found
      cases found
      rw [told.kept i (Entries.lookup_eq_none once), f.get_put]
      exact red
    · rw [skip j same] at found
      exact told.read j w found
  case kept =>
    intro j absent
    by_cases same : j = i
    · cases same
      rw [List.lookup_cons_self] at absent
      cases absent
    · rw [skip j same] at absent
      exact (told.kept j absent).trans (f.get_put_of_ne j i standing x same)

/-- After entries with keys of their own, every item has the value of its entry or its old one. -/
theorem tells_of_load (nodup : (entries.map Prod.fst).Nodup)
    (loaded : f.load standing entries = .ok s) : f.Tells entries standing s := by
  induction entries generalizing standing with
  | nil =>
    cases loaded
    exact ⟨nofun, fun i _ => rfl⟩
  | cons entry rest ih =>
    obtain ⟨title, v⟩ := entry
    obtain ⟨once, later⟩ := List.nodup_cons.mp nodup
    by_cases known : ∃ i, f.name i = title
    · obtain ⟨i, rfl⟩ := known
      rw [load_cons] at loaded
      cases red : f.read i v with
      | error misfit =>
        rw [red] at loaded
        cases loaded
      | ok x =>
        rw [red] at loaded
        exact (ih later loaded).cons red once
    · rw [load_cons_unknown rest (not_exists.mp known)] at loaded
      cases loaded

theorem load_standing (spelled : ∀ entry ∈ entries,
      ∃ i, f.name i = entry.1 ∧ f.read i entry.2 = .ok (f.get i standing)) :
    f.load standing entries = .ok standing := by
  induction entries with
  | nil => rfl
  | cons entry rest ih =>
    obtain ⟨⟨i, named, red⟩, others⟩ := List.forall_mem_cons.mp spelled
    obtain ⟨title, v⟩ := entry
    cases named
    exact (load_cons_standing red rest).trans (ih others)

/-- What is said of an item can be left out if it stands anyway, also where the other entries do
not load. -/
theorem load_filter {i : f.Item}
    (stands : ∀ v, (f.name i, v) ∈ entries → f.read i v = .ok (f.get i standing)) :
    f.load standing (entries.filter fun entry => entry.1 ≠ f.name i) = f.load standing entries := by
  induction entries generalizing standing with
  | nil => rfl
  | cons entry rest ih =>
    obtain ⟨title, v⟩ := entry
    by_cases hit : title = f.name i
    · cases hit
      rw [List.filter_cons_of_neg (by simp), load_cons_standing (stands v (.head _)) rest]
      exact ih fun v among => stands v (.tail _ among)
    rw [List.filter_cons_of_pos (by simp [hit])]
    by_cases known : ∃ j, f.name j = title
    · obtain ⟨j, rfl⟩ := known
      rw [load_cons, load_cons]
      congr 1
      funext x
      apply ih
      intro v among
      rw [f.get_put_of_ne i j standing x fun same => hit (congrArg f.name same.symm)]
      exact stands v (.tail _ among)
    · rw [load_cons_unknown _ (not_exists.mp known), load_cons_unknown _ (not_exists.mp known)]

end Schema

end RoleWatch.Settings
