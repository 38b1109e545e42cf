import RoleWatch.Proofs.Bench.Activity
import RoleWatch.Proofs.Bench.Tree
import RoleWatch.Proofs.Path.Parent

/-!
How activity on a file shows in the queue. What is queued stays queued, only registrations there
are hear anything, and a registration hears what it asked for as long as it was not dropped.
-/
namespace RoleWatch.Bench

namespace Notifier

/-- What activity on a file does at most to the queue and to the registrations dropped. -/
structure Ripple (place : Place) (n n' : Notifier) : Prop where
  undisturbed : Undisturbed n n'
  cues : n'.cues = n.cues
  refusals : n'.refusals = n.refusals
  kept : ∀ e ∈ n.pending, e ∈ n'.pending
  told : ∀ e ∈ n'.pending, ∀ h, e.handle = some h →
    e ∈ n.pending ∨ ∃ r ∈ n.active, r.handle = h ∧ (e.name = none → r.path.parts = place)
  dropped : ∀ h ∈ n'.dropped, h ∈ n.dropped ∨ ∃ r ∈ n.active, r.handle = h ∧ r.path.parts = place

namespace Ripple

variable {place : Place} {a b c : Notifier}

theorem refl (place : Place) (n : Notifier) : Ripple place n n where
  undisturbed := .refl n
  cues := rfl
  refusals := rfl
  kept _ member := member
  told _ member _ _ := .inl member
  dropped _ member := .inl member

theorem trans (first : Ripple place a b) (second : Ripple place b c) : Ripple place a c where
  undisturbed := first.undisturbed.trans second.undisturbed
  cues := second.cues.trans first.cues
  refusals := second.refusals.trans first.refusals
  kept e member := second.kept e (first.kept e member)
  told e member h named := by
    rcases second.told e member h named with earlier | later
    · exact first.told e earlier h named
    · rw [first.undisturbed.active] at later
      exact .inr later
  dropped h member := by
    rcases second.dropped h member with earlier | later
    · exact first.dropped h earlier
    · rw [first.undisturbed.active] at later
      exact .inr later

end Ripple

theorem mem_listeners {n : Notifier} {place : Place} {r : Registration} :
    r ∈ n.listeners place ↔ r ∈ n.active ∧ r.path.parts = place ∧ r.handle ∉ n.dropped := by
  simp [listeners]

theorem mem_heard {listeners : List Registration} {mask : Mask} {told : Handle → Mask → Event}
    {e : Event} : e ∈ heard listeners mask told ↔
      ∃ r ∈ listeners, r.hears mask ≠ ∅ ∧ e = told r.handle (r.hears mask) := by
  simp only [heard, List.mem_filterMap, Option.ite_none_left_eq_some, Option.some.injEq]
  grind

/-! What one report does to the fields it does not add to. -/

@[simp] theorem withTree_tree (n : Notifier) (tree : Tree) : (n.withTree tree).tree = tree := rfl

@[simp] theorem withTree_listeners (n : Notifier) (tree : Tree) (place : Place) :
    (n.withTree tree).listeners place = n.listeners place := rfl

@[simp] theorem withTree_dropped (n : Notifier) (tree : Tree) :
    (n.withTree tree).dropped = n.dropped := rfl

@[simp] theorem tellSelf_tree (n : Notifier) (p : Path) (mask : Mask) :
    (n.tellSelf p mask).tree = n.tree := rfl

@[simp] theorem tellSelf_listeners (n : Notifier) (p : Path) (mask : Mask) (place : Place) :
    (n.tellSelf p mask).listeners place = n.listeners place := rfl

@[simp] theorem tellSelf_dropped (n : Notifier) (p : Path) (mask : Mask) :
    (n.tellSelf p mask).dropped = n.dropped := rfl

@[simp] theorem tellParent_tree (n : Notifier) (p : Path) (mask : Mask) :
    (n.tellParent p mask).tree = n.tree := by
  unfold tellParent
  split <;> rfl

@[simp] theorem tellParent_listeners (n : Notifier) (p : Path) (mask : Mask) (place : Place) :
    (n.tellParent p mask).listeners place = n.listeners place := by
  unfold tellParent
  split <;> rfl

@[simp] theorem tellParent_dropped (n : Notifier) (p : Path) (mask : Mask) :
    (n.tellParent p mask).dropped = n.dropped := by
  unfold tellParent
  split <;> rfl

@[simp] theorem drop_tree (n : Notifier) (p : Path) : (n.drop p).tree = n.tree := rfl

@[simp] theorem write_tree (n : Notifier) (p : Path) (content : Bytes) :
    (n.write p content).tree = n.tree.addFile p content := by
  simp [write]

@[simp] theorem create_tree (n : Notifier) (p : Path) (content : Bytes) :
    (n.create p content).tree = n.tree.addFile p content := by
  unfold create
  split <;> simp

variable (n : Notifier)

theorem withTree_ripple (place : Place) (tree : Tree) : Ripple place n (n.withTree tree) where
  undisturbed := withTree_undisturbed ..
  cues := rfl
  refusals := rfl
  kept _ member := member
  told _ member _ _ := .inl member
  dropped _ member := .inl member

theorem tellSelf_ripple (p : Path) (mask : Mask) : Ripple p.parts n (n.tellSelf p mask) where
  undisturbed := tellSelf_undisturbed ..
  cues := rfl
  refusals := rfl
  kept _ member := List.mem_append_left _ member
  told e member h named := by
    rcases List.mem_append.1 member with earlier | new
    · exact .inl earlier
    · obtain ⟨r, listens, -, rfl⟩ := mem_heard.1 new
      obtain ⟨active, stands, -⟩ := mem_listeners.1 listens
      exact .inr ⟨r, active, Option.some.inj named, fun _ => stands⟩
  dropped _ member := .inl member

theorem tellParent_ripple (place : Place) (p : Path) (mask : Mask) :
    Ripple place n (n.tellParent p mask) := by
  unfold tellParent
  split
  · rename_i parent name _ _
    refine ⟨⟨rfl, rfl, rfl, rfl⟩, rfl, rfl, ?_, ?_, fun _ member => .inl member⟩
    · exact fun _ member => List.mem_append_left _ member
    · intro e member h named
      rcases List.mem_append.1 member with earlier | new
      · exact .inl earlier
      · obtain ⟨r, listens, -, rfl⟩ := mem_heard.1 new
        exact .inr ⟨r, (mem_listeners.1 listens).1, Option.some.inj named, nofun⟩
  · exact .refl ..

theorem drop_ripple (p : Path) : Ripple p.parts n (n.drop p) where
  undisturbed := drop_undisturbed ..
  cues := rfl
  refusals := rfl
  kept _ member := List.mem_append_left _ member
  told e member h named := by
    rcases List.mem_append.1 member with earlier | new
    · exact .inl earlier
    · obtain ⟨handle, gone, rfl⟩ := List.mem_map.1 new
      obtain ⟨r, listens, rfl⟩ := List.mem_map.1 gone
      obtain ⟨active, stands, -⟩ := mem_listeners.1 listens
      exact .inr ⟨r, active, Option.some.inj named, fun _ => stands⟩
  dropped h member := by
    rcases List.mem_append.1 member with earlier | new
    · exact .inl earlier
    · obtain ⟨r, listens, rfl⟩ := List.mem_map.1 new
      obtain ⟨active, stands, -⟩ := mem_listeners.1 listens
      exact .inr ⟨r, active, rfl, stands⟩

variable {n} in
theorem mem_tellParent {e : Event} (queued : e ∈ n.pending) (p : Path) (mask : Mask) :
    e ∈ (n.tellParent p mask).pending :=
  (tellParent_ripple n p.parts p mask).kept e queued

variable {n} in
theorem mem_drop {e : Event} (queued : e ∈ n.pending) (p : Path) : e ∈ (n.drop p).pending :=
  (drop_ripple n p).kept e queued

theorem write_ripple (p : Path) (content : Bytes) : Ripple p.parts n (n.write p content) :=
  ((withTree_ripple ..).trans (tellSelf_ripple ..)).trans (tellParent_ripple ..)

theorem create_ripple (p : Path) (content : Bytes) : Ripple p.parts n (n.create p content) := by
  unfold create
  split
  · exact write_ripple ..
  · exact (withTree_ripple ..).trans (tellParent_ripple ..)

theorem delete_ripple (p : Path) : Ripple p.parts n (n.delete p) := by
  unfold delete
  split
  · exact .refl ..
  · exact (((withTree_ripple ..).trans (tellSelf_ripple ..)).trans (drop_ripple ..)).trans
      (tellParent_ripple ..)

theorem move_ripple (source target : Path) : Ripple source.parts n (n.move source target) := by
  unfold move
  split
  · exact .refl ..
  · exact (((withTree_ripple ..).trans (tellSelf_ripple ..)).trans (tellParent_ripple ..)).trans
      (tellParent_ripple ..)

theorem push_ripple (place : Place) {e : Event} (of_queue : e.handle = none) :
    Ripple place n { n with pending := n.pending ++ [e] } where
  undisturbed := ⟨rfl, rfl, rfl, rfl⟩
  cues := rfl
  refusals := rfl
  kept _ member := List.mem_append_left _ member
  told e' member h named := by
    rcases List.mem_append.1 member with earlier | new
    · exact .inl earlier
    · rw [List.mem_singleton.1 new, of_queue] at named
      exact absurd named (by simp)
  dropped _ member := .inl member

end Notifier

end RoleWatch.Bench
