import RoleWatch.Proofs.Bench.Reading
import RoleWatch.Proofs.Bench.Ripple
import RoleWatch.Proofs.Watch.Tending

/-!
What may happen in the directory of a watched file that is never empty, and what the registrations
of the file and of the directory hear of it.
-/
namespace RoleWatch

open Bench

abbrev Target.place (t : Target) (name : Bytes) : Place := Place.child t.dir.parts name

/-- What may happen: the watched file comes, changes and goes but is never empty, its siblings do as
they like, and events are lost. -/
inductive Target.Nearby (t : Target) (tree : Tree) : Activity → Prop where
  | create {p : Path} {content : Bytes} {x : Bytes} (stands : p.parts = t.place x)
      (full : x = t.name → content ≠ []) : Nearby t tree (.create p content)
  | write {p : Path} {content : Bytes} {x : Bytes} (stands : p.parts = t.place x)
      (full : x = t.name → content ≠ [] ∧ tree.isFile p = true) : Nearby t tree (.write p content)
  | delete {p : Path} {x : Bytes} (stands : p.parts = t.place x) : Nearby t tree (.delete p)
  | move {source target : Path} {x y : Bytes} (leaves : source.parts = t.place x)
      (arrives : target.parts = t.place y) (away : x = t.name → y ≠ t.name)
      (full : y = t.name → (∃ content, tree.Holds source content) ∧ tree.get? target = none) :
      Nearby t tree (.move source target)
  | lost : Nearby t tree (.push .lost)

namespace Bench.Notifier

section Heard

variable {n : Notifier} {p : Path} {mask : Mask} {flag : Flag} {r : Registration}

theorem hears_flag (asked : r.interest.has flag = true) (said : mask.has flag = true) :
    (r.hears mask).has flag = true ∧ r.hears mask ≠ ∅ := by
  have has : (r.hears mask).has flag = true := by simp [Registration.hears, asked, said]
  refine ⟨has, fun empty => ?_⟩
  rw [empty, Mask.has_empty] at has
  exact absurd has (by simp)

theorem tellSelf_heard (listens : r ∈ n.listeners p.parts) (asked : r.interest.has flag = true)
    (said : mask.has flag = true) : ∃ e ∈ (n.tellSelf p mask).pending,
      e.handle = some r.handle ∧ e.mask.has flag = true := by
  obtain ⟨has, nonempty⟩ := hears_flag asked said
  exact ⟨_, List.mem_append_right _ (mem_heard.2 ⟨r, listens, nonempty, rfl⟩), rfl, has⟩

theorem tellParent_heard {dir : Place} {name : Bytes} (stands : p.parts = Place.child dir name)
    (listens : r ∈ n.listeners dir) (asked : r.interest.has flag = true)
    (said : mask.has flag = true) : ∃ e ∈ (n.tellParent p mask).pending,
      e.handle = some r.handle ∧ e.name = some name ∧ e.mask.has flag = true := by
  obtain ⟨has, nonempty⟩ := hears_flag asked said
  have named : p.fileName? = some name := by simp [Path.fileName?, stands, Place.child]
  obtain ⟨q, parent, parts⟩ := Path.parts_of_fileName? named
  obtain rfl : dir = q.parts := List.append_cancel_right (stands.symm.trans parts)
  simp only [tellParent, parent, named]
  exact ⟨_, List.mem_append_right _ (mem_heard.2 ⟨r, listens, nonempty, rfl⟩), rfl, rfl, has⟩

end Heard

end Bench.Notifier

namespace Target

variable {t : Target} {n : Notifier}

/-- What something that happens nearby does to the watched file, and who hears of it. -/
inductive Effect (t : Target) (n n' : Notifier) : Prop where
  | aside (same : n'.tree.get? t.file = n.tree.get? t.file)
      (live : ∀ f, n.active = [t.fileWatch f] → f ∈ n'.dropped → f ∈ n.dropped)
  | written {content : Bytes} (holds : n'.tree.Holds t.file content)
      (same : n'.dropped = n.dropped)
      (heard : ∀ f, n.active = [t.fileWatch f] → f ∉ n.dropped →
        ∃ e ∈ n'.pending, e.handle = some f ∧ e.mask.has .modify = true)
      (there : n.tree.get? t.file ≠ none)
  | made {content : Bytes} (holds : n'.tree.Holds t.file content)
      (absent : n.tree.get? t.file = none)
      (heard : ∀ d, n.active = [t.dirWatch d] → d ∉ n.dropped → ∃ e ∈ n'.pending,
        e.handle = some d ∧ e.name = some t.name ∧ e.mask.meets Mask.appeared = true)
  | removed (gone : n'.tree.get? t.file = none)
      (heard : ∀ f, n.active = [t.fileWatch f] → f ∉ n.dropped →
        ∃ e ∈ n'.pending, e.handle = some f ∧ e.mask.meets Mask.gone = true)

variable {p : Path} {x : Bytes}

theorem live_of_ripple {place : Place} {n' : Notifier} (ripple : Notifier.Ripple place n n')
    (elsewhere : place ≠ t.file.parts) :
    ∀ f, n.active = [t.fileWatch f] → f ∈ n'.dropped → f ∈ n.dropped := by
  intro f only member
  rcases ripple.dropped f member with before | ⟨r, active, -, stands⟩
  · exact before
  · rw [only, List.mem_singleton] at active
    subst active
    exact absurd stands.symm elsewhere

theorem file_listens (same : p.parts = t.file.parts) {f : Handle}
    (only : n.active = [t.fileWatch f]) (live : f ∉ n.dropped) :
    t.fileWatch f ∈ n.listeners p.parts :=
  Notifier.mem_listeners.2 ⟨by simp [only], same.symm, live⟩

theorem dir_listens {d : Handle} (only : n.active = [t.dirWatch d]) (live : d ∉ n.dropped) :
    t.dirWatch d ∈ n.listeners t.dir.parts :=
  Notifier.mem_listeners.2 ⟨by simp [only], rfl, live⟩

theorem place_ne (other : x ≠ t.name) : t.place x ≠ t.place t.name :=
  fun same => other (Place.child_inj.1 same)

theorem get?_of_stands (whole : t.file.parts = t.place t.name) (stands : p.parts = t.place t.name)
    (tree : Tree) : tree.get? p = tree.get? t.file := by
  rw [Tree.get?, Tree.get?, stands, whole]

theorem get?_addFile (whole : t.file.parts = t.place t.name) (stands : p.parts = t.place x)
    {tree : Tree} (present : (tree.at? t.dir.parts).isSome = true) (content : Bytes) :
    (tree.addFile p content).get? t.file =
      if x = t.name then some (.file content) else tree.get? t.file := by
  rw [Tree.get?, Tree.at?_addFile stands present, whole]
  by_cases own : x = t.name
  · rw [if_pos own, if_pos (by rw [own])]
  · rw [if_neg own, if_neg (place_ne own).symm, Tree.get?, whole]

theorem get?_remove? (whole : t.file.parts = t.place t.name) (stands : p.parts = t.place x)
    {tree gone : Tree} (removed : tree.remove? p = some gone) :
    gone.get? t.file = if x = t.name then none else tree.get? t.file := by
  rw [Tree.get?, Tree.at?_remove? removed, stands, whole]
  by_cases own : x = t.name
  · rw [if_pos own, own, if_pos List.prefix_rfl]
  · rw [if_neg own, if_neg fun below => own (Place.child_prefix_child.1 below), Tree.get?, whole]

theorem dir_of_remove? (stands : p.parts = t.place x) {tree gone : Tree}
    (removed : tree.remove? p = some gone) : gone.at? t.dir.parts = tree.at? t.dir.parts := by
  rw [Tree.at?_remove? removed, stands, if_neg (Place.not_child_prefix _ _)]

theorem dir_of_addFile (stands : p.parts = t.place x) {tree : Tree}
    (present : (tree.at? t.dir.parts).isSome = true) (content : Bytes) :
    (tree.addFile p content).at? t.dir.parts = tree.at? t.dir.parts := by
  rw [Tree.at?_addFile stands present, if_neg (Place.child_ne _ _).symm]

section

variable {content : Bytes} (whole : t.file.parts = t.place t.name)
  (present : (n.tree.at? t.dir.parts).isSome = true)

include whole present

theorem write_effect (stands : p.parts = t.place t.name) (full : content ≠ [])
    (there : n.tree.isFile p = true) : Effect t n (n.write p content) := by
  have holds := get?_addFile whole stands present content
  rw [if_pos rfl] at holds
  refine .written ⟨by simpa [Notifier.write] using holds, full⟩ (by simp [Notifier.write]) ?_ ?_
  · intro f only live
    have listens := file_listens (stands.trans whole.symm) only live
    have asked : Mask.fileInterest.has .modify = true := by decide
    have said : (Mask.ofFlags [.modify]).has .modify = true := by decide
    obtain ⟨e, queued, heard⟩ := Notifier.tellSelf_heard
      (n := n.withTree (n.tree.addFile p content)) listens asked said
    exact ⟨e, Notifier.mem_tellParent queued .., heard⟩
  · intro absent
    rw [Tree.isFile, get?_of_stands whole stands, absent] at there
    exact absurd there (by simp)

theorem create_effect (stands : p.parts = t.place t.name) (full : content ≠ [])
    (file : n.tree.get? t.file = none ∨ ∃ content, n.tree.Holds t.file content) :
    Effect t n (n.create p content) := by
  unfold Notifier.create
  split
  · rename_i there
    exact write_effect whole present stands full there
  · rename_i missing
    have absent : n.tree.get? t.file = none := by
      refine file.resolve_right ?_
      rintro ⟨content, found, -⟩
      rw [Tree.isFile, get?_of_stands whole stands, found] at missing
      exact missing rfl
    have holds := get?_addFile whole stands present content
    rw [if_pos rfl] at holds
    refine .made ⟨by simpa using holds, full⟩ absent ?_
    intro d only live
    have listens := dir_listens only live
    have asked : Mask.directoryInterest.has .create = true := by decide
    have said : (Mask.ofFlags [.create]).has .create = true := by decide
    obtain ⟨e, queued, handle, name, heard⟩ := Notifier.tellParent_heard
      (n := n.withTree (n.tree.addFile p content)) stands listens asked said
    exact ⟨e, queued, handle, name, Mask.meets_iff.2 ⟨.create, heard, by decide⟩⟩

end

theorem delete_effect (whole : t.file.parts = t.place t.name) (stands : p.parts = t.place t.name) :
    Effect t n (n.delete p) := by
  unfold Notifier.delete
  split
  · exact .aside rfl fun _ _ member => member
  · rename_i gone removed
    have absent := get?_remove? whole stands removed
    rw [if_pos rfl] at absent
    refine .removed (by simpa using absent) ?_
    intro f only live
    have listens := file_listens (stands.trans whole.symm) only live
    have asked : Mask.fileInterest.has .deleteSelf = true := by decide
    have said : (Mask.ofFlags [.deleteSelf]).has .deleteSelf = true := by decide
    obtain ⟨e, queued, handle, heard⟩ := Notifier.tellSelf_heard
      (n := n.withTree gone) listens asked said
    exact ⟨e, Notifier.mem_tellParent (Notifier.mem_drop queued p) .., handle,
      Mask.meets_iff.2 ⟨.deleteSelf, heard, by decide⟩⟩

section

variable {source target : Path} {tree : Tree} {y : Bytes}
  (whole : t.file.parts = t.place t.name)
  (present : (n.tree.at? t.dir.parts).isSome = true)
  (renamed : n.tree.rename source target = .ok tree)

include whole present renamed

theorem get?_rename (leaves : source.parts = t.place x) (arrives : target.parts = t.place y) :
    ∃ content, n.tree.get? source = some (.file content) ∧
      tree.at? t.dir.parts = n.tree.at? t.dir.parts ∧
      tree.get? t.file = if y = t.name then some (.file content)
        else if x = t.name then none else n.tree.get? t.file := by
  obtain ⟨content, gone, found, removed, rfl⟩ := Tree.rename_eq_ok_iff.1 renamed
  have dir := dir_of_remove? leaves removed
  have there : (gone.at? t.dir.parts).isSome = true := by rw [dir]; exact present
  refine ⟨content, found, (dir_of_addFile arrives there content).trans dir, ?_⟩
  rw [get?_addFile whole arrives there, get?_remove? whole leaves removed]

theorem moveAway_effect (leaves : source.parts = t.place t.name)
    (arrives : target.parts = t.place y) (other : y ≠ t.name) :
    Effect t n (n.move source target) := by
  obtain ⟨content, -, -, file⟩ := get?_rename whole present renamed leaves arrives
  rw [if_neg other, if_pos rfl] at file
  simp only [Notifier.move, renamed]
  refine .removed (by simpa using file) ?_
  intro f only live
  have listens := file_listens (leaves.trans whole.symm) only live
  have asked : Mask.fileInterest.has .moveSelf = true := by decide
  have said : (Mask.ofFlags [.moveSelf]).has .moveSelf = true := by decide
  obtain ⟨e, queued, handle, heard⟩ := Notifier.tellSelf_heard
    (n := n.withTree tree) listens asked said
  exact ⟨e, Notifier.mem_tellParent (Notifier.mem_tellParent queued ..) .., handle,
    Mask.meets_iff.2 ⟨.moveSelf, heard, by decide⟩⟩

theorem moveIn_effect (leaves : source.parts = t.place x)
    (arrives : target.parts = t.place t.name) (full : ∃ content, n.tree.Holds source content)
    (absent : n.tree.get? target = none) : Effect t n (n.move source target) := by
  obtain ⟨content, found, -, file⟩ := get?_rename whole present renamed leaves arrives
  rw [if_pos rfl] at file
  obtain ⟨other, same, nonempty⟩ := full
  obtain rfl : content = other := by simpa using found.symm.trans same
  rw [get?_of_stands whole arrives] at absent
  simp only [Notifier.move, renamed]
  refine .made ⟨by simpa using file, nonempty⟩ absent ?_
  intro d only live
  have listens : t.dirWatch d ∈ (((n.withTree tree).tellSelf source
      (.ofFlags [.moveSelf])).tellParent source (.ofFlags [.movedFrom])).listeners t.dir.parts := by
    simpa using dir_listens only live
  have asked : Mask.directoryInterest.has .movedTo = true := by decide
  have said : (Mask.ofFlags [.movedTo]).has .movedTo = true := by decide
  obtain ⟨e, queued, handle, name, heard⟩ := Notifier.tellParent_heard arrives listens asked said
  exact ⟨e, queued, handle, name, Mask.meets_iff.2 ⟨.movedTo, heard, by decide⟩⟩

end

theorem aside_of_ripple (whole : t.file.parts = t.place t.name) (other : x ≠ t.name)
    {n' : Notifier} (ripple : Notifier.Ripple (t.place x) n n')
    (same : n'.tree.get? t.file = n.tree.get? t.file) : Effect t n n' :=
  .aside same (live_of_ripple ripple (whole ▸ place_ne other))

theorem Nearby.effect {activity : Activity} (nearby : t.Nearby n.tree activity)
    (whole : t.file.parts = t.place t.name) (present : (n.tree.at? t.dir.parts).isSome = true)
    (file : n.tree.get? t.file = none ∨ ∃ content, n.tree.Holds t.file content) :
    Effect t n (n.apply activity) := by
  cases nearby with
  | @create p content x stands full =>
    by_cases own : x = t.name
    · subst own
      exact create_effect whole present stands (full rfl) file
    · refine aside_of_ripple whole own (stands ▸ Notifier.create_ripple ..) ?_
      rw [Notifier.apply, Notifier.create_tree, get?_addFile whole stands present, if_neg own]
  | @write p content x stands full =>
    by_cases own : x = t.name
    · subst own
      exact write_effect whole present stands (full rfl).1 (full rfl).2
    · refine aside_of_ripple whole own (stands ▸ Notifier.write_ripple ..) ?_
      rw [Notifier.apply, Notifier.write_tree, get?_addFile whole stands present, if_neg own]
  | @delete p x stands =>
    by_cases own : x = t.name
    · subst own
      exact delete_effect whole stands
    · refine aside_of_ripple whole own (stands ▸ Notifier.delete_ripple ..) ?_
      rw [Notifier.apply, Notifier.delete]
      split
      · rfl
      · rename_i removed
        simpa [own] using get?_remove? whole stands removed
  | @move source target x y leaves arrives away full =>
    -- The file may be what moves, what is moved onto, or neither.
    cases renamed : n.tree.rename source target with
    | error cause =>
      rw [Notifier.apply, Notifier.move, renamed]
      exact .aside rfl fun _ _ member => member
    | ok tree =>
      by_cases own : x = t.name
      · subst own
        exact moveAway_effect whole present renamed leaves arrives (away rfl)
      · by_cases into : y = t.name
        · subst into
          exact moveIn_effect whole present renamed leaves arrives (full rfl).1 (full rfl).2
        · refine aside_of_ripple whole own (leaves ▸ Notifier.move_ripple ..) ?_
          obtain ⟨content, -, -, same⟩ := get?_rename whole present renamed leaves arrives
          simpa [Notifier.apply, Notifier.move, renamed, own, into] using same
  | lost => exact .aside rfl fun _ _ member => member

theorem Nearby.dir {activity : Activity} (nearby : t.Nearby n.tree activity)
    (whole : t.file.parts = t.place t.name) (present : (n.tree.at? t.dir.parts).isSome = true) :
    (n.apply activity).tree.at? t.dir.parts = n.tree.at? t.dir.parts := by
  cases nearby with
  | create stands full =>
    rw [Notifier.apply, Notifier.create_tree, dir_of_addFile stands present]
  | write stands full =>
    rw [Notifier.apply, Notifier.write_tree, dir_of_addFile stands present]
  | delete stands =>
    rw [Notifier.apply, Notifier.delete]
    split
    · rfl
    · rename_i removed
      simpa using dir_of_remove? stands removed
  | @move source target x y leaves arrives away full =>
    rw [Notifier.apply, Notifier.move]
    split
    · rfl
    · rename_i renamed
      obtain ⟨content, -, same, -⟩ := get?_rename whole present renamed leaves arrives
      simpa using same
  | lost => rfl

theorem Nearby.ripple {activity : Activity} (nearby : t.Nearby n.tree activity) :
    ∃ place, place ≠ t.dir.parts ∧ Notifier.Ripple place n (n.apply activity) := by
  cases nearby with
  | @create p content x stands full =>
    exact ⟨t.place x, Place.child_ne _ _, stands ▸ Notifier.create_ripple ..⟩
  | @write p content x stands full =>
    exact ⟨t.place x, Place.child_ne _ _, stands ▸ Notifier.write_ripple ..⟩
  | @delete p x stands =>
    exact ⟨t.place x, Place.child_ne _ _, stands ▸ Notifier.delete_ripple ..⟩
  | @move source target x y leaves arrives away full =>
    exact ⟨t.place x, Place.child_ne _ _, leaves ▸ Notifier.move_ripple ..⟩
  | lost => exact ⟨t.place t.name, Place.child_ne _ _, Notifier.push_ripple _ _ rfl⟩

end Target

end RoleWatch
