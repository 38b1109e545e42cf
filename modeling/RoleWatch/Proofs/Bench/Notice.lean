import RoleWatch.Proofs.Bench.Nearby
import RoleWatch.Proofs.Bench.Course

/-!
What can be read at a watched path, beside what is told to its registration. Activity that tells of
itself tells the registration of most changes to what can be read, and the others are listed here.
-/
namespace RoleWatch.Bench

def Activity.tells : Activity → Bool
  | .create .. | .write .. | .delete .. | .move .. | .removeDirectory .. => true
  | _ => false

/-- The changes at a place that the registrations of the place do not hear of: a file is made where
none was, a file arrives from elsewhere, or something above the place goes by itself. -/
inductive Tree.Overlooked (t : Tree) (place : Place) : Activity → Prop where
  | made {p : Path} {content : Bytes} (here : p.parts = place) (absent : t.isFile p = false) :
      Overlooked t place (.create p content)
  | arrived {source target : Path} (here : target.parts = place) (left : source.parts ≠ place) :
      Overlooked t place (.move source target)
  | deletedAbove {p : Path} (above : p.parts <+: place) (left : p.parts ≠ place) :
      Overlooked t place (.delete p)
  | movedAbove {source target : Path} (above : source.parts <+: place)
      (left : source.parts ≠ place) : Overlooked t place (.move source target)

namespace Notifier

variable {n a b c : Notifier} {r : Registration} {h : Handle} {p : Path} {mask : Mask}

/-- An event by which a registration of a file learns that the file is different or gone. -/
def IsWord (h : Handle) (e : Event) : Prop :=
  e.handle = some h ∧ e.mask.meets (.ofFlags [.modify] ∪ .gone) = true

/-- Something is added to the queue, and this holds of it. -/
def Queues (holds : List Event → Prop) (n n' : Notifier) : Prop :=
  ∃ new, n'.pending = n.pending ++ new ∧ holds new

abbrev Grows : Notifier → Notifier → Prop := Queues fun _ => True

abbrev Tells (h : Handle) : Notifier → Notifier → Prop := Queues fun new => ∃ e ∈ new, IsWord h e

abbrev Spares (h : Handle) : Notifier → Notifier → Prop := Queues fun new => ∀ e ∈ new, ¬ IsWord h e

theorem Queues.trans {first second both : List Event → Prop} (before : Queues first a b)
    (after : Queues second b c) (join : ∀ x y, first x → second y → both (x ++ y)) :
    Queues both a c := by
  obtain ⟨x, earlier, holds⟩ := before
  obtain ⟨y, later, also⟩ := after
  exact ⟨x ++ y, by rw [later, earlier, List.append_assoc], join x y holds also⟩

theorem Queues.grows {holds : List Event → Prop} (queues : Queues holds a b) : Grows a b := by
  obtain ⟨new, added, -⟩ := queues
  exact ⟨new, added, trivial⟩

theorem Grows.refl (n : Notifier) : Grows n n := ⟨[], (List.append_nil _).symm, trivial⟩

theorem Grows.and_more (first : Grows a b) (second : Grows b c) : Grows a c :=
  first.trans second fun _ _ _ _ => trivial

theorem Tells.and_more (tells : Tells h a b) (more : Grows b c) : Tells h a c := by
  refine tells.trans more ?_
  rintro x y ⟨e, new, word⟩ -
  exact ⟨e, List.mem_append_left y new, word⟩

theorem Grows.and_tells (more : Grows a b) (tells : Tells h b c) : Tells h a c := by
  refine more.trans tells ?_
  rintro x y - ⟨e, new, word⟩
  exact ⟨e, List.mem_append_right x new, word⟩

theorem Spares.and_spares (first : Spares h a b) (second : Spares h b c) : Spares h a c := by
  refine first.trans second ?_
  intro x y none nor e new
  exact (List.mem_append.1 new).elim (none e) (nor e)

/-! What each report adds. -/

theorem tellSelf_queues (n : Notifier) (p : Path) (mask : Mask) :
    Queues (· = heard (n.listeners p.parts) mask .onSelf) n (n.tellSelf p mask) := ⟨_, rfl, rfl⟩

theorem tellParent_queues (n : Notifier) (p : Path) (mask : Mask) :
    Queues (fun new => ∀ e ∈ new, ∃ r ∈ n.active, r.hears mask ≠ ∅ ∧ e.handle = some r.handle ∧
      e.mask = r.hears mask) n (n.tellParent p mask) := by
  unfold tellParent
  split
  · refine ⟨_, rfl, ?_⟩
    intro e new
    obtain ⟨r, listens, hears, rfl⟩ := mem_heard.1 new
    exact ⟨r, (mem_listeners.1 listens).1, hears, rfl, rfl⟩
  · exact ⟨[], (List.append_nil _).symm, nofun⟩

theorem drop_queues (n : Notifier) (p : Path) :
    Queues (fun new => ∀ e ∈ new, e.mask = .ofFlags [.ignored]) n (n.drop p) := by
  refine ⟨_, rfl, ?_⟩
  intro e new
  obtain ⟨h, -, rfl⟩ := List.mem_map.1 new
  rfl

/-- A registration of a file, as it comes about. -/
structure Watched (n : Notifier) (r : Registration) : Prop where
  numbered : n.Numbered
  listed : r ∈ n.active
  interest : r.interest = .fileInterest

theorem Watched.undisturbed (watched : n.Watched r) {n' : Notifier} (same : Undisturbed n n') :
    n'.Watched r :=
  ⟨watched.numbered.undisturbed same, same.active ▸ watched.listed, watched.interest⟩

theorem Watched.tellSelf_tells (watched : n.Watched r) (live : r.handle ∉ n.dropped)
    (here : p.parts = r.path.parts) (flag : Flag) (asked : Mask.fileInterest.has flag = true) :
    Tells r.handle n (n.tellSelf p (.ofFlags [flag])) := by
  have listens : r ∈ n.listeners p.parts := mem_listeners.2 ⟨watched.listed, here.symm, live⟩
  have said : (Mask.ofFlags [flag]).has flag = true := by simp
  obtain ⟨has, nonempty⟩ := hears_flag (watched.interest ▸ asked) said
  refine ⟨_, rfl, _, mem_heard.2 ⟨r, listens, nonempty, rfl⟩, rfl, ?_⟩
  refine Mask.meets_iff.2 ⟨flag, has, ?_⟩
  revert asked
  cases flag <;> decide

theorem Watched.tellSelf_spares (watched : n.Watched r) (elsewhere : p.parts ≠ r.path.parts)
    (mask : Mask) : Spares r.handle n (n.tellSelf p mask) := by
  refine ⟨_, rfl, ?_⟩
  rintro e new ⟨own, -⟩
  obtain ⟨other, listens, -, rfl⟩ := mem_heard.1 new
  obtain ⟨listed, stands, -⟩ := mem_listeners.1 listens
  obtain rfl := watched.numbered.sole watched.listed listed (Option.some.inj own)
  exact elsewhere stands.symm

theorem Watched.tellParent_spares (watched : n.Watched r) (p : Path) (mask : Mask)
    (deaf : mask ∩ (.fileInterest ∪ .unsolicited) = ∅) :
    Spares r.handle n (n.tellParent p mask) := by
  obtain ⟨new, added, from_listed⟩ := n.tellParent_queues p mask
  refine ⟨new, added, ?_⟩
  rintro e among ⟨own, -⟩
  obtain ⟨other, listed, hears, named, -⟩ := from_listed e among
  obtain rfl := watched.numbered.sole watched.listed listed (Option.some.inj (named.symm.trans own))
  rw [Registration.hears, watched.interest] at hears
  exact hears deaf

theorem drop_spares (n : Notifier) (p : Path) (h : Handle) : Spares h n (n.drop p) := by
  obtain ⟨new, added, last_words⟩ := n.drop_queues p
  refine ⟨new, added, ?_⟩
  rintro e among ⟨-, met⟩
  rw [last_words e among] at met
  exact absurd met (by decide)

theorem takeAway_grows (n : Notifier) (p : Path) : Grows n (n.takeAway p) :=
  (tellSelf_queues ..).grows.and_more (drop_queues ..).grows

theorem sweep_grows (n : Notifier) (paths : List Path) : Grows n (n.sweep paths) :=
  sweep_related _ .refl .and_more takeAway_grows n paths

@[simp] theorem sweep_tree (n : Notifier) (paths : List Path) : (n.sweep paths).tree = n.tree :=
  sweep_related (fun n n' => n'.tree = n.tree) (fun _ => rfl)
    (fun first second => second.trans first) (fun _ _ => rfl) n paths

/-! What activity does to what can be read, and what it tells of that. -/

/-- A registration is told of an activity, unless this is one that it does not hear of. -/
def Heeds (n : Notifier) (r : Registration) (a : Activity) : Prop :=
  Tells r.handle n (n.apply a) ∧ ¬ n.tree.Overlooked r.path.parts a ∨
    Spares r.handle n (n.apply a) ∧ n.tree.Overlooked r.path.parts a

section

variable {content : Bytes} (watched : n.Watched r) (live : r.handle ∉ n.dropped)

include watched live

theorem Watched.write_tells (here : p.parts = r.path.parts) (content : Bytes) :
    Tells r.handle n (n.write p content) := by
  have told : Tells r.handle n ((n.withTree (n.tree.addFile p content)).tellSelf p _) :=
    (watched.undisturbed (withTree_undisturbed ..)).tellSelf_tells live here .modify
      (by decide)
  exact told.and_more (tellParent_queues ..).grows

theorem Watched.heeds_write
    (changed : (n.write p content).tree.fileAt? r.path.parts ≠ n.tree.fileAt? r.path.parts) :
    n.Heeds r (.write p content) := by
  rw [write_tree] at changed
  refine .inl ⟨watched.write_tells live (Tree.eq_of_fileAt?_addFile changed) content, ?_⟩
  rintro ⟨⟩

theorem Watched.heeds_create
    (changed : (n.create p content).tree.fileAt? r.path.parts ≠ n.tree.fileAt? r.path.parts) :
    n.Heeds r (.create p content) := by
  rw [create_tree] at changed
  have here := Tree.eq_of_fileAt?_addFile changed
  cases there : n.tree.isFile p with
  | true =>
    have state : n.apply (.create p content) = n.write p content := by
      simp only [apply, create, there, if_true]
    -- A file that is there is written, and a write is told at the path itself.
    refine .inl ⟨state ▸ watched.write_tells live here content, ?_⟩
    rintro ⟨-, absent⟩
    simp [there] at absent
  | false =>
    have state : n.apply (.create p content) =
        (n.withTree (n.tree.addFile p content)).tellParent p (.ofFlags [.create]) := by
      simp [apply, create, there]
    have watched' := watched.undisturbed (withTree_undisturbed n (n.tree.addFile p content))
    exact .inr ⟨state ▸ watched'.tellParent_spares p _ (by decide), .made here there⟩

theorem Watched.heeds_delete
    (changed : (n.delete p).tree.fileAt? r.path.parts ≠ n.tree.fileAt? r.path.parts) :
    n.Heeds r (.delete p) := by
  cases removed : n.tree.remove? p with
  | none => simp [delete, removed] at changed
  | some tree =>
    have state : n.apply (.delete p) =
        ((n.withTree tree).takeAway p).tellParent p (.ofFlags [.delete]) := by
      simp only [apply, delete, removed]
      rfl
    have after : (n.delete p).tree = tree := by simp [delete, removed]
    have above := Tree.prefix_of_fileAt?_remove? removed (after ▸ changed)
    have watched' := watched.undisturbed (withTree_undisturbed n tree)
    by_cases here : p.parts = r.path.parts
    · have told : Tells r.handle n ((n.withTree tree).tellSelf p _) :=
        watched'.tellSelf_tells live here .deleteSelf (by decide)
      refine .inl ⟨?_, ?_⟩
      · rw [state]
        exact (told.and_more (drop_queues ..).grows).and_more (tellParent_queues ..).grows
      · intro overlooked
        cases overlooked with
        | deletedAbove _ left => exact left here
    · have spared : Spares r.handle n ((n.withTree tree).tellSelf p _) :=
        watched'.tellSelf_spares here (.ofFlags [.deleteSelf])
      have then_spared := (watched'.undisturbed (takeAway_undisturbed _ p)).tellParent_spares p
        (.ofFlags [.delete]) (by decide)
      refine .inr ⟨?_, .deletedAbove above here⟩
      rw [state]
      exact (spared.and_spares (drop_spares _ p _)).and_spares then_spared

theorem Watched.heeds_move {source target : Path}
    (changed : (n.move source target).tree.fileAt? r.path.parts ≠ n.tree.fileAt? r.path.parts) :
    n.Heeds r (.move source target) := by
  cases renamed : n.tree.rename source target with
  | error cause => simp [move, renamed] at changed
  | ok tree =>
    have state : n.apply (.move source target) = (((n.withTree tree).tellSelf source
        (.ofFlags [.moveSelf])).tellParent source (.ofFlags [.movedFrom])).tellParent target
          (.ofFlags [.movedTo]) := by
      simp only [apply, move, renamed]
    have after : (n.move source target).tree = tree := by simp [move, renamed]
    have place := Tree.place_of_fileAt?_rename renamed (after ▸ changed)
    have watched' := watched.undisturbed (withTree_undisturbed n tree)
    by_cases here : source.parts = r.path.parts
    · have told : Tells r.handle n ((n.withTree tree).tellSelf source _) :=
        watched'.tellSelf_tells live here .moveSelf (by decide)
      refine .inl ⟨?_, ?_⟩
      · rw [state]
        exact (told.and_more (tellParent_queues ..).grows).and_more (tellParent_queues ..).grows
      · intro overlooked
        cases overlooked with
        | arrived _ left | movedAbove _ left => exact left here
    · have spared : Spares r.handle n ((n.withTree tree).tellSelf source _) :=
        watched'.tellSelf_spares here (.ofFlags [.moveSelf])
      have left := watched'.undisturbed (tellSelf_undisturbed _ source (.ofFlags [.moveSelf]))
      have left_spared := left.tellParent_spares source (.ofFlags [.movedFrom]) (by decide)
      have arrived := left.undisturbed (tellParent_undisturbed _ source (.ofFlags [.movedFrom]))
      have arrived_spared := arrived.tellParent_spares target (.ofFlags [.movedTo]) (by decide)
      refine .inr ⟨?_, ?_⟩
      · rw [state]
        exact (spared.and_spares left_spared).and_spares arrived_spared
      · rcases place with arrived | above
        · exact .arrived arrived here
        · exact .movedAbove above here

theorem Watched.sweep_tells {paths : List Path} (among : r.path ∈ paths) :
    Tells r.handle n (n.sweep paths) := by
  induction paths generalizing n with
  | nil => exact absurd among List.not_mem_nil
  | cons p rest ih =>
    by_cases here : p.parts = r.path.parts
    · have told := watched.tellSelf_tells live here .deleteSelf (by decide)
      exact (told.and_more (drop_queues ..).grows).and_more (sweep_grows _ rest)
    · have later : r.path ∈ rest :=
        (List.mem_cons.1 among).resolve_left fun same => here (by rw [same])
      have live' : r.handle ∉ (n.takeAway p).dropped := by
        -- Only registrations of the other path are dropped, and the handle is none of theirs.
        intro gone
        rcases List.mem_append.1 gone with before | now
        · exact live before
        · obtain ⟨other, listens, same⟩ := List.mem_map.1 now
          obtain ⟨listed, stands, -⟩ := mem_listeners.1 listens
          obtain rfl := watched.numbered.sole watched.listed listed same
          exact here stands.symm
      exact (takeAway_grows n p).and_tells
        (ih (watched.undisturbed (takeAway_undisturbed n p)) live' later)

theorem Watched.heeds_removeDirectory
    (changed : (n.removeDirectory p).tree.fileAt? r.path.parts ≠ n.tree.fileAt? r.path.parts) :
    n.Heeds r (.removeDirectory p) := by
  cases removed : n.tree.remove? p with
  | none => simp [removeDirectory, removed] at changed
  | some tree =>
    have state : n.apply (.removeDirectory p) = _ := removeDirectory_eq removed
    have after : (n.removeDirectory p).tree = tree := by simp [removeDirectory_eq removed]
    have above := Tree.prefix_of_fileAt?_remove? removed (after ▸ changed)
    have among : r.path ∈ (n.active.map Registration.path).filter (·.isWithin p) :=
      List.mem_filter.2 ⟨List.mem_map_of_mem watched.listed, Path.isWithin_iff.2 above⟩
    have told : Tells r.handle n ((n.withTree tree).sweep _) :=
      (watched.undisturbed (withTree_undisturbed n tree)).sweep_tells live among
    refine .inl ⟨state ▸ told, ?_⟩
    rintro ⟨⟩

end

/-- Of whatever changes what can be read at a path, its registration is told, but for the changes
listed. -/
theorem change_heard_iff (reached : n.Reached) (listed : r ∈ n.active) (live : r.handle ∉ n.dropped)
    (interest : r.interest = .fileInterest) {a : Activity} (tells : a.tells = true)
    (changed : ((n.apply a).tree.content r.path).toOption ≠ (n.tree.content r.path).toOption) :
    ∃ new, (n.apply a).pending = n.pending ++ new ∧
      ((∃ e ∈ new, e.handle = some r.handle ∧
        e.mask.meets (.ofFlags [.modify] ∪ .gone) = true) ↔
          ¬ n.tree.Overlooked r.path.parts a) := by
  have watched : n.Watched r := ⟨reached.numbered, listed, interest⟩
  rw [Tree.toOption_content, Tree.toOption_content] at changed
  have heeds : n.Heeds r a := by
    cases a with
    | create => exact watched.heeds_create live changed
    | write => exact watched.heeds_write live changed
    | delete => exact watched.heeds_delete live changed
    | move => exact watched.heeds_move live changed
    | removeDirectory => exact watched.heeds_removeDirectory live changed
    | _ => simp [Activity.tells] at tells
  rcases heeds with ⟨⟨new, added, word⟩, heard⟩ | ⟨⟨new, added, silent⟩, overlooked⟩
  · exact ⟨new, added, iff_of_true word heard⟩
  · refine ⟨new, added, iff_of_false ?_ (not_not_intro overlooked)⟩
    rintro ⟨e, among, word⟩
    exact silent e among word

end Notifier

namespace Example

def neighbour : Path := ⟨[0x2f, 0x65, 0x2f, 0x67]⟩

def watchful : Notifier :=
  ((Notifier.ofTree (stage.notifier.tree.addFile neighbour [0x73])).addWatch target.file
    .fileInterest).2

theorem watchful_reached : watchful.Reached := ⟨_, 1, [.addWatch target.file .fileInterest], rfl⟩

end Example

open Example

theorem Notifier.change_heard_of_write :
    let r : Registration := ⟨⟨1⟩, target.file, .fileInterest⟩
    let written := watchful.apply (.write target.file [0x73])
    watchful.Reached ∧ r ∈ watchful.active ∧ r.handle ∉ watchful.dropped ∧
      (written.tree.content r.path).toOption ≠ (watchful.tree.content r.path).toOption ∧
      ∃ new, written.pending = watchful.pending ++ new ∧
        ((∃ e ∈ new, e.handle = some r.handle ∧
          e.mask.meets (.ofFlags [.modify] ∪ .gone) = true) ↔
            ¬ watchful.tree.Overlooked r.path.parts (.write target.file [0x73])) := by
  intro r written
  have listed : r ∈ watchful.active := by decide +kernel
  have live : r.handle ∉ watchful.dropped := by decide +kernel
  have changed : (written.tree.content r.path).toOption ≠
      (watchful.tree.content r.path).toOption := by decide +kernel
  exact ⟨watchful_reached, listed, live, changed,
    Notifier.change_heard_iff watchful_reached listed live rfl rfl changed⟩

/-- Another file takes the place of one that is watched, and nothing is queued. -/
theorem Notifier.replacement_unheard :
    let replaced := watchful.apply (.move neighbour target.file)
    watchful.Reached ∧ watchful.active = [⟨⟨1⟩, target.file, .fileInterest⟩] ∧
      watchful.dropped = [] ∧
      (watchful.tree.content target.file).toOption = some [0x6d] ∧
      (replaced.tree.content target.file).toOption = some [0x73] ∧
      watchful.pending = [] ∧ replaced.pending = [] :=
  ⟨watchful_reached, by decide +kernel⟩

end RoleWatch.Bench
