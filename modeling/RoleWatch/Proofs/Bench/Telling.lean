import RoleWatch.Proofs.Bench.Notice

/-!
To whom activity on the files tells what. Every event is for a registration that is there and was
not dropped, about something that it hears, and the last word to a registration is the last.
-/
namespace RoleWatch.Bench.Notifier

variable {n a b c : Notifier} {p : Path} {mask : Mask}

/-- An event is for a registration that was not dropped, about something that it hears. -/
def Addressed (n : Notifier) (e : Event) : Prop :=
  ∃ r ∈ n.active, r.handle ∉ n.dropped ∧ e.handle = some r.handle ∧ e.mask ≠ ∅ ∧
    ∀ flag, e.mask.has flag = true → (r.interest ∪ Mask.unsolicited).has flag = true

/-- After an event that says the watch has ended there is no other for the same registration. -/
def Final (e later : Event) : Prop := e.mask.has .ignored = true → later.handle ≠ e.handle

/-- What is told on the way from one moment to another, and who is dropped. -/
structure Told (n n' : Notifier) (new : List Event) : Prop where
  undisturbed : Undisturbed n n'
  addressed : ∀ e ∈ new, n.Addressed e
  final : new.Pairwise Final
  ended : ∀ e ∈ new, e.mask.has .ignored = true → ∃ h ∈ n'.dropped, e.handle = some h
  stay : n.dropped ⊆ n'.dropped
  listed : ∀ h ∈ n'.dropped, h ∈ n.dropped ∨ ∃ r ∈ n.active, r.handle = h

namespace Told

theorem of_undisturbed (undisturbed : Undisturbed a b) (dropped : b.dropped = a.dropped) :
    Told a b [] where
  undisturbed := undisturbed
  addressed := nofun
  final := .nil
  ended := nofun
  stay := dropped ▸ List.Subset.refl _
  listed _ member := .inl (dropped ▸ member)

theorem trans {x y : List Event} (first : Told a b x) (second : Told b c y) :
    Told a c (x ++ y) := by
  have back : ∀ e ∈ y, a.Addressed e ∧ ∀ h ∈ b.dropped, e.handle ≠ some h := by
    intro e new
    obtain ⟨r, active, live, own, heard⟩ := second.addressed e new
    have live' : r.handle ∉ a.dropped := fun gone => live (first.stay gone)
    refine ⟨⟨r, first.undisturbed.active ▸ active, live', own, heard⟩, ?_⟩
    rintro h gone same
    exact live (Option.some.inj (own.symm.trans same) ▸ gone)
  constructor
  case undisturbed => exact first.undisturbed.trans second.undisturbed
  case addressed =>
    intro e new
    exact (List.mem_append.1 new).elim (first.addressed e) fun new => (back e new).1
  case final =>
    refine List.pairwise_append.2 ⟨first.final, second.final, ?_⟩
    -- Whoever has had the last word is dropped, and those that hear more are not.
    intro e before later after said
    obtain ⟨h, gone, own⟩ := first.ended e before said
    exact own ▸ (back later after).2 h gone
  case ended =>
    intro e new said
    rcases List.mem_append.1 new with before | after
    · obtain ⟨h, gone, own⟩ := first.ended e before said
      exact ⟨h, second.stay gone, own⟩
    · exact second.ended e after said
  case stay => exact List.Subset.trans first.stay second.stay
  case listed =>
    intro h member
    rcases second.listed h member with earlier | now
    · exact first.listed h earlier
    · exact .inr (first.undisturbed.active ▸ now)

end Told

/-- Just what is told on the way is added to the queue. -/
def Telling (n n' : Notifier) : Prop := Queues (Told n n') n n'

namespace Telling

theorem of_undisturbed (undisturbed : Undisturbed a b) (dropped : b.dropped = a.dropped)
    (pending : b.pending = a.pending) : Telling a b :=
  ⟨[], by rw [pending, List.append_nil], .of_undisturbed undisturbed dropped⟩

theorem refl (n : Notifier) : Telling n n := .of_undisturbed (.refl n) rfl rfl

theorem trans (first : Telling a b) (second : Telling b c) : Telling a c :=
  Queues.trans first second fun _ _ => Told.trans

theorem undisturbed (telling : Telling a b) : Undisturbed a b := by
  obtain ⟨_, -, told⟩ := telling
  exact told.undisturbed

end Telling

theorem withTree_telling (n : Notifier) (tree : Tree) : Telling n (n.withTree tree) :=
  .of_undisturbed (withTree_undisturbed n tree) rfl rfl

theorem addressed_of_hears {r : Registration} {e : Event} (active : r ∈ n.active)
    (live : r.handle ∉ n.dropped) (own : e.handle = some r.handle) (some_flag : r.hears mask ≠ ∅)
    (said : e.mask = r.hears mask) : n.Addressed e := by
  refine ⟨r, active, live, own, said ▸ some_flag, fun flag has => ?_⟩
  rw [said, Registration.hears, Mask.has_inter, Bool.and_eq_true] at has
  exact has.2

theorem telling_of_heard {listeners : List Registration} {told : Handle → Mask → Event}
    (live : ∀ r ∈ listeners, r ∈ n.active ∧ r.handle ∉ n.dropped)
    (plain : ∀ h m, (told h m).handle = some h ∧ (told h m).mask = m)
    (quiet : mask.has .ignored = false) :
    Telling n { n with pending := n.pending ++ heard listeners mask told } := by
  have silent : ∀ e ∈ heard listeners mask told, e.mask.has .ignored = false := by
    intro e new
    obtain ⟨r, -, -, rfl⟩ := mem_heard.1 new
    rw [(plain _ _).2, Registration.hears, Mask.has_inter, quiet, Bool.false_and]
  refine ⟨_, rfl, ⟨rfl, rfl, rfl, rfl⟩, ?_, List.pairwise_of_forall_mem_list ?_, ?_,
    List.Subset.refl _, fun _ => .inl⟩
  · intro e new
    obtain ⟨r, listens, hears, rfl⟩ := mem_heard.1 new
    exact addressed_of_hears (live r listens).1 (live r listens).2 (plain _ _).1 hears
      (plain _ _).2
  · intro e new later _ said
    simp [silent e new] at said
  · intro e new said
    simp [silent e new] at said

theorem live_of_listeners {place : Place} : ∀ r ∈ n.listeners place,
    r ∈ n.active ∧ r.handle ∉ n.dropped := by
  intro r listens
  obtain ⟨active, -, live⟩ := mem_listeners.1 listens
  exact ⟨active, live⟩

theorem tellSelf_telling (n : Notifier) (p : Path) (quiet : mask.has .ignored = false) :
    Telling n (n.tellSelf p mask) :=
  telling_of_heard live_of_listeners (fun _ _ => ⟨rfl, rfl⟩) quiet

theorem tellParent_telling (n : Notifier) (p : Path) (quiet : mask.has .ignored = false) :
    Telling n (n.tellParent p mask) := by
  unfold tellParent
  split
  · exact telling_of_heard live_of_listeners (fun _ _ => ⟨rfl, rfl⟩) quiet
  · exact .refl n

/-- Each registration of an object that is gone gets its last word once. -/
theorem drop_telling (numbered : n.Numbered) (p : Path) : Telling n (n.drop p) := by
  have distinct : ((n.listeners p.parts).map Registration.handle).Nodup :=
    (List.filter_sublist.map _).nodup numbered.distinct
  refine ⟨_, rfl, drop_undisturbed n p, ?_, ?_, ?_, List.subset_append_left .., ?_⟩
  · intro e new
    obtain ⟨h, among, rfl⟩ := List.mem_map.1 new
    obtain ⟨r, listens, rfl⟩ := List.mem_map.1 among
    obtain ⟨active, live⟩ := live_of_listeners r listens
    refine ⟨r, active, live, rfl, (by decide : Mask.ofFlags [.ignored] ≠ ∅), fun flag has => ?_⟩
    obtain rfl : flag = .ignored := by simpa [Event.onSelf] using has
    simp [Mask.unsolicited]
  · refine List.pairwise_map.2 (distinct.imp fun apart _ same => apart ?_)
    exact (Option.some.inj same).symm
  · intro e new _
    obtain ⟨h, among, rfl⟩ := List.mem_map.1 new
    exact ⟨h, List.mem_append_right _ among, rfl⟩
  · intro h member
    rcases List.mem_append.1 member with before | now
    · exact .inl before
    · obtain ⟨r, listens, rfl⟩ := List.mem_map.1 now
      exact .inr ⟨r, (live_of_listeners r listens).1, rfl⟩

theorem write_telling (n : Notifier) (p : Path) (content : Bytes) :
    Telling n (n.write p content) :=
  ((withTree_telling ..).trans (tellSelf_telling _ p (by decide))).trans
    (tellParent_telling _ p (by decide))

theorem create_telling (n : Notifier) (p : Path) (content : Bytes) :
    Telling n (n.create p content) := by
  unfold create
  split
  · exact write_telling ..
  · exact (withTree_telling ..).trans (tellParent_telling _ p (by decide))

theorem takeAway_telling (numbered : n.Numbered) (p : Path) : Telling n (n.takeAway p) := by
  have told : Telling n (n.tellSelf p (.ofFlags [.deleteSelf])) := tellSelf_telling n p (by decide)
  exact told.trans (drop_telling (numbered.undisturbed told.undisturbed) p)

theorem delete_telling (numbered : n.Numbered) (p : Path) : Telling n (n.delete p) := by
  cases removed : n.tree.remove? p with
  | none => simpa [delete, removed] using Telling.refl n
  | some tree =>
    have state : n.delete p = ((n.withTree tree).takeAway p).tellParent p (.ofFlags [.delete]) := by
      simp only [delete, removed]
      rfl
    have numbered' := numbered.undisturbed (withTree_undisturbed n tree)
    exact state ▸ ((withTree_telling n tree).trans (takeAway_telling numbered' p)).trans
      (tellParent_telling _ p (by decide))

theorem move_telling (n : Notifier) (source target : Path) :
    Telling n (n.move source target) := by
  unfold move
  split
  · exact .refl n
  · exact (((withTree_telling ..).trans (tellSelf_telling _ source (by decide))).trans
      (tellParent_telling _ source (by decide))).trans (tellParent_telling _ target (by decide))

theorem removeDirectory_telling (numbered : n.Numbered) (p : Path) :
    Telling n (n.removeDirectory p) := by
  cases removed : n.tree.remove? p with
  | none => simpa [removeDirectory, removed] using Telling.refl n
  | some tree =>
    have swept := sweep_related (fun n n' => n.Numbered → Telling n n') (fun n _ => .refl n)
      (fun first second numbered => by
        have before := first numbered
        exact before.trans (second (numbered.undisturbed before.undisturbed)))
      (fun n p numbered => takeAway_telling numbered p) (n.withTree tree)
      ((n.active.map Registration.path).filter (·.isWithin p))
    rw [removeDirectory_eq removed]
    exact (withTree_telling n tree).trans (swept (numbered.undisturbed (withTree_undisturbed ..)))

theorem apply_telling (numbered : n.Numbered) {what : Activity} (tells : what.tells = true) :
    Telling n (n.apply what) := by
  cases what with
  | create => exact create_telling ..
  | write => exact write_telling ..
  | delete => exact delete_telling numbered ..
  | move => exact move_telling ..
  | removeDirectory => exact removeDirectory_telling numbered ..
  | _ => simp [Activity.tells] at tells

theorem apply_dropped {what : Activity} (silent : what.tells = false) :
    (n.apply what).dropped = n.dropped := by
  cases what <;> first | rfl | simp [Activity.tells] at silent

theorem apply_grows (numbered : n.Numbered) (what : Activity) : Grows n (n.apply what) := by
  cases tells : what.tells with
  | true => exact Queues.grows (apply_telling numbered tells)
  | false =>
    cases what with
    | push event => exact ⟨[event], rfl, trivial⟩
    | addFile | addDirectory | remove | rename | refuseNext | later => exact .refl n
    | _ => simp [Activity.tells] at tells

/-! What some activity adds to the queue, and what of that is told by activity on the files. -/

def queued (n : Notifier) (activities : List Activity) : List Event :=
  (n.applyAll activities).pending.drop n.pending.length

def told : Notifier → List Activity → List Event
  | _, [] => []
  | n, what :: rest => (if what.tells then n.queued [what] else []) ++ (n.apply what).told rest

theorem applyAll_grows (numbered : n.Numbered) (activities : List Activity) :
    Grows n (n.applyAll activities) := by
  induction activities generalizing n with
  | nil => exact .refl n
  | cons what rest ih =>
    have later := ih (numbered.undisturbed (apply_undisturbed n what))
    exact (apply_grows numbered what).and_more later

theorem applyAll_pending (numbered : n.Numbered) (activities : List Activity) :
    (n.applyAll activities).pending = n.pending ++ n.queued activities := by
  obtain ⟨new, added, -⟩ := applyAll_grows numbered activities
  rw [queued, added, List.drop_left]

theorem applyAll_told (numbered : n.Numbered) (activities : List Activity) :
    Told n (n.applyAll activities) (n.told activities) := by
  induction activities generalizing n with
  | nil => exact .of_undisturbed (.refl n) rfl
  | cons what rest ih =>
    have undisturbed := apply_undisturbed n what
    have later := ih (numbered.undisturbed undisturbed)
    refine Told.trans ?_ later
    cases tells : what.tells with
    | true =>
      obtain ⟨new, added, told⟩ := apply_telling numbered tells
      have same : n.queued [what] = new := by
        change (n.apply what).pending.drop n.pending.length = new
        rw [added, List.drop_left]
      simpa [same] using told
    | false => simpa using Told.of_undisturbed undisturbed (apply_dropped tells)

end RoleWatch.Bench.Notifier
