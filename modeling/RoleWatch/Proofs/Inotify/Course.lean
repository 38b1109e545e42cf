import RoleWatch.Bench.Kernel
import RoleWatch.Inotify.Table
import RoleWatch.Proofs.After
import RoleWatch.Proofs.Watch.Numbering
import RoleWatch.Proofs.Watch.Roster

/-!
The course of a table: registrations taken on and ended, and waits, while watched objects come and go
and the kernel drops their watches. Handles and descriptors stay paired one to one, also those of
watches that are gone, so what the kernel reports is handed out under the one handle that its watch
has, or not at all.
-/
namespace RoleWatch.Inotify

variable {World Object : Type} {k : Kernel World} {t : Table} {h : Handle} {d : Descriptor}

inductive Move (World : Type) where
  | add (path : Path) (interest : Mask)
  | remove (handle : Handle)
  | wait (span : Millis)
  | meanwhile (change : World → World)

def Move.on (k : Kernel World) (now : Table × World) : Move World → Table × World
  | .add path interest =>
    let ((_, table), world) := now.1.addWatch k path interest now.2
    (table, world)
  | .remove handle =>
    let ((_, table), world) := now.1.removeWatch k handle now.2
    (table, world)
  | .wait span => (now.1, (now.1.wait k span now.2).2)
  | .meanwhile change => (now.1, change now.2)

def course (k : Kernel World) (now : Table × World) (moves : List (Move World)) : Table × World :=
  moves.foldl (Move.on k) now

def Kernel.answer (k : Kernel World) (world : World) (p : Path) (interest : Mask) :
    Except IoError Descriptor := (k.add p (interest ∩ requestable) world).1

namespace Table

def handles (t : Table) : List Handle := t.entries.map Prod.fst

def descriptors (t : Table) : List Descriptor := t.entries.map Prod.snd

def push (t : Table) (d : Descriptor) : Table := ⟨t.entries ++ [(⟨t.nextId⟩, d)], t.nextId + 1⟩

@[simp] theorem descriptors_push (t : Table) (d : Descriptor) :
    (t.push d).descriptors = t.descriptors ++ [d] := List.map_append

theorem mem_handles (entry : (h, d) ∈ t.entries) : h ∈ t.handles := List.mem_map.2 ⟨_, entry, rfl⟩

theorem mem_descriptors (entry : (h, d) ∈ t.entries) : d ∈ t.descriptors :=
  List.mem_map.2 ⟨_, entry, rfl⟩

/-- Handles are given by counting, and no descriptor has two. -/
structure Orderly (t : Table) : Prop where
  numbered : Handle.Numbered t.handles t.nextId
  apart : t.descriptors.Nodup

theorem orderly_empty : empty.Orderly := ⟨.nil 1, .nil⟩

theorem forget_subperm (t : Table) (h : Handle) : (t.forget h).entries.Subperm t.entries :=
  Roster.leave_subperm _ _

theorem Orderly.handleOf_iff (orderly : t.Orderly) :
    t.handleOf d = some h ↔ (h, d) ∈ t.entries := by
  simp only [handleOf, Option.map_eq_some_iff, Roster.find?_key orderly.apart]
  constructor
  · rintro ⟨⟨_, _⟩, ⟨member, rfl⟩, rfl⟩
    exact member
  · exact fun member => ⟨(h, d), ⟨member, rfl⟩, rfl⟩

theorem Orderly.descriptorOf_iff (orderly : t.Orderly) :
    t.descriptorOf h = some d ↔ (h, d) ∈ t.entries := by
  simp only [descriptorOf, Option.map_eq_some_iff, Roster.find?_key orderly.numbered.distinct]
  constructor
  · rintro ⟨⟨_, _⟩, ⟨member, rfl⟩, rfl⟩
    exact member
  · exact fun member => ⟨(h, d), ⟨member, rfl⟩, rfl⟩

theorem handleOf_eq_none_iff : t.handleOf d = none ↔ d ∉ t.descriptors := by
  simp only [handleOf, descriptors, Option.map_eq_none_iff, List.find?_eq_none, decide_eq_true_eq,
    List.mem_map, not_exists, not_and]

theorem descriptorOf_eq_none_iff : t.descriptorOf h = none ↔ h ∉ t.handles := by
  simp only [descriptorOf, handles, Option.map_eq_none_iff, List.find?_eq_none, decide_eq_true_eq,
    List.mem_map, not_exists, not_and]

theorem enroll_of_new (new : d ∉ t.descriptors) : t.enroll d = (⟨t.nextId⟩, t.push d) := by
  simp [enroll, handleOf_eq_none_iff.2 new, push]

theorem addWatch_after (k : Kernel World) (p : Path) (interest : Mask) (world : World) (t : Table) :
    After (t.addWatch k p interest) world fun answer left =>
      left = (k.add p (interest ∩ requestable) world).2 ∧ answer =
        match k.answer world p interest with
        | .error cause => (.error cause, t)
        | .ok d => (.ok (t.enroll d).1, (t.enroll d).2) := by
  apply After.bind (After.run (k.add p (interest ∩ requestable)) world)
  intro answered left asked
  rw [Kernel.answer, asked]
  cases answered with
  | error cause => exact After.pure ⟨rfl, rfl⟩
  | ok d => exact After.pure ⟨rfl, rfl⟩

theorem addWatch_eq (k : Kernel World) (p : Path) (interest : Mask) (world : World) (t : Table) :
    (t.addWatch k p interest world).1 =
      match k.answer world p interest with
      | .error cause => (.error cause, t)
      | .ok d => (.ok (t.enroll d).1, (t.enroll d).2) :=
  (t.addWatch_after k p interest world).2

section

variable {p : Path} {interest : Mask} {world : World}

theorem addWatch_of_error {cause : IoError} (asked : k.answer world p interest = .error cause) :
    (t.addWatch k p interest world).1 = (.error cause, t) := by
  rw [addWatch_eq, asked]

theorem addWatch_of_known (asked : k.answer world p interest = .ok d)
    (known : t.handleOf d = some h) : (t.addWatch k p interest world).1 = (.ok h, t) := by
  simp only [addWatch_eq, asked, enroll_of_handleOf known]

theorem addWatch_of_new (asked : k.answer world p interest = .ok d) (new : d ∉ t.descriptors) :
    (t.addWatch k p interest world).1 = (.ok ⟨t.nextId⟩, t.push d) := by
  simp only [addWatch_eq, asked, enroll_of_new new]

end

theorem removeWatch_of_unknown (k : Kernel World) (world : World) (unknown : h ∉ t.handles) :
    t.removeWatch k h world =
      ((.error (.worded .notFound s!"unknown watch handle {h.display}"), t), world) := by
  unfold removeWatch
  rw [descriptorOf_eq_none_iff.2 unknown]
  rfl

theorem Orderly.removeWatch_eq (orderly : t.Orderly) (k : Kernel World) (world : World)
    (known : (h, d) ∈ t.entries) :
    t.removeWatch k h world = (((k.remove d world).1, t.forget h), (k.remove d world).2) := by
  unfold removeWatch
  rw [orderly.descriptorOf_iff.2 known]
  rfl

end Table

/-! What a move does to the table. -/

def Move.granted? (k : Kernel World) (now : Table × World) : Move World → Option Descriptor
  | .add path interest => (k.answer now.2 path interest).toOption
  | _ => none

def granted (k : Kernel World) (now : Table × World) : List (Move World) → List Descriptor
  | [] => []
  | move :: rest => (move.granted? k now).toList ++ granted k (move.on k now) rest

/-- Some registrations may go, or one may come for a descriptor just given. -/
theorem Move.on_table (k : Kernel World) (now : Table × World) (move : Move World) :
    ((move.on k now).1.nextId = now.1.nextId ∧
        (move.on k now).1.entries.Subperm now.1.entries) ∨
      ∃ d, d ∉ now.1.descriptors ∧ move.granted? k now = some d ∧
        (move.on k now).1 = now.1.push d := by
  cases move with
  | add path interest =>
    change ((now.1.addWatch k path interest now.2).1.2.nextId = _ ∧
      (now.1.addWatch k path interest now.2).1.2.entries.Subperm _) ∨
        ∃ d, _ ∧ _ ∧ (now.1.addWatch k path interest now.2).1.2 = _
    cases asked : k.answer now.2 path interest with
    | error cause =>
      rw [Table.addWatch_of_error asked]
      exact .inl ⟨rfl, .refl _⟩
    | ok d =>
      cases found : now.1.handleOf d with
      | some h =>
        rw [Table.addWatch_of_known asked found]
        exact .inl ⟨rfl, .refl _⟩
      | none =>
        have new := Table.handleOf_eq_none_iff.1 found
        rw [Table.addWatch_of_new asked new]
        exact .inr ⟨d, new, by simp [granted?, asked, Except.toOption], rfl⟩
  | remove h =>
    left
    change ((now.1.removeWatch k h now.2).1.2.nextId = _ ∧
      (now.1.removeWatch k h now.2).1.2.entries.Subperm _)
    unfold Table.removeWatch
    cases now.1.descriptorOf h with
    | none => exact ⟨rfl, .refl _⟩
    | some d => exact ⟨rfl, now.1.forget_subperm h⟩
  | wait | meanwhile => exact .inl ⟨rfl, .refl _⟩

theorem course_append (k : Kernel World) (now : Table × World) (before after : List (Move World)) :
    course k now (before ++ after) = course k (course k now before) after := List.foldl_append

def listing (k : Kernel World) : Listing (Table × World) (Move World) (Handle × Descriptor) where
  on := Move.on k
  next now := now.1.nextId
  entries now := now.1.entries
  handle := Prod.fst
  steps now move := by
    rcases move.on_table k now with fewer | ⟨d, -, -, table⟩
    · exact .inl fewer
    · exact .inr ⟨(⟨now.1.nextId⟩, d), rfl, by rw [table]; rfl, by rw [table]; rfl⟩

theorem Table.Orderly.course {now : Table × World} (orderly : now.1.Orderly)
    (moves : List (Move World)) : (course k now moves).1.Orderly := by
  constructor
  case numbered =>
    have numbered : (listing k).Numbered now := orderly.numbered
    exact numbered.run moves
  case apart =>
    have apart := orderly.apart
    clear orderly
    induction moves generalizing now with
    | nil => exact apart
    | cons move rest ih =>
      refine ih ?_
      rcases move.on_table k now with ⟨-, kept, same, within⟩ | ⟨d, new, -, table⟩
      · exact (same.map Prod.snd).nodup_iff.1 (apart.sublist (within.map Prod.snd))
      · rw [table, descriptors_push, ← List.concat_eq_append]
        exact apart.concat new

/-- The table knows no descriptor that the kernel did not give. -/
theorem granted_of_entry {now : Table × World} {moves : List (Move World)}
    (later : d ∈ (course k now moves).1.descriptors) :
    d ∈ now.1.descriptors ∨ d ∈ granted k now moves := by
  induction moves generalizing now with
  | nil => exact .inl later
  | cons move rest ih =>
    rw [granted, List.mem_append]
    rcases ih later with now_known | then_given
    · rcases move.on_table k now with ⟨-, fewer⟩ | ⟨d', -, given, table⟩
      · obtain ⟨entry, member, rfl⟩ := List.mem_map.1 now_known
        exact .inl (List.mem_map_of_mem (fewer.subset member))
      · rw [table, Table.descriptors_push, List.mem_append, List.mem_singleton] at now_known
        rw [given]
        rcases now_known with old | rfl
        · exact .inl old
        · exact .inr (.inl (List.mem_singleton_self d))
    · exact .inr (.inr then_given)

theorem Table.Orderly.forget_perm {t : Table} (orderly : t.Orderly) (h : Handle) :
    (t.forget h).entries.Perm (t.entries.filter (·.1 ≠ h)) :=
  Roster.leave_perm_filter orderly.numbered.distinct h

/-- A handle that is ended does not come back. -/
theorem Table.Orderly.stays_away {now : Table × World} (orderly : now.1.Orderly)
    (listed : h ∈ now.1.handles) (after : List (Move World)) :
    h ∉ (Inotify.course k now (.remove h :: after)).1.handles := by
  have table : ((Move.remove h).on k now).1 = now.1.forget h := by
    obtain ⟨⟨_, d⟩, known, rfl⟩ := List.mem_map.1 listed
    exact congrArg (·.1.2) (orderly.removeWatch_eq k now.2 known)
  have gone : ∀ entry ∈ ((Move.remove h).on k now).1.entries, entry.1 ≠ h := by
    intro entry kept
    rw [table] at kept
    exact of_decide_eq_true (List.mem_filter.1 ((orderly.forget_perm h).subset kept)).2
  have given : h.id < ((Move.remove h).on k now).1.nextId := table ▸ orderly.numbered.given h listed
  intro again
  obtain ⟨entry, later, same⟩ := List.mem_map.1 again
  exact (listing k).stays_away given gone after entry later same

/-! What the moves of a course answer. -/

/-- The objects of a world, and which of them the kernel watches. -/
structure Objects (World Object : Type) where
  at? : World → Path → Option Object
  watched : World → Object → Option Descriptor

/-- The kernel gives an object that it watches the descriptor of that watch, and another object one
that was not given before. -/
def Objects.Fit (objects : Objects World Object) (given : List Descriptor) (world : World)
    (p : Path) (d : Descriptor) : Prop :=
  ∃ object, objects.at? world p = some object ∧
    (objects.watched world object = some d ∨ objects.watched world object = none ∧ d ∉ given)

def Objects.Lawful (objects : Objects World Object) (k : Kernel World) (given : List Descriptor)
    (now : Table × World) : List (Move World) → Prop
  | [] => True
  | move :: rest =>
    (∀ p interest d, move = .add p interest → k.answer now.2 p interest = .ok d →
      objects.Fit given now.2 p d) ∧
    objects.Lawful k (given ++ (move.granted? k now).toList) (move.on k now) rest

variable {objects : Objects World Object}

theorem Objects.Lawful.fit {given : List Descriptor} {now : Table × World}
    {before after : List (Move World)} {p : Path} {interest : Mask}
    (lawful : objects.Lawful k given now (before ++ .add p interest :: after))
    (answer : k.answer (course k now before).2 p interest = .ok d) :
    objects.Fit (given ++ granted k now before) (course k now before).2 p d := by
  induction before generalizing given now with
  | nil =>
    rw [granted, List.append_nil]
    exact lawful.1 p interest d rfl answer
  | cons move rest ih =>
    have later := ih lawful.2 answer
    rwa [List.append_assoc] at later

/-- How a path is taken on. -/
structure Enrolled (k : Kernel World) (objects : Objects World Object) (now : Table × World)
    (p : Path) (interest : Mask) : Prop where
  refused : ∀ cause, k.answer now.2 p interest = .error cause →
    (now.1.addWatch k p interest now.2).1 = (.error cause, now.1)
  known : ∀ h d, k.answer now.2 p interest = .ok d → (h, d) ∈ now.1.entries →
    (now.1.addWatch k p interest now.2).1 = (.ok h, now.1)
  new : ∀ d, k.answer now.2 p interest = .ok d → d ∉ now.1.descriptors →
    ∃ h left, (now.1.addWatch k p interest now.2).1 = (.ok h, left) ∧ h ∉ now.1.handles ∧
      left.entries = now.1.entries ++ [(h, d)]
  existing : ∀ h left, (now.1.addWatch k p interest now.2).1 = (.ok h, left) →
    (h ∈ now.1.handles ↔ ∃ object d, objects.at? now.2 p = some object ∧
      objects.watched now.2 object = some d ∧ d ∈ now.1.descriptors)

theorem Table.Orderly.enrolled {now : Table × World} (orderly : now.1.Orderly) {p : Path}
    {interest : Mask} {given : List Descriptor} (within : ∀ d ∈ now.1.descriptors, d ∈ given)
    (fit : ∀ d, k.answer now.2 p interest = .ok d → objects.Fit given now.2 p d) :
    Enrolled k objects now p interest := by
  constructor
  case refused => exact fun _ asked => addWatch_of_error asked
  case known => exact fun _ _ asked entry => addWatch_of_known asked (orderly.handleOf_iff.2 entry)
  case new =>
    intro d asked unknown
    exact ⟨_, _, addWatch_of_new asked unknown, orderly.numbered.fresh, rfl⟩
  case existing =>
    intro h left result
    cases asked : k.answer now.2 p interest with
    | error cause => simp [addWatch_of_error asked] at result
    | ok d =>
      -- Whether the handle was there before is a matter of the table and the descriptor alone.
      have same : h ∈ now.1.handles ↔ d ∈ now.1.descriptors := by
        cases found : now.1.handleOf d with
        | some known =>
          obtain ⟨rfl, -⟩ : known = h ∧ now.1 = left := by
            simpa [addWatch_of_known asked found] using result
          have entry := orderly.handleOf_iff.1 found
          exact iff_of_true (mem_handles entry) (mem_descriptors entry)
        | none =>
          have unknown := handleOf_eq_none_iff.1 found
          obtain ⟨rfl, -⟩ : ⟨now.1.nextId⟩ = h ∧ now.1.push d = left := by
            simpa [addWatch_of_new asked unknown] using result
          exact iff_of_false orderly.numbered.fresh unknown
      obtain ⟨object, place, whose⟩ := fit d asked
      rw [same]
      constructor
      · intro listed
        rcases whose with watched | ⟨-, unknown⟩
        · exact ⟨object, d, place, watched, listed⟩
        · -- A descriptor never given is not in the table.
          exact absurd (within d listed) unknown
      · rintro ⟨other, d', there, watched', listed⟩
        obtain rfl : object = other := Option.some.inj (place.symm.trans there)
        rcases whose with watched | ⟨unwatched, -⟩
        · obtain rfl : d = d' := Option.some.inj (watched.symm.trans watched')
          exact listed
        · simp [unwatched] at watched'

/-- How a registration is ended. -/
structure Ended (k : Kernel World) (now : Table × World) (h : Handle) : Prop where
  unknown : h ∉ now.1.handles → ∃ words,
    now.1.removeWatch k h now.2 = ((.error (.worded .notFound words), now.1), now.2)
  known : ∀ d, (h, d) ∈ now.1.entries → ∃ left,
    now.1.removeWatch k h now.2 = (((k.remove d now.2).1, left), (k.remove d now.2).2) ∧
      left.entries.Perm (now.1.entries.filter (·.1 ≠ h))

theorem Table.Orderly.ended {now : Table × World} (orderly : now.1.Orderly) (k : Kernel World)
    (h : Handle) : Ended k now h where
  unknown unknown := ⟨_, now.1.removeWatch_of_unknown k now.2 unknown⟩
  known _ known := ⟨_, orderly.removeWatch_eq k now.2 known, orderly.forget_perm h⟩

/-- What becomes of what the kernel reports. -/
structure Reported (k : Kernel World) (now : Table × World) (span : Millis) : Prop where
  lost : ∀ notice, now.1.event? notice = some .lost ↔ notice.mask.has .overflow = true
  own : ∀ notice h, now.1.event? notice = some ⟨some h, notice.mask, notice.name⟩ ↔
    notice.mask.has .overflow = false ∧ (h, notice.descriptor) ∈ now.1.entries
  retired : ∀ notice, now.1.event? notice = none ↔
    notice.mask.has .overflow = false ∧ notice.descriptor ∉ now.1.descriptors
  batch : ∀ events, (now.1.wait k span now.2).1 = .ok (.events events) ↔ events ≠ [] ∧
    ∃ notices, (k.take span now.2).1 = .ok (some notices) ∧
      notices.filterMap now.1.event? = events
  nothing : ∀ notices, (k.take span now.2).1 = .ok (some notices) →
    (∀ notice ∈ notices, now.1.event? notice = none) →
      (now.1.wait k span now.2).1 = .ok .interrupted

theorem Table.wait_after (k : Kernel World) (span : Millis) (world : World) (t : Table) :
    After (t.wait k span) world fun answer _ => answer =
      match (k.take span world).1 with
      | .error cause => if cause.kind = .interrupted then .ok .interrupted else .error cause
      | .ok none => .ok .timedOut
      | .ok (some notices) => .ok (t.arrival notices) := by
  apply After.bind (After.run (k.take span) world)
  intro taken left ran
  rw [ran]
  rcases taken with cause | _ | notices
  · exact After.pure rfl
  · exact After.pure rfl
  · exact After.pure rfl

theorem Table.arrival_eq_events_iff {t : Table} {notices : List Notice} {events : List Event} :
    t.arrival notices = .events events ↔ events ≠ [] ∧ notices.filterMap t.event? = events := by
  unfold arrival
  split
  · rename_i nothing
    simp [nothing, eq_comm]
  · rename_i occupied
    simp only [Arrival.events.injEq, iff_and_self]
    rintro rfl
    simpa using occupied

theorem Table.Orderly.reported {now : Table × World} (orderly : now.1.Orderly) (k : Kernel World)
    (span : Millis) : Reported k now span := by
  have arrival : (now.1.wait k span now.2).1 = _ := now.1.wait_after k span now.2
  constructor
  case lost =>
    intro notice
    unfold event?
    split <;> simp_all [Event.lost]
  case own =>
    intro notice h
    unfold event?
    split
    · simp_all [Event.lost]
    · simp_all [orderly.handleOf_iff]
  case retired =>
    intro notice
    unfold event?
    split <;> simp_all [handleOf_eq_none_iff]
  case batch =>
    intro events
    rw [arrival]
    rcases (k.take span now.2).1 with cause | _ | notices
    · dsimp only
      split <;> simp
    · simp
    · simp [arrival_eq_events_iff]
  case nothing =>
    intro notices taken unheard
    rw [arrival, taken]
    have empty : notices.filterMap now.1.event? = [] := List.filterMap_eq_nil_iff.2 unheard
    simp [Table.arrival, empty]

/-- A course from the beginning, at each of its moves and at its end. -/
structure Attributed (k : Kernel World) (objects : Objects World Object) (world : World)
    (moves : List (Move World)) : Prop where
  handles : (course k (.empty, world) moves).1.handles.Nodup
  descriptors : (course k (.empty, world) moves).1.descriptors.Nodup
  enrolled : ∀ before p interest after, moves = before ++ .add p interest :: after →
    Enrolled k objects (course k (.empty, world) before) p interest
  ended : ∀ before h after, moves = before ++ .remove h :: after →
    Ended k (course k (.empty, world) before) h
  staysAway : ∀ before h after, moves = before ++ .remove h :: after →
    h ∈ (course k (.empty, world) before).1.handles → h ∉ (course k (.empty, world) moves).1.handles
  reported : ∀ before span after, moves = before ++ .wait span :: after →
    Reported k (course k (.empty, world) before) span

/-- Whatever becomes of the watched objects, an existing handle is returned just for an object whose
watch the table knows, an ended handle is forgotten for good and alone, and what the kernel reports
goes to the one handle of its watch. -/
theorem attributed (k : Kernel World) (objects : Objects World Object) (world : World)
    (moves : List (Move World)) (lawful : objects.Lawful k [] (.empty, world) moves) :
    Attributed k objects world moves := by
  have orderly : ∀ moves, (course k (.empty, world) moves).1.Orderly :=
    fun moves => Table.orderly_empty.course moves
  constructor
  case handles => exact (orderly moves).numbered.distinct
  case descriptors => exact (orderly moves).apart
  case enrolled =>
    rintro before p interest after rfl
    refine (orderly before).enrolled (fun d known => ?_) fun d asked => lawful.fit asked
    exact (granted_of_entry known).resolve_left List.not_mem_nil
  case ended => exact fun before h after _ => (orderly before).ended k h
  case staysAway =>
    rintro before h after rfl listed
    rw [course_append]
    exact (orderly before).stays_away listed after
  case reported => exact fun before span after _ => (orderly before).reported k span

namespace Example

structure Shelf where
  stands : List (Bytes × Bench.Inode)
  kernel : Bench.Kernel

def inodes : Objects Shelf Bench.Inode where
  at? shelf p := shelf.stands.lookup p.bytes
  watched shelf i := (shelf.kernel.watchOf i).map (·.descriptor)

def calls : Kernel Shelf where
  add p interest := fun shelf =>
    match shelf.stands.lookup p.bytes with
    | none => (.error (.system .noEntry), shelf)
    | some i =>
      let (d, kernel) := shelf.kernel.add i interest
      (.ok d, { shelf with kernel })
  remove d := fun shelf =>
    let (answer, kernel) := shelf.kernel.remove d
    (answer, { shelf with kernel })
  take _ := fun shelf =>
    let (taken, kernel) := shelf.kernel.take
    (.ok (some taken), { shelf with kernel })

def replace (old new : Bench.Inode) (shelf : Shelf) : Shelf where
  stands := shelf.stands.map fun (p, i) => (p, if i = old then new else i)
  kernel := shelf.kernel.hear (.freed old)

end Example

open Example

/-- A path leads to a file already watched, then the file is deleted and made anew. The kernel refuses
to end the watch of the old one, which is gone, and what it still reports of an ended watch is not
handed out. -/
theorem attributed_of_replacement :
    let file : Path := ⟨[0x2f, 0x66]⟩
    let link : Path := ⟨[0x2f, 0x67]⟩
    let directory : Path := ⟨[0x2f]⟩
    let shelf : Shelf := ⟨[(file.bytes, 1), (link.bytes, 1), (directory.bytes, 2)], .empty⟩
    let moves : List (Move Shelf) := [.add file .fileInterest, .add directory .directoryInterest,
      .add link .fileInterest, .meanwhile (replace 1 3), .add file .fileInterest, .wait 0,
      .remove ⟨1⟩, .remove ⟨1⟩, .remove ⟨2⟩, .wait 0]
    inodes.Lawful calls [] (.empty, shelf) moves ∧ Attributed calls inodes shelf moves ∧
      granted calls (.empty, shelf) moves = [⟨1⟩, ⟨2⟩, ⟨1⟩, ⟨3⟩] ∧
      (course calls (.empty, shelf) moves).1.entries = [(⟨3⟩, ⟨3⟩)] := by
  intro file link directory shelf moves
  have lawful : inodes.Lawful calls [] (.empty, shelf) moves := by
    refine ⟨?_, ?_, ?_, nofun, ?_, nofun, nofun, nofun, nofun, nofun, trivial⟩
    · rintro p interest d ⟨⟩ ⟨⟩
      exact ⟨1, rfl, .inr ⟨rfl, by decide⟩⟩
    · rintro p interest d ⟨⟩ ⟨⟩
      exact ⟨2, rfl, .inr ⟨rfl, by decide⟩⟩
    · rintro p interest d ⟨⟩ ⟨⟩
      exact ⟨1, rfl, .inl rfl⟩
    · rintro p interest d ⟨⟩ ⟨⟩
      exact ⟨3, rfl, .inr (by decide)⟩
  exact ⟨lawful, attributed calls inodes shelf moves lawful, by decide, by decide⟩

end RoleWatch.Inotify
