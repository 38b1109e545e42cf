import RoleWatch.Proofs.After
import RoleWatch.Proofs.Watch.Numbering
import RoleWatch.Proofs.Watch.Roster
import RoleWatch.Relay.Basic

/-!
The course of a relay: reports that come in, registrations taken on and ended, and reads, in any
order. Handles are given in order and never twice, so what is handed out under a handle is meant for
the one registration that it was given to.
-/
namespace RoleWatch

namespace Relay

variable {World : Type} {w : Watcher World} {r : Relay}

inductive Act (World : Type) where
  | told (what : Except Trouble Report)
  | closed
  | add (path : Path) (interest : Mask) (world : World)
  | remove (handle : Handle) (world : World)
  | read (isThere : Path → Bool)

def Act.on (w : Watcher World) (r : Relay) : Act World → Relay
  | .told what => r.receive what
  | .closed => r.close
  | .add path interest world => (r.addWatch w path interest world).1.2
  | .remove handle world => (r.removeWatch w handle world).1.2
  | .read isThere => (r.read isThere).2

def course (w : Watcher World) (r : Relay) (acts : List (Act World)) : Relay :=
  acts.foldl (Act.on w) r

theorem addWatch_after (r : Relay) (w : Watcher World) (p : Path) (interest : Mask) (world : World) :
    After (r.addWatch w p interest) world fun answer _ => answer =
      match w.look world p, (w.watch p world).1 with
      | .error cause, _ => (.error cause, r)
      | .ok (), .error trouble => (.error trouble.failedCall, r)
      | .ok (), .ok () => (.ok ⟨r.nextId⟩, r.register p interest) := by
  have got : After get world fun seen world' => world = seen ∧ world = world' := ⟨rfl, rfl⟩
  apply After.bind got
  rintro seen now ⟨same, rfl⟩
  rw [← same]
  cases looked : w.look world p with
  | error cause => exact After.pure rfl
  | ok _ =>
    apply After.bind (After.run (w.watch p) world)
    intro agreed after watched
    rw [watched]
    cases agreed with
    | error trouble => exact After.pure rfl
    | ok _ => exact After.pure rfl

/-- Whether a registration is taken on depends on the surroundings alone. If not, nothing changes. -/
theorem addWatch_decided (w : Watcher World) (p : Path) (interest : Mask) (world : World) :
    (∃ cause, ∀ r : Relay, (r.addWatch w p interest world).1 = (.error cause, r)) ∨
      ∀ r : Relay, (r.addWatch w p interest world).1 = (.ok ⟨r.nextId⟩, r.register p interest) := by
  have decided := fun r : Relay => r.addWatch_after w p interest world
  unfold After at decided
  cases looked : w.look world p with
  | error cause => exact .inl ⟨cause, fun r => by simp [decided, looked]⟩
  | ok _ =>
    cases watched : (w.watch p world).1 with
    | error trouble => exact .inl ⟨trouble.failedCall, fun r => by simp [decided, looked, watched]⟩
    | ok _ => exact .inr fun r => by simp [decided, looked, watched]

theorem removeWatch_forgets (w : Watcher World) (handle : Handle) (world : World) (r : Relay) :
    (r.removeWatch w handle world).1.2 =
      { r with registrations := Roster.leave (·.handle = handle) r.registrations } := by
  unfold removeWatch
  cases found : r.registrations.find? (·.handle = handle) with
  | none =>
    have missing : r.registrations.findIdx? (·.handle = handle) = none := by simpa using found
    have same : Roster.leave (·.handle = handle) r.registrations = r.registrations := by
      simp [Roster.leave, missing]
    rw [same]
    rfl
  | some gone => rfl

/-- Handles are given in order, and no two registrations share one. -/
structure Orderly (r : Relay) : Prop where
  given : ∀ known ∈ r.registrations, known.handle.id < r.nextId
  distinct : (r.registrations.map (·.handle)).Nodup

theorem orderly_empty : empty.Orderly := ⟨by simp [empty], by simp [empty]⟩

/-- What an act does to the registrations: some may go, and one may come under the next handle. -/
theorem Act.on_registrations (w : Watcher World) (r : Relay) (act : Act World) :
    ((act.on w r).nextId = r.nextId ∧ (act.on w r).registrations.Subperm r.registrations) ∨
      ∃ p interest, act.on w r = r.register p interest := by
  cases act with
  | told what =>
    simp only [Act.on, receive]
    split <;> exact .inl ⟨rfl, .refl _⟩
  | closed => exact .inl ⟨rfl, .refl _⟩
  | add path interest world =>
    rcases addWatch_decided w path interest world with ⟨cause, refused⟩ | given
    · have unchanged : (Act.add path interest world).on w r = r := congrArg Prod.snd (refused r)
      rw [unchanged]
      exact .inl ⟨rfl, .refl _⟩
    · exact .inr ⟨path, interest, congrArg Prod.snd (given r)⟩
  | remove handle world =>
    have after := removeWatch_forgets w handle world r
    simp only [Act.on, after]
    exact .inl ⟨trivial, Roster.leave_subperm _ _⟩
  | read isThere => exact .inl ⟨rfl, .refl _⟩

theorem orderly_iff :
    r.Orderly ↔ Handle.Numbered (r.registrations.map (·.handle)) r.nextId := by
  constructor
  · rintro ⟨given, distinct⟩
    exact ⟨by simpa using given, distinct⟩
  · rintro ⟨given, distinct⟩
    exact ⟨by simpa using given, distinct⟩

theorem Orderly.register (orderly : r.Orderly) (p : Path) (interest : Mask) :
    (r.register p interest).Orderly :=
  orderly_iff.2 (by simpa [Relay.register] using (orderly_iff.1 orderly).push)

def listing (w : Watcher World) : Listing Relay (Act World) Registration where
  on := Act.on w
  next := nextId
  entries := registrations
  handle := (·.handle)
  steps r act := by
    rcases Act.on_registrations w r act with fewer | ⟨p, interest, result⟩
    · exact .inl fewer
    · exact .inr ⟨⟨⟨r.nextId⟩, p, interest⟩, rfl, by rw [result]; rfl, by rw [result]; rfl⟩

theorem Orderly.course (orderly : r.Orderly) (acts : List (Act World)) :
    (course w r acts).Orderly := by
  have numbered : (listing w).Numbered r := orderly_iff.1 orderly
  exact orderly_iff.2 (numbered.run acts)

theorem Orderly.sole (orderly : r.Orderly) {known other : Registration}
    (member : known ∈ r.registrations) (also : other ∈ r.registrations)
    (same : other.handle = known.handle) : other = known :=
  List.inj_on_of_nodup_map orderly.distinct also member same

theorem registered_before {acts : List (Act World)} {known : Registration}
    (now : known ∈ (course w r acts).registrations) (given : known.handle.id < r.nextId) :
    known ∈ r.registrations := (listing w).listed_before now given

/-! What is issued and what is ended. -/

def Act.issued? (w : Watcher World) (r : Relay) : Act World → Option Handle
  | .add path interest world => (r.addWatch w path interest world).1.1.toOption
  | _ => none

theorem course_append (w : Watcher World) (r : Relay) (before after : List (Act World)) :
    course w r (before ++ after) = course w (course w r before) after :=
  List.foldl_append

theorem Act.issued?_cases (w : Watcher World) (r : Relay) (act : Act World) :
    act.issued? w r = none ∧ (act.on w r).nextId = r.nextId ∨
      act.issued? w r = some ⟨r.nextId⟩ ∧ (act.on w r).nextId = r.nextId + 1 := by
  cases act with
  | told what =>
    refine .inl ⟨rfl, ?_⟩
    simp only [Act.on, receive]
    split <;> rfl
  | closed => exact .inl ⟨rfl, rfl⟩
  | add path interest world =>
    rcases addWatch_decided w path interest world with ⟨cause, refused⟩ | given
    · simp [Act.issued?, Act.on, refused, Except.toOption]
    · simp [Act.issued?, Act.on, given, Except.toOption, register]
  | remove handle world =>
    refine .inl ⟨rfl, ?_⟩
    simp only [Act.on, removeWatch_forgets]
  | read isThere => exact .inl ⟨rfl, rfl⟩

def counter (w : Watcher World) : Counter Relay (Act World) :=
  ⟨Act.on w, nextId, Act.issued? w, Act.issued?_cases w⟩

abbrev issued (w : Watcher World) (r : Relay) (acts : List (Act World)) : List Handle :=
  (counter w).issued r acts

theorem lt_nextId_of_issued {acts : List (Act World)} {h : Handle}
    (among : h ∈ issued w r acts) : h.id < (course w r acts).nextId :=
  ((counter w).issued_bounds among).2

/-- Ending a registration takes that one off the list, and no other. -/
theorem Orderly.remove_perm (orderly : r.Orderly) (w : Watcher World) (h : Handle)
    (world : World) : ((Act.remove h world).on w r).registrations.Perm
      (r.registrations.filter (·.handle ≠ h)) := by
  simp only [Act.on, removeWatch_forgets]
  exact Roster.leave_perm_filter orderly.distinct h

/-- A handle that was given and ended is never registered again. -/
theorem Orderly.ended (orderly : r.Orderly) {h : Handle} (given : h.id < r.nextId)
    (world : World) (after : List (Act World)) {known : Registration}
    (now : known ∈ (Relay.course w r (.remove h world :: after)).registrations) : known.handle ≠ h := by
  have counted : ((Act.remove h world).on w r).nextId = r.nextId := by
    simp only [Act.on, removeWatch_forgets]
  have gone : ∀ other ∈ ((Act.remove h world).on w r).registrations, other.handle ≠ h := by
    intro other kept
    exact of_decide_eq_true (List.mem_filter.1 ((orderly.remove_perm w h world).subset kept)).2
  have given' : h.id < ((Act.remove h world).on w r).nextId := counted ▸ given
  exact (listing w).stays_away given' gone after known now

namespace Example

def watcher : Watcher Unit := ⟨fun _ _ => .ok (), fun _ => pure (.ok ()), fun _ => pure (.ok ())⟩

end Example

end Relay

end RoleWatch
