import RoleWatch.Proofs.Relay.Course
import Mathlib.Data.List.Infix

/-!
Registrations beside what the watcher is asked. In every course the places that the watcher agreed to
watch and was not told to let go of are those registered, whatever it refuses.
-/
namespace RoleWatch.Relay

variable {World : Type} {w : Watcher World} {r : Relay}

inductive Asked where
  | watch (path : Path) (answer : Except Trouble Unit)
  | unwatch (path : Path) (answer : Except Trouble Unit)

/-- A watcher whose requests are written down. -/
def Watcher.noted (w : Watcher World) : Watcher (World × List Asked) where
  look noting p := w.look noting.1 p
  watch p := fun noting =>
    let (answer, world) := w.watch p noting.1
    (answer, world, noting.2 ++ [.watch p answer])
  unwatch p := fun noting =>
    let (answer, world) := w.unwatch p noting.1
    (answer, world, noting.2 ++ [.unwatch p answer])

def Act.asks (w : Watcher World) (r : Relay) : Act World → List Asked
  | .add path interest world => (r.addWatch w.noted path interest (world, [])).2.2
  | .remove handle world => (r.removeWatch w.noted handle (world, [])).2.2
  | _ => []

def asked (w : Watcher World) (r : Relay) : List (Act World) → List Asked
  | [] => []
  | act :: rest => act.asks w r ++ asked w (act.on w r) rest

/-- The parts of the paths watched after a request: one more where the watcher agrees to watch, and
one less where it is told not to, whatever it answers to that. -/
def Asked.after (watched : List (List Path.Part)) : Asked → List (List Path.Part)
  | .watch path (.ok ()) => watched ++ [path.parts]
  | .watch _ (.error _) => watched
  | .unwatch path _ => watched.filter (· ≠ path.parts)

def watched (requests : List Asked) : List (List Path.Part) := requests.foldl Asked.after []

/-! Single calls. -/

theorem addWatch_noted (w : Watcher World) (p : Path) (interest : Mask) (world : World)
    (r : Relay) : After (r.addWatch w.noted p interest) (world, []) fun answer left =>
      answer = (r.addWatch w p interest world).1 ∧ left.2 =
        match w.look world p with
        | .error _ => []
        | .ok () => [.watch p (w.watch p world).1] := by
  have plain := r.addWatch_after w p interest world
  unfold After at plain
  rw [plain]
  have got : After get (world, ([] : List Asked)) fun seen left =>
      seen = (world, []) ∧ left = (world, []) := ⟨rfl, rfl⟩
  apply After.bind got
  rintro _ _ ⟨rfl, rfl⟩
  have same : w.noted.look (world, []) p = w.look world p := rfl
  rw [same]
  cases looked : w.look world p with
  | error cause => exact After.pure ⟨rfl, rfl⟩
  | ok _ =>
    have watching : After (w.noted.watch p) (world, []) fun answer left =>
        answer = (w.watch p world).1 ∧ left.2 = [.watch p (w.watch p world).1] := ⟨rfl, rfl⟩
    apply After.bind watching
    rintro _ _ ⟨rfl, asked⟩
    cases agreed : (w.watch p world).1 with
    | error trouble => exact After.pure ⟨rfl, by rw [asked, agreed]⟩
    | ok _ => exact After.pure ⟨rfl, by rw [asked, agreed]⟩

theorem removeWatch_noted (w : Watcher World) (h : Handle) (world : World) (r : Relay) :
    After (r.removeWatch w.noted h) (world, []) fun answer left =>
      answer = (r.removeWatch w h world).1 ∧ left.2 =
        match r.registrations.find? (·.handle = h) with
        | none => []
        | some gone => [.unwatch gone.path (w.unwatch gone.path world).1] := by
  unfold removeWatch
  dsimp only
  cases found : r.registrations.find? (·.handle = h) with
  | none => exact After.pure ⟨rfl, rfl⟩
  | some gone => exact ⟨rfl, rfl⟩

theorem addWatch_eq (w : Watcher World) (p : Path) (interest : Mask) (world : World)
    (r : Relay) : (r.addWatch w p interest world).1 =
      match w.look world p, (w.watch p world).1 with
      | .error cause, _ => (.error cause, r)
      | .ok (), .error trouble => (.error trouble.failedCall, r)
      | .ok (), .ok () => (.ok ⟨r.nextId⟩, r.register p interest) :=
  r.addWatch_after w p interest world

/-- A trouble amounts to a missing path just where the watcher says that something is missing. -/
theorem Trouble.failedCall_notFound_iff (t : Trouble) : t.failedCall.kind = .notFound ↔
    t.kind = .pathNotFound ∨ t.kind = .watchNotFound ∨
      ∃ cause, t.kind = .io cause ∧ cause.kind = .notFound := by
  cases found : t.kind <;> simp [failedCall, found, IoError.kind]

/-- How a path is registered. -/
structure TakenOn (w : Watcher World) (r : Relay) (p : Path) (interest : Mask) (world : World) :
    Prop where
  missing : ∀ cause, w.look world p = .error cause →
    (r.addWatch w p interest world).1 = (.error cause, r) ∧
      (Act.add p interest world).asks w r = []
  refused : ∀ trouble, w.look world p = .ok () → (w.watch p world).1 = .error trouble →
    (r.addWatch w p interest world).1 = (.error trouble.failedCall, r) ∧
      (Act.add p interest world).asks w r = [.watch p (.error trouble)]
  agreed : w.look world p = .ok () → (w.watch p world).1 = .ok () →
    (r.addWatch w p interest world).1 = (.ok ⟨r.nextId⟩, r.register p interest) ∧
      (Act.add p interest world).asks w r = [.watch p (.ok ())]

theorem takenOn (w : Watcher World) (r : Relay) (p : Path) (interest : Mask) (world : World) :
    TakenOn w r p interest world := by
  have asks : (Act.add p interest world).asks w r = _ := (addWatch_noted w p interest world r).2
  constructor
  · intro cause looked
    simp [addWatch_eq, asks, looked]
  · intro trouble looked watched
    simp [addWatch_eq, asks, looked, watched]
  · intro looked watched
    simp [addWatch_eq, asks, looked, watched]

/-- How a registration is ended. -/
structure LetGo (w : Watcher World) (r : Relay) (h : Handle) (world : World) : Prop where
  unknown : (∀ known ∈ r.registrations, known.handle ≠ h) →
    (∃ words, (r.removeWatch w h world).1 = (.error (.worded .notFound words), r)) ∧
      (Act.remove h world).asks w r = []
  known : ∀ known ∈ r.registrations, known.handle = h →
    (∃ left, (r.removeWatch w h world).1 =
        ((w.unwatch known.path world).1.mapError Trouble.failedCall,
          { r with registrations := left }) ∧
      left.Perm (r.registrations.filter (·.handle ≠ h))) ∧
    (Act.remove h world).asks w r = [.unwatch known.path (w.unwatch known.path world).1]

theorem Orderly.letGo (orderly : r.Orderly) (w : Watcher World) (h : Handle) (world : World) :
    LetGo w r h world := by
  have asks : (Act.remove h world).asks w r = _ := (removeWatch_noted w h world r).2
  constructor
  · intro unknown
    have none : r.registrations.find? (·.handle = h) = none := by simpa using unknown
    rw [none] at asks
    refine ⟨⟨s!"unknown watch handle {h.display}", ?_⟩, asks⟩
    unfold removeWatch
    dsimp only
    rw [none]
    rfl
  · rintro known member rfl
    have found : r.registrations.find? (·.handle = known.handle) = some known :=
      (Roster.find?_key orderly.distinct).2 ⟨member, rfl⟩
    rw [found] at asks
    refine ⟨⟨Roster.leave (·.handle = known.handle) r.registrations, ?_,
      Roster.leave_perm_filter orderly.distinct known.handle⟩, asks⟩
    unfold removeWatch
    dsimp only
    rw [found]
    rfl

/-! Whole courses. -/

theorem asked_append (w : Watcher World) (r : Relay) (before after : List (Act World)) :
    asked w r (before ++ after) = asked w r before ++ asked w (course w r before) after := by
  induction before generalizing r with
  | nil => rfl
  | cons act rest ih =>
    rw [List.cons_append, asked, asked, ih, List.append_assoc]
    rfl

theorem watched_append (before after : List Asked) :
    watched (before ++ after) = after.foldl Asked.after (watched before) := List.foldl_append

/-- The places watched, with these requests last, are those registered. -/
def Tracks (r : Relay) (requests : List Asked) : Prop :=
  ∀ place, place ∈ watched requests ↔ ∃ known ∈ r.registrations, known.path.parts = place

theorem Tracks.add {requests : List Asked} (tracks : r.Tracks requests) (w : Watcher World)
    (p : Path) (interest : Mask) (world : World) :
    ((Act.add p interest world).on w r).Tracks
      (requests ++ (Act.add p interest world).asks w r) := by
  have taken := takenOn w r p interest world
  cases looked : w.look world p with
  | error cause =>
    obtain ⟨answer, asks⟩ := taken.missing cause looked
    simpa [Act.on, answer, asks] using tracks
  | ok _ =>
    cases agreed : (w.watch p world).1 with
    | error trouble =>
      obtain ⟨answer, asks⟩ := taken.refused trouble looked agreed
      intro place
      rw [watched_append, asks]
      simpa [Act.on, answer, Asked.after] using tracks place
    | ok _ =>
      obtain ⟨answer, asks⟩ := taken.agreed looked agreed
      intro place
      rw [watched_append, asks]
      simp [Act.on, answer, Asked.after, register, tracks place, or_and_right, exists_or, eq_comm]

theorem Tracks.remove {requests : List Asked} (tracks : r.Tracks requests) (orderly : r.Orderly)
    (single : (r.registrations.map (·.path.parts)).Nodup) (w : Watcher World) (h : Handle)
    (world : World) : ((Act.remove h world).on w r).Tracks
      (requests ++ (Act.remove h world).asks w r) := by
  have let_go := orderly.letGo w h world
  by_cases listed : ∃ known ∈ r.registrations, known.handle = h
  · obtain ⟨known, member, rfl⟩ := listed
    obtain ⟨⟨left, answer, perm⟩, asks⟩ := let_go.known known member rfl
    have state : (Act.remove known.handle world).on w r = { r with registrations := left } :=
      congrArg Prod.snd answer
    intro place
    rw [watched_append, asks, state]
    simp only [List.foldl_cons, List.foldl_nil, Asked.after, List.mem_filter, tracks place,
      decide_eq_true_eq]
    constructor
    · rintro ⟨⟨other, among, rfl⟩, elsewhere⟩
      refine ⟨other, perm.mem_iff.2 (List.mem_filter.2 ⟨among, ?_⟩), rfl⟩
      refine decide_eq_true fun same => elsewhere ?_
      rw [orderly.sole member among same]
    · rintro ⟨other, kept, rfl⟩
      obtain ⟨among, apart⟩ := List.mem_filter.1 (perm.mem_iff.1 kept)
      refine ⟨⟨other, among, rfl⟩, fun same => of_decide_eq_true apart ?_⟩
      rw [List.inj_on_of_nodup_map single among member same]
  · have unknown : ∀ known ∈ r.registrations, known.handle ≠ h :=
      fun known member same => listed ⟨known, member, same⟩
    obtain ⟨⟨words, answer⟩, asks⟩ := let_go.unknown unknown
    have state : (Act.remove h world).on w r = r := congrArg Prod.snd answer
    rw [state, asks, List.append_nil]
    exact tracks

theorem Tracks.on {requests : List Asked} (tracks : r.Tracks requests) (orderly : r.Orderly)
    (single : (r.registrations.map (·.path.parts)).Nodup) (w : Watcher World)
    (act : Act World) : (act.on w r).Tracks (requests ++ act.asks w r) := by
  cases act with
  | add p interest world => exact tracks.add w p interest world
  | remove h world => exact tracks.remove orderly single w h world
  | told what =>
    have state : ((Act.told what : Act World).on w r).registrations = r.registrations := by
      simp only [Act.on, receive]
      split <;> rfl
    intro place
    simpa [Act.asks, state] using tracks place
  | closed | read => simpa [Tracks, Act.asks, Act.on, close, read] using tracks

/-- No path is registered twice at the same time in a course. -/
def Single (w : Watcher World) (acts : List (Act World)) : Prop :=
  ∀ before ∈ acts.inits, ((course w empty before).registrations.map (·.path.parts)).Nodup

theorem Single.tracks {acts : List (Act World)} (single : Single w acts) :
    (course w empty acts).Tracks (asked w empty acts) := by
  induction acts using List.reverseRecOn with
  | nil => exact fun place => by simp [asked, watched, course, empty]
  | append_singleton before act ih =>
    have earlier : Single w before := fun part among =>
      single part ((List.mem_inits _ _).2 (((List.mem_inits _ _).1 among).trans
        (List.prefix_append _ _)))
    have now := single before (by simp)
    have orderly := orderly_empty.course (w := w) before
    rw [course_append, asked_append]
    simpa [asked, course] using (ih earlier).on orderly now w act

/-- Registrations and watcher after a course from the beginning. -/
structure InStep (w : Watcher World) (acts : List (Act World)) : Prop where
  increasing : (issued w empty acts).Pairwise (·.id < ·.id)
  distinct : ((course w empty acts).registrations.map (·.handle)).Nodup
  ended : ∀ before h world after, acts = before ++ .remove h world :: after →
    h ∈ issued w empty before → ∀ known ∈ (course w empty acts).registrations, known.handle ≠ h
  takenOn : ∀ p interest world, TakenOn w (course w empty acts) p interest world
  letGo : ∀ h world, LetGo w (course w empty acts) h world
  missing : ∀ t : Trouble, t.failedCall.kind = .notFound ↔
    t.kind = .pathNotFound ∨ t.kind = .watchNotFound ∨
      ∃ cause, t.kind = .io cause ∧ cause.kind = .notFound
  watched : ∀ place, place ∈ watched (asked w empty acts) ↔
    ∃ known ∈ (course w empty acts).registrations, known.path.parts = place

/-- In every course that never registers a path twice at the same time, and whatever the watcher
refuses, the next call changes the registrations just as it is answered, an ended handle is unknown
from then on, and the places registered are those that the watcher agreed to watch and was not told
to let go of. -/
theorem registrations_in_step (w : Watcher World) (acts : List (Act World))
    (single : Single w acts) : InStep w acts := by
  have orderly := orderly_empty.course (w := w) acts
  constructor
  case increasing => exact (counter w).issued_increasing empty acts
  case distinct => exact orderly.distinct
  case ended =>
    rintro before h world after rfl given known now
    rw [course_append] at now
    exact (orderly_empty.course before).ended (lt_nextId_of_issued given) world after now
  case takenOn => exact takenOn w (course w empty acts)
  case letGo => exact orderly.letGo w
  case missing => exact Trouble.failedCall_notFound_iff
  case watched => exact single.tracks

namespace Example

structure Script where
  look : Except IoError Unit
  watch : Except Trouble Unit
  unwatch : Except Trouble Unit

def calm : Script := ⟨.ok (), .ok (), .ok ()⟩

def scripted : Watcher Script :=
  ⟨fun script _ => script.look, fun _ script => (script.watch, script),
    fun _ script => (script.unwatch, script)⟩

def busy : Trouble := ⟨.tooMany, []⟩

def lost : Trouble := ⟨.watchNotFound, []⟩

end Example

open Example

/-- A watch is refused and then granted, another path is not there, and the watcher fails to let go.
The file is registered again under a handle of its own. -/
theorem registrations_in_step_of_refusals :
    let file : Path := ⟨[0x2f, 0x66]⟩
    let acts : List (Act Script) := [
      .add file .fileInterest { calm with watch := .error busy },
      .add ⟨[0x2f, 0x67]⟩ .fileInterest { calm with look := .error (.system .noEntry) },
      .add file .fileInterest calm,
      .remove ⟨1⟩ { calm with unwatch := .error lost },
      .remove ⟨1⟩ calm,
      .add file .fileInterest calm]
    Single scripted acts ∧ InStep scripted acts ∧ issued scripted empty acts = [⟨1⟩, ⟨2⟩] ∧
      asked scripted empty acts = [.watch file (.error busy), .watch file (.ok ()),
        .unwatch file (.error lost), .watch file (.ok ())] ∧
      (course scripted empty acts).registrations = [⟨⟨2⟩, file, .fileInterest⟩] := by
  intro file acts
  have single : Single scripted acts := by
    unfold Single
    decide
  exact ⟨single, registrations_in_step scripted acts single, by decide, rfl, by decide⟩

end RoleWatch.Relay
