import RoleWatch.Proofs.Bench.LastWord

/-!
A stage that the watch shares with another party. Before each call that the watch makes, the other
party may change the watched file, and what it does is heard only by the registrations there are at
that moment.
-/
namespace RoleWatch.Bench

/-- What another party does to a file. -/
inductive Meddling where
  | rewrite (content : Bytes)
  /-- Another file is renamed onto it. -/
  | replace (content : Bytes)
  | remove
  deriving DecidableEq

namespace Notifier

def rewrite (n : Notifier) (p : Path) (content : Bytes) : Notifier :=
  if n.tree.isFile p then n.write p content else n

/-- Another file takes the place of one: the directory hears that it arrived, and what was
registered for the one that stood there hears that this one is gone. -/
def replace (n : Notifier) (p : Path) (content : Bytes) : Notifier :=
  (((n.withTree (n.tree.addFile p content)).tellParent p (.ofFlags [.movedTo])).tellSelf p
    (.ofFlags [.deleteSelf])).drop p

theorem rewrite_warns (n : Notifier) (p : Path) (content : Bytes) :
    Warns n (n.rewrite p content) := by
  unfold rewrite
  split
  · exact write_warns ..
  · exact .refl n

theorem replace_warns (n : Notifier) (p : Path) (content : Bytes) :
    Warns n (n.replace p content) :=
  ((withTree_warns ..).trans (tellParent_warns ..)).trans (takeAway_warns ..)

/-- Handles are used once, and every registration asks to hear of the end of its object. -/
structure Sound (n : Notifier) : Prop where
  active : ∀ r ∈ n.active, r.handle.id < n.nextId
  dropped : ∀ h ∈ n.dropped, h.id < n.nextId
  asked : ∀ r ∈ n.active, r.interest.has .deleteSelf = true

/-- Something is queued that tells a registration of a file to look at it again. -/
def Posted (h : Handle) (n : Notifier) : Prop :=
  ∃ e ∈ n.pending, e.handle = some h ∧
    (e.mask.has .modify = true ∨ e.mask.meets Mask.gone = true)

/-- A registration is listed, and if its object is gone the queue says so. -/
structure Attached (r : Registration) (n : Notifier) : Prop where
  listed : r ∈ n.active
  told : r.handle ∈ n.dropped → ∃ e ∈ n.pending, e.Ends (some r.handle)

variable {n n' : Notifier} {r : Registration} {h : Handle}

theorem Posted.warns (posted : Posted h n) (warns : Warns n n') : Posted h n' := by
  obtain ⟨e, queued, tells⟩ := posted
  exact ⟨e, warns.kept e queued, tells⟩

theorem Attached.posted (attached : Attached r n) (gone : r.handle ∈ n.dropped) :
    Posted r.handle n := by
  obtain ⟨e, queued, named, -, ends⟩ := attached.told gone
  exact ⟨e, queued, named, .inr ends⟩

theorem Sound.warns (sound : n.Sound) (warns : Warns n n') : n'.Sound := by
  obtain ⟨active, nextId, -, -⟩ := warns.undisturbed
  refine ⟨?_, ?_, ?_⟩
  · rw [active, nextId]
    exact sound.active
  · intro h member
    rw [nextId]
    rcases warns.dropped h member with before | ⟨r, listed, rfl, -⟩
    · exact sound.dropped h before
    · exact sound.active r listed
  · rw [active]
    exact sound.asked

theorem Attached.warns (attached : Attached r n) (sound : n.Sound) (warns : Warns n n') :
    Attached r n' := by
  refine ⟨warns.undisturbed.active ▸ attached.listed, fun gone => ?_⟩
  rcases warns.dropped r.handle gone with before | ⟨q, listed, named, told⟩
  · obtain ⟨e, queued, ends⟩ := attached.told before
    exact ⟨e, warns.kept e queued, ends⟩
  · exact told (sound.asked q listed)

theorem Sound.addWatch (sound : n.Sound) (p : Path) {interest : Mask}
    (asked : interest.has .deleteSelf = true) : (n.addWatch p interest).2.Sound := by
  have later := (n.addWatch_issues p interest).1
  have dropped := (n.addWatch_registers p interest).beside.dropped
  have granted := n.addWatch_granted p interest
  refine ⟨?_, ?_, ?_⟩
  · intro r member
    rw [addWatch_active] at member
    rcases List.mem_append.1 member with before | added
    · exact Nat.lt_of_lt_of_le (sound.active r before) later
    · exact (granted r added).1.2
  · intro h member
    exact Nat.lt_of_lt_of_le (sound.dropped h (dropped ▸ member)) later
  · intro r member
    rw [addWatch_active] at member
    rcases List.mem_append.1 member with before | added
    · exact sound.asked r before
    · exact (granted r added).2 ▸ asked

/-- A new registration is listed, and its object is there. -/
theorem Sound.addWatch_attached (sound : n.Sound) {p : Path} {interest : Mask}
    (answered : (n.addWatch p interest).1 = .ok h) :
    Attached ⟨h, p, interest⟩ (n.addWatch p interest).2 := by
  have new := (n.addWatch_issues p interest).2
  have dropped := (n.addWatch_registers p interest).beside.dropped
  constructor
  · rw [addWatch_active, answered]
    exact List.mem_append_right _ (List.mem_singleton.2 rfl)
  · intro gone
    have known := sound.dropped h (dropped ▸ gone)
    have unused := (new h answered).1
    omega

theorem Sound.removeWatch (sound : n.Sound) (h : Handle) : (n.removeWatch h).2.Sound := by
  have steady := n.removeWatch_steady h
  have listed : ∀ r ∈ (n.removeWatch h).2.active, r ∈ n.active := by
    intro r member
    rw [removeWatch_active] at member
    exact List.mem_of_mem_eraseP member
  exact ⟨fun r member => Nat.lt_of_lt_of_le (sound.active r (listed r member)) steady.nextId,
    fun q member => Nat.lt_of_lt_of_le (sound.dropped q (steady.dropped q member)) steady.nextId,
    fun r member => sound.asked r (listed r member)⟩

theorem Attached.removeWatch (attached : Attached r n) (other : r.handle ≠ h) :
    Attached r (n.removeWatch h).2 := by
  have steady := n.removeWatch_steady h
  constructor
  · rw [removeWatch_active]
    exact (List.mem_eraseP_of_neg (by simpa using other)).2 attached.listed
  · intro gone
    rw [steady.pending]
    exact attached.told (steady.dropped _ gone)

section Live

variable {p : Path} (listens : r ∈ n.listeners p.parts)

include listens

theorem rewrite_posts (asked : r.interest.has .modify = true) (content : Bytes) :
    n.rewrite p content = n ∨ Posted r.handle (n.rewrite p content) := by
  unfold rewrite
  split
  · have said : (Mask.ofFlags [.modify]).has .modify = true := by decide
    have listens' : r ∈ (n.withTree (n.tree.addFile p content)).listeners p.parts := listens
    obtain ⟨e, queued, named, modified⟩ := tellSelf_heard listens' asked said
    exact .inr ⟨e, mem_tellParent queued p _, named, .inl modified⟩
  · exact .inl rfl

variable (asked : r.interest.has .deleteSelf = true)

include asked

theorem replace_posts (content : Bytes) : Posted r.handle (n.replace p content) := by
  have listens' : r ∈ ((n.withTree (n.tree.addFile p content)).tellParent p
      (.ofFlags [.movedTo])).listeners p.parts := by simpa using listens
  obtain ⟨e, queued, named, -, ends⟩ := tellSelf_ends listens' asked
  exact ⟨e, mem_drop queued p, named, .inr ends⟩

theorem delete_posts : n.delete p = n ∨ Posted r.handle (n.delete p) := by
  unfold delete
  split
  · exact .inl rfl
  · rename_i tree _
    have listens' : r ∈ (n.withTree tree).listeners p.parts := listens
    obtain ⟨e, queued, named, -, ends⟩ := tellSelf_ends listens' asked
    exact .inr ⟨e, mem_tellParent (mem_drop queued p) p _, named, .inr ends⟩

end Live

end Notifier

namespace Meddling

open Notifier

def on (file : Path) (n : Notifier) : Meddling → Notifier
  | .rewrite content => n.rewrite file content
  | .replace content => n.replace file content
  | .remove => n.delete file

variable {n : Notifier} {t : Target} {f : Handle}

theorem on_warns (file : Path) (n : Notifier) (m : Meddling) : Warns n (m.on file n) := by
  cases m with
  | rewrite content => exact rewrite_warns ..
  | replace content => exact replace_warns ..
  | remove => exact delete_warns ..

/-- As long as the file is registered nothing happens to it that is not queued. -/
theorem on_posts (attached : Attached (t.fileWatch f) n) (m : Meddling) :
    m.on t.file n = n ∨ Posted f (m.on t.file n) := by
  by_cases gone : f ∈ n.dropped
  · exact .inr ((attached.posted gone).warns (on_warns ..))
  have listens : t.fileWatch f ∈ n.listeners t.file.parts :=
    mem_listeners.2 ⟨attached.listed, rfl, gone⟩
  have asks : Mask.fileInterest.has .modify = true ∧ Mask.fileInterest.has .deleteSelf = true := by
    decide
  cases m with
  | rewrite content => exact rewrite_posts listens asks.1 content
  | replace content => exact .inr (replace_posts listens asks.2 content)
  | remove => exact delete_posts listens asks.2

theorem all_warns (file : Path) (n : Notifier) (acts : List Meddling) :
    Warns n (acts.foldl (on file) n) := by
  induction acts generalizing n with
  | nil => exact .refl n
  | cons m rest ih => exact (on_warns file n m).trans (ih _)

theorem all_post (attached : Attached (t.fileWatch f) n) (acts : List Meddling) :
    acts.foldl (on t.file) n = n ∨ Posted f (acts.foldl (on t.file) n) := by
  induction acts generalizing n with
  | nil => exact .inl rfl
  | cons m rest ih =>
    rcases on_posts attached m with same | posted
    · rw [List.foldl_cons, same]
      exact ih attached
    · exact .inr (posted.warns (all_warns ..))

end Meddling

/-- A stage shared with another party. What was seen is kept for the record and decides nothing. -/
structure Shared where
  scene : Scene
  /-- What the other party does before each of the calls to come, and nothing after these. -/
  plan : List (List Meddling)
  seen : Option Bytes
  /-- Whether the file held something else when it was registered after that. -/
  outdated : Bool

namespace Shared

open Notifier

def ofScene (scene : Scene) : Shared := ⟨scene, [], none, false⟩

abbrev notifier (w : Shared) : Notifier := w.scene.notifier

abbrev served (w : Shared) : List (Verb × String) := w.scene.served

def now (w : Shared) (p : Path) : Option Bytes := (w.notifier.tree.content p).toOption

def withNotifier (w : Shared) (notifier : Notifier) : Shared :=
  { w with scene := { w.scene with notifier } }

def planned (w : Shared) (plan : List (List Meddling)) : Shared := { w with plan }

def ordering (w : Shared) (order : Verb × String) : Shared :=
  { w with scene := { w.scene with served := w.served ++ [order] } }

def suffer (file : Path) (w : Shared) (acts : List Meddling) : Shared :=
  w.withNotifier (acts.foldl (Meddling.on file) w.notifier)

def next (file : Path) (w : Shared) : Shared :=
  (w.suffer file (w.plan.headD [])).planned w.plan.tail

def call {α : Type} (op : StateM Scene α) : StateM Shared α := fun w =>
  let (answer, scene) := op w.scene
  (answer, { w with scene })

def look (file p : Path) : StateM Shared (Except IoError Source) := fun w =>
  let w := w.next file
  call (Scene.host.openFile p) { w with seen := w.now p, outdated := false }

def register (file p : Path) (interest : Mask) : StateM Shared (Except IoError Handle) := fun w =>
  let w := w.next file
  let outdated := if p = file then decide (w.now file ≠ w.seen) else w.outdated
  call (Scene.host.addWatch p interest) { w with outdated }

def host (file : Path) : Host Shared where
  openFile p := look file p
  addWatch p interest := register file p interest
  removeWatch handle := fun w => call (Scene.host.removeWatch handle) (w.next file)
  perform verb service := fun w => call (Scene.host.perform verb service) (w.next file)
  note entry := call (Scene.host.note entry)

def take (n : Nat) (w : Shared) : List Event × Shared :=
  (w.notifier.pending.take n,
    w.withNotifier { w.notifier with pending := w.notifier.pending.drop n })

variable {job : Assignment} {t : Target} {f : Handle} {a b c w w' : Shared}

/-- The last order is for what was seen. -/
def Ordered (job : Assignment) (w : Shared) : Prop :=
  ∃ content, w.seen = some content ∧
    w.served.getLast? = some (job.verbOf content, job.service)

/-- What was seen is out of date only if it was when the file was registered, or the queue tells to
look again. -/
def Current (t : Target) (f : Handle) (w : Shared) : Prop :=
  Posted f w.notifier ∨ (w.now t.file = w.seen ↔ w.outdated = false)

structure Follows (job : Assignment) (t : Target) (f : Handle) (w : Shared) : Prop where
  attached : Attached (t.fileWatch f) w.notifier
  ordered : w.Ordered job
  current : w.Current t f

/-- The watch made no call between but to the log; the other party may have been busy. -/
structure Onward (t : Target) (w w' : Shared) : Prop where
  warns : w.notifier.Warns w'.notifier
  seen : w'.seen = w.seen
  outdated : w'.outdated = w.outdated
  served : w'.served = w.served
  posts : ∀ f, w.notifier.Sound → Attached (t.fileWatch f) w.notifier →
    w'.now t.file = w.now t.file ∨ Posted f w'.notifier

theorem Onward.refl (t : Target) (w : Shared) : Onward t w w :=
  ⟨.refl _, rfl, rfl, rfl, fun _ _ _ => .inl rfl⟩

theorem Onward.trans (first : Onward t a b) (second : Onward t b c) : Onward t a c where
  warns := first.warns.trans second.warns
  seen := second.seen.trans first.seen
  outdated := second.outdated.trans first.outdated
  served := second.served.trans first.served
  posts f sound attached := by
    rcases first.posts f sound attached with same | posted
    · have later := second.posts f (sound.warns first.warns) (attached.warns sound first.warns)
      exact later.imp_left fun same' => same'.trans same
    · exact .inr (posted.warns second.warns)

theorem note_onward (t : Target) (entry : Log.Entry) (w : Shared) :
    After ((host t.file).note entry) w fun _ w' => Onward t w w' :=
  ⟨.refl _, rfl, rfl, rfl, fun _ _ _ => .inl rfl⟩

theorem suffer_onward (t : Target) (acts : List Meddling) (w : Shared) :
    Onward t w (w.suffer t.file acts) where
  warns := Meddling.all_warns ..
  seen := rfl
  outdated := rfl
  served := rfl
  posts f _ attached := by
    refine (Meddling.all_post attached acts).imp_left fun same => ?_
    simp only [now, suffer, withNotifier, notifier, same]

theorem replan_onward (t : Target) (w : Shared) (plan : List (List Meddling)) :
    Onward t w (w.planned plan) :=
  ⟨.refl _, rfl, rfl, rfl, fun _ _ _ => .inl rfl⟩

theorem next_onward (t : Target) (w : Shared) : Onward t w (w.next t.file) :=
  (suffer_onward t _ w).trans (replan_onward t _ _)

theorem perform_orders (file : Path) (verb : Verb) (service : String) (w : Shared) :
    After ((host file).perform verb service) w fun _ w' =>
      w' = (w.next file).ordering (verb, service) := rfl

theorem Ordered.onward (ordered : a.Ordered job) (onward : Onward t a b) : b.Ordered job := by
  obtain ⟨content, seen, last⟩ := ordered
  exact ⟨content, onward.seen.trans seen, by rw [onward.served, last]⟩

theorem Current.onward (current : a.Current t f) (sound : a.notifier.Sound)
    (attached : Attached (t.fileWatch f) a.notifier) (onward : Onward t a b) :
    b.Current t f := by
  rcases current with posted | known
  · exact .inl (posted.warns onward.warns)
  · rcases onward.posts f sound attached with same | posted
    · refine .inr ?_
      rw [same, onward.seen, onward.outdated]
      exact known
    · exact .inl posted

theorem Follows.onward (follows : a.Follows job t f) (sound : a.notifier.Sound)
    (onward : Onward t a b) : b.Follows job t f where
  attached := follows.attached.warns sound onward.warns
  ordered := follows.ordered.onward onward
  current := follows.current.onward sound follows.attached onward

/-- The end of a registration, and whatever the other party does before it. -/
theorem removeWatch_ends (t : Target) (h : Handle) (w : Shared) :
    After ((host t.file).removeWatch h) w fun _ w' => ∃ before, Onward t w before ∧
      w' = before.withNotifier (before.notifier.removeWatch h).2 :=
  ⟨_, next_onward t w, rfl⟩

structure Advances (w w' : Shared) : Prop where
  sound : w.notifier.Sound → w'.notifier.Sound
  nextId : w.notifier.nextId ≤ w'.notifier.nextId

theorem Advances.trans (first : Advances a b) (second : Advances b c) : Advances a c :=
  ⟨fun sound => second.sound (first.sound sound), Nat.le_trans first.nextId second.nextId⟩

theorem Advances.of_warns (warns : a.notifier.Warns b.notifier) : Advances a b :=
  ⟨fun sound => sound.warns warns, Nat.le_of_eq warns.undisturbed.nextId.symm⟩

theorem Onward.advances (onward : Onward t a b) : Advances a b := .of_warns onward.warns

structure Registered (t : Target) (p : Path) (interest : Mask) (w before w' : Shared) : Prop where
  onward : Onward t w before
  notifier : w'.notifier = (before.notifier.addWatch p interest).2
  seen : w'.seen = before.seen
  served : w'.served = before.served
  outdated : p = t.file → w'.outdated = decide (before.now t.file ≠ before.seen)

theorem addWatch_registered (t : Target) (p : Path) (interest : Mask) (w : Shared) :
    After ((host t.file).addWatch p interest) w fun answer w' => ∃ before,
      answer = (before.notifier.addWatch p interest).1 ∧
      Registered t p interest w before w' :=
  ⟨w.next t.file, rfl, next_onward t w, rfl, rfl, rfl, fun own => if_pos own⟩

namespace Registered

variable {p : Path} {interest : Mask} {before : Shared}
  (registered : Registered t p interest w before w')

include registered

theorem advances (asked : interest.has .deleteSelf = true) : Advances w w' := by
  have later := (before.notifier.addWatch_issues p interest).1
  refine registered.onward.advances.trans ⟨fun sound => ?_, ?_⟩
  · exact registered.notifier ▸ sound.addWatch p asked
  · exact registered.notifier ▸ later

variable {h : Handle} (answered : .ok h = (before.notifier.addWatch p interest).1)

include answered

theorem issued : w.notifier.Issued w'.notifier h := by
  have new := (before.notifier.addWatch_issues p interest).2
  rw [Issued, ← registered.onward.warns.undisturbed.nextId, registered.notifier]
  exact new h answered.symm

end Registered

/-- Whatever the file held before, from its registration on it is known whether it is what was
seen. -/
theorem Registered.follows {before : Shared}
    (registered : Registered t t.file .fileInterest w before w')
    (answered : .ok f = (before.notifier.addWatch t.file .fileInterest).1)
    (sound : w.notifier.Sound) (ordered : w.Ordered job) : w'.Follows job t f := by
  obtain ⟨onward, notifier, seen, served, outdated⟩ := registered
  obtain ⟨content, saw, last⟩ := ordered.onward onward
  refine ⟨?_, ⟨content, seen.trans saw, by rw [served, last]⟩, .inr ?_⟩
  · rw [notifier]
    exact (sound.warns onward.warns).addWatch_attached answered.symm
  · have same : w'.now t.file = before.now t.file := by
      rw [now, notifier, (before.notifier.addWatch_registers ..).beside.tree, now]
    simp [same, seen, outdated rfl]

structure Released (t : Target) (held : Option Handle) (w w' : Shared) : Prop where
  advances : Advances w w'
  keeps : ∀ job f, held ≠ some f → w.notifier.Sound → w.Follows job t f → w'.Follows job t f

theorem Released.onward {held : Option Handle} (released : Released t held a b)
    (onward : Onward t b c) : Released t held a c where
  advances := released.advances.trans onward.advances
  keeps job f other sound follows :=
    (released.keeps job f other sound follows).onward (released.advances.sound sound) onward

theorem removeWatch_releases (t : Target) (h : Handle) (w : Shared) :
    After ((host t.file).removeWatch h) w fun _ w' => Released t (some h) w w' := by
  apply After.mono (removeWatch_ends t h w)
  rintro _ _ ⟨before, onward, rfl⟩
  have steady := removeWatch_steady before.notifier h
  refine ⟨onward.advances.trans ⟨fun sound => sound.removeWatch h, steady.nextId⟩, ?_⟩
  intro job f other sound follows
  obtain ⟨attached, ordered, current⟩ := follows.onward sound onward
  refine ⟨attached.removeWatch fun same => other (congrArg some same.symm), ordered, ?_⟩
  have same : (before.withNotifier (before.notifier.removeWatch h).2).now t.file =
      before.now t.file := by
    simp only [now, withNotifier, notifier, steady.tree]
  rcases current with ⟨e, queued, tells⟩ | known
  · exact .inl ⟨e, steady.pending ▸ queued, tells⟩
  · exact .inr (same ▸ known)

theorem dropHeld_releases (t : Target) (held : Option Handle) (w : Shared) :
    After (Sentry.dropHeld (host t.file) held) w fun _ w' => Released t held w w' := by
  cases held with
  | none => exact ⟨⟨id, Nat.le_refl _⟩, fun _ _ _ _ follows => follows⟩
  | some h =>
    apply After.bind (removeWatch_releases t h w)
    rintro (cause | ⟨⟩) w' released
    · exact After.mono (note_onward t _ w') fun _ _ => released.onward
    · exact After.mono (note_onward t _ w') fun _ _ => released.onward

end Shared

end RoleWatch.Bench
