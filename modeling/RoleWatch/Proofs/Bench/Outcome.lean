import RoleWatch.Bench.Scene
import RoleWatch.Proofs.Bench.Reading
import RoleWatch.Proofs.Bench.Registering
import RoleWatch.Proofs.Watch.Tending

/-!
How the operations of the watch end on a stage that refuses no registration. They touch neither the
files nor the queue, and which way they go is decided by what is in the files: the file is watched
if there is something in it, and awaited if its directory is there.
-/
namespace RoleWatch.Bench

namespace Notifier

/-- The files and what is queued are the same; handles are only ever new. -/
structure Steady (n n' : Notifier) : Prop where
  tree : n'.tree = n.tree
  pending : n'.pending = n.pending
  cues : n'.cues = n.cues
  refusals : n'.refusals = n.refusals
  dropped : ∀ h ∈ n'.dropped, h ∈ n.dropped
  nextId : n.nextId ≤ n'.nextId

def Issued (n n' : Notifier) (h : Handle) : Prop := n.nextId ≤ h.id ∧ h.id < n'.nextId

theorem Steady.refl (n : Notifier) : Steady n n :=
  ⟨rfl, rfl, rfl, rfl, fun _ member => member, Nat.le_refl _⟩

theorem Steady.trans {a b c : Notifier} (first : Steady a b) (second : Steady b c) :
    Steady a c where
  tree := second.tree.trans first.tree
  pending := second.pending.trans first.pending
  cues := second.cues.trans first.cues
  refusals := second.refusals.trans first.refusals
  dropped h member := first.dropped h (second.dropped h member)
  nextId := Nat.le_trans first.nextId second.nextId

theorem Issued.before {a b c : Notifier} {h : Handle} (first : Steady a b) (issued : Issued b c h) :
    Issued a c h := ⟨Nat.le_trans first.nextId issued.1, issued.2⟩

theorem Issued.after {a b c : Notifier} {h : Handle} (issued : Issued a b h)
    (second : Steady b c) : Issued a c h :=
  ⟨issued.1, Nat.lt_of_lt_of_le issued.2 second.nextId⟩

variable {n : Notifier} {p : Path}

theorem Issued.of_next {n' : Notifier} (next : n'.nextId = n.nextId + 1) :
    n.Issued n' ⟨n.nextId⟩ := ⟨Nat.le_refl _, next ▸ Nat.lt_succ_self _⟩

theorem addWatch_free (free : n.refusals = []) (p : Path) (interest : Mask) :
    n.Steady (n.addWatch p interest).2 ∧
      ((n.tree.exists? p = true ∧ (n.addWatch p interest).1 = .ok ⟨n.nextId⟩ ∧
          (n.addWatch p interest).2.nextId = n.nextId + 1) ∨
        n.tree.exists? p = false ∧ (∃ cause, (n.addWatch p interest).1 = .error cause) ∧
          (n.addWatch p interest).2.nextId = n.nextId) := by
  have came := n.addWatch_registers p interest
  generalize n.addWatch p interest = out at came
  cases came with
  | refused queued => simp [free] at queued
  | missing _ absent => exact ⟨⟨rfl, rfl, rfl, rfl, fun _ member => member, Nat.le_refl _⟩,
      .inr ⟨absent, ⟨_, rfl⟩, rfl⟩⟩
  | granted _ there => exact ⟨⟨rfl, rfl, rfl, rfl, fun _ member => member, Nat.le_succ _⟩,
      .inl ⟨there, rfl, rfl⟩⟩

theorem removeWatch_steady (n : Notifier) (handle : Handle) :
    n.Steady (n.removeWatch handle).2 := by
  have came := n.removeWatch_releases handle
  generalize n.removeWatch handle = out at came
  cases came with
  | unknown | ended => exact ⟨rfl, rfl, rfl, rfl, fun _ member => member, Nat.le_refl _⟩
  | late =>
    refine ⟨rfl, rfl, rfl, rfl, ?_, Nat.le_refl _⟩
    intro h member
    exact (List.mem_filter.1 member).1

end Notifier

namespace Scene

/-- Nothing but the log and the orders to the service differ. -/
structure Orders (orders : List (Verb × String)) (scene scene' : Scene) : Prop where
  notifier : scene'.notifier = scene.notifier
  served : scene'.served = scene.served ++ orders

structure Goes (orders : List (Verb × String)) (scene scene' : Scene) : Prop where
  steady : scene.notifier.Steady scene'.notifier
  served : scene'.served = scene.served ++ orders

variable {orders more : List (Verb × String)} {a b c scene : Scene}

theorem Orders.goes (same : Orders orders a b) : Goes orders a b :=
  ⟨same.notifier ▸ .refl _, same.served⟩

theorem Orders.trans (first : Orders orders a b) (second : Orders more b c) :
    Orders (orders ++ more) a c :=
  ⟨second.notifier.trans first.notifier, by rw [second.served, first.served, List.append_assoc]⟩

theorem Goes.trans (first : Goes orders a b) (second : Goes more b c) :
    Goes (orders ++ more) a c :=
  ⟨first.steady.trans second.steady, by rw [second.served, first.served, List.append_assoc]⟩

theorem Orders.then_nothing (first : Orders orders a b) (second : Orders [] b c) :
    Orders orders a c := by
  simpa using first.trans second

theorem Goes.then_nothing (first : Goes orders a b) (second : Goes [] b c) : Goes orders a c := by
  simpa using first.trans second

theorem note_orders (entry : Log.Entry) (scene : Scene) :
    After (host.note entry) scene fun _ scene' => Orders [] scene scene' :=
  ⟨rfl, (List.append_nil _).symm⟩

theorem perform_orders (verb : Verb) (service : String) (scene : Scene) :
    After (host.perform verb service) scene fun _ scene' =>
      Orders [(verb, service)] scene scene' := ⟨rfl, rfl⟩

theorem addWatch_goes (free : scene.notifier.refusals = []) (p : Path) (interest : Mask) :
    After (host.addWatch p interest) scene fun answer scene' => Goes [] scene scene' ∧
      ((scene.notifier.tree.exists? p = true ∧ answer = .ok ⟨scene.notifier.nextId⟩ ∧
          scene'.notifier.nextId = scene.notifier.nextId + 1) ∨
        scene.notifier.tree.exists? p = false ∧ (∃ cause, answer = .error cause) ∧
          scene'.notifier.nextId = scene.notifier.nextId) := by
  obtain ⟨steady, answered⟩ := Notifier.addWatch_free free p interest
  exact ⟨⟨steady, (List.append_nil _).symm⟩, answered⟩

theorem dropHeld_goes (held : Option Handle) (scene : Scene) :
    After (Sentry.dropHeld host held) scene fun _ scene' =>
      Goes [] scene scene' ∧ scene'.notifier.nextId = scene.notifier.nextId := by
  cases held with
  | none => exact ⟨⟨.refl _, (List.append_nil _).symm⟩, rfl⟩
  | some handle =>
    have removed : After (host.removeWatch handle) scene fun _ scene' =>
        Goes [] scene scene' ∧ scene'.notifier.nextId = scene.notifier.nextId :=
      ⟨⟨Notifier.removeWatch_steady _ _, (List.append_nil _).symm⟩,
        Notifier.removeWatch_nextId _ _⟩
    apply After.bind removed
    rintro (cause | ⟨⟩) scene' ⟨went, next⟩
    · exact ⟨went.then_nothing (note_orders _ _).goes, next⟩
    · exact ⟨went.then_nothing (note_orders _ _).goes, next⟩

end Scene

end RoleWatch.Bench

namespace RoleWatch

open Bench

variable {job : Assignment} {s : Sentry} {scene : Scene}

/-- What the service is told when the file answers so. -/
def Assignment.order (job : Assignment) (answer : Except Failure Role) : Option (Verb × String) :=
  answer.toOption.map fun role => (Verb.ofRole role, job.service)

theorem Assignment.enforce_answers (job : Assignment) (scene : Scene) :
    After (job.enforce Scene.host) scene fun answer scene' =>
      answer = job.roleOf (scene.notifier.tree.openFile job.path) ∧
        scene.Orders (job.order answer).toList scene' := by
  have read : After (job.readRole Scene.host) scene fun answer scene' =>
      answer = job.roleOf (scene.notifier.tree.openFile job.path) ∧ scene' = scene := ⟨rfl, rfl⟩
  apply After.bind read
  rintro (failure | role) _ ⟨answered, rfl⟩
  · exact After.bind (Scene.note_orders _ _) fun _ _ noted => After.pure ⟨answered, noted⟩
  · apply After.bind (Scene.note_orders _ _)
    intro _ _ announced
    apply After.bind (Scene.perform_orders _ _ _)
    rintro (failure | ⟨⟩) w performed
    · apply After.bind (Scene.note_orders _ w)
      intro _ _ refused
      refine After.bind (Scene.note_orders _ _) fun _ _ noted => After.pure ⟨answered, ?_⟩
      exact ((announced.trans performed).then_nothing refused).then_nothing noted
    · refine After.bind (Scene.note_orders _ w) fun _ _ noted => After.pure ⟨answered, ?_⟩
      exact (announced.trans performed).then_nothing noted

theorem Assignment.enforce_of_silent (silent : scene.notifier.tree.Silent job.path) :
    After (job.enforce Scene.host) scene fun answer scene' =>
      ∃ failure, answer = .error failure ∧ failure.isFatal = false ∧ scene.Orders [] scene' := by
  obtain ⟨failure, unread⟩ := roleOf_of_silent silent
  apply After.mono (job.enforce_answers scene)
  rintro answer _ ⟨answered, told⟩
  rw [unread] at answered
  subst answered
  exact ⟨failure, rfl, not_fatal_of_roleOf unread, told⟩

theorem Assignment.enforce_of_holds (room : 1 ≤ job.lineLimit) {content : Bytes}
    (holds : scene.notifier.tree.Holds job.path content) :
    After (job.enforce Scene.host) scene fun answer scene' =>
      ∃ role, answer = .ok role ∧ scene.Orders [(job.verbOf content, job.service)] scene' := by
  obtain ⟨role, declared, verb⟩ := roleOf_of_holds room holds
  apply After.mono (job.enforce_answers scene)
  rintro answer _ ⟨answered, told⟩
  rw [declared] at answered
  subst answered
  exact ⟨role, rfl, verb ▸ told⟩

namespace Sentry

inductive Looked (job : Assignment) (s : Sentry) (scene : Scene) : Ending → Scene → Prop where
  | found {s' : Sentry} {scene' : Scene} {content : Bytes} {f : Handle}
      (holds : scene.notifier.tree.Holds job.path content)
      (watching : s'.held = ⟨.watching, none, some f⟩)
      (new : scene.notifier.Issued scene'.notifier f)
      (went : scene.Goes [(job.verbOf content, job.service)] scene') :
      Looked job s scene (.ok (), s') scene'
  | missing {s' : Sentry} {scene' : Scene} {d : Handle}
      (silent : scene.notifier.tree.Silent job.path)
      (awaiting : s'.held = ⟨.awaiting, some d, none⟩)
      (known : s.held.dir = some d ∨ scene.notifier.Issued scene'.notifier d)
      (went : scene.Goes [] scene') : Looked job s scene (.ok (), s') scene'
  | lost {s' : Sentry} {scene' : Scene} {failure : Failure}
      (gone : scene.notifier.tree.exists? s.target.dir = false) :
      Looked job s scene (.error failure, s') scene'

theorem Looked.since {ending : Ending} {scene₁ scene' : Scene} (same : scene.Orders [] scene₁)
    (looked : s.Looked job scene₁ ending scene') : s.Looked job scene ending scene' := by
  cases looked with
  | found holds watching new went =>
    exact .found (same.notifier ▸ holds) watching (same.notifier ▸ new) (same.goes.trans went)
  | missing silent awaiting known went =>
    exact .missing (same.notifier ▸ silent) awaiting (same.notifier ▸ known) (same.goes.trans went)
  | lost gone => exact .lost (same.notifier ▸ gone)

theorem promote_of_silent (silent : scene.notifier.tree.Silent job.path) :
    After (s.promote Scene.host job) scene fun ending scene' =>
      ending = (.ok (), s) ∧ scene.Orders [] scene' := by
  apply After.bind (Assignment.enforce_of_silent silent)
  rintro _ w ⟨failure, rfl, light, went⟩
  simp only [light]
  exact After.bind (Scene.note_orders _ w) fun _ _ noted =>
    After.pure ⟨rfl, went.then_nothing noted⟩

theorem watchFile_goes (free : scene.notifier.refusals = []) :
    After (s.watchFile Scene.host) scene fun answer scene' => scene.Goes [] scene' ∧
      ((scene.notifier.tree.exists? s.target.file = true ∧
          answer = .ok ⟨scene.notifier.nextId⟩ ∧
          scene'.notifier.nextId = scene.notifier.nextId + 1) ∨
        scene.notifier.tree.exists? s.target.file = false ∧
          (∃ failure, answer = .error failure) ∧
          scene'.notifier.nextId = scene.notifier.nextId) := by
  apply After.bind (Scene.addWatch_goes free s.target.file .fileInterest)
  rintro answer w ⟨went, ⟨there, rfl, next⟩ | ⟨gone, ⟨cause, rfl⟩, next⟩⟩
  · exact After.pure ⟨went, .inl ⟨there, rfl, next⟩⟩
  · exact After.pure ⟨went, .inr ⟨gone, ⟨_, rfl⟩, next⟩⟩

theorem watchFile_of_holds (own : job.path = s.target.file) (free : scene.notifier.refusals = [])
    {content : Bytes} (holds : scene.notifier.tree.Holds job.path content) :
    After (s.watchFile Scene.host) scene fun answer scene' =>
      ∃ f, answer = .ok f ∧ scene.notifier.Issued scene'.notifier f ∧ scene.Goes [] scene' := by
  have there : scene.notifier.tree.exists? s.target.file = true := by
    rw [← own, Tree.exists?, holds.1]
    rfl
  apply After.mono (watchFile_goes free)
  rintro answer w ⟨went, ⟨-, answered, next⟩ | ⟨gone, -⟩⟩
  · exact ⟨_, answered, .of_next next, went⟩
  · simp [there] at gone

theorem promote_of_holds (room : 1 ≤ job.lineLimit) (own : job.path = s.target.file)
    (free : scene.notifier.refusals = []) {content : Bytes}
    (holds : scene.notifier.tree.Holds job.path content) :
    After (s.promote Scene.host job) scene fun ending scene' => ending.1 = .ok () ∧
      ∃ f, ending.2.held = ⟨.watching, none, some f⟩ ∧
        scene.notifier.Issued scene'.notifier f ∧
        scene.Goes [(job.verbOf content, job.service)] scene' := by
  apply After.bind (Assignment.enforce_of_holds room holds)
  rintro _ w ⟨role, rfl, told⟩
  have here := told.notifier ▸ holds
  apply After.bind (watchFile_of_holds own (told.notifier ▸ free) here)
  rintro _ w₁ ⟨f, rfl, new, went₁⟩
  apply After.bind (Scene.dropHeld_goes s.held.dir w₁)
  rintro _ w₂ ⟨went₂, -⟩
  refine After.bind (Scene.note_orders _ w₂) fun _ w₃ noted => After.pure ?_
  have after := went₂.then_nothing noted.goes
  rw [told.notifier] at new
  exact ⟨rfl, f, rfl, new.after after.steady,
    (told.goes.then_nothing went₁).then_nothing after⟩

theorem watchDir_outcome (free : scene.notifier.refusals = []) :
    After (s.watchDir Scene.host) scene fun ending scene' => scene.Goes [] scene' ∧
      ((∃ failure, ending.1 = .error failure ∧ scene.notifier.tree.exists? s.target.dir = false) ∨
        ∃ d, ending = (.ok (), s.withDir (some d)) ∧
          ((s.held.dir = some d ∧ scene'.notifier.nextId = scene.notifier.nextId) ∨
            s.held.dir = none ∧ d = ⟨scene.notifier.nextId⟩ ∧
              scene'.notifier.nextId = scene.notifier.nextId + 1)) := by
  unfold watchDir
  cases known : s.held.dir with
  | some d =>
    have same : s = s.withDir (some d) := by
      rw [withDir, ← known]
    exact After.pure ⟨⟨.refl _, (List.append_nil _).symm⟩,
      .inr ⟨d, congrArg (Prod.mk (Except.ok ())) same, .inl ⟨rfl, rfl⟩⟩⟩
  | none =>
    apply After.bind (Scene.addWatch_goes free s.target.dir .directoryInterest)
    rintro _ w ⟨went, ⟨-, rfl, next⟩ | ⟨gone, ⟨cause, rfl⟩, -⟩⟩
    · exact After.pure ⟨went, .inr ⟨_, rfl, .inr ⟨rfl, rfl, next⟩⟩⟩
    · refine After.bind (Scene.note_orders _ w) fun _ _ noted => After.pure ?_
      exact ⟨went.then_nothing noted.goes, .inl ⟨_, rfl, gone⟩⟩

theorem awaitFile_looked (room : 1 ≤ job.lineLimit) (own : job.path = s.target.file)
    (free : scene.notifier.refusals = []) :
    After (s.awaitFile Scene.host job) scene (s.Looked job scene) := by
  apply After.bind (Scene.dropHeld_goes s.held.file scene)
  rintro _ w₁ ⟨went₁, -⟩
  apply After.bind (watchDir_outcome (s := s.withFile none) (went₁.steady.refusals ▸ free))
  rintro ⟨_, _⟩ w₂ ⟨went₂, ⟨failure, rfl, gone⟩ | ⟨d, ended, known⟩⟩
  · rw [went₁.steady.tree] at gone
    exact After.pure (.lost gone)
  · cases ended
    apply After.bind (Scene.note_orders _ w₂)
    intro _ w₃ noted
    have went₃ := (went₁.then_nothing went₂).then_nothing noted.goes
    rcases scene.notifier.tree.silent_or_holds job.path with silent | ⟨content, holds⟩
    · apply After.mono (promote_of_silent (went₃.steady.tree ▸ silent))
      rintro _ w₄ ⟨rfl, went₄⟩
      have last := noted.goes.then_nothing went₄.goes
      refine .missing silent rfl ?_ (went₃.then_nothing went₄.goes)
      refine known.imp And.left ?_
      rintro ⟨-, rfl, next⟩
      exact ((Notifier.Issued.of_next next).after last.steady).before went₁.steady
    · have here := went₃.steady.tree ▸ holds
      apply After.mono (promote_of_holds
        (s := ((s.withFile none).withDir (some d)).inPhase .awaiting) room own
        (went₃.steady.refusals ▸ free) here)
      rintro ⟨_, _⟩ w₄ ⟨rfl, f, watching, new, went₄⟩
      exact .found holds watching (new.before went₃.steady) (went₃.trans went₄)

theorem refresh_of_holds (room : 1 ≤ job.lineLimit) {content : Bytes}
    (holds : scene.notifier.tree.Holds job.path content) :
    After (s.refresh Scene.host job) scene fun ending scene' =>
      ending = (.ok (), s) ∧ scene.Orders [(job.verbOf content, job.service)] scene' := by
  apply After.bind (Assignment.enforce_of_holds room holds)
  rintro _ w ⟨role, rfl, told⟩
  exact After.pure ⟨rfl, told⟩

theorem refresh_of_silent (room : 1 ≤ job.lineLimit) (own : job.path = s.target.file)
    (free : scene.notifier.refusals = []) (silent : scene.notifier.tree.Silent job.path) :
    After (s.refresh Scene.host job) scene (s.Looked job scene) := by
  apply After.bind (Assignment.enforce_of_silent silent)
  rintro _ w ⟨failure, rfl, light, went⟩
  simp only [light]
  apply After.bind (Scene.note_orders _ w)
  intro _ w₁ noted
  have same := went.then_nothing noted
  exact After.mono (awaitFile_looked room own (same.notifier ▸ free)) fun _ _ => Looked.since same

theorem start_looked {t : Target} (room : 1 ≤ job.lineLimit) (own : job.path = t.file)
    (free : scene.notifier.refusals = []) :
    After ((ofTarget t).start Scene.host job) scene ((ofTarget t).Looked job scene) := by
  apply After.bind (Scene.note_orders _ scene)
  intro _ w₁ began
  -- Reading it and watching it cannot disagree: nothing changes the files in between.
  rcases scene.notifier.tree.silent_or_holds job.path with silent | ⟨content, holds⟩
  · apply After.bind (Assignment.enforce_of_silent (began.notifier ▸ silent))
    rintro _ w₂ ⟨failure, rfl, light, went⟩
    simp only [light]
    apply After.bind (Scene.note_orders _ w₂)
    intro _ w₃ noted
    have same := (began.then_nothing went).then_nothing noted
    exact After.mono (awaitFile_looked room own (same.notifier ▸ free)) fun _ _ =>
      Looked.since same
  · apply After.bind (Assignment.enforce_of_holds room (began.notifier ▸ holds))
    rintro _ w₂ ⟨role, rfl, told⟩
    have same := began.trans told
    apply After.bind (watchFile_of_holds (s := ofTarget t) own (same.notifier ▸ free)
      (same.notifier ▸ holds))
    rintro _ w₃ ⟨f, rfl, new, went⟩
    refine After.bind (Scene.note_orders _ w₃) fun _ w₄ noted => After.pure ?_
    rw [same.notifier] at new
    exact .found holds rfl (new.after noted.goes.steady)
      ((same.goes.then_nothing went).then_nothing noted.goes)

/-- The phase that the files call for, and the orders that looking at the file gives then. -/
inductive InStep (job : Assignment) (tree : Tree) : Phase → List (Verb × String) → Prop where
  | watching {content : Bytes} (holds : tree.Holds job.path content) :
      InStep job tree .watching [(job.verbOf content, job.service)]
  | awaiting (silent : tree.Silent job.path) : InStep job tree .awaiting []

theorem recheck_of_inStep {orders : List (Verb × String)} (room : 1 ≤ job.lineLimit)
    (fits : InStep job scene.notifier.tree s.held.phase orders) :
    After (s.recheck Scene.host job) scene fun ending scene' =>
      ending = (.ok (), s) ∧ scene.Orders orders scene' := by
  apply After.bind (Scene.note_orders _ scene)
  intro _ w began
  generalize phase : s.held.phase = p at fits
  cases fits with
  | watching holds =>
    apply After.mono (refresh_of_holds room (began.notifier ▸ holds))
    rintro _ w' ⟨rfl, told⟩
    exact ⟨rfl, began.trans told⟩
  | awaiting silent =>
    apply After.mono (promote_of_silent (began.notifier ▸ silent))
    rintro _ w' ⟨rfl, went⟩
    exact ⟨rfl, began.then_nothing went⟩

theorem recheck_looked (room : 1 ≤ job.lineLimit) (own : job.path = s.target.file)
    (free : scene.notifier.refusals = [])
    (out : ∀ orders, ¬ InStep job scene.notifier.tree s.held.phase orders) :
    After (s.recheck Scene.host job) scene fun ending scene' =>
      s.Looked job scene ending scene' ∧ (s.held.phase = .awaiting → ending.1 = .ok ()) := by
  apply After.bind (Scene.note_orders _ scene)
  intro _ w began
  have free' := began.notifier ▸ free
  cases phase : s.held.phase with
  | watching =>
    rw [phase] at out
    have silent : scene.notifier.tree.Silent job.path :=
      fun content holds => out _ (.watching holds)
    apply After.mono (refresh_of_silent room own free' (began.notifier ▸ silent))
    exact fun _ _ looked => ⟨looked.since began, nofun⟩
  | awaiting =>
    rw [phase] at out
    have heard := scene.notifier.tree.silent_or_holds job.path
    obtain ⟨content, holds⟩ := heard.resolve_left fun silent => out _ (.awaiting silent)
    apply After.mono (promote_of_holds room own free' (began.notifier ▸ holds))
    rintro ⟨_, _⟩ w' ⟨rfl, f, watching, new, went⟩
    exact ⟨.found holds watching (began.notifier ▸ new) (began.goes.trans went), fun _ => rfl⟩

theorem attend_of_act {batch : List Event} {holds : Ending → Scene → Prop}
    (acts : ∀ w, scene.Orders [] w →
      After (s.act Scene.host job (Judgement.ofBatch s.held s.target.name batch)) w holds) :
    After (s.attend Scene.host job batch) scene holds :=
  attend_of_notes (fun entry w noted => After.mono (Scene.note_orders entry w) fun _ _ =>
    noted.then_nothing) ⟨rfl, (List.append_nil _).symm⟩ acts

end Sentry

end RoleWatch
