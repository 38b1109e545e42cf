import RoleWatch.Proofs.Bench.Outcome
import RoleWatch.Proofs.Bench.Trial
import RoleWatch.Proofs.Watch.Outlook

/-!
How events are cut into batches, and the order they come in, makes no difference to where the watch
ends. What the service is told is the same as well, though not how often.
-/
namespace RoleWatch

variable {World : Type}

/-- Attends to one batch after another, as long as that succeeds. -/
def Sentry.attendEach (host : Host World) (job : Assignment) :
    List (List Event) → Sentry → StateM World Sentry.Ending
  | [], s => return (.ok (), s)
  | batch :: rest, s => do
    match ← s.attend host job batch with
    | (.error failure, s) => return (.error failure, s)
    | (.ok (), s) => s.attendEach host job rest

open Bench

def Assignment.outlook (job : Assignment) (t : Target) (tree : Tree) : Outlook :=
  ⟨job.order (job.roleOf (tree.openFile job.path)), tree.exists? t.file⟩

/-- A stage that offers an outlook, has the directory and refuses no registration. -/
structure Bench.Scene.Offers (job : Assignment) (t : Target) (o : Outlook) (scene : Scene) :
    Prop where
  there : scene.notifier.tree.exists? t.dir = true
  free : scene.notifier.refusals = []
  looks : job.outlook t scene.notifier.tree = o

theorem Bench.Scene.Offers.goes {job : Assignment} {t : Target} {o : Outlook}
    {orders : List (Verb × String)} {scene scene' : Scene} (offers : scene.Offers job t o)
    (went : scene.Goes orders scene') : scene'.Offers job t o := by
  constructor
  · exact went.steady.tree ▸ offers.there
  · exact went.steady.refusals ▸ offers.free
  · exact went.steady.tree ▸ offers.looks

namespace Sentry

variable {job : Assignment} {s : Sentry} {scene : Scene} {o : Outlook}

def standing (s : Sentry) (scene : Scene) : Standing := ⟨s.held, scene.notifier.nextId⟩

/-- An operation succeeds and leads to a certain standing, with these orders to the service. -/
structure Lands (s : Sentry) (scene : Scene) (q : Standing) (orders : List (Verb × String))
    (ending : Ending) (scene' : Scene) : Prop where
  ok : ending.1 = .ok ()
  target : ending.2.target = s.target
  standing : ending.2.standing scene' = q
  went : scene.Goes orders scene'

theorem Lands.stay {orders : List (Verb × String)} {scene' : Scene}
    (went : scene.Goes orders scene')
    (same : scene'.notifier.nextId = scene.notifier.nextId) :
    s.Lands scene (s.standing scene) orders (.ok (), s) scene' where
  ok := rfl
  target := rfl
  standing := congrArg (Standing.mk s.held) same
  went := went

theorem Lands.since {s₁ : Sentry} {scene₁ scene' : Scene} {q : Standing}
    {orders : List (Verb × String)} {ending : Ending}
    (lands : s₁.Lands scene₁ q orders ending scene') (went : scene.Goes [] scene₁)
    (same : s₁.target = s.target) : s.Lands scene q orders ending scene' where
  ok := lands.ok
  target := lands.target.trans same
  standing := lands.standing
  went := went.trans lands.went

theorem lands_of_noted {step : StateM Scene Ending} {w : Scene} (go : Standing → Standing)
    {orders : List (Verb × String)} (noted : scene.Orders [] w)
    (lands : After step w (s.Lands w (go (s.standing w)) orders)) :
    After step w (s.Lands scene (go (s.standing scene)) orders) := by
  have stood : s.standing w = s.standing scene :=
    congrArg (fun n : Notifier => Standing.mk s.held n.nextId) noted.notifier
  rw [stood] at lands
  exact After.mono lands fun _ _ lands => lands.since noted.goes rfl

theorem promote_lands (offers : scene.Offers job s.target o) :
    After (s.promote Scene.host job) scene
      (s.Lands scene ((s.standing scene).promote o) o.order.toList) := by
  apply After.bind (job.enforce_answers scene)
  rintro answer w ⟨answered, told⟩
  have found : o.order = job.order answer := by
    rw [← offers.looks, answered]
    rfl
  rw [found]
  cases answer with
  | error failure =>
    have stays : (s.standing scene).promote o = s.standing scene :=
      if_neg (by simp [found, Assignment.order, Except.toOption])
    have light := Assignment.not_fatal_of_roleOf answered.symm
    rw [stays]
    simp only [light]
    refine After.bind (Scene.note_orders _ w) fun _ w' noted => After.pure ?_
    have same := told.then_nothing noted
    exact .stay same.goes (by rw [same.notifier])
  | ok role =>
    apply After.bind (watchFile_goes (offers.goes told.goes).free)
    rw [told.notifier]
    rintro answer w₁ ⟨went, ⟨there, rfl, next⟩ | ⟨gone, ⟨failure, rfl⟩, next⟩⟩
    · have reaches : (s.standing scene).promote o =
          ⟨⟨.watching, none, some ⟨scene.notifier.nextId⟩⟩, scene.notifier.nextId + 1⟩ :=
        if_pos ⟨by rw [found]; rfl, offers.looks ▸ there⟩
      rw [reaches]
      apply After.bind (Scene.dropHeld_goes s.held.dir w₁)
      rintro _ w₂ ⟨went₂, same⟩
      refine After.bind (Scene.note_orders _ w₂) fun _ w₃ noted => After.pure ⟨rfl, rfl, ?_, ?_⟩
      · rw [Sentry.standing, noted.notifier, same, next]
        rfl
      · exact ((told.goes.then_nothing went).then_nothing went₂).then_nothing noted.goes
    · have stays : (s.standing scene).promote o = s.standing scene :=
        if_neg (by simp [← offers.looks, Assignment.outlook, gone])
      have stayed : ∀ w₂, w₁.Orders [] w₂ →
          s.Lands scene (s.standing scene) [(Verb.ofRole role, job.service)] (.ok (), s) w₂ :=
        fun w₂ noted => .stay ((told.goes.then_nothing went).then_nothing noted.goes)
          (by rw [noted.notifier, next])
      rw [stays]
      dsimp only
      split
      · exact After.bind (Scene.note_orders _ w₁) fun _ w₂ noted => After.pure (stayed w₂ noted)
      · exact After.bind (Scene.note_orders _ w₁) fun _ w₂ noted => After.pure (stayed w₂ noted)

theorem awaitFile_lands (offers : scene.Offers job s.target o) :
    After (s.awaitFile Scene.host job) scene
      (s.Lands scene ((s.standing scene).awaitFile o) o.order.toList) := by
  apply After.bind (Scene.dropHeld_goes s.held.file scene)
  rintro _ w₁ ⟨went₁, same₁⟩
  have offers₁ := offers.goes went₁
  apply After.bind (watchDir_outcome (s := s.withFile none) offers₁.free)
  rintro ⟨_, _⟩ w₂ ⟨went₂, ⟨failure, rfl, gone⟩ | ⟨d, ended, known⟩⟩
  · exact absurd (offers₁.there.symm.trans gone) (by simp)
  · cases ended
    apply After.bind (Scene.note_orders _ w₂)
    intro _ w₃ noted
    have went₃ := (went₁.then_nothing went₂).then_nothing noted.goes
    have stands : Sentry.standing (((s.withFile none).withDir (some d)).inPhase .awaiting) w₃ =
        (s.standing scene).watchDir := by
      rw [Sentry.standing, noted.notifier, Standing.watchDir]
      rcases known with ⟨held, next⟩ | ⟨free, rfl, next⟩
      · have held : (s.standing scene).held.dir = some d := held
        rw [held, next, same₁]
        rfl
      · have free : (s.standing scene).held.dir = none := free
        rw [free, next, same₁]
        rfl
    apply After.mono (promote_lands (s := ((s.withFile none).withDir (some d)).inPhase .awaiting)
      (offers.goes went₃))
    intro ending w₄ lands
    rw [stands] at lands
    exact lands.since went₃ rfl

theorem refresh_lands (offers : scene.Offers job s.target o) :
    After (s.refresh Scene.host job) scene
      (s.Lands scene ((s.standing scene).follow o .changed) o.order.toList) := by
  apply After.bind (job.enforce_answers scene)
  rintro answer w ⟨answered, told⟩
  have found : o.order = job.order answer := by
    rw [← offers.looks, answered]
    rfl
  cases answer with
  | error failure =>
    have lost : (s.standing scene).follow o .changed = (s.standing scene).awaitFile o :=
      if_neg (by simp [found, Assignment.order, Except.toOption])
    have light := Assignment.not_fatal_of_roleOf answered.symm
    rw [lost]
    simp only [light]
    apply After.bind (Scene.note_orders _ w)
    intro _ w₁ noted
    have same : scene.Orders [] w₁ := told.then_nothing noted
    exact lands_of_noted (·.awaitFile o) same (awaitFile_lands (offers.goes same.goes))
  | ok role =>
    have kept : (s.standing scene).follow o .changed = s.standing scene :=
      if_pos (by rw [found]; rfl)
    rw [kept, found]
    exact After.pure (.stay told.goes (by rw [told.notifier]))

/-- An operation ends like one that attends to these events: the service is told the same each time,
and not at all just if none of them concerns the file. -/
def Heeds (o : Outlook) (events : List Event) (s : Sentry) (scene : Scene) (ending : Ending)
    (scene' : Scene) : Prop :=
  ∃ k, s.Lands scene ((s.standing scene).attend o s.target.name events)
      (List.replicate k o.order.toList).flatten ending scene' ∧
    (k = 0 ↔ (s.standing scene).judge s.target.name events = .idle)

theorem attend_heeds {batch : List Event} (fair : (s.standing scene).Fair batch)
    (offers : scene.Offers job s.target o) :
    After (s.attend Scene.host job batch) scene (s.Heeds o batch scene) := by
  refine attend_of_act fun w noted => ?_
  have judged : (Judgement.ofBatch s.held s.target.name batch).verdict =
      (s.standing scene).judge s.target.name batch := rfl
  have once : ∀ {ending scene'}, (s.standing scene).judge s.target.name batch ≠ .idle →
      s.Lands scene ((s.standing scene).attend o s.target.name batch) o.order.toList ending scene' →
      s.Heeds o batch scene ending scene' := by
    intro ending scene' busy lands
    exact ⟨1, by simpa using lands, by simp [busy]⟩
  unfold act
  rw [judged]
  cases verdict : (s.standing scene).judge s.target.name batch with
  | idle =>
    refine After.pure ⟨0, ?_, by simp [verdict]⟩
    rw [Standing.attend_of_judge verdict]
    exact .stay noted.goes (by rw [noted.notifier])
  | directoryGone => exact absurd verdict (fair.judge_ne_directoryGone s.target.name)
  | appeared =>
    apply After.bind (Scene.note_orders _ w)
    intro _ w' told
    have same := noted.then_nothing told
    apply After.mono (lands_of_noted (·.promote o) same (promote_lands (offers.goes same.goes)))
    exact fun _ _ lands => once (by simp [verdict]) (Standing.attend_of_judge verdict ▸ lands)
  | fileGone =>
    apply After.bind (Scene.note_orders _ w)
    intro _ w' told
    have same := noted.then_nothing told
    apply After.mono (lands_of_noted (·.awaitFile o) same (awaitFile_lands (offers.goes same.goes)))
    exact fun _ _ lands => once (by simp [verdict]) (Standing.attend_of_judge verdict ▸ lands)
  | changed =>
    apply After.bind (Scene.note_orders _ w)
    intro _ w' told
    have same := noted.then_nothing told
    apply After.mono (lands_of_noted (·.follow o .changed) same
      (refresh_lands (offers.goes same.goes)))
    exact fun _ _ lands => once (by simp [verdict]) (Standing.attend_of_judge verdict ▸ lands)

theorem attendEach_heeds {batches : List (List Event)}
    (fair : (s.standing scene).Fair batches.flatten) (offers : scene.Offers job s.target o) :
    After (s.attendEach Scene.host job batches) scene (s.Heeds o batches.flatten scene) := by
  -- The rest is fair for what the first batch leads to, and the two together come to one batch.
  induction batches generalizing s scene with
  | nil =>
    have idle : (s.standing scene).judge s.target.name [] = .idle := Standing.judge_nil ..
    refine After.pure ⟨0, ?_, by simp [idle]⟩
    rw [List.flatten_nil, Standing.attend_of_judge idle]
    exact .stay ⟨.refl _, (List.append_nil _).symm⟩ rfl
  | cons batch rest ih =>
    rw [List.flatten_cons] at fair ⊢
    have first : (s.standing scene).Fair batch :=
      fair.mono fun _ member => List.mem_append_left _ member
    have later : (s.standing scene).Fair rest.flatten :=
      fair.mono fun _ member => List.mem_append_right _ member
    apply After.bind (attend_heeds first offers)
    rintro ⟨_, s₁⟩ w ⟨m, ⟨rfl, same, stands, went⟩, quiet⟩
    have same : s₁.target = s.target := same
    have stands : s₁.standing w = (s.standing scene).attend o s.target.name batch := stands
    have grown : (s₁.standing w).Fair rest.flatten :=
      stands ▸ later.grown (Standing.attend_grows ..)
    apply After.mono (ih grown (same ▸ offers.goes went))
    rintro ending w' ⟨k, lands, quietly⟩
    rw [same, stands] at lands quietly
    refine ⟨m + k, ⟨lands.ok, lands.target.trans same, ?_, ?_⟩, ?_⟩
    · exact lands.standing.trans (Standing.attend_append fair)
    · rw [← List.replicate_append_replicate, List.flatten_append]
      exact went.trans lands.went
    · rw [Nat.add_eq_zero_iff, quiet, quietly, Standing.judge_append_idle]

end Sentry

/-- Whatever is held on a stage that refuses no registration and has the directory, events of
registrations there were, none of which ends the directory's, come to the same in one batch and in
any batches in any order: every batch is attended to with success, the watch ends the same, and the
service is told the same if it is told anything. -/
theorem batching_immaterial {job : Assignment} {s : Sentry} {scene : Scene} {events : List Event}
    {batches : List (List Event)} (there : scene.notifier.tree.exists? s.target.dir = true)
    (free : scene.notifier.refusals = [])
    (issued : ∀ e ∈ events, ∀ h, e.handle = some h → h.id < scene.notifier.nextId)
    (stays : ∀ e ∈ events, ∀ d, s.held.dir = some d →
      ¬ (e.handle = some d ∧ e.name = none ∧ e.mask.meets Mask.gone = true))
    (same : batches.flatten.Perm events) : ∃ s' atOnce inTurn,
      s.attend Scene.host job events scene = ((.ok (), s'), atOnce) ∧
      s.attendEach Scene.host job batches scene = ((.ok (), s'), inTurn) ∧
      ∃ order m k, atOnce.served = scene.served ++ List.replicate m order ∧
        inTurn.served = scene.served ++ List.replicate k order ∧ (m = 0 ↔ k = 0) := by
  generalize looks : job.outlook s.target scene.notifier.tree = o
  have fair : (s.standing scene).Fair events := ⟨issued, stays⟩
  have fairly : (s.standing scene).Fair batches.flatten := fair.mono fun _ => same.mem_iff.1
  have offers : scene.Offers job s.target o := ⟨there, free, looks⟩
  obtain ⟨m, once, quiet⟩ := Sentry.attend_heeds fair offers
  obtain ⟨k, each, quietly⟩ := Sentry.attendEach_heeds fairly offers
  have judged : (s.standing scene).judge s.target.name batches.flatten =
      (s.standing scene).judge s.target.name events := Judgement.verdict_perm same _ _
  rw [Standing.attend, judged] at each
  have held : (s.attendEach Scene.host job batches scene).1.2.held =
      (s.attend Scene.host job events scene).1.2.held :=
    congrArg Standing.held (each.standing.trans once.standing.symm)
  have both := congr (congrArg Sentry.mk (each.target.trans once.target.symm)) held
  have ends : (s.attendEach Scene.host job batches scene).1.2 =
      (s.attend Scene.host job events scene).1.2 := both
  refine ⟨_, _, _, Prod.ext (Prod.ext once.ok rfl) rfl, Prod.ext (Prod.ext each.ok ends) rfl, ?_⟩
  have told := once.went.served
  have toldEach := each.went.served
  cases found : o.order with
  | none =>
    rw [found] at told toldEach
    exact ⟨(.enable, job.service), 0, 0, by simpa using told, by simpa using toldEach, Iff.rfl⟩
  | some order =>
    rw [found] at told toldEach
    refine ⟨order, m, k, by simpa using told, by simpa using toldEach, ?_⟩
    rw [quiet, quietly, judged]

namespace Bench.Example

def written : Event := .onSelf ⟨1⟩ (.ofFlags [.modify])

def removed : Event := .onSelf ⟨1⟩ (.ofFlags [.deleteSelf])

end Bench.Example

open Example in
/-- The file was written and then replaced by another. Read in two batches and in another order, the
events lead the watch to where it ends if they are read at once. -/
theorem batching_immaterial_on_replacement : ∃ (scene : Scene) (s : Sentry)
    (events : List Event) (batches : List (List Event)),
    Trial job target stage (fun _ _ => True) scene s ∧
    scene.notifier.tree.exists? s.target.dir = true ∧ scene.notifier.refusals = [] ∧
    (∀ e ∈ events, ∀ h, e.handle = some h → h.id < scene.notifier.nextId) ∧
    (∀ e ∈ events, ∀ d, s.held.dir = some d →
      ¬ (e.handle = some d ∧ e.name = none ∧ e.mask.meets Mask.gone = true)) ∧
    batches.flatten.Perm events ∧ ∃ s' atOnce inTurn,
      s.attend Scene.host job events scene = ((.ok (), s'), atOnce) ∧
      s.attendEach Scene.host job batches scene = ((.ok (), s'), inTurn) ∧
      s'.held = ⟨.watching, none, some ⟨3⟩⟩ ∧
      scene.served.length = 1 ∧ atOnce.served.length = 2 ∧
      ∃ order m k, atOnce.served = scene.served ++ List.replicate m order ∧
        inTurn.served = scene.served ++ List.replicate k order ∧ (m = 0 ↔ k = 0) := by
  have began : Trial job target stage (fun _ _ => True) _ _ := .of_start rfl
  generalize first : (Sentry.ofTarget target).start Scene.host job stage = ran at began
  have there : ran.2.notifier.tree.exists? ran.1.2.target.dir = true := by rw [← first]; rfl
  have free : ran.2.notifier.refusals = [] := by rw [← first]; rfl
  have next : ran.2.notifier.nextId = 2 := by rw [← first]; rfl
  have unheld : ran.1.2.held.dir = none := by rw [← first]; rfl
  have issued : ∀ e ∈ [removed, .lost, written], ∀ h, e.handle = some h →
      h.id < ran.2.notifier.nextId := by
    simp [next, removed, written, Event.onSelf, Event.lost]
  have stays : ∀ e ∈ [removed, .lost, written], ∀ d, ran.1.2.held.dir = some d →
      ¬ (e.handle = some d ∧ e.name = none ∧ e.mask.meets Mask.gone = true) := by
    simp [unheld]
  have same : [[written], [removed, .lost]].flatten.Perm [removed, .lost, written] := by decide
  obtain ⟨s', atOnce, inTurn, once, each, told⟩ :=
    @batching_immaterial job _ _ _ _ there free issued stays same
  refine ⟨_, _, _, _, began, there, free, issued, stays, same, s', atOnce, inTurn, once, each, ?_⟩
  subst first
  exact ⟨(congrArg (fun ended => ended.1.2.held) once).symm, rfl,
    (congrArg (fun ended => ended.2.served.length) once).symm, told⟩

end RoleWatch
