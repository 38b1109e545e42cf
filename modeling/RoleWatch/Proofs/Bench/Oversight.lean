import RoleWatch.Proofs.Bench.Shared

/-!
What the watch may miss on a shared stage. It looks at the file, gives its order and only then has
the file registered, and it does not look again. From the registration on nothing is missed; what is
done to the file between the look and the registration is.
-/
namespace RoleWatch

open Bench Bench.Notifier

open Bench.Shared

namespace Assignment

variable {job : Assignment} {t : Target} {w : Shared}

/-- A look at the file and the order for what was seen. -/
structure Enforced (job : Assignment) (t : Target) (w w' : Shared) : Prop where
  ordered : w'.Ordered job
  current : ∀ f, w.notifier.Sound → Attached (t.fileWatch f) w.notifier → w'.Current t f

theorem Enforced.onward {a b : Shared} (enforced : job.Enforced t w a)
    (warns : w.notifier.Warns a.notifier) (onward : Onward t a b) : job.Enforced t w b where
  ordered := enforced.ordered.onward onward
  current f sound attached := (enforced.current f sound attached).onward (sound.warns warns)
    (attached.warns sound warns) onward

theorem enforce_shared (own : job.path = t.file) (w : Shared) :
    After (job.enforce (host t.file)) w fun answer w' => w.notifier.Warns w'.notifier ∧
      ((∃ failure, answer = .error failure ∧ failure.isFatal = false) ∨
        (∃ role, answer = .ok role) ∧ job.Enforced t w w') := by
  have read : After (job.readRole (host t.file)) w fun answer w' =>
      answer = job.roleOf (w'.notifier.tree.openFile job.path) ∧
        w.notifier.Warns w'.notifier ∧ w'.seen = w'.now t.file ∧ w'.outdated = false :=
    ⟨rfl, (next_onward t w).warns, own ▸ rfl, rfl⟩
  apply After.bind read
  rintro answer w₁ ⟨answered, warns, seen, looked⟩
  cases answer with
  | error failure =>
    apply After.bind (note_onward t _ w₁)
    intro _ w₂ onward
    have light := not_fatal_of_roleOf answered.symm
    exact After.pure ⟨warns.trans onward.warns, .inl ⟨failure, rfl, light⟩⟩
  | ok role =>
    obtain ⟨content, there, verb⟩ := content_of_role answered.symm
    have saw : w₁.seen = some content := by
      rw [seen, ← own, now, there]
      rfl
    have current : ∀ f, w₁.Current t f := fun f => .inr (by simp [seen, looked])
    apply After.bind (note_onward t _ w₁)
    intro _ w₂ announced
    apply After.bind (perform_orders t.file (Verb.ofRole role) job.service w₂)
    intro result w₃ given
    have went := announced.trans (next_onward t w₂)
    have told : w.notifier.Warns w₃.notifier := given ▸ warns.trans went.warns
    have enforced : job.Enforced t w w₃ := by
      subst given
      refine ⟨⟨content, went.seen.trans saw, ?_⟩, fun f sound attached => ?_⟩
      · rw [ordering, List.getLast?_concat, verb]
      · have later := (current f).onward (sound.warns warns) (attached.warns sound warns) went
        exact later
    have done : ∀ {w'}, Onward t w₃ w' → w.notifier.Warns w'.notifier ∧ job.Enforced t w w' :=
      fun onward => ⟨told.trans onward.warns, enforced.onward told onward⟩
    rcases result with failure | ⟨⟩
    · apply After.bind (note_onward t _ w₃)
      intro _ w₄ refused
      refine After.bind (note_onward t _ w₄) fun _ w₅ noted => After.pure ?_
      exact (done (refused.trans noted)).imp_right fun enforced => .inr ⟨⟨role, rfl⟩, enforced⟩
    · refine After.bind (note_onward t _ w₃) fun _ w₄ noted => After.pure ?_
      exact (done noted).imp_right fun enforced => .inr ⟨⟨role, rfl⟩, enforced⟩

end Assignment

namespace Sentry

variable {job : Assignment} {t : Target} {s : Sentry} {w : Shared} {f : Handle}

/-- The watch is on the file, and every handle it holds was issued. -/
structure Placed (t : Target) (s : Sentry) (w : Shared) : Prop where
  target : s.target = t
  sound : w.notifier.Sound
  issued : ∀ h ∈ s.held.handles, h.id < w.notifier.nextId

/-- Between operations: while the file is watched, nothing about it is lost but what was lost when it
was registered. -/
structure Attentive (job : Assignment) (t : Target) (s : Sentry) (w : Shared) : Prop where
  placed : s.Placed t w
  follows : s.held.phase = .watching → ∃ f, s.held.file = some f ∧ w.Follows job t f

theorem Placed.advances {w' : Shared} (placed : s.Placed t w) (advances : Advances w w') :
    s.Placed t w' where
  target := placed.target
  sound := advances.sound placed.sound
  issued h held := Nat.lt_of_lt_of_le (placed.issued h held) advances.nextId

theorem Placed.onward {w' : Shared} (placed : s.Placed t w) (onward : Onward t w w') :
    s.Placed t w' := placed.advances onward.advances

theorem Placed.attentive (placed : s.Placed t w) (awaiting : s.held.phase = .awaiting) :
    s.Attentive job t w :=
  ⟨placed, fun watching => by simp [awaiting] at watching⟩

theorem Attentive.onward {w' : Shared} (attentive : s.Attentive job t w)
    (onward : Onward t w w') : s.Attentive job t w' := by
  refine ⟨attentive.placed.onward onward, fun watching => ?_⟩
  obtain ⟨f, file, follows⟩ := attentive.follows watching
  exact ⟨f, file, follows.onward attentive.placed.sound onward⟩

theorem watchFile_follows (target : s.target = t) (sound : w.notifier.Sound)
    (ordered : w.Ordered job) :
    After (s.watchFile (host t.file)) w fun answer w' => Advances w w' ∧
      ∀ f, answer = .ok f → w.notifier.Issued w'.notifier f ∧ w'.Follows job t f := by
  subst target
  apply After.bind (addWatch_registered s.target s.target.file .fileInterest w)
  rintro answer w' ⟨before, answered, registered⟩
  have advances := registered.advances (by decide)
  cases answer with
  | error cause => exact After.pure ⟨advances, by simp⟩
  | ok f =>
    refine After.pure ⟨advances, ?_⟩
    rintro _ ⟨⟩
    exact ⟨registered.issued answered, registered.follows answered sound ordered⟩

theorem watchDir_placed (placed : s.Placed t w) :
    After (s.watchDir (host t.file)) w fun ending w' => ending.2.Placed t w' := by
  unfold watchDir
  cases known : s.held.dir with
  | some d => exact After.pure placed
  | none =>
    apply After.bind (addWatch_registered t s.target.dir .directoryInterest w)
    rintro answer w₁ ⟨before, answered, registered⟩
    have placed₁ := placed.advances (registered.advances (by decide))
    cases answer with
    | error cause =>
      exact After.bind (note_onward t _ w₁) fun _ _ noted => After.pure (placed₁.onward noted)
    | ok d =>
      refine After.pure ⟨placed₁.target, placed₁.sound, fun h held => ?_⟩
      simp only [withDir, Holding.handles, List.mem_append, Option.mem_toList,
        Option.some.injEq] at held
      rcases held with file | rfl
      · exact placed₁.issued h (by simp [Holding.handles, file])
      · exact (registered.issued answered).2

theorem promote_attentive (own : job.path = t.file) (placed : s.Placed t w)
    (awaiting : s.held.phase = .awaiting) :
    After (s.promote (host t.file) job) w fun ending w' => ending.2.Attentive job t w' := by
  apply After.bind (Assignment.enforce_shared own w)
  rintro answer w₁ ⟨warns, ⟨failure, rfl, light⟩ | ⟨⟨role, rfl⟩, enforced⟩⟩
  · simp only [light]
    refine After.bind (note_onward t _ w₁) fun _ w₂ noted => After.pure ?_
    exact ((placed.advances (.of_warns warns)).onward noted).attentive awaiting
  · have placed₁ := placed.advances (.of_warns warns)
    apply After.bind (watchFile_follows placed.target placed₁.sound enforced.ordered)
    rintro (failure | f) w₂ ⟨advances, follows⟩
    · have missed : ∀ {w₃}, Onward t w₂ w₃ → s.Attentive job t w₃ := fun noted =>
        ((placed₁.advances advances).onward noted).attentive awaiting
      dsimp only
      split
      · exact After.bind (note_onward t _ w₂) fun _ _ noted => After.pure (missed noted)
      · exact After.bind (note_onward t _ w₂) fun _ _ noted => After.pure (missed noted)
    · obtain ⟨new, follows⟩ := follows f rfl
      -- The directory's handle is an older one, so its end leaves the file's registration alone.
      have fresh : s.held.dir ≠ some f := by
        intro same
        have old := placed₁.issued f (by simp [Holding.handles, same])
        have unused := new.1
        omega
      have sound₂ := advances.sound placed₁.sound
      apply After.bind (dropHeld_releases t s.held.dir w₂)
      intro _ w₃ released
      refine After.bind (note_onward t _ w₃) fun _ w₄ noted => After.pure ?_
      obtain ⟨later, keeps⟩ := released.onward noted
      refine ⟨⟨placed.target, later.sound sound₂, fun h held => ?_⟩, fun _ => ⟨f, rfl, ?_⟩⟩
      · obtain rfl : h = f := by simpa [Holding.handles, withFile, withDir, inPhase] using held
        exact Nat.lt_of_lt_of_le new.2 later.nextId
      · exact keeps job f fresh sound₂ follows

theorem awaitFile_attentive (own : job.path = t.file) (placed : s.Placed t w) :
    After (s.awaitFile (host t.file) job) w fun ending w' =>
      ending.1 = .ok () → ending.2.Attentive job t w' := by
  apply After.bind (dropHeld_releases t s.held.file w)
  intro _ w₁ released
  have without : (s.withFile none).Placed t w₁ := by
    obtain ⟨target, sound, issued⟩ := placed.advances released.advances
    exact ⟨target, sound, fun h held => issued h (List.mem_append_right _ held)⟩
  apply After.bind (watchDir_placed without)
  rintro ⟨failure | ⟨⟩, s'⟩ w₂ placed₂
  · exact After.pure (by simp)
  · apply After.bind (note_onward t _ w₂)
    intro _ w₃ noted
    have placed₃ : (s'.inPhase .awaiting).Placed t w₃ :=
      ⟨placed₂.target, (placed₂.onward noted).sound, (placed₂.onward noted).issued⟩
    exact After.mono (promote_attentive own placed₃ rfl) fun _ _ attentive _ => attentive

theorem refresh_attentive (own : job.path = t.file) (placed : s.Placed t w)
    (file : s.held.file = some f) (attached : Attached (t.fileWatch f) w.notifier) :
    After (s.refresh (host t.file) job) w fun ending w' =>
      ending.1 = .ok () → ending.2.Attentive job t w' := by
  apply After.bind (Assignment.enforce_shared own w)
  rintro answer w₁ ⟨warns, ⟨failure, rfl, light⟩ | ⟨⟨role, rfl⟩, enforced⟩⟩
  · simp only [light]
    apply After.bind (note_onward t _ w₁)
    intro _ w₂ noted
    exact awaitFile_attentive own ((placed.advances (.of_warns warns)).onward noted)
  · have sound := placed.sound
    refine After.pure fun _ => ⟨placed.advances (.of_warns warns), fun _ => ⟨f, file, ?_⟩⟩
    exact ⟨attached.warns sound warns, enforced.ordered, enforced.current f sound attached⟩

theorem start_attentive (own : job.path = t.file) (sound : w.notifier.Sound) :
    After ((ofTarget t).start (host t.file) job) w fun ending w' =>
      ending.1 = .ok () → ending.2.Attentive job t w' := by
  have placed : (ofTarget t).Placed t w := ⟨rfl, sound, by simp [ofTarget, Holding.initial,
    Holding.handles]⟩
  apply After.bind (note_onward t _ w)
  intro _ w₁ began
  apply After.bind (Assignment.enforce_shared own w₁)
  rintro answer w₂ ⟨warns, ⟨failure, rfl, light⟩ | ⟨⟨role, rfl⟩, enforced⟩⟩
  · simp only [light]
    apply After.bind (note_onward t _ w₂)
    intro _ w₃ noted
    exact awaitFile_attentive own (((placed.onward began).advances (.of_warns warns)).onward noted)
  · have placed₂ := (placed.onward began).advances (.of_warns warns)
    apply After.bind (watchFile_follows (s := ofTarget t) rfl placed₂.sound enforced.ordered)
    rintro (failure | f) w₃ ⟨advances, follows⟩
    · apply After.bind (note_onward t _ w₃)
      intro _ w₄ noted
      exact awaitFile_attentive own ((placed₂.advances advances).onward noted)
    · obtain ⟨new, follows⟩ := follows f rfl
      refine After.bind (note_onward t _ w₃) fun _ w₄ noted => After.pure fun _ => ?_
      have sound₃ := advances.sound placed₂.sound
      refine ⟨⟨rfl, sound₃.warns noted.warns, fun h held => ?_⟩, fun _ => ⟨f, rfl, ?_⟩⟩
      · obtain rfl : h = f := by
          simpa [ofTarget, Holding.initial, Holding.handles, withFile, inPhase] using held
        exact Nat.lt_of_lt_of_le new.2 noted.advances.nextId
      · exact follows.onward sound₃ noted

theorem recheck_attentive (own : job.path = t.file) (attentive : s.Attentive job t w) :
    After (s.recheck (host t.file) job) w fun ending w' =>
      ending.1 = .ok () → ending.2.Attentive job t w' := by
  apply After.bind (note_onward t _ w)
  intro _ w₁ noted
  obtain ⟨placed, follows⟩ := attentive.onward noted
  cases phase : s.held.phase with
  | watching =>
    obtain ⟨f, file, follows⟩ := follows phase
    exact refresh_attentive own placed file follows.attached
  | awaiting =>
    exact After.mono (promote_attentive own placed phase) fun _ _ attentive _ => attentive

section Taken

variable {n : Nat}

theorem mem_taken_or_left {e : Event} (queued : e ∈ w.notifier.pending) (n : Nat) :
    e ∈ (w.take n).1 ∨ e ∈ (w.take n).2.notifier.pending := by
  rw [← List.take_append_drop n w.notifier.pending] at queued
  exact List.mem_append.1 queued

/-- What says that the file is gone is still queued if it is not in the batch. -/
theorem attached_of_taken (attached : Attached (t.fileWatch f) w.notifier)
    (stays : (Judgement.ofFile (some f) (w.take n).1).verdict ≠ .fileGone) :
    Attached (t.fileWatch f) (w.take n).2.notifier := by
  refine ⟨attached.listed, fun gone => ?_⟩
  obtain ⟨e, queued, named, whole, ends⟩ := attached.told gone
  have left := (mem_taken_or_left queued n).resolve_left fun taken =>
    stays (Judgement.ofFile_fileGone_iff.2 ⟨e, taken, named, ends⟩)
  exact ⟨e, left, named, whole, ends⟩

theorem follows_of_idle (follows : w.Follows job t f)
    (idle : (Judgement.ofFile (some f) (w.take n).1).verdict = .idle) :
    (w.take n).2.Follows job t f := by
  obtain ⟨attached, ordered, current⟩ := follows
  have stays : (Judgement.ofFile (some f) (w.take n).1).verdict ≠ .fileGone := by simp [idle]
  refine ⟨attached_of_taken attached stays, ordered, ?_⟩
  rcases current with ⟨e, queued, named, tells⟩ | known
  · have left := (mem_taken_or_left queued n).resolve_left fun taken => by
      rcases tells with modified | ends
      · have changed := Judgement.ofFile_changed_iff.2 ⟨stays, e, taken, named, modified⟩
        simp [idle] at changed
      · exact stays (Judgement.ofFile_fileGone_iff.2 ⟨e, taken, named, ends⟩)
    exact .inl ⟨e, left, named, tells⟩
  · exact .inr known

end Taken

theorem attend_of_onward {batch : List Event} {holds : Ending → Shared → Prop}
    (acts : ∀ w', Onward t w w' →
      After (s.act (host t.file) job (Judgement.ofBatch s.held s.target.name batch)) w' holds) :
    After (s.attend (host t.file) job batch) w holds :=
  attend_of_notes (fun entry w' onward => After.mono (note_onward t entry w') fun _ _ =>
    onward.trans) (.refl t w) acts

theorem attend_attentive (own : job.path = t.file) (attentive : s.Attentive job t w) (n : Nat)
    (plan : List (List Meddling)) :
    After (s.attend (host t.file) job (w.take n).1) ((w.take n).2.planned plan) fun ending w' =>
      ending.1 = .ok () → ending.2.Attentive job t w' := by
  obtain ⟨⟨target, sound, issued⟩, follows⟩ := attentive
  -- The verdict is on what was taken; what it does not speak of is still queued.
  have taken : s.Placed t (w.take n).2 :=
    ⟨target, ⟨sound.active, sound.dropped, sound.asked⟩, issued⟩
  refine attend_of_onward fun w₁ noted => ?_
  have onward := (replan_onward t (w.take n).2 plan).trans noted
  have placed := taken.onward onward
  cases phase : s.held.phase with
  | awaiting =>
    unfold act
    rcases Judgement.verdict_awaiting phase s.target.name (w.take n).1 with idle | appeared | gone
    · simp only [idle]
      exact After.pure fun _ => placed.attentive phase
    · simp only [appeared]
      apply After.bind (note_onward t _ w₁)
      intro _ w₂ noted
      exact After.mono (promote_attentive own (placed.onward noted) phase)
        fun _ _ attentive _ => attentive
    · simp only [gone]
      exact After.bind (note_onward t _ w₁) fun _ _ _ => After.pure (by simp)
  | watching =>
    obtain ⟨f, file, follows⟩ := follows phase
    have judged : Judgement.ofBatch s.held s.target.name (w.take n).1 =
        Judgement.ofFile (some f) (w.take n).1 := by
      simp only [Judgement.ofBatch, phase, file]
    have verdicts := Judgement.verdict_watching phase s.target.name (w.take n).1
    rw [judged] at verdicts ⊢
    unfold act
    rcases verdicts with idle | changed | gone
    · have left := (follows_of_idle follows idle).onward taken.sound onward
      simp only [idle]
      exact After.pure fun _ => ⟨placed, fun _ => ⟨f, file, left⟩⟩
    · have attached := attached_of_taken (n := n) follows.attached (by simp [changed])
      simp only [changed]
      apply After.bind (note_onward t _ w₁)
      intro _ w₂ noted
      have later := onward.trans noted
      exact refresh_attentive own (taken.onward later) file
        (attached.warns taken.sound later.warns)
    · simp only [gone]
      apply After.bind (note_onward t _ w₁)
      intro _ w₂ noted
      exact awaitFile_attentive own (placed.onward noted)

end Sentry

namespace Bench.Shared

/-- What the watch reaches on a shared stage while every operation succeeds. Each operation comes
with what the other party does between its calls. -/
inductive Reach (job : Assignment) (t : Target) (first : Shared) : Shared → Sentry → Prop where
  | start {plan : List (List Meddling)} {w : Shared} {s : Sentry}
      (began : (Sentry.ofTarget t).start (host t.file) job (first.planned plan) =
        ((.ok (), s), w)) : Reach job t first w s
  | suffer {w : Shared} {s : Sentry} (before : Reach job t first w s) (acts : List Meddling) :
      Reach job t first (w.suffer t.file acts) s
  | attend {plan : List (List Meddling)} {n : Nat} {w w' : Shared} {s s' : Sentry}
      (before : Reach job t first w s)
      (attended : s.attend (host t.file) job (w.take n).1 ((w.take n).2.planned plan) =
        ((.ok (), s'), w')) : Reach job t first w' s'
  | recheck {plan : List (List Meddling)} {w w' : Shared} {s s' : Sentry}
      (before : Reach job t first w s)
      (rechecked : s.recheck (host t.file) job (w.planned plan) = ((.ok (), s'), w')) :
      Reach job t first w' s'

variable {first : Shared} {s : Sentry}

theorem Reach.attentive (reach : Reach job t first w s) (own : job.path = t.file)
    (sound : first.notifier.Sound) : s.Attentive job t w := by
  induction reach with
  | @start plan _ _ began =>
    have planned : (first.planned plan).notifier.Sound := sound
    exact (Sentry.start_attentive own planned).of_run began rfl
  | suffer before acts ih => exact ih.onward (suffer_onward t acts _)
  | attend before attended ih =>
    exact (Sentry.attend_attentive own ih _ _).of_run attended rfl
  | @recheck plan w _ _ _ before rechecked ih =>
    have ready := ih.onward (replan_onward t w plan)
    exact (Sentry.recheck_attentive own ready).of_run rechecked rfl

end Bench.Shared

/-- On a stage without registrations, whatever another party does to the file between the calls of
the watch and between its operations: when nothing is queued and the file is watched, the last order
is for what the file held when it was last looked at, and the file holds that still unless it held
something else already when it was registered after that look. -/
theorem order_at_rest {job : Assignment} {t : Target} {first w : Shared} {s : Sentry}
    (own : job.path = t.file) (unwatched : first.notifier.active = [])
    (undropped : first.notifier.dropped = []) (reach : Reach job t first w s)
    (quiet : w.notifier.pending = []) (watching : s.held.phase = .watching) :
    ∃ content, w.seen = some content ∧
      w.served.getLast? = some (job.verbOf content, job.service) ∧
      (w.now t.file = some content ↔ w.outdated = false) := by
  have sound : first.notifier.Sound :=
    ⟨by simp [unwatched], by simp [undropped], by simp [unwatched]⟩
  obtain ⟨f, -, -, ⟨content, seen, last⟩, current⟩ :=
    (reach.attentive own sound).follows watching
  refine ⟨content, seen, last, ?_⟩
  rcases current with ⟨e, queued, -⟩ | known
  · simp [quiet] at queued
  · rw [← seen]
    exact known

open Example in
/-- The file goes and another arrives, and while the order for that one is given it is replaced in
turn. The directory hears of this, but its registration is ended before anyone asks. -/
theorem order_at_rest_after_promotion : ∃ (w : Shared) (s : Sentry),
    job.path = target.file ∧ Reach job target (.ofScene stage) w s ∧
    w.notifier.pending = [] ∧ s.held.phase = .watching ∧
    w.now target.file = some [0x78] ∧ w.outdated = true ∧
    ∃ content, w.seen = some content ∧
      w.served.getLast? = some (job.verbOf content, job.service) ∧
      (w.now target.file = some content ↔ w.outdated = false) := by
  have own : job.path = target.file := rfl
  have began : Reach job target (.ofScene stage) _ _ := @Reach.start _ _ _ [] _ _ rfl
  have missed := @Reach.attend _ _ _ [] 2 _ _ _ _ (began.suffer [.remove]) rfl
  have looked := @Reach.attend _ _ _ [[], [.replace [0x78]]] 1 _ _ _ _
    (missed.suffer [.replace [0x6d]]) rfl
  have late := @Reach.attend _ _ _ [] 1 _ _ _ _ looked rfl
  exact ⟨_, _, own, late, rfl, rfl, rfl, rfl, order_at_rest own rfl rfl late rfl rfl⟩

open Example in
/-- The file is written while the first order is given. Nothing is queued, as no one had registered
it, and the order stays as it was. -/
theorem start_misses_rewrite :
    let ran := (Sentry.ofTarget target).start (host target.file) job
      ((ofScene stage).planned [[], [.rewrite [0x78]]])
    ran.1.1 = .ok () ∧ ran.1.2.held.phase = .watching ∧ ran.2.notifier.pending = [] ∧
      ran.2.now target.file = some [0x78] ∧ job.verbOf [0x78] = .disable ∧
      ran.2.served = [(.enable, job.service)] :=
  ⟨rfl, rfl, rfl, rfl, rfl, by decide⟩

end RoleWatch
