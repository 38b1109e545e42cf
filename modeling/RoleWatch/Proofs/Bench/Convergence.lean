import RoleWatch.Proofs.Bench.Abreast
import RoleWatch.Proofs.Bench.Trial
import RoleWatch.Proofs.Watch.Verdict

/-!
Events alone keep the watch in line with its file. Whenever the queue has run dry the phase is the
one that the files call for and the last order is for what is in the file, in whatever order things
happen and are told.
-/
namespace RoleWatch

open Bench

namespace Sentry

variable {job : Assignment} {t : Target} {s : Sentry} {scene scene' : Scene}

/-- What the watch does not know of its file is queued for it. -/
inductive Abreast (job : Assignment) (t : Target) (scene : Scene) : Holding → Prop where
  | awaiting {d : Handle} (awaited : t.Awaited d scene.notifier) :
      Abreast job t scene ⟨.awaiting, some d, none⟩
  | watching {f : Handle} (watched : t.Watched job f scene.notifier scene.served) :
      Abreast job t scene ⟨.watching, none, some f⟩

structure KeepsUp (job : Assignment) (t : Target) (ending : Ending) (scene : Scene) : Prop where
  ok : ending.1 = .ok ()
  setting : t.Setting scene.notifier
  abreast : Abreast job t scene ending.2.held

section Looking

variable (own : job.path = t.file) (setting : t.Setting scene.notifier)

include own setting

theorem KeepsUp.of_found {content : Bytes} {f : Handle} {s' : Sentry}
    (holds : scene.notifier.tree.Holds job.path content)
    (watching : s'.held = ⟨.watching, none, some f⟩)
    (new : scene.notifier.Issued scene'.notifier f)
    (went : scene.Goes [(job.verbOf content, job.service)] scene') :
    KeepsUp job t (.ok (), s') scene' := by
  refine ⟨rfl, setting.steady went.steady, ?_⟩
  rw [watching]
  refine .watching ⟨new.2, .inr ⟨setting.not_dropped went.steady new, content, ?_, .inr ?_⟩⟩
  · rw [went.steady.tree, ← own]
    exact holds
  · rw [went.served, List.getLast?_concat]

theorem KeepsUp.of_missing {d : Handle} {s' : Sentry}
    (silent : scene.notifier.tree.Silent job.path)
    (awaiting : s'.held = ⟨.awaiting, some d, none⟩)
    (new : scene.notifier.Issued scene'.notifier d) (went : scene.Goes [] scene') :
    KeepsUp job t (.ok (), s') scene' := by
  have after := setting.steady went.steady
  refine ⟨rfl, after, ?_⟩
  rw [awaiting]
  refine .awaiting ⟨new.2, setting.not_dropped went.steady new, ?_, .inl (after.absent ?_)⟩
  · intro e member named _ _
    have old := setting.pending e (went.steady.pending ▸ member) d named
    exact Nat.not_lt.2 new.1 old
  · rw [went.steady.tree, ← own]
    exact silent

theorem Looked.keepsUp {ending : Ending} (looked : s.Looked job scene ending scene')
    (target : s.target = t) (free : s.held.dir = none) : KeepsUp job t ending scene' := by
  cases looked with
  | found holds watching new went => exact .of_found own setting holds watching new went
  | missing silent awaiting known went =>
    have new := known.resolve_left (by simp [free])
    exact .of_missing own setting silent awaiting new went
  | lost gone =>
    have there := setting.present
    rw [target, Tree.exists?, Tree.get?] at gone
    rw [gone] at there
    exact absurd there (by simp)

end Looking

section Operations

variable (own : job.path = t.file) (room : 1 ≤ job.lineLimit) (setting : t.Setting scene.notifier)

include own room setting

theorem start_keepsUp : After ((ofTarget t).start Scene.host job) scene (KeepsUp job t) :=
  After.mono (start_looked room own setting.refusals) fun _ _ looked =>
    looked.keepsUp own setting rfl rfl

theorem awaitFile_keepsUp {f : Handle} :
    After ((⟨t, .watching, none, some f⟩ : Sentry).awaitFile Scene.host job) scene
      (KeepsUp job t) :=
  After.mono (awaitFile_looked room own setting.refusals) fun _ _ looked =>
    looked.keepsUp own setting rfl rfl

theorem promote_keepsUp {d : Handle} (issued : d.id < scene.notifier.nextId)
    (live : d ∉ scene.notifier.dropped)
    (stays : ∀ e ∈ scene.notifier.pending, e.handle = some d → e.name = none →
      ¬ e.mask.meets Mask.gone = true) :
    After ((⟨t, .awaiting, some d, none⟩ : Sentry).promote Scene.host job) scene
      (KeepsUp job t) := by
  rcases scene.notifier.tree.silent_or_holds job.path with silent | ⟨content, holds⟩
  · apply After.mono (promote_of_silent silent)
    rintro _ w ⟨rfl, went⟩
    have absent := setting.absent (own ▸ silent)
    refine ⟨rfl, went.notifier ▸ setting, .awaiting ?_⟩
    rw [went.notifier]
    exact ⟨issued, live, stays, .inl absent⟩
  · apply After.mono (promote_of_holds (s := ⟨t, .awaiting, some d, none⟩) room own
      setting.refusals holds)
    rintro ⟨_, _⟩ w ⟨rfl, f, watching, new, went⟩
    exact .of_found own setting holds watching new went

theorem refresh_keepsUp {f : Handle} (issued : f.id < scene.notifier.nextId)
    (word : (∃ e ∈ scene.notifier.pending, e.handle = some f ∧ e.mask.meets Mask.gone = true) ∨
      f ∉ scene.notifier.dropped) :
    After ((⟨t, .watching, none, some f⟩ : Sentry).refresh Scene.host job) scene
      (KeepsUp job t) := by
  rcases scene.notifier.tree.silent_or_holds job.path with silent | ⟨content, holds⟩
  · exact After.mono (refresh_of_silent room own setting.refusals silent) fun _ _ looked =>
      looked.keepsUp own setting rfl rfl
  · apply After.mono (refresh_of_holds room holds)
    rintro _ w ⟨rfl, told⟩
    refine ⟨rfl, told.notifier ▸ setting, .watching ?_⟩
    have last : w.served.getLast? = some (job.verbOf content, job.service) := by
      rw [told.served, List.getLast?_concat]
    rw [told.notifier]
    exact ⟨issued, word.imp id fun live => ⟨live, content, own ▸ holds, .inr last⟩⟩

theorem recheck_keepsUp (target : s.target = t) (abreast : Abreast job t scene s.held) :
    After (s.recheck Scene.host job) scene (KeepsUp job t) := by
  obtain ⟨_, held⟩ := s
  obtain rfl : _ = t := target
  apply After.bind (Scene.note_orders _ scene)
  intro _ w began
  have setting' := began.notifier.symm ▸ setting
  cases abreast with
  | awaiting awaited =>
    rw [← began.notifier] at awaited
    exact promote_keepsUp own room setting' awaited.issued awaited.live awaited.stays
  | watching watched =>
    rw [← began.notifier] at watched
    exact refresh_keepsUp own room setting' watched.issued (watched.word.imp id And.left)

/-- What a batch says of the awaited file is all there was to know of it. -/
theorem attend_awaiting {d : Handle} {batch : List Event} (quiet : scene.notifier.pending = [])
    (issued : d.id < scene.notifier.nextId) (live : d ∉ scene.notifier.dropped)
    (stays : ∀ e ∈ batch, e.handle = some d → e.name = none → ¬ e.mask.meets Mask.gone = true)
    (announced : scene.notifier.tree.get? t.file = none ∨ ∃ e ∈ batch,
      e.handle = some d ∧ e.name = some t.name ∧ e.mask.meets Mask.appeared = true) :
    After ((⟨t, .awaiting, some d, none⟩ : Sentry).attend Scene.host job batch) scene
      (KeepsUp job t) := by
  refine attend_of_act fun w noted => ?_
  rw [← noted.notifier] at setting quiet issued live announced
  have nothing : ∀ e ∈ w.notifier.pending, e.handle = some d → e.name = none →
      ¬ e.mask.meets Mask.gone = true := by simp [quiet]
  have kept : (Judgement.ofDirectory (some d) t.name batch).verdict ≠ .directoryGone := by
    intro gone
    obtain ⟨e, member, named, nameless, meets⟩ := Judgement.ofDirectory_directoryGone_iff.1 gone
    exact stays e member named nameless meets
  have phase : (⟨.awaiting, some d, none⟩ : Holding).phase = .awaiting := rfl
  rcases Judgement.verdict_awaiting phase t.name batch with idle | appeared | gone
  · have absent : w.notifier.tree.get? t.file = none := by
      refine announced.resolve_right fun told => ?_
      have appeared := Judgement.ofDirectory_appeared_iff.2 ⟨kept, .inr told⟩
      exact absurd (idle.symm.trans appeared) (by simp)
    simp only [act, idle]
    exact After.pure ⟨rfl, setting, .awaiting ⟨issued, live, nothing, .inl absent⟩⟩
  · simp only [act, appeared]
    apply After.bind (Scene.note_orders _ w)
    intro _ w' told
    have same := told.notifier.symm
    exact promote_keepsUp own room (same ▸ setting) (same ▸ issued) (same ▸ live) (same ▸ nothing)
  · exact absurd gone kept

theorem attend_watching {f : Handle} {batch : List Event}
    (issued : f.id < scene.notifier.nextId)
    (word : (∃ e ∈ batch, e.handle = some f ∧ e.mask.meets Mask.gone = true) ∨
      (f ∉ scene.notifier.dropped ∧ ∃ content, scene.notifier.tree.Holds t.file content ∧
        ((∃ e ∈ batch, e.handle = some f ∧ e.mask.has .modify = true) ∨
          scene.served.getLast? = some (job.verbOf content, job.service)))) :
    After ((⟨t, .watching, none, some f⟩ : Sentry).attend Scene.host job batch) scene
      (KeepsUp job t) := by
  refine attend_of_act fun w noted => ?_
  have served : w.served = scene.served := by rw [noted.served, List.append_nil]
  rw [← noted.notifier] at setting issued word
  rw [← served] at word
  -- A file that went would have been judged gone, so in the other cases it is still there.
  have there : (Judgement.ofFile (some f) batch).verdict ≠ .fileGone → f ∉ w.notifier.dropped ∧
      ∃ content, w.notifier.tree.Holds t.file content ∧
        ((∃ e ∈ batch, e.handle = some f ∧ e.mask.has .modify = true) ∨
          w.served.getLast? = some (job.verbOf content, job.service)) :=
    fun kept => word.resolve_left fun told => kept (Judgement.ofFile_fileGone_iff.2 told)
  have phase : (⟨.watching, none, some f⟩ : Holding).phase = .watching := rfl
  rcases Judgement.verdict_watching phase t.name batch with idle | changed | gone
  · have kept : (Judgement.ofFile (some f) batch).verdict ≠ .fileGone :=
      fun gone => absurd (idle.symm.trans gone) (by simp)
    obtain ⟨live, content, holds, known⟩ := there kept
    have last : w.served.getLast? = some (job.verbOf content, job.service) := by
      refine known.resolve_left fun told => ?_
      have changed := Judgement.ofFile_changed_iff.2 ⟨kept, told⟩
      exact absurd (idle.symm.trans changed) (by simp)
    simp only [act, idle]
    exact After.pure ⟨rfl, setting, .watching ⟨issued, .inr ⟨live, content, holds, .inr last⟩⟩⟩
  · have kept : (Judgement.ofFile (some f) batch).verdict ≠ .fileGone :=
      fun gone => absurd (changed.symm.trans gone) (by simp)
    simp only [act, changed]
    apply After.bind (Scene.note_orders _ w)
    intro _ w' told
    have same := told.notifier.symm
    exact refresh_keepsUp own room (same ▸ setting) (same ▸ issued) (.inr (same ▸ (there kept).1))
  · simp only [act, gone]
    apply After.bind (Scene.note_orders _ w)
    intro _ w' told
    exact awaitFile_keepsUp own room (told.notifier.symm ▸ setting)

end Operations

end Sentry

namespace Bench

theorem Scene.wait_calm {scene : Scene} (calm : scene.notifier.cues = []) (span : Millis) :
    After (Scene.wait span) scene fun answer scene' =>
      (answer = .ok (.events scene.notifier.pending) ∨
        answer = .ok .timedOut ∧ scene.notifier.pending = []) ∧
      scene'.notifier = { scene.notifier with reads := scene.notifier.reads + 1, pending := [] } ∧
      scene'.served = scene.served := by
  have handed : After (Scene.onNotifier Notifier.read) scene fun answer scene' =>
      (answer = some (.ok (.events scene.notifier.pending)) ∨
        answer = none ∧ scene.notifier.pending = []) ∧
      scene'.notifier = { scene.notifier with reads := scene.notifier.reads + 1, pending := [] } ∧
      scene'.served = scene.served := by
    have read := Notifier.read_of_plain calm
    rw [← calm] at read
    unfold After Scene.onNotifier
    rw [read]
    refine ⟨?_, rfl, rfl⟩
    dsimp only [Notifier.handOut, Notifier.withScript]
    split
    · exact .inr ⟨rfl, by assumption⟩
    · exact .inl rfl
  apply After.bind handed
  rintro answer w ⟨rfl | ⟨rfl, empty⟩, drained, served⟩
  · exact After.pure ⟨.inl rfl, drained, served⟩
  · exact After.pure ⟨.inr ⟨rfl, empty⟩, drained, served⟩

end Bench

/-- The steps of a trial in which only what is expected happens near a target, and what is queued
is handed out as it is. -/
inductive Target.Expects (t : Target) (scene : Scene) : Deed → Prop where
  | happen {activity : Activity} (nearby : t.Nearby scene.notifier.tree activity) :
      Expects t scene (.happen activity)
  | deliver (span : Millis) : Expects t scene (.deliver span)
  | recheck : Expects t scene .recheck

theorem Target.Setting.drained {t : Target} {n : Notifier} (setting : t.Setting n) (reads : Nat) :
    t.Setting { n with reads, pending := [] } :=
  ⟨setting.present, setting.file, setting.refusals, setting.cues, by simp, setting.dropped⟩

namespace Sentry

variable {job : Assignment} {t : Target} {s : Sentry} {scene : Scene} {most : Nat}

section Deeds

variable (setting : t.Setting scene.notifier) (target : s.target = t)
  (abreast : Abreast job t scene s.held)

include setting target abreast

theorem happen_keepsUp (whole : t.file.parts = t.place t.name)
    (tidy : s.Tidy (Scene.Lists most) scene) {activity : Activity}
    (nearby : t.Nearby scene.notifier.tree activity) :
    After (Deed.run job s (.happen activity)) scene (KeepsUp job t) := by
  have applied : After (Scene.apply activity) scene fun _ w =>
      w.notifier = scene.notifier.apply activity ∧ w.served = scene.served := ⟨rfl, rfl⟩
  apply After.bind applied
  rintro _ w ⟨notifier, served⟩
  obtain ⟨u, held⟩ := s
  obtain rfl : t = u := target.symm
  have listed := tidy.kept.active
  cases abreast with
  | @awaiting d awaited =>
    have only : scene.notifier.active = [t.dirWatch d] := listed
    refine After.pure ⟨rfl, ?_, .awaiting ?_⟩
    · exact notifier ▸ setting.apply whole nearby only awaited.issued
    · exact notifier ▸ awaited.apply setting whole nearby only
  | @watching f watched =>
    have only : scene.notifier.active = [t.fileWatch f] := listed
    refine After.pure ⟨rfl, ?_, .watching ?_⟩
    · exact notifier ▸ setting.apply whole nearby only watched.issued
    · rw [notifier, served]
      exact watched.apply setting whole nearby only

theorem deliver_keepsUp (own : job.path = t.file) (room : 1 ≤ job.lineLimit) (span : Millis) :
    After (Deed.run job s (.deliver span)) scene (KeepsUp job t) := by
  apply After.bind (Scene.wait_calm setting.cues span)
  rintro answer w ⟨handed, drained, served⟩
  have after : t.Setting w.notifier := drained ▸ setting.drained _
  obtain ⟨u, held⟩ := s
  obtain rfl : t = u := target.symm
  rcases handed with rfl | ⟨rfl, empty⟩
  · cases abreast with
    | awaiting awaited =>
      refine attend_awaiting own room after ?_ ?_ ?_ awaited.stays ?_
      · rw [drained]
      · rw [drained]
        exact awaited.issued
      · rw [drained]
        exact awaited.live
      · rw [drained]
        exact awaited.announced
    | watching watched =>
      refine attend_watching own room after ?_ ?_
      · rw [drained]
        exact watched.issued
      · rw [drained, served]
        exact watched.word
  · refine After.pure ⟨rfl, after, ?_⟩
    cases abreast with
    | awaiting awaited =>
      refine .awaiting (drained ▸ ⟨awaited.issued, awaited.live, by simp, ?_⟩)
      exact awaited.announced.imp id (by simp [empty])
    | watching watched =>
      refine .watching (drained ▸ served ▸ ⟨watched.issued, ?_⟩)
      simpa [empty] using watched.word

end Deeds

theorem expected_keepsUp {deed : Deed} (whole : t.file.parts = t.place t.name)
    (own : job.path = t.file) (room : 1 ≤ job.lineLimit) (setting : t.Setting scene.notifier)
    (target : s.target = t) (tidy : s.Tidy (Scene.Lists most) scene)
    (abreast : Abreast job t scene s.held) (expected : t.Expects scene deed) :
    After (deed.run job s) scene (KeepsUp job t) := by
  cases expected with
  | happen nearby => exact happen_keepsUp setting target abreast whole tidy nearby
  | deliver span => exact deliver_keepsUp setting target abreast own room span
  | recheck => exact recheck_keepsUp own room setting target abreast

theorem Abreast.inLine (abreast : Abreast job t scene s.held)
    (quiet : scene.notifier.pending = []) :
    (s.held.phase = .watching ↔ scene.notifier.tree.exists? t.file = true) ∧
      (scene.notifier.tree.exists? t.file = true → ∃ content,
        scene.notifier.tree.get? t.file = some (.file content) ∧
          scene.served.getLast? = some (job.verbOf content, job.service)) := by
  generalize s.held = held at abreast
  cases abreast with
  | awaiting awaited =>
    have absent : scene.notifier.tree.get? t.file = none := by simpa [quiet] using awaited.announced
    simp [Tree.exists?, absent]
  | watching watched =>
    have word := watched.word
    simp only [quiet, List.not_mem_nil, false_and, exists_false, false_or] at word
    obtain ⟨-, content, ⟨found, -⟩, last⟩ := word
    simp [Tree.exists?, found, last]

end Sentry

theorem Bench.Trial.abreast {job : Assignment} {t : Target} {first scene : Scene} {s : Sentry}
    (trial : Trial job t first t.Expects scene s) (whole : t.file.parts = t.place t.name)
    (own : job.path = t.file) (room : 1 ≤ job.lineLimit) (setting : t.Setting first.notifier)
    (empty : first.notifier.active = []) :
    t.Setting scene.notifier ∧ Sentry.Abreast job t scene s.held := by
  -- What is listed comes from `Trial.tidy`; the invariant proper is what is queued and known.
  have most : 2 ≤ max 2 first.notifier.maxActive := Nat.le_max_left ..
  induction trial with
  | start began =>
    have kept := (Sentry.start_keepsUp own room setting).of_run began
    exact ⟨kept.setting, kept.abreast⟩
  | step before expected did ih =>
    obtain ⟨target, tidy, -⟩ := before.tidy most ⟨empty, Nat.le_max_right ..⟩
    have kept := (Sentry.expected_keepsUp whole own room ih.1 target tidy ih.2 expected).of_run did
    exact ⟨kept.setting, kept.abreast⟩

/-- Over a tree with the target's directory, in which the target is missing or not empty, the watch
begins and every operation succeeds, in any order of what is expected. Whenever nothing is queued,
the file is watched exactly if it is there, and the last order is for what is in it. -/
theorem events_converge {p : Path} {t : Target} {job : Assignment} {tree : Tree}
    (split : Target.ofPath p = .ok t) (own : job.path = p) (room : 1 ≤ job.lineLimit)
    (dir : tree.isDirectory t.dir = true)
    (file : tree.get? t.file = none ∨ ∃ content, tree.Holds t.file content) (refuses : Bool)
    (readings : List Millis) :
    ((Sentry.ofTarget t).start Scene.host job (.ofTree tree refuses readings)).1.1 = .ok () ∧
    ∀ scene s, Trial job t (.ofTree tree refuses readings) t.Expects scene s →
      (∀ deed, t.Expects scene deed → (deed.run job s scene).1.1 = .ok ()) ∧
      (scene.notifier.pending = [] →
        (s.held.phase = .watching ↔ scene.notifier.tree.exists? t.file = true) ∧
        (scene.notifier.tree.exists? t.file = true → ∃ content,
          scene.notifier.tree.get? t.file = some (.file content) ∧
          scene.served.getLast? = some (job.verbOf content, job.service))) := by
  obtain ⟨rfl, whole⟩ := Target.parts_of_ofPath split
  have present : (tree.at? t.dir.parts).isSome = true := by
    have found : tree.at? t.dir.parts = some .directory := of_decide_eq_true dir
    rw [found]
    rfl
  have setting : t.Setting (Scene.ofTree tree refuses readings).notifier :=
    ⟨present, file, rfl, rfl, by simp [Scene.ofTree, Notifier.ofTree],
      by simp [Scene.ofTree, Notifier.ofTree]⟩
  refine ⟨(Sentry.start_keepsUp own room setting).ok, fun scene s trial => ?_⟩
  obtain ⟨now, abreast⟩ := trial.abreast whole own room setting rfl
  refine ⟨fun deed expected => ?_, abreast.inLine⟩
  have most : 2 ≤ max 2 0 := Nat.le_max_left ..
  obtain ⟨target, tidy, -⟩ := trial.tidy most ⟨rfl, Nat.zero_le _⟩
  exact (Sentry.expected_keepsUp whole own room now target tidy abreast expected).ok

open Example in
/-- The file declares a master at first; it is deleted and made again with other content, and the
watch hears of both. -/
theorem events_converge_after_recreation : ∃ (before : Scene) (s₀ : Sentry) (scene : Scene)
    (s : Sentry), Target.ofPath target.file = .ok target ∧ job.path = target.file ∧
    1 ≤ job.lineLimit ∧ stage.notifier.tree.isDirectory target.dir = true ∧
    stage.notifier.tree.Holds target.file [0x6d] ∧
    Trial job target stage target.Expects before s₀ ∧ before.notifier.pending = [] ∧
    s₀.held.phase = .watching ∧ before.served.getLast? = some (.enable, "s") ∧
    Trial job target stage target.Expects scene s ∧ scene.notifier.pending = [] ∧
    s.held.phase = .watching ∧ scene.served.getLast? = some (.disable, "s") := by
  have split : Target.ofPath target.file = .ok target := rfl
  have own : job.path = target.file := rfl
  have room : 1 ≤ job.lineLimit := by decide
  have dir : stage.notifier.tree.isDirectory target.dir = true := by decide
  have holds : stage.notifier.tree.Holds target.file [0x6d] := ⟨rfl, by decide⟩
  have began : Trial job target stage target.Expects _ _ := .of_start rfl
  have deleted := began.of_step (.happen (.delete target.file)) (.happen (.delete rfl)) rfl
  have missed := deleted.of_step (.deliver 0) (.deliver 0) rfl
  have made := missed.of_step (.happen (.create target.file [0x78]))
    (.happen (.create rfl fun _ => by decide)) rfl
  have heard := made.of_step (.deliver 0) (.deliver 0) rfl
  have converged := events_converge split own room dir (.inr ⟨_, holds⟩) false []
  obtain ⟨phase, order⟩ := (converged.2 _ _ heard).2 rfl
  obtain ⟨phase₀, order₀⟩ := (converged.2 _ _ began).2 rfl
  obtain ⟨content, found, last⟩ := order rfl
  have same : some (Node.file content) = some (Node.file [0x78]) := found.symm.trans rfl
  obtain rfl : content = [0x78] := by simpa using same
  obtain ⟨content₀, found₀, last₀⟩ := order₀ rfl
  have same₀ : some (Node.file content₀) = some (Node.file [0x6d]) := found₀.symm.trans rfl
  obtain rfl : content₀ = [0x6d] := by simpa using same₀
  exact ⟨_, _, _, _, split, own, room, dir, holds, began, rfl, phase₀.2 rfl, last₀, heard, rfl,
    phase.2 rfl, last⟩

end RoleWatch
