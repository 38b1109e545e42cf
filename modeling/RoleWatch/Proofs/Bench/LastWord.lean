import RoleWatch.Proofs.Bench.Nearby
import RoleWatch.Proofs.Bench.Outcome
import RoleWatch.Proofs.Bench.Trial
import RoleWatch.Proofs.Watch.Verdict

/-!
A registration whose object is gone is dropped with a last word in the queue. As long as the watch
holds that registration the word is still there to be read, and the batch that has it takes the
registration away from the watch, so after each batch what the watch holds is alive.
-/
namespace RoleWatch

theorem Holding.asked_deleteSelf {t : Target} {held : Holding} :
    ∀ r ∈ held.registrations t, r.interest.has .deleteSelf = true := by
  intro r member
  have file : Mask.fileInterest.has .deleteSelf = true := by decide
  have dir : Mask.directoryInterest.has .deleteSelf = true := by decide
  simp only [registrations, List.mem_append, Option.mem_toList, Option.map_eq_some_iff] at member
  rcases member with ⟨f, -, rfl⟩ | ⟨d, -, rfl⟩
  · exact file
  · exact dir

theorem Holding.handles_eq (t : Target) (held : Holding) :
    held.handles = (held.registrations t).map Registration.handle := by
  obtain ⟨phase, dir, file⟩ := held
  cases dir <;> cases file <;> rfl

theorem Holding.handles_of_settled {held : Holding} (settled : held.Settled) :
    ∃ h, held.handles = [h] := by
  rcases settled_cases settled with ⟨d, rfl⟩ | ⟨f, rfl⟩
  · exact ⟨d, rfl⟩
  · exact ⟨f, rfl⟩

namespace Bench

namespace Notifier

/-- Nothing queued is lost, and what is newly dropped is told so if it asked for that. -/
structure Warns (n n' : Notifier) : Prop where
  undisturbed : Undisturbed n n'
  kept : ∀ e ∈ n.pending, e ∈ n'.pending
  dropped : ∀ h ∈ n'.dropped, h ∈ n.dropped ∨ ∃ r ∈ n.active, r.handle = h ∧
    (r.interest.has .deleteSelf = true → ∃ e ∈ n'.pending, e.Ends (some h))

namespace Warns

theorem refl (n : Notifier) : Warns n n where
  undisturbed := .refl n
  kept _ member := member
  dropped _ member := .inl member

theorem trans {a b c : Notifier} (first : Warns a b) (second : Warns b c) : Warns a c where
  undisturbed := first.undisturbed.trans second.undisturbed
  kept e member := second.kept e (first.kept e member)
  dropped h member := by
    rcases second.dropped h member with earlier | ⟨r, active, named, told⟩
    · rcases first.dropped h earlier with before | ⟨r, active, named, told⟩
      · exact .inl before
      · refine .inr ⟨r, active, named, fun asked => ?_⟩
        obtain ⟨e, queued, ends⟩ := told asked
        exact ⟨e, second.kept e queued, ends⟩
    · rw [first.undisturbed.active] at active
      exact .inr ⟨r, active, named, told⟩

theorem of_ripple {place : Place} {n n' : Notifier} (ripple : Ripple place n n')
    (same : n'.dropped = n.dropped) : Warns n n' where
  undisturbed := ripple.undisturbed
  kept := ripple.kept
  dropped _ member := .inl (same ▸ member)

end Warns

theorem tellSelf_ends {n : Notifier} {p : Path} {r : Registration}
    (listens : r ∈ n.listeners p.parts) (asked : r.interest.has .deleteSelf = true) :
    ∃ e ∈ (n.tellSelf p (.ofFlags [.deleteSelf])).pending, e.Ends (some r.handle) := by
  have said : (Mask.ofFlags [.deleteSelf]).has .deleteSelf = true := by decide
  obtain ⟨has, nonempty⟩ := hears_flag asked said
  have gone : Mask.gone.has .deleteSelf = true := by decide
  refine ⟨.onSelf r.handle (r.hears (.ofFlags [.deleteSelf])), ?_, rfl, rfl, ?_⟩
  · exact List.mem_append_right _ (mem_heard.2 ⟨r, listens, nonempty, rfl⟩)
  · exact Mask.meets_iff.2 ⟨.deleteSelf, has, gone⟩

theorem takeAway_warns (n : Notifier) (p : Path) : Warns n (n.takeAway p) where
  undisturbed := takeAway_undisturbed n p
  kept e member := mem_drop (List.mem_append_left _ member) p
  dropped h member := by
    rcases List.mem_append.1 member with earlier | new
    · exact .inl earlier
    · obtain ⟨r, listens, rfl⟩ := List.mem_map.1 new
      have active := (mem_listeners.1 listens).1
      refine .inr ⟨r, active, rfl, fun asked => ?_⟩
      obtain ⟨e, queued, ends⟩ := tellSelf_ends (n := n) listens asked
      exact ⟨e, mem_drop queued p, ends⟩

variable (n : Notifier)

theorem withTree_warns (tree : Tree) : Warns n (n.withTree tree) :=
  .of_ripple (withTree_ripple n [] tree) rfl

theorem create_warns (p : Path) (content : Bytes) : Warns n (n.create p content) := by
  refine .of_ripple (create_ripple ..) ?_
  unfold create
  split <;> simp [write]

theorem write_warns (p : Path) (content : Bytes) : Warns n (n.write p content) :=
  .of_ripple (write_ripple ..) (by simp [write])

theorem move_warns (source target : Path) : Warns n (n.move source target) := by
  refine .of_ripple (move_ripple ..) ?_
  unfold move
  split <;> simp

theorem tellParent_warns (p : Path) (mask : Mask) : Warns n (n.tellParent p mask) :=
  .of_ripple (tellParent_ripple n p.parts p mask) (by simp)

theorem delete_warns (p : Path) : Warns n (n.delete p) := by
  unfold delete
  split
  · exact .refl n
  · exact ((withTree_warns ..).trans (takeAway_warns ..)).trans (tellParent_warns ..)

theorem removeDirectory_warns (dir : Path) : Warns n (n.removeDirectory dir) := by
  cases removed : n.tree.remove? dir with
  | none =>
    simp only [removeDirectory, removed]
    exact .refl n
  | some tree =>
    rw [removeDirectory_eq removed]
    exact (withTree_warns ..).trans (sweep_related _ .refl .trans takeAway_warns ..)

theorem apply_warns (a : Activity) : Warns n (n.apply a) := by
  cases a with
  | addFile | addDirectory | remove | rename => exact withTree_warns ..
  | create p content => exact create_warns ..
  | write p content => exact write_warns ..
  | delete p => exact delete_warns ..
  | move source target => exact move_warns ..
  | removeDirectory p => exact removeDirectory_warns ..
  | push e =>
    exact ⟨⟨rfl, rfl, rfl, rfl⟩, fun _ member => List.mem_append_left _ member,
      fun _ member => .inl member⟩
  | refuseNext | later =>
    exact ⟨⟨rfl, rfl, rfl, rfl⟩, fun _ member => member, fun _ member => .inl member⟩

theorem applyAll_warns (activities : List Activity) : Warns n (n.applyAll activities) :=
  applyAll_related _ .refl .trans apply_warns n activities

/-- What a read leaves: the queue it found as a batch and nothing in its place, or else the queue
as it was. -/
inductive Read (m : Notifier) : Option (Except IoError Arrival) × Notifier → Prop where
  | batch : Read m (some (.ok (.events m.pending)), { m with pending := [] })
  | nothing {answer : Option (Except IoError Arrival)}
      (empty : ∀ batch, answer ≠ some (.ok (.events batch))) : Read m (answer, m)

theorem handOut_read (m : Notifier) : Read m m.handOut := by
  unfold handOut
  split
  · rename_i empty
    have same : { m with pending := [] } = m := by rw [← empty]
    rw [same]
    exact .nothing (by simp)
  · exact .batch

theorem read_warns : ∃ m, Warns n m ∧ Read m n.read := by
  have went := n.read_reads
  generalize n.read = out at went
  have met (cues : List Cue) (reads : Nat) : Warns n (n.withScript cues reads) :=
    ⟨⟨rfl, rfl, rfl, rfl⟩, fun _ member => member, fun _ member => .inl member⟩
  cases went with
  | plain => exact ⟨_, met _ _, handOut_read _⟩
  | acted => exact ⟨_, (met _ _).trans (applyAll_warns _ _), handOut_read _⟩
  | interrupted | failed => exact ⟨_, met _ _, .nothing (by simp)⟩

theorem addWatch_issues (p : Path) (interest : Mask) :
    n.nextId ≤ (n.addWatch p interest).2.nextId ∧
      ∀ h, (n.addWatch p interest).1 = .ok h → n.Issued (n.addWatch p interest).2 h := by
  have came := n.addWatch_registers p interest
  generalize n.addWatch p interest = out at came
  cases came with
  | refused | missing => exact ⟨Nat.le_refl _, nofun⟩
  | granted =>
    refine ⟨Nat.le_succ _, ?_⟩
    rintro h ⟨⟩
    exact .of_next rfl

theorem addWatch_granted (p : Path) (interest : Mask) :
    ∀ r ∈ Registration.granted p interest (n.addWatch p interest).1,
      n.Issued (n.addWatch p interest).2 r.handle ∧ r.interest = interest := by
  intro r member
  have new := (n.addWatch_issues p interest).2
  cases answer : (n.addWatch p interest).1 with
  | error cause => simp [answer, Registration.granted] at member
  | ok h =>
    simp only [answer, Registration.granted, List.mem_singleton] at member
    exact member ▸ ⟨new h answer, rfl⟩

end Notifier

namespace Scene

/-- The stage lists these registrations and has this queue, and of those registrations none is
dropped but the doomed. -/
structure Mourns (queue : List Event) (doomed : Handle → Prop) (there : List Registration)
    (scene : Scene) : Prop where
  active : scene.notifier.active = there
  pending : scene.notifier.pending = queue
  issued : ∀ r ∈ there, r.handle.id < scene.notifier.nextId
  old : ∀ h ∈ scene.notifier.dropped, h.id < scene.notifier.nextId
  dropped : ∀ r ∈ there, r.handle ∈ scene.notifier.dropped → doomed r.handle

theorem host_keeps_mourning (t : Target) (queue : List Event) (doomed : Handle → Prop) :
    host.Keeps t (Mourns queue doomed) where
  openFile _ now := now
  addWatch {there scene path interest} _ now := by
    obtain ⟨rfl, rfl, issued, old, dropped⟩ := now
    have later := (scene.notifier.addWatch_issues path interest).1
    have beside := (scene.notifier.addWatch_registers path interest).beside
    have granted := Notifier.addWatch_granted scene.notifier path interest
    refine ⟨Notifier.addWatch_active .., beside.pending, ?_, ?_, ?_⟩
    · intro r member
      rcases List.mem_append.1 member with before | added
      · exact Nat.lt_of_lt_of_le (issued r before) later
      · exact (granted r added).1.2
    · intro h member
      change h ∈ (scene.notifier.addWatch path interest).2.dropped at member
      rw [beside.dropped] at member
      exact Nat.lt_of_lt_of_le (old h member) later
    · intro r member gone
      change r.handle ∈ (scene.notifier.addWatch path interest).2.dropped at gone
      rw [beside.dropped] at gone
      rcases List.mem_append.1 member with before | added
      · exact dropped r before gone
      · have first := (granted r added).1.1
        have known := old r.handle gone
        omega
  removeWatch {there scene handle} _ now := by
    obtain ⟨rfl, rfl, issued, old, dropped⟩ := now
    have steady := Notifier.removeWatch_steady scene.notifier handle
    refine ⟨Notifier.removeWatch_active .., steady.pending, ?_, ?_, ?_⟩
    · exact fun r member =>
        Nat.lt_of_lt_of_le (issued r (List.mem_of_mem_eraseP member)) steady.nextId
    · exact fun h member => Nat.lt_of_lt_of_le (old h (steady.dropped h member)) steady.nextId
    · exact fun r member gone =>
        dropped r (List.mem_of_mem_eraseP member) (steady.dropped r.handle gone)
  perform _ _ now := ⟨now.active, now.pending, now.issued, now.old, now.dropped⟩
  note _ now := ⟨now.active, now.pending, now.issued, now.old, now.dropped⟩

variable {queue : List Event} {doomed : Handle → Prop} {there : List Registration}
  {scene scene' : Scene}

theorem Mourns.of_notifier (mourns : Mourns queue doomed there scene)
    (same : scene'.notifier = scene.notifier) : Mourns queue doomed there scene' := by
  obtain ⟨active, pending, issued, old, dropped⟩ := mourns
  rw [← same] at active pending issued old dropped
  exact ⟨active, pending, issued, old, dropped⟩

theorem Mourns.of_live (mourns : Mourns queue doomed there scene)
    (live : ∀ r ∈ there, r.handle ∉ scene.notifier.dropped) :
    Mourns queue (fun _ => False) there scene where
  active := mourns.active
  pending := mourns.pending
  issued := mourns.issued
  old := mourns.old
  dropped r member gone := live r member gone

theorem Mourns.warned {t : Target} {held : Holding} {n : Notifier}
    (mourns : Mourns queue (fun h => ∃ e ∈ queue, e.Ends (some h)) (held.registrations t) scene)
    (warns : scene.notifier.Warns n) (same : scene'.notifier = n) :
    Mourns n.pending (fun h => ∃ e ∈ n.pending, e.Ends (some h)) (held.registrations t) scene' := by
  subst same
  obtain ⟨active, rfl, issued, old, dropped⟩ := mourns
  have nextId := warns.undisturbed.nextId
  refine ⟨warns.undisturbed.active.trans active, rfl, ?_, ?_, ?_⟩
  · exact fun r member => nextId ▸ issued r member
  · intro h member
    rw [nextId]
    rcases warns.dropped h member with before | ⟨r, listed, rfl, -⟩
    · exact old h before
    · exact issued r (active ▸ listed)
  · intro r member gone
    rcases warns.dropped r.handle gone with before | ⟨q, listed, named, told⟩
    · obtain ⟨e, queued, ends⟩ := dropped r member before
      exact ⟨e, warns.kept e queued, ends⟩
    · exact told (Holding.asked_deleteSelf q (active ▸ listed))

theorem wait_warns (span : Millis) (scene : Scene) :
    After (Scene.wait span) scene fun answer scene' => ∃ n, scene.notifier.Warns n ∧
      (answer = .ok (.events n.pending) ∧ scene'.notifier = { n with pending := [] } ∨
        (∀ batch, answer ≠ .ok (.events batch)) ∧ scene'.notifier = n) := by
  obtain ⟨n, warns, read⟩ := scene.notifier.read_warns
  have handed : After (onNotifier Notifier.read) scene fun answer scene' =>
      n.Read (answer, scene'.notifier) := read
  apply After.bind handed
  rintro answer w read
  generalize left : w.notifier = m at read
  cases read with
  | batch => exact After.pure ⟨n, warns, .inl ⟨rfl, left⟩⟩
  | nothing empty =>
    cases answer with
    | none =>
      have passed : After (pass span) w fun _ w' => w'.notifier = n := left
      exact After.bind passed fun _ _ same => After.pure ⟨n, warns, .inr ⟨by simp, same⟩⟩
    | some arrival => exact After.pure ⟨n, warns, .inr ⟨by simpa using empty, left⟩⟩

end Scene

end Bench

open Bench

namespace Sentry

variable {job : Assignment} {s : Sentry} {scene : Scene}

/-- What the watch holds is listed, and if it was dropped the queue says so. -/
def Informed (s : Sentry) (scene : Scene) : Prop :=
  s.Tidy (Scene.Mourns scene.notifier.pending fun h =>
    ∃ e ∈ scene.notifier.pending, e.Ends (some h)) scene

theorem Done.informed {settled : Prop} {t : Target} {ending : Ending} {queue : List Event}
    (done : Done (Scene.Mourns queue fun h => ∃ e ∈ queue, e.Ends (some h)) settled t ending scene) :
    ending.2.Informed scene := by
  have tidy := done.tidy
  obtain rfl := tidy.kept.pending
  exact tidy

/-- What a read hands out tells of every loss that the queue told of. -/
theorem Informed.wait (informed : s.Informed scene) (span : Millis) :
    After (Scene.wait span) scene fun answer scene' =>
      (∀ batch, answer = .ok (.events batch) →
        s.Tidy (Scene.Mourns [] fun h => ∃ e ∈ batch, e.Ends (some h)) scene') ∧
      ((∀ batch, answer ≠ .ok (.events batch)) → s.Informed scene') := by
  apply After.mono (Scene.wait_warns span scene)
  rintro answer w ⟨n, warns, ⟨rfl, drained⟩ | ⟨nothing, same⟩⟩
  · refine ⟨?_, fun nothing => absurd rfl (nothing _)⟩
    rintro batch ⟨⟩
    have full : ({ w with notifier := n } : Scene).notifier = n := rfl
    obtain ⟨active, -, issued, old, dropped⟩ := informed.kept.warned warns full
    refine ⟨?_, informed.fitting⟩
    constructor <;> rw [drained]
    · exact active
    · exact issued
    · exact old
    · exact dropped
  · have kept := informed.kept.warned warns same
    exact ⟨fun batch handed => absurd handed (nothing batch),
      fun _ => ⟨same ▸ kept, informed.fitting⟩⟩

theorem Tidy.informed {queue : List Event}
    (tidy : s.Tidy (Scene.Mourns queue fun _ => False) scene) : s.Informed scene := by
  obtain ⟨active, rfl, issued, old, dropped⟩ := tidy.kept
  exact ⟨⟨active, rfl, issued, old, fun r member gone => (dropped r member gone).elim⟩,
    tidy.fitting⟩

/-- A batch that says of what is held that it is gone does not leave it with the watch. -/
theorem attend_live {batch : List Event} (settled : s.held.Settled)
    (tidy : s.Tidy (Scene.Mourns [] fun h => ∃ e ∈ batch, e.Ends (some h)) scene) :
    After (s.attend Scene.host job batch) scene fun ending scene' => ending.1 = .ok () →
      ending.2.Tidy (Scene.Mourns [] fun _ => False) scene' := by
  have keeps := Scene.host_keeps_mourning s.target [] fun _ => False
  by_cases lost : ∃ r ∈ s.held.registrations s.target, r.handle ∈ scene.notifier.dropped
  case neg =>
    have live := tidy.kept.of_live fun r member gone => lost ⟨r, member, gone⟩
    exact After.mono (attend_done keeps ⟨live, tidy.fitting⟩ batch) fun _ _ done _ => done.tidy
  obtain ⟨r, member, gone⟩ := lost
  obtain ⟨e, queued, ends⟩ := tidy.kept.dropped r member gone
  refine attend_of_act fun w noted => ?_
  have kept := tidy.kept.of_notifier noted.notifier
  obtain ⟨t, held⟩ := s
  rcases Holding.settled_cases settled with ⟨d, rfl⟩ | ⟨f, rfl⟩
  · -- The directory's end is no batch to go on from.
    obtain rfl : r = t.dirWatch d := by simpa [Holding.registrations] using member
    have verdict : (Judgement.ofDirectory (some d) t.name batch).verdict = .directoryGone :=
      Judgement.ofDirectory_directoryGone_iff.2 ⟨e, queued, ends⟩
    simp only [act, Judgement.ofBatch, verdict]
    exact After.bind (Scene.note_orders _ w) fun _ _ _ => After.pure (by simp)
  · obtain rfl : r = t.fileWatch f := by simpa [Holding.registrations] using member
    have verdict : (Judgement.ofFile (some f) batch).verdict = .fileGone :=
      Judgement.ofFile_fileGone_iff.2 ⟨e, queued, ends.1, ends.2.2⟩
    simp only [act, Judgement.ofBatch, verdict]
    apply After.bind (Scene.note_orders _ w)
    intro _ w₁ told
    have dropped : After (dropHeld Scene.host (some f)) w₁ fun _ w' =>
        Scene.Mourns [] (fun h => ∃ e ∈ batch, e.Ends (some h)) [] w' :=
      dropHeld_keeps (Scene.host_keeps_mourning t [] _) (fun _ => rfl)
        (kept.of_notifier told.notifier)
    have nothing := After.mono dropped fun _ _ left => left.of_live (by simp)
    exact After.mono (awaitFile_done_of_dropped (s := ⟨t, .watching, none, some f⟩) keeps nothing)
      fun _ _ done _ => done.tidy

end Sentry

theorem Bench.Deed.run_informed {job : Assignment} {s : Sentry} {scene : Scene}
    (settled : s.held.Settled) (informed : s.Informed scene) (deed : Deed) :
    After (deed.run job s) scene fun ending scene' =>
      ending.1 = .ok () → ending.2.Informed scene' := by
  have keeps := Scene.host_keeps_mourning s.target scene.notifier.pending fun h =>
    ∃ e ∈ scene.notifier.pending, e.Ends (some h)
  cases deed with
  | happen activity =>
    have warns := scene.notifier.apply_warns activity
    have applied : After (Scene.apply activity) scene fun _ w =>
        w.notifier = scene.notifier.apply activity := rfl
    apply After.bind applied
    intro _ w same
    exact After.pure fun _ => ⟨same ▸ informed.kept.warned warns same, informed.fitting⟩
  | deliver span =>
    apply After.bind (informed.wait span)
    rintro answer w ⟨handed, stays⟩
    rcases answer with cause | batch | _ | _
    · exact After.pure fun _ => stays (by simp)
    · apply After.mono (Sentry.attend_live settled (handed batch rfl))
      intro ending w' live ok
      exact (live ok).informed
    · exact After.pure fun _ => stays (by simp)
    · exact After.pure fun _ => stays (by simp)
  | attend batch =>
    exact After.mono (Sentry.attend_done keeps informed batch) fun _ _ done _ => done.informed
  | recheck => exact After.mono (Sentry.recheck_done keeps informed) fun _ _ done _ => done.informed

theorem Bench.Trial.informed {job : Assignment} {t : Target} {first scene : Scene} {s : Sentry}
    {may : Scene → Deed → Prop} (trial : Trial job t first may scene s)
    (unwatched : first.notifier.active = []) (undropped : first.notifier.dropped = []) :
    s.Informed scene := by
  have room : 2 ≤ max 2 first.notifier.maxActive := Nat.le_max_left ..
  induction trial with
  | start began =>
    have fresh : Scene.Mourns first.notifier.pending (fun h =>
        ∃ e ∈ first.notifier.pending, e.Ends (some h)) [] first :=
      ⟨unwatched, rfl, by simp, by simp [undropped], by simp⟩
    have keeps := Scene.host_keeps_mourning t first.notifier.pending fun h =>
      ∃ e ∈ first.notifier.pending, e.Ends (some h)
    exact ((Sentry.start_done keeps fresh).of_run began).informed
  | step before allowed did ih =>
    obtain ⟨-, -, settled⟩ := before.tidy room ⟨unwatched, Nat.le_max_right ..⟩
    exact (Deed.run_informed settled ih _).of_run did rfl

/-- In a trial on a stage without registrations, with any steps, a registration that the watch holds
and that was dropped has its end queued. After a batch that was read and attended to, what the watch
holds is listed and was not dropped. -/
theorem lost_watch_is_queued {job : Assignment} {t : Target} {first scene : Scene} {s : Sentry}
    (unwatched : first.notifier.active = []) (undropped : first.notifier.dropped = [])
    (trial : Trial job t first (fun _ _ => True) scene s) :
    (∀ h ∈ s.held.handles, h ∈ scene.notifier.dropped → ∃ e ∈ scene.notifier.pending,
      e.handle = some h ∧ e.name = none ∧ e.mask.meets Mask.gone = true) ∧
    ∀ span batch read s' scene', Scene.wait span scene = (.ok (.events batch), read) →
      s.attend Scene.host job batch read = ((.ok (), s'), scene') →
        ∃ h, s'.held.handles = [h] ∧ h ∉ scene'.notifier.dropped ∧
          ∃ r ∈ scene'.notifier.active, r.handle = h := by
  have room : 2 ≤ max 2 first.notifier.maxActive := Nat.le_max_left ..
  have listed : first.Lists (max 2 first.notifier.maxActive) [] :=
    ⟨unwatched, Nat.le_max_right ..⟩
  have informed := trial.informed unwatched undropped
  obtain ⟨rfl, -, settled⟩ := trial.tidy room listed
  constructor
  · intro h held gone
    rw [Holding.handles_eq s.target] at held
    obtain ⟨r, member, rfl⟩ := List.mem_map.1 held
    exact informed.kept.dropped r member gone
  · intro span batch read s' scene' waited attended
    have tidy := ((informed.wait span).of_run waited).1 batch rfl
    have nothing := Scene.host.keeps_nothing s.target
    have done := (Sentry.attend_done nothing ⟨trivial, tidy.fitting⟩ batch).of_run attended
    have live := (Sentry.attend_live settled tidy).of_run attended rfl
    obtain ⟨h, alone⟩ := Holding.handles_of_settled (done.settled settled rfl)
    have held : h ∈ s'.held.handles := by simp [alone]
    rw [Holding.handles_eq s'.target] at held
    obtain ⟨r, member, rfl⟩ := List.mem_map.1 held
    exact ⟨r.handle, alone, live.kept.dropped r member, r, live.kept.active ▸ member, rfl⟩

open Example in
/-- The file is deleted: its registration is dropped and says so, and once that is read the
directory's is alive. -/
theorem lost_watch_is_queued_after_deletion : ∃ (scene : Scene) (s : Sentry),
    stage.notifier.active = [] ∧ stage.notifier.dropped = [] ∧
    Trial job target stage (fun _ _ => True) scene s ∧
    s.held.handles = [⟨1⟩] ∧ (⟨1⟩ : Handle) ∈ scene.notifier.dropped ∧
    (∃ e ∈ scene.notifier.pending, e.handle = some ⟨1⟩ ∧ e.name = none ∧
      e.mask.meets Mask.gone = true) ∧
    ∃ batch read s' scene', Scene.wait 0 scene = (.ok (.events batch), read) ∧
      s.attend Scene.host job batch read = ((.ok (), s'), scene') ∧
      s'.held = ⟨.awaiting, some ⟨2⟩, none⟩ ∧
      ∃ h, s'.held.handles = [h] ∧ h ∉ scene'.notifier.dropped ∧
        ∃ r ∈ scene'.notifier.active, r.handle = h := by
  have began : Trial job target stage (fun _ _ => True) _ _ := .of_start rfl
  have deleted := began.of_step (.happen (.delete target.file)) trivial rfl
  obtain ⟨told, alive⟩ := lost_watch_is_queued rfl rfl deleted
  refine ⟨_, _, rfl, rfl, deleted, rfl, by decide, told ⟨1⟩ (by decide) (by decide), ?_⟩
  exact ⟨_, _, _, _, rfl, rfl, rfl, alive 0 _ _ _ _ rfl rfl⟩

end RoleWatch
