import RoleWatch.Proofs.After
import RoleWatch.Proofs.Watch.Verdict
import RoleWatch.Watch.Registration
import RoleWatch.Watch.Sentry

/-!
What the watch promises its surroundings. It asks only for its two registrations, never for one it
has, and ends only what it was given. Whatever the surroundings keep up under these calls, such as
a list of the registrations there are, stays in step with what the watch holds.
-/
namespace RoleWatch

variable {World : Type}

namespace Target

def fileWatch (t : Target) (handle : Handle) : Registration := ⟨handle, t.file, .fileInterest⟩

def dirWatch (t : Target) (handle : Handle) : Registration := ⟨handle, t.dir, .directoryInterest⟩

def Names (t : Target) (path : Path) (interest : Mask) : Prop :=
  (path = t.file ∧ interest = .fileInterest) ∨ (path = t.dir ∧ interest = .directoryInterest)

/-- What the watch may ask for beside the registrations there are. -/
structure Wants (t : Target) (there : List Registration) (path : Path) (interest : Mask) :
    Prop where
  names : t.Names path interest
  room : there.length ≤ 1
  missing : ∀ r ∈ there, r.interest ≠ interest

end Target

namespace Holding

def handles (h : Holding) : List Handle := h.file.toList ++ h.dir.toList

def registrations (t : Target) (h : Holding) : List Registration :=
  (h.file.map t.fileWatch).toList ++ (h.dir.map t.dirWatch).toList

/-- Nothing is held that the phase does not call for; what it calls for may be missing. -/
def Fitting (h : Holding) : Prop :=
  match h.phase with
  | .awaiting => h.file = none
  | .watching => h.dir = none

/-- Between operations: the directory alone is held while the file is awaited, and the file alone
while it is watched. -/
def Settled (h : Holding) : Prop :=
  match h.phase with
  | .awaiting => h.dir.isSome ∧ h.file = none
  | .watching => h.file.isSome ∧ h.dir = none

theorem settled_cases {h : Holding} (settled : h.Settled) :
    (∃ d, h = ⟨.awaiting, some d, none⟩) ∨ ∃ f, h = ⟨.watching, none, some f⟩ := by
  obtain ⟨phase, dir, file⟩ := h
  cases phase with
  | awaiting =>
    obtain ⟨d, rfl⟩ := Option.isSome_iff_exists.1 settled.1
    obtain rfl : file = none := settled.2
    exact .inl ⟨d, rfl⟩
  | watching =>
    obtain ⟨f, rfl⟩ := Option.isSome_iff_exists.1 settled.1
    obtain rfl : dir = none := settled.2
    exact .inr ⟨f, rfl⟩

end Holding

/-- The registrations that an answer adds to those there are. -/
def Registration.granted {ε : Type} (path : Path) (interest : Mask) :
    Except ε Handle → List Registration
  | .ok handle => [⟨handle, path, interest⟩]
  | .error _ => []

/-- A relation between registrations and a world that calls keep up, as long as they are calls the
watch may make. -/
structure Host.Keeps (host : Host World) (t : Target) (kept : List Registration → World → Prop) :
    Prop where
  openFile {there : List Registration} {w : World} (path : Path) (now : kept there w) :
    After (host.openFile path) w fun _ w' => kept there w'
  addWatch {there : List Registration} {w : World} {path : Path} {interest : Mask}
    (wanted : t.Wants there path interest) (now : kept there w) :
    After (host.addWatch path interest) w fun answer w' =>
      kept (there ++ Registration.granted path interest answer) w'
  removeWatch {there : List Registration} {w : World} {handle : Handle}
    (found : ∃ r ∈ there, r.handle = handle) (now : kept there w) :
    After (host.removeWatch handle) w fun _ w' => kept (there.eraseP (·.handle = handle)) w'
  perform {there : List Registration} {w : World} (verb : Verb) (service : String)
    (now : kept there w) : After (host.perform verb service) w fun _ w' => kept there w'
  note {there : List Registration} {w : World} (entry : Log.Entry) (now : kept there w) :
    After (host.note entry) w fun _ w' => kept there w'

theorem Host.keeps_nothing (host : Host World) (t : Target) : host.Keeps t fun _ _ => True := by
  constructor <;> intros <;> trivial

namespace Sentry

variable {host : Host World} {job : Assignment} {s : Sentry} {w : World}
  {kept : List Registration → World → Prop}

/-- The registrations that a world keeps are those the watch holds, and its phase calls for them. -/
structure Tidy (kept : List Registration → World → Prop) (s : Sentry) (w : World) : Prop where
  kept : kept (s.held.registrations s.target) w
  fitting : s.held.Fitting

/-- What an operation of the watch leaves behind: tidiness and, if it succeeds, a settled holding
if that is what it began with. -/
structure Done (kept : List Registration → World → Prop) (settled : Prop) (t : Target)
    (ending : Ending) (w : World) : Prop where
  target : ending.2.target = t
  tidy : ending.2.Tidy kept w
  settled : settled → ending.1 = .ok () → ending.2.held.Settled

theorem dropWatch_keeps {t : Target} {there : List Registration} {handle : Handle}
    (keeps : host.Keeps t kept) (found : ∃ r ∈ there, r.handle = handle) (now : kept there w) :
    After (dropWatch host handle) w fun _ w' => kept (there.eraseP (·.handle = handle)) w' := by
  apply After.bind (keeps.removeWatch found now)
  rintro (cause | ⟨⟩) w' after
  · exact keeps.note _ after
  · exact keeps.note _ after

theorem dropHeld_keeps {t : Target} {watch : Handle → Registration} {held : Option Handle}
    {rest : List Registration} (keeps : host.Keeps t kept) (own : ∀ h, (watch h).handle = h)
    (now : kept ((held.map watch).toList ++ rest) w) :
    After (dropHeld host held) w fun _ w' => kept rest w' := by
  cases held with
  | none => exact now
  | some handle =>
    apply After.mono (dropWatch_keeps keeps ⟨watch handle, by simp, own handle⟩ now)
    intro _ w' after
    simpa [own] using after

theorem readRole_keeps {t : Target} {there : List Registration} (keeps : host.Keeps t kept)
    (now : kept there w) :
    After (job.readRole host) w fun answer w' =>
      kept there w' ∧ ∀ failure, answer = .error failure → failure.isFatal = false := by
  apply After.bind (keeps.openFile job.path now)
  intro opened w' after
  exact After.pure ⟨after, fun failure refused => Assignment.not_fatal_of_roleOf refused⟩

theorem enforce_keeps {t : Target} {there : List Registration} (keeps : host.Keeps t kept)
    (now : kept there w) :
    After (job.enforce host) w fun answer w' =>
      kept there w' ∧ ∀ failure, answer = .error failure → failure.isFatal = false := by
  apply After.bind (readRole_keeps keeps now)
  rintro (failure | role) w' ⟨after, light⟩
  · exact After.bind (keeps.note _ after) fun _ _ after => After.pure ⟨after, light⟩
  · apply After.bind (keeps.note _ after)
    intro _ _ after
    apply After.bind (keeps.perform _ _ after)
    rintro (failure | ⟨⟩) w' after
    · apply After.bind (keeps.note _ after)
      intro _ _ after
      exact After.bind (keeps.note _ after) fun _ _ after => After.pure ⟨after, by simp⟩
    · exact After.bind (keeps.note _ after) fun _ _ after => After.pure ⟨after, by simp⟩

theorem watchFile_keeps {there : List Registration} (keeps : host.Keeps s.target kept)
    (wanted : s.target.Wants there s.target.file .fileInterest) (now : kept there w) :
    After (s.watchFile host) w fun answer w' =>
      kept (there ++ Registration.granted s.target.file .fileInterest answer) w' := by
  apply After.bind (keeps.addWatch wanted now)
  rintro (cause | handle) w' after
  · exact After.pure after
  · exact After.pure after

theorem promote_done (keeps : host.Keeps s.target kept) (tidy : s.Tidy kept w)
    (awaiting : s.held.phase = .awaiting) :
    After (s.promote host job) w fun ending w' =>
      ending.1 = .ok () ∧ Done kept s.held.Settled s.target ending w' := by
  have stays : ∀ {w'}, kept (s.held.registrations s.target) w' →
      Done kept s.held.Settled s.target (.ok (), s) w' :=
    fun after => ⟨rfl, ⟨after, tidy.fitting⟩, fun settled _ => settled⟩
  apply After.bind (enforce_keeps keeps tidy.kept)
  rintro (failure | role) w₁ ⟨kept₁, light⟩
  · simp only [light failure rfl]
    exact After.bind (keeps.note _ kept₁) fun _ _ after => After.pure ⟨rfl, stays after⟩
  · obtain ⟨t, phase, dir, file⟩ := s
    obtain rfl : phase = .awaiting := awaiting
    obtain rfl : file = none := tidy.fitting
    have wanted : t.Wants (Holding.registrations t ⟨.awaiting, dir, none⟩) t.file .fileInterest :=
      ⟨.inl ⟨rfl, rfl⟩, by cases dir <;> simp [Holding.registrations],
        by cases dir <;> simp [Holding.registrations, Target.dirWatch]; decide⟩
    apply After.bind (watchFile_keeps keeps wanted kept₁)
    rintro (failure | handle) w₂ kept₂
    · have unchanged : kept (Holding.registrations t ⟨.awaiting, dir, none⟩) w₂ := by
        simpa [Registration.granted] using kept₂
      dsimp only
      split
      · exact After.bind (keeps.note _ unchanged) fun _ _ after => After.pure ⟨rfl, stays after⟩
      · exact After.bind (keeps.note _ unchanged) fun _ _ after => After.pure ⟨rfl, stays after⟩
    · have passed : After (dropHeld host dir) w₂ fun _ w' => kept [t.fileWatch handle] w' :=
        dropHeld_keeps keeps (fun _ => rfl) kept₂
      apply After.bind passed
      intro _ w₃ kept₃
      refine After.bind (keeps.note _ kept₃) fun _ w₄ kept₄ => After.pure ⟨rfl, rfl, ⟨?_, rfl⟩, ?_⟩
      · exact kept₄
      · exact fun _ _ => ⟨rfl, rfl⟩

theorem watchDir_keeps (keeps : host.Keeps s.target kept)
    (now : kept (s.held.registrations s.target) w) (free : s.held.file = none) :
    After (s.watchDir host) w fun ending w' =>
      ending.2.target = s.target ∧ ending.2.held.phase = s.held.phase ∧
        ending.2.held.file = none ∧ kept (ending.2.held.registrations s.target) w' ∧
        (∀ failure, ending.1 = .error failure → ending.2.held.dir = none) ∧
        (ending.1 = .ok () → ending.2.held.dir.isSome) := by
  obtain ⟨t, phase, dir, file⟩ := s
  obtain rfl : file = none := free
  cases dir with
  | some d => exact After.pure ⟨rfl, rfl, rfl, now, by simp, fun _ => rfl⟩
  | none =>
    have wanted : t.Wants [] t.dir .directoryInterest := ⟨.inr ⟨rfl, rfl⟩, by simp, by simp⟩
    apply After.bind (keeps.addWatch wanted now)
    rintro (cause | handle) w' after
    · refine After.bind (keeps.note _ after) fun _ _ after => After.pure ?_
      exact ⟨rfl, rfl, rfl, after, fun _ _ => rfl, by simp⟩
    · exact After.pure ⟨rfl, rfl, rfl, after, by simp, fun _ => rfl⟩

theorem awaitFile_done_of_dropped (keeps : host.Keeps s.target kept)
    (dropped : After (dropHeld host s.held.file) w fun _ w' =>
      kept ((s.withFile none).held.registrations s.target) w') :
    After (s.awaitFile host job) w (Done kept True s.target) := by
  apply After.bind dropped
  intro _ w₁ kept₁
  refine After.bind (watchDir_keeps keeps kept₁ rfl) ?_
  rintro ⟨failure | ⟨⟩, ⟨t, phase, dir, file⟩⟩ w₂ ⟨same, inPhase, free, kept₂, refused, given⟩
  · obtain rfl : dir = none := refused failure rfl
    obtain rfl : file = none := free
    obtain rfl : t = s.target := same
    exact After.pure ⟨rfl, ⟨kept₂, by cases phase <;> rfl⟩, by simp⟩
  · obtain rfl : file = none := free
    obtain rfl : t = s.target := same
    apply After.bind (keeps.note _ kept₂)
    intro _ w₃ kept₃
    refine After.mono (promote_done keeps ⟨kept₃, rfl⟩ rfl) ?_
    rintro ending w₄ ⟨-, done⟩
    exact ⟨done.target, done.tidy, fun _ => done.settled ⟨given rfl, rfl⟩⟩

theorem awaitFile_done (keeps : host.Keeps s.target kept) (tidy : s.Tidy kept w) :
    After (s.awaitFile host job) w (Done kept True s.target) :=
  awaitFile_done_of_dropped keeps (dropHeld_keeps keeps (fun _ => rfl) tidy.kept)

theorem refresh_done (keeps : host.Keeps s.target kept) (tidy : s.Tidy kept w) :
    After (s.refresh host job) w (Done kept s.held.Settled s.target) := by
  apply After.bind (enforce_keeps keeps tidy.kept)
  rintro (failure | role) w₁ ⟨kept₁, light⟩
  · simp only [light failure rfl]
    apply After.bind (keeps.note _ kept₁)
    intro _ w₂ kept₂
    apply After.mono (awaitFile_done keeps ⟨kept₂, tidy.fitting⟩)
    intro _ _ done
    exact ⟨done.target, done.tidy, fun _ => done.settled trivial⟩
  · exact After.pure ⟨rfl, ⟨kept₁, tidy.fitting⟩, fun settled _ => settled⟩

theorem start_done {t : Target} (keeps : host.Keeps t kept) (now : kept [] w) :
    After ((ofTarget t).start host job) w (Done kept True t) := by
  have tidy : ∀ {w'}, kept [] w' → (ofTarget t).Tidy kept w' := fun after => ⟨after, rfl⟩
  apply After.bind (keeps.note _ now)
  intro _ w₁ kept₁
  apply After.bind (enforce_keeps keeps kept₁)
  rintro (failure | role) w₂ ⟨kept₂, light⟩
  · simp only [light failure rfl]
    apply After.bind (keeps.note _ kept₂)
    intro _ _ after
    exact awaitFile_done keeps (tidy after)
  · have wanted : t.Wants [] t.file .fileInterest := ⟨.inl ⟨rfl, rfl⟩, by simp, by simp⟩
    apply After.bind (watchFile_keeps keeps wanted kept₂)
    rintro (failure | handle) w₃ kept₃
    · apply After.bind (keeps.note _ kept₃)
      intro _ _ after
      exact awaitFile_done keeps (tidy after)
    · refine After.bind (keeps.note _ kept₃) fun _ w₄ kept₄ => After.pure ?_
      exact ⟨rfl, ⟨kept₄, rfl⟩, fun _ _ => ⟨rfl, rfl⟩⟩

theorem recheck_done (keeps : host.Keeps s.target kept) (tidy : s.Tidy kept w) :
    After (s.recheck host job) w (Done kept s.held.Settled s.target) := by
  apply After.bind (keeps.note _ tidy.kept)
  intro _ w₁ kept₁
  cases phase : s.held.phase with
  | watching => exact refresh_done keeps ⟨kept₁, tidy.fitting⟩
  | awaiting =>
    exact After.mono (promote_done keeps ⟨kept₁, tidy.fitting⟩ phase) fun _ _ done => done.2

theorem act_done (keeps : host.Keeps s.target kept) (tidy : s.Tidy kept w) {j : Judgement}
    (looks : j.verdict = .appeared → s.held.phase = .awaiting) :
    After (s.act host job j) w (Done kept s.held.Settled s.target) := by
  unfold act
  cases verdict : j.verdict with
  | idle => exact After.pure ⟨rfl, tidy, fun settled _ => settled⟩
  | directoryGone =>
    refine After.bind (keeps.note _ tidy.kept) fun _ _ after => After.pure ?_
    exact ⟨rfl, ⟨after, tidy.fitting⟩, fun _ failed => by simp at failed⟩
  | appeared =>
    apply After.bind (keeps.note _ tidy.kept)
    intro _ _ after
    apply After.mono (promote_done keeps ⟨after, tidy.fitting⟩ (looks verdict))
    exact fun _ _ done => done.2
  | fileGone =>
    apply After.bind (keeps.note _ tidy.kept)
    intro _ _ after
    apply After.mono (awaitFile_done keeps ⟨after, tidy.fitting⟩)
    intro _ _ done
    exact ⟨done.target, done.tidy, fun _ => done.settled trivial⟩
  | changed =>
    apply After.bind (keeps.note _ tidy.kept)
    intro _ _ after
    exact refresh_done keeps ⟨after, tidy.fitting⟩

theorem attend_of_notes {noted : World → Prop} {holds : Ending → World → Prop}
    {batch : List Event} (notes : ∀ entry w, noted w → After (host.note entry) w fun _ => noted)
    (now : noted w)
    (acts : ∀ w', noted w' →
      After (s.act host job (Judgement.ofBatch s.held s.target.name batch)) w' holds) :
    After (s.attend host job batch) w holds := by
  apply After.bind (notes _ w now)
  intro _ w₁ noted₁
  dsimp only
  split
  · exact After.bind (notes _ w₁ noted₁) fun _ w₂ noted₂ => acts w₂ noted₂
  · exact acts w₁ noted₁

theorem attend_done (keeps : host.Keeps s.target kept) (tidy : s.Tidy kept w)
    (batch : List Event) :
    After (s.attend host job batch) w (Done kept s.held.Settled s.target) := by
  have looks : (Judgement.ofBatch s.held s.target.name batch).verdict = .appeared →
      s.held.phase = .awaiting := by
    intro appeared
    cases phase : s.held.phase with
    | awaiting => rfl
    | watching =>
      have others := Judgement.verdict_watching phase s.target.name batch
      rw [appeared] at others
      simp at others
  exact attend_of_notes (fun entry _ now => keeps.note entry now) tidy.kept
    fun _ kept' => act_done keeps ⟨kept', tidy.fitting⟩ looks

theorem release_done (keeps : host.Keeps s.target kept) (tidy : s.Tidy kept w) :
    After (s.release host) w fun released w' =>
      kept [] w' ∧ released = (s.withFile none).withDir none := by
  have now : kept ((s.held.file.map s.target.fileWatch).toList ++
      ((s.held.dir.map s.target.dirWatch).toList ++ [])) w := by
    rw [List.append_nil]
    exact tidy.kept
  apply After.bind (dropHeld_keeps keeps (fun _ => rfl) now)
  intro _ w₁ kept₁
  apply After.bind (dropHeld_keeps keeps (fun _ => rfl) kept₁)
  intro _ w₂ kept₂
  exact After.bind (keeps.note _ kept₂) fun _ _ after => After.pure ⟨after, rfl⟩

end Sentry

end RoleWatch
