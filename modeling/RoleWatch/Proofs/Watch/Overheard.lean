import RoleWatch.Proofs.After
import RoleWatch.Proofs.Watch.Likeness
import RoleWatch.Proofs.Watch.Tending

/-!
The watch overheard: which calls it made and how they were answered. What each operation says is
told call by call, whatever the surroundings answer, with the way it ends then.
-/
namespace RoleWatch

variable {World α : Type}

/-- A call of the watch with its answer. -/
inductive Exchange where
  | opened (path : Path) (answer : Except IoError Source)
  | asked (path : Path) (interest : Mask) (answer : Except IoError Handle)
  | ended (handle : Handle) (answer : Except IoError Unit)
  | ordered (verb : Verb) (service : String) (answer : Except Failure Unit)

def overhear (as : α → Exchange) (step : StateM World α) : StateM (World × List Exchange) α :=
  fun (w, talk) => ((step w).1, (step w).2, talk ++ [as (step w).1])

theorem overhear_alike (as : α → Exchange) (step : StateM World α) :
    Alike (fun (state : World × List Exchange) w => state.1 = w) (overhear as step) step := by
  rintro state _ rfl
  exact ⟨rfl, rfl⟩

namespace Host

/-- The same surroundings, with the calls that were made so far beside the world. -/
def overheard (host : Host World) : Host (World × List Exchange) where
  openFile path := overhear (.opened path) (host.openFile path)
  addWatch path interest := overhear (.asked path interest) (host.addWatch path interest)
  removeWatch handle := overhear (.ended handle) (host.removeWatch handle)
  perform verb service := overhear (.ordered verb service) (host.perform verb service)
  note entry := beside (host.note entry)

theorem overheard_alike (host : Host World) (job : Assignment) :
    host.overheard.Alike (fun (state : World × List Exchange) w => state.1 = w) host job where
  enforce := job.enforce_alike (fun _ => overhear_alike _ _) (fun _ _ => overhear_alike _ _)
    fun _ => beside_alike _
  addWatch _ _ := overhear_alike _ _
  removeWatch _ := overhear_alike _ _
  note _ := beside_alike _

end Host

def Adds (talk : List Exchange) (state state' : World × List Exchange) : Prop :=
  state'.2 = state.2 ++ talk

variable {talk more : List Exchange} {state state₁ state₂ : World × List Exchange}

theorem Adds.trans (first : Adds talk state state₁) (second : Adds more state₁ state₂) :
    Adds (talk ++ more) state state₂ := by
  unfold Adds at *
  rw [second, first, List.append_assoc]

theorem Adds.then_nothing (first : Adds talk state state₁) (second : Adds [] state₁ state₂) :
    Adds talk state state₂ := by
  simpa using first.trans second

variable {host : Host World} {job : Assignment}

theorem note_said (entry : Log.Entry) (state : World × List Exchange) :
    After (host.overheard.note entry) state fun _ state' => Adds [] state state' :=
  (List.append_nil _).symm

/-! What each operation says, call by call, and how it ends then. -/

/-- What is said once the file was opened: the order of its role, if it declares one. -/
inductive Assignment.Obeys (job : Assignment) : Except Failure Role → List Exchange → Prop where
  | unread {failure : Failure} : Obeys job (.error failure) []
  | read {role : Role} {reply : Except Failure Unit} :
      Obeys job (.ok role) [.ordered (Verb.ofRole role) job.service reply]

theorem Assignment.enforce_told (state : World × List Exchange) :
    After (job.enforce host.overheard) state fun answer state' => ∃ opened talk,
      Adds (.opened job.path opened :: talk) state state' ∧ answer = job.roleOf opened ∧
        job.Obeys answer talk := by
  have read : After (job.readRole host.overheard) state fun answer state' => ∃ opened,
      Adds [.opened job.path opened] state state' ∧ answer = job.roleOf opened := ⟨_, rfl, rfl⟩
  apply After.bind read
  rintro (failure | role) state₁ ⟨opened, said, answered⟩
  · refine After.bind (note_said _ _) fun _ _ noted => After.pure ?_
    exact ⟨opened, [], said.then_nothing noted, answered, .unread⟩
  · apply After.bind (note_said _ _)
    intro _ state₂ noted
    have ended : ∀ {reply state₃ state₄}, Adds [.ordered (Verb.ofRole role) job.service reply]
        state₂ state₃ → Adds [] state₃ state₄ → ∃ opened talk,
          Adds (.opened job.path opened :: talk) state state₄ ∧ .ok role = job.roleOf opened ∧
            job.Obeys (.ok role) talk := by
      intro reply state₃ state₄ ordered noted₄
      have said₄ := ((said.then_nothing noted).trans ordered).then_nothing noted₄
      exact ⟨opened, _, said₄, answered, .read⟩
    have performed : After (host.overheard.perform (Verb.ofRole role) job.service) state₂
        fun reply state' =>
          Adds [.ordered (Verb.ofRole role) job.service reply] state₂ state' := rfl
    apply After.bind performed
    rintro (failure | ⟨⟩) state₃ ordered
    · apply After.bind (note_said _ _)
      intro _ state₄ noted₄
      refine After.bind (note_said _ _) fun _ state₅ noted₅ => After.pure ?_
      exact ended ordered (noted₄.then_nothing noted₅)
    · exact After.bind (note_said _ _) fun _ state₄ noted₄ => After.pure (ended ordered noted₄)

inductive Drops : List Exchange → Prop where
  | nothing : Drops []
  | ended {handle : Handle} {answer : Except IoError Unit} : Drops [.ended handle answer]

namespace Sentry

variable {s : Sentry}

/-- Looking for the awaited file. -/
inductive Promotes (job : Assignment) (s : Sentry) : Ending → List Exchange → Prop where
  | unread {opened : Except IoError Source} {failure : Failure}
      (unread : job.roleOf opened = .error failure) :
      Promotes job s (.ok (), s) [.opened job.path opened]
  | refused {opened : Except IoError Source} {role : Role} {reply : Except Failure Unit}
      {cause : IoError} (read : job.roleOf opened = .ok role) :
      Promotes job s (.ok (), s) [.opened job.path opened,
        .ordered (Verb.ofRole role) job.service reply, .asked s.target.file .fileInterest (.error cause)]
  | watched {opened : Except IoError Source} {role : Role} {reply : Except Failure Unit}
      {f : Handle} {last : List Exchange} (read : job.roleOf opened = .ok role)
      (drops : Drops last) :
      Promotes job s (.ok (), ((s.withFile (some f)).withDir none).inPhase .watching)
        (.opened job.path opened :: .ordered (Verb.ofRole role) job.service reply ::
          .asked s.target.file .fileInterest (.ok f) :: last)

inductive Awaits (job : Assignment) (s : Sentry) : Ending → List Exchange → Prop where
  | barred {first : List Exchange} {cause : IoError} (drops : Drops first) :
      Awaits job s (.error (.fatal (.cannotWatch s.target.dir cause)), s.withFile none)
        (first ++ [.asked s.target.dir .directoryInterest (.error cause)])
  | granted {first more : List Exchange} {d : Handle} {ending : Ending} (drops : Drops first)
      (promotes :
        (((s.withFile none).withDir (some d)).inPhase .awaiting).Promotes job ending more) :
      Awaits job s ending (first ++ .asked s.target.dir .directoryInterest (.ok d) :: more)
  | held {first more : List Exchange} {ending : Ending} (drops : Drops first)
      (there : s.held.dir ≠ none)
      (promotes : ((s.withFile none).inPhase .awaiting).Promotes job ending more) :
      Awaits job s ending (first ++ more)

inductive Refreshes (job : Assignment) (s : Sentry) : Ending → List Exchange → Prop where
  | read {opened : Except IoError Source} {role : Role} {reply : Except Failure Unit}
      (read : job.roleOf opened = .ok role) :
      Refreshes job s (.ok (), s) [.opened job.path opened,
        .ordered (Verb.ofRole role) job.service reply]
  | unread {opened : Except IoError Source} {failure : Failure} {more : List Exchange}
      {ending : Ending} (unread : job.roleOf opened = .error failure)
      (awaits : s.Awaits job ending more) :
      Refreshes job s ending (.opened job.path opened :: more)

inductive Starts (job : Assignment) (s : Sentry) : Ending → List Exchange → Prop where
  | watched {opened : Except IoError Source} {role : Role} {reply : Except Failure Unit}
      {f : Handle} (read : job.roleOf opened = .ok role) :
      Starts job s (.ok (), (s.withFile (some f)).inPhase .watching) [.opened job.path opened,
        .ordered (Verb.ofRole role) job.service reply, .asked s.target.file .fileInterest (.ok f)]
  | unwatched {opened : Except IoError Source} {role : Role} {reply : Except Failure Unit}
      {cause : IoError} {more : List Exchange} {ending : Ending}
      (read : job.roleOf opened = .ok role) (awaits : s.Awaits job ending more) :
      Starts job s ending (.opened job.path opened ::
        .ordered (Verb.ofRole role) job.service reply ::
          .asked s.target.file .fileInterest (.error cause) :: more)
  | unread {opened : Except IoError Source} {failure : Failure} {more : List Exchange}
      {ending : Ending} (unread : job.roleOf opened = .error failure)
      (awaits : s.Awaits job ending more) :
      Starts job s ending (.opened job.path opened :: more)

inductive Rechecks (job : Assignment) (s : Sentry) (ending : Ending) (talk : List Exchange) :
    Prop where
  | watching (phase : s.held.phase = .watching) (refreshes : s.Refreshes job ending talk)
  | awaiting (phase : s.held.phase = .awaiting) (promotes : s.Promotes job ending talk)

inductive Acts (job : Assignment) (s : Sentry) : Verdict → Ending → List Exchange → Prop where
  | idle : Acts job s .idle (.ok (), s) []
  | directoryGone : Acts job s .directoryGone
      (.error (.fatal (.directoryRemoved s.target.dir)), s) []
  | appeared {ending : Ending} {talk : List Exchange} (promotes : s.Promotes job ending talk) :
      Acts job s .appeared ending talk
  | fileGone {ending : Ending} {talk : List Exchange} (awaits : s.Awaits job ending talk) :
      Acts job s .fileGone ending talk
  | changed {ending : Ending} {talk : List Exchange} (refreshes : s.Refreshes job ending talk) :
      Acts job s .changed ending talk

theorem dropHeld_told (held : Option Handle) (state : World × List Exchange) :
    After (dropHeld host.overheard held) state fun _ state' => ∃ talk,
      Adds talk state state' ∧ Drops talk := by
  cases held with
  | none => exact ⟨[], (List.append_nil _).symm, .nothing⟩
  | some handle =>
    have removed : After (host.overheard.removeWatch handle) state fun answer state' =>
        Adds [.ended handle answer] state state' := rfl
    apply After.bind removed
    rintro (cause | ⟨⟩) state₁ ended
    · exact ⟨_, ended.then_nothing (note_said _ _), .ended⟩
    · exact ⟨_, ended.then_nothing (note_said _ _), .ended⟩

theorem watchFile_told (s : Sentry) (state : World × List Exchange) :
    After (s.watchFile host.overheard) state fun answer state' =>
      (∃ failure cause, answer = .error failure ∧
        Adds [.asked s.target.file .fileInterest (.error cause)] state state') ∨
      ∃ f, answer = .ok f ∧ Adds [.asked s.target.file .fileInterest (.ok f)] state state' := by
  have added : After (host.overheard.addWatch s.target.file .fileInterest) state
      fun answer state' => Adds [.asked s.target.file .fileInterest answer] state state' := rfl
  apply After.bind added
  rintro (cause | f) state₁ said
  · exact After.pure (.inl ⟨_, cause, rfl, said⟩)
  · exact After.pure (.inr ⟨f, rfl, said⟩)

theorem watchDir_told (s : Sentry) (state : World × List Exchange) :
    After (s.watchDir host.overheard) state fun ending state' =>
      (s.held.dir ≠ none ∧ ending = (.ok (), s) ∧ Adds [] state state') ∨
      (∃ cause, ending = (.error (.fatal (.cannotWatch s.target.dir cause)), s) ∧
        Adds [.asked s.target.dir .directoryInterest (.error cause)] state state') ∨
      ∃ d, ending = (.ok (), s.withDir (some d)) ∧
        Adds [.asked s.target.dir .directoryInterest (.ok d)] state state' := by
  unfold watchDir
  split
  · rename_i held
    exact After.pure (.inl ⟨by simp [held], rfl, (List.append_nil _).symm⟩)
  · have added : After (host.overheard.addWatch s.target.dir .directoryInterest) state
        fun answer state' =>
          Adds [.asked s.target.dir .directoryInterest answer] state state' := rfl
    apply After.bind added
    rintro (cause | d) state₁ said
    · refine After.bind (note_said _ _) fun _ _ noted => After.pure (.inr (.inl ?_))
      exact ⟨cause, rfl, said.then_nothing noted⟩
    · exact After.pure (.inr (.inr ⟨d, rfl, said⟩))

theorem promote_told (s : Sentry) (state : World × List Exchange) :
    After (s.promote host.overheard job) state fun ending state' => ∃ talk,
      Adds talk state state' ∧ s.Promotes job ending talk := by
  apply After.bind (job.enforce_told state)
  rintro (failure | role) state₁ ⟨opened, talk, said, answered, obeys⟩
  · cases obeys
    simp only [Assignment.not_fatal_of_roleOf answered.symm]
    refine After.bind (note_said _ _) fun _ _ noted => After.pure ?_
    exact ⟨_, said.then_nothing noted, .unread answered.symm⟩
  · cases obeys
    apply After.bind (watchFile_told s state₁)
    rintro _ state₂ (⟨failure, cause, rfl, asked⟩ | ⟨f, rfl, asked⟩)
    · dsimp only
      split
      · refine After.bind (note_said _ _) fun _ _ noted => After.pure ?_
        exact ⟨_, said.trans (asked.then_nothing noted), .refused answered.symm⟩
      · refine After.bind (note_said _ _) fun _ _ noted => After.pure ?_
        exact ⟨_, said.trans (asked.then_nothing noted), .refused answered.symm⟩
    · apply After.bind (dropHeld_told s.held.dir state₂)
      rintro _ state₃ ⟨last, dropped, drops⟩
      refine After.bind (note_said _ _) fun _ _ noted => After.pure ?_
      exact ⟨_, said.trans ((asked.trans dropped).then_nothing noted),
        .watched answered.symm drops⟩

theorem awaitFile_told (s : Sentry) (state : World × List Exchange) :
    After (s.awaitFile host.overheard job) state fun ending state' => ∃ talk,
      Adds talk state state' ∧ s.Awaits job ending talk := by
  apply After.bind (dropHeld_told s.held.file state)
  rintro _ state₁ ⟨first, dropped, drops⟩
  apply After.bind (watchDir_told (s.withFile none) state₁)
  rintro _ state₂ (⟨there, rfl, silent⟩ | ⟨cause, rfl, asked⟩ | ⟨d, rfl, asked⟩)
  · apply After.bind (note_said _ _)
    intro _ state₃ noted
    apply After.mono (promote_told _ state₃)
    rintro ending state₄ ⟨more, said, promotes⟩
    have dropped := (dropped.then_nothing silent).then_nothing noted
    exact ⟨_, dropped.trans said, .held drops there promotes⟩
  · exact After.pure ⟨_, dropped.trans asked, .barred drops⟩
  · apply After.bind (note_said _ _)
    intro _ state₃ noted
    apply After.mono (promote_told _ state₃)
    rintro ending state₄ ⟨more, said, promotes⟩
    exact ⟨_, dropped.trans ((asked.then_nothing noted).trans said), .granted drops promotes⟩

theorem refresh_told (s : Sentry) (state : World × List Exchange) :
    After (s.refresh host.overheard job) state fun ending state' => ∃ talk,
      Adds talk state state' ∧ s.Refreshes job ending talk := by
  apply After.bind (job.enforce_told state)
  rintro (failure | role) state₁ ⟨opened, talk, said, answered, obeys⟩
  · cases obeys
    simp only [Assignment.not_fatal_of_roleOf answered.symm]
    apply After.bind (note_said _ _)
    intro _ state₂ noted
    apply After.mono (awaitFile_told s state₂)
    rintro ending state₃ ⟨more, awaited, awaits⟩
    exact ⟨_, (said.then_nothing noted).trans awaited, .unread answered.symm awaits⟩
  · cases obeys
    exact After.pure ⟨_, said, .read answered.symm⟩

theorem start_told (s : Sentry) (state : World × List Exchange) :
    After (s.start host.overheard job) state fun ending state' => ∃ talk,
      Adds talk state state' ∧ s.Starts job ending talk := by
  apply After.bind (note_said _ state)
  intro _ state₀ begun
  apply After.bind (job.enforce_told state₀)
  rintro (failure | role) state₁ ⟨opened, talk, said, answered, obeys⟩
  · cases obeys
    simp only [Assignment.not_fatal_of_roleOf answered.symm]
    apply After.bind (note_said _ _)
    intro _ state₂ noted
    apply After.mono (awaitFile_told s state₂)
    rintro ending state₃ ⟨more, awaited, awaits⟩
    have said₃ := (said.then_nothing noted).trans awaited
    exact ⟨_, begun.trans said₃, .unread answered.symm awaits⟩
  · cases obeys
    apply After.bind (watchFile_told s state₁)
    rintro _ state₂ (⟨failure, cause, rfl, asked⟩ | ⟨f, rfl, asked⟩)
    · apply After.bind (note_said _ _)
      intro _ state₃ noted
      apply After.mono (awaitFile_told s state₃)
      rintro ending state₄ ⟨more, awaited, awaits⟩
      have said₄ := said.trans ((asked.then_nothing noted).trans awaited)
      exact ⟨_, begun.trans said₄, .unwatched answered.symm awaits⟩
    · refine After.bind (note_said _ _) fun _ state₃ noted => After.pure ?_
      exact ⟨_, begun.trans (said.trans (asked.then_nothing noted)), .watched answered.symm⟩

theorem recheck_told (s : Sentry) (state : World × List Exchange) :
    After (s.recheck host.overheard job) state fun ending state' => ∃ talk,
      Adds talk state state' ∧ s.Rechecks job ending talk := by
  apply After.bind (note_said _ state)
  intro _ state₁ noted
  cases phase : s.held.phase with
  | watching =>
    apply After.mono (refresh_told s state₁)
    rintro ending state₂ ⟨talk, said, refreshes⟩
    exact ⟨_, noted.trans said, .watching phase refreshes⟩
  | awaiting =>
    apply After.mono (promote_told s state₁)
    rintro ending state₂ ⟨talk, said, promotes⟩
    exact ⟨_, noted.trans said, .awaiting phase promotes⟩

theorem act_told (s : Sentry) (j : Judgement) (state : World × List Exchange) :
    After (s.act host.overheard job j) state fun ending state' => ∃ talk,
      Adds talk state state' ∧ s.Acts job j.verdict ending talk := by
  unfold act
  cases j.verdict with
  | idle => exact After.pure ⟨[], (List.append_nil _).symm, .idle⟩
  | directoryGone =>
    refine After.bind (note_said _ _) fun _ _ noted => After.pure ?_
    exact ⟨[], noted, .directoryGone⟩
  | appeared =>
    apply After.bind (note_said _ state)
    intro _ state₁ noted
    apply After.mono (promote_told s state₁)
    rintro ending state₂ ⟨talk, said, promotes⟩
    exact ⟨talk, noted.trans said, .appeared promotes⟩
  | fileGone =>
    apply After.bind (note_said _ state)
    intro _ state₁ noted
    apply After.mono (awaitFile_told s state₁)
    rintro ending state₂ ⟨talk, said, awaits⟩
    exact ⟨talk, noted.trans said, .fileGone awaits⟩
  | changed =>
    apply After.bind (note_said _ state)
    intro _ state₁ noted
    apply After.mono (refresh_told s state₁)
    rintro ending state₂ ⟨talk, said, refreshes⟩
    exact ⟨talk, noted.trans said, .changed refreshes⟩

theorem attend_told (s : Sentry) (batch : List Event) (state : World × List Exchange) :
    After (s.attend host.overheard job batch) state fun ending state' => ∃ talk,
      Adds talk state state' ∧
        s.Acts job (Judgement.ofBatch s.held s.target.name batch).verdict ending talk := by
  have notes (entry : Log.Entry) (state₁ : World × List Exchange) (noted : Adds [] state state₁) :
      After (host.overheard.note entry) state₁ fun _ => Adds [] state :=
    After.mono (note_said entry state₁) fun _ _ => noted.then_nothing
  apply attend_of_notes notes (List.append_nil _).symm
  intro state₁ noted
  apply After.mono (act_told s _ state₁)
  rintro ending state₂ ⟨talk, said, acts⟩
  exact ⟨talk, noted.trans said, acts⟩

end Sentry

theorem overheard_of_told {step : StateM (World × List Exchange) α} {plain : StateM World α}
    {holds : α → List Exchange → Prop} {w : World}
    (alike : Alike (fun (state : World × List Exchange) w => state.1 = w) step plain)
    (told : After step (w, []) fun a state' => ∃ talk, Adds talk (w, []) state' ∧ holds a talk) :
    ∃ talk, step (w, []) = ((plain w).1, (plain w).2, talk) ∧ holds (plain w).1 talk := by
  obtain ⟨same, after⟩ := alike (w, []) w rfl
  obtain ⟨talk, added, held⟩ := told
  exact ⟨talk, Prod.ext same (Prod.ext after added), same ▸ held⟩

namespace Sentry

theorem start_heard (host : Host World) (job : Assignment) (s : Sentry) (w : World) :
    ∃ talk, s.start host.overheard job (w, []) =
        ((s.start host job w).1, (s.start host job w).2, talk) ∧
      s.Starts job (s.start host job w).1 talk :=
  overheard_of_told (start_alike (host.overheard_alike job) s) (s.start_told (w, []))

theorem attend_heard (host : Host World) (job : Assignment) (s : Sentry) (batch : List Event)
    (w : World) :
    ∃ talk, s.attend host.overheard job batch (w, []) =
        ((s.attend host job batch w).1, (s.attend host job batch w).2, talk) ∧
      s.Acts job (Judgement.ofBatch s.held s.target.name batch).verdict
        (s.attend host job batch w).1 talk :=
  overheard_of_told (attend_alike (host.overheard_alike job) s batch) (s.attend_told batch (w, []))

theorem recheck_heard (host : Host World) (job : Assignment) (s : Sentry) (w : World) :
    ∃ talk, s.recheck host.overheard job (w, []) =
        ((s.recheck host job w).1, (s.recheck host job w).2, talk) ∧
      s.Rechecks job (s.recheck host job w).1 talk :=
  overheard_of_told (recheck_alike (host.overheard_alike job) s) (s.recheck_told (w, []))

end Sentry

end RoleWatch
