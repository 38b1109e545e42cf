import RoleWatch.Proofs.Bench.Trial
import RoleWatch.Proofs.Watch.Refusal

/-!
Which failures leave the watch and its loop. Only a condition that nothing can be done about does:
the directory is gone or cannot be watched when it is needed, or events cannot be waited for.
-/
namespace RoleWatch

variable {World : Type}

namespace Vigil

variable {station : Station World} {v : Vigil} {w : World} {failure : Failure}

def beaten (station : Station World) (w : World) : World :=
  (station.beat (station.note ⟨.debug, "periodic tick", []⟩ (station.now w).2).2).2

/-- How a turn comes to fail. -/
inductive Fails (station : Station World) (v : Vigil) (w : World) (failure : Failure) : Prop where
  | look (due : v.interval ≤ (station.now w).1 - v.lastBeat) (rechecks : v.rechecks = true)
      (failed : (v.sentry.recheck station.toHost v.job (beaten station w)).1.1 = .error failure)
  | wait {budget : Millis} {v₁ : Vigil} {w₁ w₂ : World} {cause : IoError}
      (ready : v.prepare station w = ((.ok budget, v₁), w₁))
      (refused : station.wait budget w₁ = (.error cause, w₂)) (kind : cause.kind ≠ .interrupted)
      (reason : failure = .fatal (.cannotWait cause))
  | attend {budget : Millis} {v₁ : Vigil} {w₁ w₂ : World} {batch : List Event}
      (ready : v.prepare station w = ((.ok budget, v₁), w₁))
      (read : station.wait budget w₁ = (.ok (.events batch), w₂))
      (failed : (v₁.sentry.attend station.toHost v₁.job batch w₂).1.1 = .error failure)

def Empty (arrival : Except IoError Arrival) : Prop :=
  arrival = .ok .timedOut ∨ arrival = .ok .interrupted ∨
    ∃ cause, arrival = .error cause ∧ cause.kind = .interrupted

theorem receive_of_empty {arrival : Except IoError Arrival} (empty : Empty arrival)
    (station : Station World) (v : Vigil) (w : World) :
    v.receive station arrival w = ((.ok (), v), w) := by
  rcases empty with rfl | rfl | ⟨cause, rfl, kind⟩
  · rfl
  · rfl
  · simp only [receive, kind]
    rfl

theorem receive_error_iff {arrival : Except IoError Arrival} :
    (v.receive station arrival w).1.1 = .error failure ↔
      (∃ cause, arrival = .error cause ∧ cause.kind ≠ .interrupted ∧
        failure = .fatal (.cannotWait cause)) ∨
      ∃ batch, arrival = .ok (.events batch) ∧
        (v.sentry.attend station.toHost v.job batch w).1.1 = .error failure := by
  by_cases empty : Empty arrival
  · rw [receive_of_empty empty]
    refine iff_of_false (by simp) ?_
    rintro (⟨cause, rfl, kind, -⟩ | ⟨batch, rfl, -⟩)
    · simp [Empty, kind] at empty
    · simp [Empty] at empty
  · rcases arrival with cause | batch | _ | _
    · have kind : cause.kind ≠ .interrupted := fun kind => empty (.inr (.inr ⟨cause, rfl, kind⟩))
      have refused : (v.receive station (.error cause) w).1.1 =
          .error (.fatal (.cannotWait cause)) := by
        simp only [receive, if_neg kind]
        rfl
      rw [refused]
      simp [kind, @eq_comm _ _ failure]
    · have attended : (v.receive station (.ok (.events batch)) w).1.1 =
          (v.sentry.attend station.toHost v.job batch w).1.1 := rfl
      rw [attended]
      simp
    · exact absurd (.inl rfl) empty
    · exact absurd (.inr (.inl rfl)) empty

theorem beat_error_iff : (v.beat station (station.now w).2).1.1 = .error failure ↔
    v.rechecks = true ∧
      (v.sentry.recheck station.toHost v.job (beaten station w)).1.1 = .error failure := by
  have looked : After (v.beat station) (station.now w).2 fun result _ =>
      result.1 = .error failure ↔ (v.look station (beaten station w)).1.1 = .error failure := by
    apply After.bind (.run _ _)
    intro _ w₁ noted
    apply After.bind (.run _ _)
    intro _ w₂ updated
    have here : beaten station w = w₂ := by simp only [beaten, noted, updated]
    rw [here]
    apply After.bind (.run _ _)
    rintro ⟨reason | ⟨⟩, s⟩ w₃ seen
    · rw [seen]
      exact After.pure Iff.rfl
    · rw [seen]
      exact After.bind (.run _ _) fun _ _ _ => After.pure (by simp)
  have looked : (v.beat station (station.now w).2).1.1 = .error failure ↔
      (v.look station (beaten station w)).1.1 = .error failure := looked
  rw [looked, look]
  cases v.rechecks with
  | true => exact (and_iff_right rfl).symm
  | false => exact iff_of_false nofun nofun

theorem prepare_error_iff : (v.prepare station w).1.1 = .error failure ↔
    v.interval ≤ (station.now w).1 - v.lastBeat ∧ v.rechecks = true ∧
      (v.sentry.recheck station.toHost v.job (beaten station w)).1.1 = .error failure := by
  have ready : After (v.prepare station) w fun result _ => result.1 = .error failure ↔
      (v.beatIfDue station ((station.now w).1 - v.lastBeat) (station.now w).2).1.1 =
        .error failure := by
    apply After.bind (.run _ _)
    intro t w₁ shown
    rw [shown]
    apply After.bind (.run _ _)
    rintro ⟨reason | ⟨⟩, v₁⟩ w₂ did
    · rw [did]
      exact After.pure (by simp)
    · rw [did]
      exact After.bind (.run _ _) fun _ _ _ => After.pure (by simp)
  have ready : (v.prepare station w).1.1 = .error failure ↔
      (v.beatIfDue station ((station.now w).1 - v.lastBeat) (station.now w).2).1.1 =
        .error failure := ready
  rw [ready, beatIfDue, ← beat_error_iff]
  split
  · rename_i due
    exact (and_iff_right due).symm
  · rename_i early
    exact iff_of_false nofun fun both => early both.1

theorem prepare_of_early (early : (station.now w).1 - v.lastBeat < v.interval) :
    ∃ budget entry, v.prepare station w =
      ((.ok budget, v), (station.note entry (station.now w).2).2) := by
  have due : ¬ v.interval ≤ (station.now w).1 - v.lastBeat := Nat.not_le_of_lt early
  have ready : After (v.prepare station) w fun result w' => ∃ budget entry,
      result = (.ok budget, v) ∧ w' = (station.note entry (station.now w).2).2 := by
    apply After.bind (.run _ _)
    intro t w₁ shown
    rw [shown] at due ⊢
    have skipped : v.beatIfDue station (t - v.lastBeat) = pure (.ok (), v) := if_neg due
    dsimp only
    rw [skipped]
    apply After.bind (.run _ _)
    rintro _ _ ⟨⟩
    exact After.bind (.run _ _) fun _ w₂ noted => After.pure ⟨_, _, rfl, by rw [noted]⟩
  obtain ⟨budget, entry, result, world⟩ := ready
  exact ⟨budget, entry, Prod.ext result world⟩

theorem turn_of_ready {budget : Millis} {v₁ : Vigil} {w₁ w₂ : World}
    {arrival : Except IoError Arrival} (ready : v.prepare station w = ((.ok budget, v₁), w₁))
    (waited : station.wait budget w₁ = (arrival, w₂)) :
    v.turn station w = v₁.receive station arrival w₂ := by
  have turned : After (v.turn station) w fun result w' =>
      (result, w') = v₁.receive station arrival w₂ := by
    apply After.bind (.run _ _)
    intro _ _ did
    cases ready.symm.trans did
    apply After.bind (.run _ _)
    intro _ _ did
    cases waited.symm.trans did
    rfl
  exact turned

theorem turn_of_unready {v₁ : Vigil} {w₁ : World}
    (unready : v.prepare station w = ((.error failure, v₁), w₁)) :
    v.turn station w = ((.error failure, v₁), w₁) := by
  have turned : After (v.turn station) w fun result w' =>
      (result, w') = ((.error failure, v₁), w₁) := by
    apply After.bind (.run _ _)
    intro _ _ did
    cases unready.symm.trans did
    rfl
  exact turned

theorem turn_error_iff : (v.turn station w).1.1 = .error failure ↔ v.Fails station w failure := by
  rcases prepared : v.prepare station w with ⟨⟨reason | budget, v₁⟩, w₁⟩
  · have looked : reason = failure ↔ v.interval ≤ (station.now w).1 - v.lastBeat ∧
        v.rechecks = true ∧
          (v.sentry.recheck station.toHost v.job (beaten station w)).1.1 = .error failure := by
      rw [← prepare_error_iff, prepared]
      exact ⟨fun same => congrArg Except.error same, Except.error.inj⟩
    rw [turn_of_unready prepared]
    constructor
    · intro failed
      obtain ⟨due, rechecks, failed⟩ := looked.1 (Except.error.inj failed)
      exact .look due rechecks failed
    · intro fails
      cases fails with
      | look due rechecks failed => exact congrArg Except.error (looked.2 ⟨due, rechecks, failed⟩)
      | wait ready => cases prepared.symm.trans ready
      | attend ready => cases prepared.symm.trans ready
  · rcases waited : station.wait budget w₁ with ⟨arrival, w₂⟩
    rw [turn_of_ready prepared waited, receive_error_iff]
    constructor
    · rintro (⟨cause, rfl, kind, reason⟩ | ⟨batch, rfl, failed⟩)
      · exact .wait prepared waited kind reason
      · exact .attend prepared waited failed
    · intro fails
      cases fails with
      | look due rechecks failed =>
        have unready := prepare_error_iff.2 ⟨due, rechecks, failed⟩
        rw [prepared] at unready
        cases unready
      | wait ready refused kind reason =>
        cases prepared.symm.trans ready
        cases waited.symm.trans refused
        exact .inl ⟨_, rfl, kind, reason⟩
      | attend ready read failed =>
        cases prepared.symm.trans ready
        cases waited.symm.trans read
        exact .inr ⟨_, rfl, failed⟩

end Vigil

theorem Vigil.Fails.fatal {station : Station World} {v : Vigil} {w : World} {failure : Failure}
    (fails : v.Fails station w failure) : ∃ reason, failure = .fatal reason := by
  cases fails with
  | look due rechecks failed =>
    obtain ⟨talk, -, rechecks⟩ :=
      v.sentry.recheck_heard station.toHost v.job (Vigil.beaten station w)
    obtain ⟨-, -, cause, named, -⟩ := (rechecks.error_iff failure).1 failed
    exact ⟨_, named⟩
  | wait ready refused kind reason => exact ⟨_, reason⟩
  | @attend budget v₁ w₁ w₂ batch ready read failed =>
    obtain ⟨talk, -, acts⟩ := v₁.sentry.attend_heard station.toHost v₁.job batch w₂
    rcases (acts.attended.1 failure).1 failed with ⟨-, named⟩ | ⟨-, cause, named, -⟩
    · exact ⟨_, named⟩
    · exact ⟨_, named⟩

/-- Which failures escape, over any surroundings. Beginning fails just when the file cannot be read
or watched and then the directory cannot be watched either; attending to a batch just when the
directory is gone, or the file is gone or cannot be read and then the directory cannot be watched;
looking unasked just when the file was watched, cannot be read, and the directory cannot be
watched. A turn fails just as its look or its batch does, or if the wait fails. Every failure is
fatal, one about a directory that is gone comes before anything is changed, and a wait that brings
nothing leaves all as it was. -/
theorem only_fatal_escapes {World : Type} (station : Station World) (job : Assignment)
    (s : Sentry) (v : Vigil) (w : World) :
    (∃ talk, s.start station.toHost.overheard job (w, []) =
        ((s.start station.toHost job w).1, (s.start station.toHost job w).2, talk) ∧
      ∀ failure, (s.start station.toHost job w).1.1 = .error failure ↔
        (Unread job talk ∨ Unwatched s.target talk) ∧ Barred s.target talk failure) ∧
    (∀ batch, ∃ talk, s.attend station.toHost.overheard job batch (w, []) =
        ((s.attend station.toHost job batch w).1, (s.attend station.toHost job batch w).2, talk) ∧
      s.Attended job (Judgement.ofBatch s.held s.target.name batch).verdict
        (s.attend station.toHost job batch w).1 talk) ∧
    (∃ talk, s.recheck station.toHost.overheard job (w, []) =
        ((s.recheck station.toHost job w).1, (s.recheck station.toHost job w).2, talk) ∧
      ∀ failure, (s.recheck station.toHost job w).1.1 = .error failure ↔
        s.held.phase = .watching ∧ Unread job talk ∧ Barred s.target talk failure) ∧
    (∀ failure, (v.turn station w).1.1 = .error failure ↔ v.Fails station w failure) ∧
    (∀ failure, v.Fails station w failure → ∃ reason, failure = .fatal reason) ∧
    (∀ budget v₁ w₁ arrival w₂, v.prepare station w = ((.ok budget, v₁), w₁) →
      station.wait budget w₁ = (arrival, w₂) → Vigil.Empty arrival →
        v.turn station w = ((.ok (), v₁), w₂)) ∧
    ((station.now w).1 - v.lastBeat < v.interval → ∃ budget entry, v.prepare station w =
      ((.ok budget, v), (station.note entry (station.now w).2).2)) := by
  refine ⟨?_, fun batch => ?_, ?_, fun _ => Vigil.turn_error_iff, fun _ fails => fails.fatal, ?_,
    Vigil.prepare_of_early⟩
  · obtain ⟨talk, heard, starts⟩ := s.start_heard station.toHost job w
    exact ⟨talk, heard, starts.error_iff⟩
  · obtain ⟨talk, heard, acts⟩ := s.attend_heard station.toHost job batch w
    exact ⟨talk, heard, acts.attended⟩
  · obtain ⟨talk, heard, rechecks⟩ := s.recheck_heard station.toHost job w
    exact ⟨talk, heard, rechecks.error_iff⟩
  intro budget v₁ w₁ arrival w₂ ready waited empty
  rw [Vigil.turn_of_ready ready waited, Vigil.receive_of_empty empty]

namespace Bench.Example

def nowhere : Scene := .ofTree .bare false []

def deaf : Scene := { stage with notifier := stage.notifier.apply (.later (.fail .other)) }

def vigil : Vigil := ⟨⟨target, .watching, none, some ⟨1⟩⟩, job, 2000, true, 0⟩

end Bench.Example

open Bench

open Example in
/-- Where there is not even a directory the watch cannot begin. A wait that fails ends a turn, and
one in which nothing happens does not. -/
theorem only_fatal_escapes_on_stage :
    (∃ talk cause, ((Sentry.ofTarget target).start Scene.host job nowhere).1.1 =
        .error (.fatal (.cannotWatch target.dir cause)) ∧
      (Unread job talk ∨ Unwatched target talk) ∧
      Barred target talk (.fatal (.cannotWatch target.dir cause))) ∧
    (∃ cause, (vigil.turn Scene.station deaf).1.1 = .error (.fatal (.cannotWait cause)) ∧
      vigil.Fails Scene.station deaf (.fatal (.cannotWait cause))) ∧
    ∃ w₁ w₂, vigil.prepare Scene.station stage = ((.ok 2000, vigil), w₁) ∧
      Scene.station.wait 2000 w₁ = (.ok .timedOut, w₂) ∧
      vigil.turn Scene.station stage = ((.ok (), vigil), w₂) := by
  refine ⟨?_, ?_, ?_⟩
  · obtain ⟨⟨talk, -, escapes⟩, -⟩ :=
      only_fatal_escapes Scene.station job (.ofTarget target) vigil nowhere
    have failed : ∃ cause, ((Sentry.ofTarget target).start Scene.host job nowhere).1.1 =
        .error (.fatal (.cannotWatch target.dir cause)) := ⟨_, rfl⟩
    obtain ⟨cause, failed⟩ := failed
    exact ⟨talk, cause, failed, (escapes _).1 failed⟩
  · obtain ⟨-, -, -, turns, -⟩ :=
      only_fatal_escapes Scene.station job (.ofTarget target) vigil deaf
    have failed : (vigil.turn Scene.station deaf).1.1 =
        .error (.fatal (.cannotWait (.bare .other))) := rfl
    exact ⟨_, failed, (turns _).1 failed⟩
  · obtain ⟨-, -, -, -, -, quiet, -⟩ :=
      only_fatal_escapes Scene.station job (.ofTarget target) vigil stage
    have ready : ∃ w₁ w₂, vigil.prepare Scene.station stage = ((.ok 2000, vigil), w₁) ∧
        Scene.station.wait 2000 w₁ = (.ok .timedOut, w₂) := ⟨_, _, rfl, rfl⟩
    obtain ⟨w₁, w₂, ready, waited⟩ := ready
    exact ⟨w₁, w₂, ready, waited, quiet _ _ _ _ _ ready waited (.inl rfl)⟩

end RoleWatch
