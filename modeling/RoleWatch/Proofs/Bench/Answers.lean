import RoleWatch.Bench.Scene
import RoleWatch.Proofs.Watch.Likeness

/-!
What the service answers makes no difference. Two runs over one stage that get different answers to
their orders show the same at every step, but for the log: a refusal is noted there and goes no
further.
-/
namespace RoleWatch.Bench

/-- One step of a run: something happens, or an operation of the watch or of its loop is called. -/
inductive Move where
  | happen (activity : Activity)
  | deliver (span : Millis)
  | start
  | attend (batch : List Event)
  | recheck
  | release
  | begin
  | turn
  | run (limit : Nat)

/-- What one step gives: what was read, and how the operation ended. -/
structure Outcome where
  arrival : Option (Except IoError Arrival)
  ending : Option (Except Failure Unit)

def Move.make (station : Station Scene) (v : Vigil) : Move → StateM Scene (Outcome × Vigil)
  | .happen activity => do
    Scene.apply activity
    return (⟨none, none⟩, v)
  | .deliver span => do
    let arrival ← station.wait span
    match arrival with
    | .ok (.events batch) =>
      let (ending, sentry) ← v.sentry.attend station.toHost v.job batch
      return (⟨some arrival, some ending⟩, { v with sentry })
    | _ => return (⟨some arrival, none⟩, v)
  | .start => do
    let (ending, sentry) ← v.sentry.start station.toHost v.job
    return (⟨none, some ending⟩, { v with sentry })
  | .attend batch => do
    let (ending, sentry) ← v.sentry.attend station.toHost v.job batch
    return (⟨none, some ending⟩, { v with sentry })
  | .recheck => do
    let (ending, sentry) ← v.sentry.recheck station.toHost v.job
    return (⟨none, some ending⟩, { v with sentry })
  | .release => do
    let sentry ← v.sentry.release station.toHost
    return (⟨none, none⟩, { v with sentry })
  | .begin => do
    let (ending, v) ← v.start station
    return (⟨none, some ending⟩, v)
  | .turn => do
    let (ending, v) ← v.turn station
    return (⟨none, some ending⟩, v)
  | .run limit => do
    let (failure, v) ← v.run station limit
    return (⟨none, failure.map .error⟩, v)

namespace Scene

/-- The stage with a service that takes note of every order and answers it in any way. -/
def answering (answer : Scene → Verb → String → Except Failure Unit) : Station Scene :=
  { station with
    perform := fun verb service scene =>
      (answer scene verb service, { scene with served := scene.served ++ [(verb, service)] }) }

def unlogged (scene : Scene) : Scene := { scene with refuses := false, log := [] }

/-- What a run shows step by step: the outcome, the watch and its loop, and all of the stage but
the log. -/
def play (station : Station Scene) : List Move → Vigil → Scene → List (Outcome × Vigil × Scene)
  | [], _, _ => []
  | move :: rest, v, scene =>
    let made := move.make station v scene
    (made.1.1, made.1.2, made.2.unlogged) :: play station rest made.1.2 made.2

def Same (scene scene' : Scene) : Prop := scene.unlogged = scene'.unlogged

theorem station_eq_answering : station = answering fun scene _ _ =>
    if scene.refuses then .error (.other "service command failed" []) else .ok () := rfl

theorem onNotifier_alike {α : Type} (call : Notifier → α × Notifier) :
    Alike Same (onNotifier call) (onNotifier call) := by
  rintro ⟨⟩ ⟨⟩ same
  cases same
  exact ⟨rfl, rfl⟩

theorem pass_alike (span : Millis) : Alike Same (pass span) (pass span) := by
  rintro ⟨⟩ ⟨⟩ same
  cases same
  exact ⟨rfl, rfl⟩

theorem now_alike : Alike Same now now := by
  rintro ⟨⟩ ⟨⟩ same
  cases same
  unfold now
  dsimp only
  split <;> exact ⟨rfl, rfl⟩

theorem wait_alike (span : Millis) : Alike Same (wait span) (wait span) := by
  refine (onNotifier_alike _).bind ?_
  rintro (_ | arrival)
  · exact (pass_alike span).bind fun _ => .pure _
  · exact .pure _

variable (answer answer' : Scene → Verb → String → Except Failure Unit)

theorem answering_alike (job : Assignment) :
    (answering answer).Alike Same (answering answer') job where
  enforce := by
    refine job.enforce_alike_unanswered (fun path => ?_) (fun verb service scene scene' same => ?_)
      (fun entry scene scene' same => same) fun entry scene scene' same => same
    · rintro ⟨⟩ ⟨⟩ same
      cases same
      exact ⟨rfl, rfl⟩
    · obtain ⟨⟩ := scene
      obtain ⟨⟩ := scene'
      cases same
      rfl
  addWatch _ _ := onNotifier_alike _
  removeWatch _ := onNotifier_alike _
  note _ _ _ same := ⟨rfl, same⟩
  now := now_alike
  wait := wait_alike
  beat := by
    rintro ⟨⟩ ⟨⟩ same
    cases same
    exact ⟨rfl, rfl⟩

end Scene

open Scene

variable (answer answer' : Scene → Verb → String → Except Failure Unit)

theorem Move.make_alike (move : Move) (v : Vigil) :
    Alike Same (move.make (answering answer) v) (move.make (answering answer') v) := by
  have alike := answering_alike answer answer'
  have host := (alike v.job).toAlike
  cases move with
  | happen activity => exact (onNotifier_alike _).bind fun _ => .pure _
  | deliver span =>
    refine (wait_alike span).bind ?_
    rintro (cause | batch | _ | _)
    · exact .pure _
    · exact (Sentry.attend_alike host v.sentry batch).bind fun _ => .pure _
    · exact .pure _
    · exact .pure _
  | start => exact (Sentry.start_alike host v.sentry).bind fun _ => .pure _
  | attend batch => exact (Sentry.attend_alike host v.sentry batch).bind fun _ => .pure _
  | recheck => exact (Sentry.recheck_alike host v.sentry).bind fun _ => .pure _
  | release => exact (Sentry.release_alike host v.sentry).bind fun _ => .pure _
  | begin => exact (Vigil.start_alike (alike v.job)).bind fun _ => .pure _
  | turn => exact (Vigil.turn_alike alike v).bind fun _ => .pure _
  | run limit => exact (Vigil.run_alike alike limit v).bind fun _ => .pure _

theorem Scene.play_eq (moves : List Move) (v : Vigil) {scene scene' : Scene}
    (same : Same scene scene') :
    play (answering answer) moves v scene = play (answering answer') moves v scene' := by
  induction moves generalizing v scene scene' with
  | nil => rfl
  | cons move rest ih =>
    obtain ⟨result, after⟩ := move.make_alike answer answer' v scene scene' same
    have shown : Scene.unlogged _ = Scene.unlogged _ := after
    simp only [play]
    rw [result, shown, ih _ after]

end RoleWatch.Bench

namespace RoleWatch

open Bench Scene

/-- From any stage and with any watch and loop on it, any steps in any order show the same whatever
the service answers to each of its orders, which may depend on all that happened so far: how
operations end, where the watch stands, which calls were made and which registrations there are,
how often the loop beat, and which orders the service got. So does a stage whose service refuses
everything beside one whose service refuses nothing. -/
theorem service_answers_immaterial (answer answer' : Scene → Verb → String → Except Failure Unit)
    (moves : List Move) (v : Vigil) (scene : Scene) :
    play (answering answer) moves v scene = play (answering answer') moves v scene ∧
    ∀ refuses, play station moves v { scene with refuses } = play station moves v scene := by
  refine ⟨play_eq answer answer' moves v rfl, fun refuses => ?_⟩
  rw [station_eq_answering]
  exact play_eq _ _ moves v rfl

end RoleWatch
