import RoleWatch.Proofs.Bench.Trial
import RoleWatch.Proofs.Watch.Beat

/-!
The law of the timer, and that a stage keeps the time it needs: on a stage whose clock shows the
time, only a wait with nothing to read takes time, and exactly as much as it may.
-/
namespace RoleWatch

open Bench

theorem Bench.Scene.station_punctual :
    Scene.station.Punctual Scene.time fun scene => scene.readings = [] where
  openFile _ now := ⟨now, rfl⟩
  addWatch _ _ now := ⟨now, rfl⟩
  removeWatch _ now := ⟨now, rfl⟩
  perform _ _ now := ⟨now, rfl⟩
  note _ now := ⟨now, rfl⟩
  beat now := ⟨now, rfl⟩
  now {scene} now := by
    have shown : Scene.now scene = (scene.time, scene) := by
      unfold Scene.now
      rw [now]
    change After Scene.now scene _
    unfold After
    rw [shown]
    exact ⟨rfl, now, rfl⟩
  wait {scene} span now := by
    have read : After (Scene.onNotifier Notifier.read) scene fun _ scene' =>
        scene'.readings = [] ∧ scene'.time = scene.time := ⟨now, rfl⟩
    apply After.bind read
    rintro (_ | arrival) scene' ⟨after, same⟩
    · have passed : After (Scene.pass span) scene' fun _ w =>
          w.readings = [] ∧ w.time = scene.time + span := ⟨after, congrArg (· + span) same⟩
      apply After.bind passed
      rintro _ w ⟨after, late⟩
      exact After.pure ⟨after, late ▸ Nat.le_add_right _ _, Nat.le_of_eq late⟩
    · exact After.pure ⟨after, Nat.le_of_eq same.symm, same ▸ Nat.le_add_right _ _⟩

variable {World : Type}

/-- The law of the timer, for a loop with a positive interval at a clock that never goes back, with
waits that take at most what they may and calls that take no time. In every turn there is one wait,
which ends at the latest when the next beat is due. There is one beat if the interval has passed
since the last one when the turn begins, and else none. Two beats are never closer than the
interval, and further apart by no more than what passed between the two turns. -/
theorem timer_law {station : Station World} {time : World → Millis} {regular : World → Prop}
    (punctual : station.Punctual time regular) {v : Vigil} {w : World} {journal : List Moment}
    (underway : v.Underway station time regular (w, journal)) :
    (beatsOf journal).Pairwise (fun earlier later => earlier + v.interval ≤ later) ∧
    (beatsOf journal).getLast? = some v.lastBeat ∧
    ∀ w₁ v' w' journal', regular w₁ → time w ≤ time w₁ →
      v.turn (station.timed time) (w₁, journal) = ((.ok (), v'), w', journal') →
        v.turn station w₁ = ((.ok (), v'), w') ∧ v'.interval = v.interval ∧
        ∃ budget, 0 < budget ∧ budget ≤ v.interval ∧
          time w₁ + budget = v'.lastBeat + v.interval ∧
          (v.interval ≤ time w₁ - v.lastBeat →
            journal' = journal ++ [.beat (time w₁), .wait (time w₁) budget] ∧
            v.lastBeat + v.interval ≤ time w₁ ∧
            time w₁ ≤ v.lastBeat + v.interval + (time w₁ - time w)) ∧
          (time w₁ - v.lastBeat < v.interval →
            journal' = journal ++ [.wait (time w₁) budget]) := by
  have timely := underway.timely punctual
  refine ⟨timely.spaced, timely.last, ?_⟩
  intro w₁ v' w' journal' fair later did
  have alike := Vigil.turn_alike (station.timed_alike time) v (w₁, journal) w₁ rfl
  rw [did] at alike
  have now : Instant time regular (time w₁) journal (w₁, journal) := ⟨fair, rfl, rfl⟩
  have past := Nat.le_trans timely.past later
  obtain ⟨budget, t', readied, -, -, now⟩ :=
    (Vigil.turn_timed punctual timely.positive past now).of_run did v' rfl
  have written : journal' = journal ++ v.beatAt (time w₁) ++ [.wait (time w₁) budget] := now.journal
  refine ⟨Prod.ext alike.1.symm alike.2.symm, readied.interval, budget, readied.positive,
    readied.bounded, readied.ends, ?_, ?_⟩
  · intro due
    rw [Vigil.beatAt, if_pos due, List.append_assoc] at written
    refine ⟨written, (Nat.le_sub_iff_add_le' past).1 due, ?_⟩
    calc time w₁ = time w + (time w₁ - time w) := (Nat.add_sub_of_le later).symm
      _ ≤ v.lastBeat + v.interval + (time w₁ - time w) := Nat.add_le_add_right timely.soon _
  · intro early
    rw [Vigil.beatAt, if_neg (Nat.not_le_of_lt early), List.append_nil] at written
    exact written

open Example in
/-- The first turn begins half a second late: it beats, and the next beat is an interval later. -/
theorem timer_law_on_late_turn : ∃ (v : Vigil) (w : Scene) (journal : List Moment),
    Scene.station.Punctual Scene.time (fun scene => scene.readings = []) ∧
    v.Underway Scene.station Scene.time (fun scene => scene.readings = []) (w, journal) ∧
    beatsOf journal = [0] ∧ w.time = 0 ∧ ∃ w₁ v' w' journal', w₁.readings = [] ∧
      w.time ≤ w₁.time ∧
      v.turn (Scene.station.timed Scene.time) (w₁, journal) = ((.ok (), v'), w', journal') ∧
      v.turn Scene.station w₁ = ((.ok (), v'), w') ∧
      journal' = journal ++ [.beat 2500, .wait 2500 2000] := by
  generalize first : Vigil.start (Scene.station.timed Scene.time)
    ⟨.ofTarget target, job, 2000, false, 0⟩ (stage, []) = ran
  have ok : ran.1.1 = .ok () := by rw [← first]; rfl
  have fair : stage.readings = [] := rfl
  have began : ran.1.2.Underway Scene.station Scene.time (fun scene => scene.readings = []) ran.2 :=
    .start (by decide) fair (first.trans (Prod.ext (Prod.ext ok rfl) rfl))
  have later : ({ ran.2.1 with time := 2500 } : Scene).readings = [] := by rw [← first]; rfl
  have time : ran.2.1.time = 0 := by rw [← first]; rfl
  have beats : beatsOf ran.2.2 = [0] := by rw [← first]; rfl
  have lastBeat : ran.1.2.lastBeat = 0 := by rw [← first]; rfl
  have interval : ran.1.2.interval = 2000 := by rw [← first]; rfl
  generalize second : ran.1.2.turn (Scene.station.timed Scene.time)
    ({ ran.2.1 with time := 2500 }, ran.2.2) = ran'
  have turned : ran'.1.1 = .ok () := by rw [← second, ← first]; rfl
  have next : ran'.1.2.lastBeat = 2500 := by rw [← second, ← first]; rfl
  have shape : ran' = ((.ok (), ran'.1.2), ran'.2.1, ran'.2.2) := Prod.ext (Prod.ext turned rfl) rfl
  have did := second.trans shape
  obtain ⟨-, -, law⟩ := timer_law Scene.station_punctual began
  obtain ⟨plain, -, budget, -, -, ends, due, -⟩ :=
    law _ _ _ _ later (by rw [time]; exact Nat.zero_le _) did
  have passed : 2000 ≤ 2500 - 0 := by decide
  obtain ⟨written, -, -⟩ := due (by rw [lastBeat, interval]; exact passed)
  have whole : budget = 2000 := by
    rw [next, interval] at ends
    exact Nat.add_left_cancel ends
  rw [whole] at written
  exact ⟨_, _, _, Scene.station_punctual, began, beats, time, _, _, _, _, later,
    by rw [time]; exact Nat.zero_le _, did, plain, written⟩

end RoleWatch
