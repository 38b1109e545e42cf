import RoleWatch.Proofs.After
import RoleWatch.Proofs.Watch.Likeness

/-!
The timed loop under a clock that never goes back. The last beat and the interval fix the moment
when the next beat is due, and no wait goes on past it, so that beats are never closer than the
interval and late only by what passes between two turns.
-/
namespace RoleWatch

variable {World α : Type}

theorem Alike.keeps {holds : World → Prop} {step : StateM World α} {w : World}
    (alike : Alike (fun v w => v = w ∧ holds v) step step) (now : holds w) :
    After step w fun _ w' => holds w' :=
  (alike w w ⟨rfl, now⟩).2.2

inductive Moment where
  | beat (time : Millis)
  | wait (time budget : Millis)
  deriving DecidableEq

def Moment.beat? : Moment → Option Millis
  | .beat time => some time
  | .wait _ _ => none

def beatsOf (journal : List Moment) : List Millis := journal.filterMap Moment.beat?

namespace Station

variable {time : World → Millis} {regular : World → Prop} {station : Station World}

/-- The same surroundings, with a journal of the beats and of the waits beside the world. -/
def timed (time : World → Millis) (station : Station World) : Station (World × List Moment) where
  openFile path := beside (station.openFile path)
  addWatch path interest := beside (station.addWatch path interest)
  removeWatch handle := beside (station.removeWatch handle)
  perform verb service := beside (station.perform verb service)
  note entry := beside (station.note entry)
  now := beside station.now
  wait span := fun (w, journal) =>
    ((station.wait span w).1, (station.wait span w).2, journal ++ [.wait (time w) span])
  beat := fun (w, journal) => ((), (station.beat w).2, journal ++ [.beat (time w)])

theorem timed_alike (time : World → Millis) (station : Station World) (job : Assignment) :
    (station.timed time).Alike (fun (state : World × List Moment) w => state.1 = w) station job where
  enforce := job.enforce_alike (fun _ => beside_alike _) (fun _ _ => beside_alike _)
    fun _ => beside_alike _
  addWatch _ _ := beside_alike _
  removeWatch _ := beside_alike _
  note _ := beside_alike _
  now := beside_alike _
  wait _ := by
    rintro state _ rfl
    exact ⟨rfl, rfl⟩
  beat := by
    rintro state _ rfl
    exact ⟨rfl, rfl⟩

/-- The clock shows the time, and only waits take time, and no more than they may. -/
structure Punctual (station : Station World) (time : World → Millis) (regular : World → Prop) :
    Prop where
  openFile {w : World} (path : Path) (now : regular w) :
    After (station.openFile path) w fun _ w' => regular w' ∧ time w' = time w
  addWatch {w : World} (path : Path) (interest : Mask) (now : regular w) :
    After (station.addWatch path interest) w fun _ w' => regular w' ∧ time w' = time w
  removeWatch {w : World} (handle : Handle) (now : regular w) :
    After (station.removeWatch handle) w fun _ w' => regular w' ∧ time w' = time w
  perform {w : World} (verb : Verb) (service : String) (now : regular w) :
    After (station.perform verb service) w fun _ w' => regular w' ∧ time w' = time w
  note {w : World} (entry : Log.Entry) (now : regular w) :
    After (station.note entry) w fun _ w' => regular w' ∧ time w' = time w
  beat {w : World} (now : regular w) :
    After station.beat w fun _ w' => regular w' ∧ time w' = time w
  now {w : World} (now : regular w) :
    After station.now w fun shown w' => shown = time w ∧ regular w' ∧ time w' = time w
  wait {w : World} (span : Millis) (now : regular w) :
    After (station.wait span) w fun _ w' =>
      regular w' ∧ time w ≤ time w' ∧ time w' ≤ time w + span

end Station

structure Instant (time : World → Millis) (regular : World → Prop) (t : Millis)
    (journal : List Moment) (state : World × List Moment) : Prop where
  regular : regular state.1
  time : time state.1 = t
  journal : state.2 = journal

namespace Station.Punctual

variable {time : World → Millis} {regular : World → Prop} {station : Station World}
  {t : Millis} {journal : List Moment}

/-- All that the watch asks for happens in an instant. -/
theorem at_once (punctual : station.Punctual time regular) (job : Assignment) (t : Millis)
    (journal : List Moment) : (station.timed time).toHost.Alike
      (fun state state' => state = state' ∧ Instant time regular t journal state)
      (station.timed time).toHost job := by
  have still : ∀ {α : Type} {step : StateM World α}, (∀ w, regular w →
      After step w fun _ w' => regular w' ∧ time w' = time w) →
      RoleWatch.Alike (fun state state' => state = state' ∧ Instant time regular t journal state)
        (beside step) (beside step) := by
    rintro α step takes state _ ⟨rfl, ⟨now, rfl, rfl⟩⟩
    obtain ⟨after, same⟩ := takes state.1 now
    exact ⟨rfl, rfl, after, same, rfl⟩
  constructor
  · exact job.enforce_alike (fun path => still fun w => punctual.openFile path)
      (fun verb service => still fun w => punctual.perform verb service)
      fun entry => still fun w => punctual.note entry
  · exact fun path interest => still fun w => punctual.addWatch path interest
  · exact fun handle => still fun w => punctual.removeWatch handle
  · exact fun entry => still fun w => punctual.note entry

variable {state : World × List Moment}

theorem note_timed (punctual : station.Punctual time regular) (entry : Log.Entry)
    (now : Instant time regular t journal state) : After ((station.timed time).note entry) state
      fun _ state' => Instant time regular t journal state' := by
  obtain ⟨regular, rfl, rfl⟩ := now
  obtain ⟨after, same⟩ := punctual.note entry regular
  exact ⟨after, same, rfl⟩

theorem beat_timed (punctual : station.Punctual time regular)
    (now : Instant time regular t journal state) : After (station.timed time).beat state
      fun _ state' => Instant time regular t (journal ++ [.beat t]) state' := by
  obtain ⟨regular, rfl, rfl⟩ := now
  obtain ⟨after, same⟩ := punctual.beat regular
  exact ⟨after, same, rfl⟩

theorem now_timed (punctual : station.Punctual time regular)
    (now : Instant time regular t journal state) : After (station.timed time).now state
      fun shown state' => shown = t ∧ Instant time regular t journal state' := by
  obtain ⟨regular, rfl, rfl⟩ := now
  obtain ⟨shown, after, same⟩ := punctual.now regular
  exact ⟨shown, after, same, rfl⟩

theorem wait_timed (punctual : station.Punctual time regular) (budget : Millis)
    (now : Instant time regular t journal state) : After ((station.timed time).wait budget) state
      fun _ state' => ∃ t', t ≤ t' ∧ t' ≤ t + budget ∧
        Instant time regular t' (journal ++ [.wait t budget]) state' := by
  obtain ⟨regular, rfl, rfl⟩ := now
  obtain ⟨after, later, soon⟩ := punctual.wait budget regular
  exact ⟨_, later, soon, after, rfl, rfl⟩

end Station.Punctual

namespace Vigil

variable {time : World → Millis} {regular : World → Prop} {station : Station World} {v : Vigil}
  {t : Millis} {journal : List Moment} {state : World × List Moment}

theorem start_timed (punctual : station.Punctual time regular)
    (now : Instant time regular t journal state) : After (v.start (station.timed time)) state
      fun result state' => result.2.interval = v.interval ∧ result.2.lastBeat = t ∧
        Instant time regular t (journal ++ [.beat t]) state' := by
  apply After.bind (punctual.beat_timed now)
  intro _ state₁ beaten
  apply After.bind (punctual.now_timed beaten)
  rintro shown state₂ ⟨rfl, seen⟩
  have began :=
    Sentry.start_alike (punctual.at_once v.job shown (journal ++ [.beat shown])) v.sentry
  apply After.bind (began.keeps seen)
  intro _ state₃ done
  exact After.pure ⟨rfl, rfl, done⟩

theorem look_timed (punctual : station.Punctual time regular)
    (now : Instant time regular t journal state) : After (v.look (station.timed time)) state
      fun _ state' => Instant time regular t journal state' := by
  unfold look
  split
  · exact (Sentry.recheck_alike (punctual.at_once v.job t journal) v.sentry).keeps now
  · exact After.pure now

theorem beat_timed (punctual : station.Punctual time regular)
    (now : Instant time regular t journal state) : After (v.beat (station.timed time)) state
      fun result state' => result.1 = .ok () → result.2.interval = v.interval ∧
        result.2.lastBeat = t ∧ Instant time regular t (journal ++ [.beat t]) state' := by
  apply After.bind (punctual.note_timed _ now)
  intro _ state₁ now₁
  apply After.bind (punctual.beat_timed now₁)
  intro _ state₂ beaten
  apply After.bind (look_timed punctual beaten)
  rintro ⟨failure | ⟨⟩, s⟩ state₃ looked
  · exact After.pure (by simp)
  · apply After.bind (punctual.now_timed looked)
    rintro _ state₄ ⟨rfl, seen⟩
    exact After.pure fun _ => ⟨rfl, rfl, seen⟩

/-- What the loop does before it waits at a moment: it beats just if it is time, and the wait is to
end when the next beat is due. -/
structure Readied (v : Vigil) (t budget : Millis) (v' : Vigil) : Prop where
  interval : v'.interval = v.interval
  lastBeat : v'.lastBeat = if v.interval ≤ t - v.lastBeat then t else v.lastBeat
  positive : 0 < budget
  bounded : budget ≤ v.interval
  ends : t + budget = v'.lastBeat + v.interval

theorem Readied.of_same {budget : Millis} {v' v'' : Vigil} (readied : v.Readied t budget v')
    (interval : v''.interval = v'.interval) (lastBeat : v''.lastBeat = v'.lastBeat) :
    v.Readied t budget v'' where
  interval := interval.trans readied.interval
  lastBeat := lastBeat.trans readied.lastBeat
  positive := readied.positive
  bounded := readied.bounded
  ends := lastBeat ▸ readied.ends

def beatAt (v : Vigil) (t : Millis) : List Moment :=
  if v.interval ≤ t - v.lastBeat then [.beat t] else []

theorem beatIfDue_timed (punctual : station.Punctual time regular)
    (now : Instant time regular t journal state) :
    After (v.beatIfDue (station.timed time) (t - v.lastBeat)) state fun result state' =>
      result.1 = .ok () → result.2.interval = v.interval ∧
        result.2.lastBeat = (if v.interval ≤ t - v.lastBeat then t else v.lastBeat) ∧
        Instant time regular t (journal ++ v.beatAt t) state' := by
  unfold beatIfDue beatAt
  split
  · exact beat_timed punctual now
  · exact After.pure fun _ => ⟨rfl, rfl, by rwa [List.append_nil]⟩

theorem budget_ends {interval last t : Nat} (positive : 0 < interval) (past : last ≤ t) :
    let budget := if interval ≤ t - last then interval else interval - (t - last)
    0 < budget ∧ budget ≤ interval ∧
      t + budget = (if interval ≤ t - last then t else last) + interval := by
  intro budget
  by_cases due : interval ≤ t - last
  · have whole : budget = interval := if_pos due
    rw [if_pos due]
    omega
  · have rest : budget = interval - (t - last) := if_neg due
    rw [if_neg due]
    omega

theorem prepare_timed (punctual : station.Punctual time regular) (positive : 0 < v.interval)
    (past : v.lastBeat ≤ t) (now : Instant time regular t journal state) :
    After (v.prepare (station.timed time)) state fun result state' => ∀ budget v',
      result = (.ok budget, v') → v.Readied t budget v' ∧
        Instant time regular t (journal ++ v.beatAt t) state' := by
  apply After.bind (punctual.now_timed now)
  rintro shown state₁ ⟨rfl, seen⟩
  apply After.bind (beatIfDue_timed punctual seen)
  rintro ⟨failure | ⟨⟩, v₁⟩ state₂ ready
  · exact After.pure (by simp)
  · obtain ⟨interval, lastBeat, after⟩ := ready rfl
    apply After.bind (punctual.note_timed _ after)
    intro _ state₃ after
    apply After.pure
    rintro budget v' ⟨⟩
    have interval : v₁.interval = v.interval := interval
    have lastBeat : v₁.lastBeat = if v.interval ≤ shown - v.lastBeat then shown else v.lastBeat :=
      lastBeat
    obtain ⟨some, bounded, ends⟩ := budget_ends positive past
    rw [← lastBeat] at ends
    refine ⟨⟨interval, lastBeat, ?_, ?_, ?_⟩, after⟩
    · rwa [interval]
    · rwa [interval]
    · rwa [interval]

theorem receive_timed (punctual : station.Punctual time regular)
    (now : Instant time regular t journal state) (arrival : Except IoError Arrival) :
    After (v.receive (station.timed time) arrival) state fun result state' =>
      result.2.interval = v.interval ∧ result.2.lastBeat = v.lastBeat ∧
        Instant time regular t journal state' := by
  unfold receive
  split
  · exact After.pure ⟨rfl, rfl, now⟩
  · exact After.pure ⟨rfl, rfl, now⟩
  · rename_i batch
    have attended := Sentry.attend_alike (punctual.at_once v.job t journal) v.sentry batch
    apply After.bind (attended.keeps now)
    intro _ state₁ after
    exact After.pure ⟨rfl, rfl, after⟩
  · split
    · exact After.pure ⟨rfl, rfl, now⟩
    · apply After.bind (punctual.note_timed _ now)
      intro _ state₁ after
      exact After.pure ⟨rfl, rfl, after⟩

theorem turn_timed (punctual : station.Punctual time regular) (positive : 0 < v.interval)
    (past : v.lastBeat ≤ t) (now : Instant time regular t journal state) :
    After (v.turn (station.timed time)) state fun result state' => ∀ v',
      result = (.ok (), v') → ∃ budget t', v.Readied t budget v' ∧ t ≤ t' ∧ t' ≤ t + budget ∧
        Instant time regular t' (journal ++ v.beatAt t ++ [.wait t budget]) state' := by
  apply After.bind (prepare_timed punctual positive past now)
  rintro ⟨failure | budget, v₁⟩ state₁ ready
  · exact After.pure (by simp)
  · obtain ⟨readied, after⟩ := ready budget v₁ rfl
    apply After.bind (punctual.wait_timed budget after)
    rintro arrival state₂ ⟨t', later, soon, waited⟩
    apply After.mono (receive_timed punctual waited arrival)
    rintro ⟨_, v'⟩ state₃ ⟨interval, lastBeat, done⟩ _ ⟨⟩
    have interval : v'.interval = v₁.interval := interval
    have lastBeat : v'.lastBeat = v₁.lastBeat := lastBeat
    exact ⟨budget, t', readied.of_same interval lastBeat, later, soon, done⟩

/-- What a loop with a positive interval reaches by turns that succeed, if any time passes and
anything happens between two of them. -/
inductive Underway (station : Station World) (time : World → Millis) (regular : World → Prop) :
    Vigil → World × List Moment → Prop where
  | start {v v' : Vigil} {w : World} {state : World × List Moment} (positive : 0 < v.interval)
      (fair : regular w) (began : v.start (station.timed time) (w, []) = ((.ok (), v'), state)) :
      Underway station time regular v' state
  | turn {v v' : Vigil} {w w₁ : World} {journal : List Moment} {state : World × List Moment}
      (before : Underway station time regular v (w, journal)) (fair : regular w₁)
      (later : time w ≤ time w₁)
      (did : v.turn (station.timed time) (w₁, journal) = ((.ok (), v'), state)) :
      Underway station time regular v' state

/-- Between turns the last beat is written down, and the next one is not due yet. -/
structure Timely (time : World → Millis) (v : Vigil) (state : World × List Moment) : Prop where
  positive : 0 < v.interval
  last : (beatsOf state.2).getLast? = some v.lastBeat
  before : ∀ t ∈ beatsOf state.2, t ≤ v.lastBeat
  spaced : (beatsOf state.2).Pairwise fun earlier later => earlier + v.interval ≤ later
  past : v.lastBeat ≤ time state.1
  soon : time state.1 ≤ v.lastBeat + v.interval

theorem beatsOf_turn (v : Vigil) (journal : List Moment) (t budget : Millis) :
    beatsOf (journal ++ v.beatAt t ++ [.wait t budget]) =
      beatsOf journal ++ if v.interval ≤ t - v.lastBeat then [t] else [] := by
  unfold beatAt
  split <;> simp [beatsOf, Moment.beat?]

theorem Timely.turn {v' : Vigil} {w w₁ : World} {budget t' : Millis}
    (timely : v.Timely time (w, journal)) (later : time w ≤ time w₁)
    (readied : v.Readied (time w₁) budget v') (waited : time w₁ ≤ t') (soon : t' ≤ time w₁ + budget)
    (now : Instant time regular t'
      (journal ++ v.beatAt (time w₁) ++ [.wait (time w₁) budget]) state) :
    v'.Timely time state := by
  obtain ⟨regular, rfl, written⟩ := now
  have past : v.lastBeat ≤ time w₁ := Nat.le_trans timely.past later
  have lastBeat := readied.lastBeat
  have beats := beatsOf_turn v journal (time w₁) budget
  rw [← written] at beats
  have ends : time w₁ + budget = v'.lastBeat + v'.interval := by
    rw [readied.interval]
    exact readied.ends
  by_cases due : v.interval ≤ time w₁ - v.lastBeat
  · rw [if_pos due] at beats lastBeat
    have gap : v.lastBeat + v.interval ≤ time w₁ := (Nat.le_sub_iff_add_le' past).1 due
    constructor
    · exact readied.interval ▸ timely.positive
    · rw [beats, List.getLast?_concat, lastBeat]
    · intro t member
      rw [lastBeat]
      rw [beats, List.mem_append, List.mem_singleton] at member
      rcases member with earlier | rfl
      · exact Nat.le_trans (timely.before t earlier) past
      · exact Nat.le_refl _
    · rw [beats, List.pairwise_append, readied.interval]
      refine ⟨timely.spaced, List.pairwise_singleton _ _, ?_⟩
      intro t earlier t' new
      rw [List.mem_singleton.1 new]
      exact Nat.le_trans (Nat.add_le_add_right (timely.before t earlier) _) gap
    · exact lastBeat ▸ waited
    · exact ends ▸ soon
  · rw [if_neg due] at beats lastBeat
    rw [List.append_nil] at beats
    constructor
    · exact readied.interval ▸ timely.positive
    · rw [beats, lastBeat]
      exact timely.last
    · rw [beats, lastBeat]
      exact timely.before
    · rw [beats, readied.interval]
      exact timely.spaced
    · exact lastBeat ▸ Nat.le_trans past waited
    · exact ends ▸ soon

theorem Underway.timely (punctual : station.Punctual time regular)
    (underway : Underway station time regular v state) : v.Timely time state := by
  induction underway with
  | @start v v' w state positive fair began =>
    have now : Instant time regular (time w) [] (w, []) := ⟨fair, rfl, rfl⟩
    obtain ⟨interval, lastBeat, now⟩ := (start_timed punctual now).of_run began
    have interval : v'.interval = v.interval := interval
    have lastBeat : v'.lastBeat = time w := lastBeat
    obtain ⟨regular, same, written⟩ := now
    have beats : beatsOf state.2 = [time w] := by
      rw [written]
      rfl
    constructor
    · exact interval ▸ positive
    · rw [beats, lastBeat]
      rfl
    · simp [beats, lastBeat]
    · rw [beats]
      exact List.pairwise_singleton _ _
    · exact Nat.le_of_eq (lastBeat.trans same.symm)
    · rw [lastBeat, same]
      exact Nat.le_add_right _ _
  | @turn v v' w w₁ journal state before fair later did ih =>
    have now : Instant time regular (time w₁) journal (w₁, journal) := ⟨fair, rfl, rfl⟩
    have past := Nat.le_trans ih.past later
    obtain ⟨budget, t', readied, waited, soon, now⟩ :=
      (turn_timed punctual ih.positive past now).of_run did v' rfl
    exact ih.turn later readied waited soon now

end Vigil

end RoleWatch
