import RoleWatch.Proofs.Bench.Trial
import RoleWatch.Proofs.Watch.Ledger
import RoleWatch.Proofs.Watch.Loop

/-!
How the watch ends. Every handle it was ever issued is ended exactly once, whatever failed on the
way, and a loop on a stage that has ended leaves no registration behind.
-/
namespace RoleWatch.Bench

namespace Scene

def prepared (tree : Tree) (refuses : Bool) (readings : List Millis) (before : List Activity) :
    Scene :=
  { ofTree tree refuses readings with notifier := before.foldl Notifier.apply (.ofTree tree) }

def runLoop (job : Assignment) (t : Target) (interval : Millis) (rechecks : Bool) (limit : Nat) :
    StateM Scene (Option Failure × Vigil) := do
  let v ← Vigil.create station t job interval rechecks
  v.run station limit

theorem prepared_lists (tree : Tree) (refuses : Bool) (readings : List Millis)
    (before : List Activity) : (prepared tree refuses readings before).Lists 2 [] := by
  have undisturbed : ∀ n : Notifier, n.Undisturbed (before.foldl Notifier.apply n) := by
    induction before with
    | nil => exact .refl
    | cons activity rest ih => exact fun n => (Notifier.apply_undisturbed n activity).trans (ih _)
  have all := undisturbed (.ofTree tree)
  exact ⟨all.active, all.maxActive.symm ▸ Nat.zero_le 2⟩

theorem now_lists {most : Nat} {there : List Registration} {scene : Scene}
    (lists : scene.Lists most there) : After now scene fun _ scene' => scene'.Lists most there := by
  obtain ⟨active, bound⟩ := lists
  unfold After now
  split <;> exact ⟨active, bound⟩

theorem station_keeps_list (t : Target) {most : Nat} (room : 2 ≤ most) :
    station.Keeps t (Lists most) where
  toKeeps := host_keeps_list t room
  now lists := now_lists lists
  wait span lists := wait_lists lists span
  beat lists := ⟨lists.active, lists.maxActive⟩

theorem runLoop_releases {job : Assignment} {t : Target} {interval : Millis} {rechecks : Bool}
    {limit : Nat} {scene : Scene} (empty : scene.Lists 2 []) :
    After (runLoop job t interval rechecks limit) scene fun result scene' =>
      result.1.isSome → scene'.Lists 2 [] := by
  have keeps := station_keeps_list t (Nat.le_refl 2)
  have created : After (Vigil.create station t job interval rechecks) scene fun v scene' =>
      v.sentry = .ofTarget t ∧ scene'.Lists 2 [] :=
    After.bind (now_lists empty) fun _ _ lists => After.pure ⟨rfl, lists⟩
  apply After.bind created
  rintro v scene' ⟨fresh, lists⟩
  exact Vigil.run_releases keeps fresh limit lists

end Scene

end RoleWatch.Bench

namespace RoleWatch

open Bench

/-- Over any surroundings, with any calls between beginning and release and whatever they come to,
the ledger of the calls about registrations shows each issued handle ended once and no other, at
each moment two registrations at most, one of each sort, and none but those of the target. A second
release makes no call. On a stage a loop that ended leaves nothing registered, and there were never
more than two registrations. -/
theorem every_handle_ended_once :
    (∀ {World : Type} (host : Host World) (job : Assignment) (t : Target)
        (calls : List (Sentry.Call World)) (w : World),
      let stint := Sentry.stint host.audited job t (calls.map Sentry.Call.audited) (w, [])
      let ledger : Ledger := stint.2.2
      (stint.1, stint.2.1) = Sentry.stint host job t calls w ∧
      (ledger.issued.Nodup → ∀ h ∈ ledger.issued, ledger.ended.count h = 1) ∧
      ledger.ended.Perm ledger.issued ∧
      (stint.1.release host.audited stint.2).2.2 = ledger ∧
      (∀ moment : Ledger, moment <+: ledger →
        moment.outstanding.length ≤ 2 ∧
        (moment.outstanding.countP fun r => r.path = t.dir ∧ r.interest = .directoryInterest) ≤ 1 ∧
        (moment.outstanding.countP fun r => r.path = t.file ∧ r.interest = .fileInterest) ≤ 1) ∧
      (∀ (moment : Ledger) (h : Handle), moment ++ [.ended h] <+: ledger →
        ∃ r ∈ moment.outstanding, r.handle = h) ∧
      ∀ (path : Path) (interest : Mask) (answer : Option Handle),
        Dealing.asked path interest answer ∈ ledger → t.Names path interest) ∧
    ∀ (tree : Tree) (refuses : Bool) (readings : List Millis) (before : List Activity)
        (job : Assignment) (t : Target) (interval : Millis) (rechecks : Bool) (limit : Nat)
        (failure : Failure) (v : Vigil) (scene : Scene),
      Scene.runLoop job t interval rechecks limit
          (Scene.prepared tree refuses readings before) = ((some failure, v), scene) →
        scene.notifier.active = [] ∧ scene.notifier.maxActive ≤ 2 := by
  refine ⟨fun host job t calls w => ?_, ?_⟩
  · intro stint ledger
    obtain ⟨accounts, noFile, noDir⟩ := Sentry.stint_accounts host job t calls w
    have orderly : ledger.Orderly t := accounts.orderly
    have balanced : ledger.ended.Perm ledger.issued := orderly.ended_perm accounts.outstanding
    have alike := Sentry.stint_alike host job t calls (w, []) w rfl
    refine ⟨Prod.ext alike.1 alike.2, ?_, balanced, Sentry.release_again _ noFile noDir, ?_, ?_, ?_⟩
    · intro fresh h issued
      rw [balanced.count_eq, fresh.count, if_pos issued]
    · intro moment front
      have orderly := orderly.of_prefix front
      refine ⟨orderly.length_le_two, ?_, ?_⟩
      · exact orderly.countP_le_one fun r asks => (of_decide_eq_true asks).2
      · exact orderly.countP_le_one fun r asks => (of_decide_eq_true asks).2
    · exact fun moment h front => orderly.proper_of_prefix front
    · exact fun path interest answer asked => orderly.names_of_mem asked
  · intro tree refuses readings before job t interval rechecks limit failure v scene ran
    have prepared := Scene.prepared_lists tree refuses readings before
    have lists := (Scene.runLoop_releases prepared).of_run ran rfl
    exact ⟨lists.active, lists.maxActive⟩

open Example in
/-- The file is deleted and comes back between two calls, and a loop is left by its directory. -/
theorem every_handle_ended_once_on_stage :
    let calls : List (Sentry.Call Scene) :=
      [.meanwhile fun scene => (Scene.apply (.delete target.file) scene).2,
        .attend [.onSelf ⟨1⟩ (.ofFlags [.deleteSelf])],
        .meanwhile fun scene => (Scene.apply (.create target.file [0x6d]) scene).2, .recheck]
    let ledger : Ledger :=
      (Sentry.stint Scene.host.audited job target (calls.map Sentry.Call.audited) (stage, [])).2.2
    ledger.issued = [⟨1⟩, ⟨2⟩, ⟨3⟩] ∧ (∀ h ∈ ledger.issued, ledger.ended.count h = 1) ∧
    ∃ (failure : Failure) (v : Vigil) (scene : Scene),
      Scene.runLoop job target 2000 true 3 (Scene.prepared stage.notifier.tree false []
        [.delete target.file, .later (.act [.removeDirectory target.dir])]) =
          ((some failure, v), scene) ∧
      scene.notifier.active = [] ∧ scene.notifier.maxActive ≤ 2 := by
  intro calls ledger
  have issued : ledger.issued = [⟨1⟩, ⟨2⟩, ⟨3⟩] := by decide +kernel
  have fresh : ledger.issued.Nodup := by rw [issued]; decide
  have ended := (every_handle_ended_once.1 Scene.host job target calls stage).2.1 fresh
  have gone : (Scene.runLoop job target 2000 true 3 (Scene.prepared stage.notifier.tree false []
      [.delete target.file, .later (.act [.removeDirectory target.dir])])).1.1 =
        some (.fatal (.directoryRemoved target.dir)) := by decide +kernel
  rcases ran : Scene.runLoop job target 2000 true 3 (Scene.prepared stage.notifier.tree false []
    [.delete target.file, .later (.act [.removeDirectory target.dir])]) with ⟨⟨reason, v⟩, scene⟩
  rw [ran] at gone
  obtain rfl : reason = _ := gone
  exact ⟨issued, ended, _, v, scene, rfl,
    every_handle_ended_once.2 _ _ _ _ _ _ _ _ _ _ _ _ ran⟩

end RoleWatch
