import RoleWatch.Proofs.Duty.Marking
import RoleWatch.Proofs.Path.Parent
import RoleWatch.Settings.Checked

/-!
Which settings are accepted, told apart from the check: a list of requirements, all of which have to
be met, and of which the first that is not is the one that is objected to.
-/
namespace RoleWatch.Settings

inductive Requirement where
  | absolute
  | splits
  | interval
  | lineLimit
  | service
  | program
  | pollInterval
  | marker
  deriving DecidableEq

namespace Requirement

-- In the order in which they are objected to.
def all : List Requirement :=
  [.absolute, .splits, .interval, .lineLimit, .service, .program, .pollInterval, .marker]

def Met (s : Settings) : Requirement → Prop
  | .absolute => s.watch.path.bytes.head? = some Path.slash
  | .splits => ∃ above name, above ≠ [] ∧ s.watch.path.parts = above ++ [.name name]
  | .interval => 1 ≤ s.watch.interval
  | .lineLimit => (Bytes.ofText s.watch.marker).length < s.watch.lineLimit
  | .service => ∃ c ∈ s.service.name.toList, Blank.isBlank c = false
  | .program => ∃ c ∈ s.service.program.toList, Blank.isBlank c = false
  | .pollInterval => 1 ≤ s.listening.pollInterval
  | .marker => s.watch.marker ≠ "" ∧ ∀ c ∈ s.watch.marker.toList, Blank.isBlank c = false

/-- What is objected to settings that do not meet a requirement. An absolute path that cannot be
split is one that does not end in a name, so that nothing is said of its parent. -/
def objection (s : Settings) : Requirement → Objection
  | .absolute => .relativePath s.watch.path
  | .splits => .namesNoFile s.watch.path
  | .interval => .zeroInterval
  | .lineLimit => .lineLimit s.watch.lineLimit (Bytes.ofText s.watch.marker).length
  | .service => .blankService
  | .program => .blankProgram
  | .pollInterval => .zeroPollInterval
  | .marker => .badMarker s.watch.marker

def FirstUnmet (s : Settings) (r : Requirement) : Prop :=
  ∃ before after, all = before ++ r :: after ∧ (∀ q ∈ before, q.Met s) ∧ ¬ r.Met s

theorem exists_firstUnmet {s : Settings} (unmet : ¬ ∀ r : Requirement, r.Met s) :
    ∃ r : Requirement, r.FirstUnmet s := by
  classical
  obtain ⟨some_r, fails⟩ := Classical.not_forall.1 unmet
  have listed : some_r ∈ all := by cases some_r <;> decide
  cases found : all.find? fun r => ¬ r.Met s with
  | none => exact absurd (List.find?_eq_none.1 found some_r listed) (by simpa using fails)
  | some r =>
    obtain ⟨first, before, after, split, passed⟩ := List.find?_eq_some_iff_append.1 found
    exact ⟨r, before, after, split, fun q member => by simpa using passed q member,
      by simpa using first⟩

end Requirement

theorem isBlankText_eq_true_iff {text : String} :
    isBlankText text = true ↔ ¬ ∃ c ∈ text.toList, Blank.isBlank c = false := by
  rw [isBlankText, List.isEmpty_iff, Blank.trimChars_eq_nil_iff]
  simp

theorem isAbsolute_iff_met {s : Settings} :
    s.watch.path.isAbsolute = true ↔ Requirement.absolute.Met s := by
  simp [Path.isAbsolute, Requirement.Met]

theorem proper_iff_met {s : Settings} :
    (s.watch.marker ≠ "" ∧ s.watch.marker.toList.any Blank.isBlank = false) ↔
      Requirement.marker.Met s := by
  simp [Requirement.Met]

namespace Requirement

def test (s : Settings) : Requirement → Except Objection Unit
  | .absolute =>
    if s.watch.path.isAbsolute then .ok () else .error (.relativePath s.watch.path)
  | .splits => (Target.ofPath s.watch.path).map fun _ => ()
  | .interval => if s.watch.interval = 0 then .error .zeroInterval else .ok ()
  | .lineLimit =>
    if s.watch.lineLimit ≤ (Bytes.ofText s.watch.marker).length then
      .error (.lineLimit s.watch.lineLimit (Bytes.ofText s.watch.marker).length)
    else .ok ()
  | .service => if isBlankText s.service.name then .error .blankService else .ok ()
  | .program => if isBlankText s.service.program then .error .blankProgram else .ok ()
  | .pollInterval => if s.listening.pollInterval = 0 then .error .zeroPollInterval else .ok ()
  | .marker => (Marker.ofText s.watch.marker).map fun _ => ()

variable {s : Settings} {r : Requirement}

theorem test_of_met (met : r.Met s) : r.test s = .ok () := by
  cases r with
  | absolute => exact if_pos (isAbsolute_iff_met.2 met)
  | splits =>
    obtain ⟨t, split⟩ := Target.exists_ofPath_iff.2 met
    simp [test, split, Except.map]
  | interval => exact if_neg (Nat.ne_of_gt met)
  | lineLimit => exact if_neg (Nat.not_le_of_lt met)
  | service => exact if_neg fun blank => isBlankText_eq_true_iff.1 blank met
  | program => exact if_neg fun blank => isBlankText_eq_true_iff.1 blank met
  | pollInterval => exact if_neg (Nat.ne_of_gt met)
  | marker =>
    have taken : Marker.ofText s.watch.marker = .ok _ := dif_pos (proper_iff_met.2 met)
    rw [test, taken]
    rfl

theorem test_of_not_met (rooted : r = .splits → absolute.Met s) (unmet : ¬ r.Met s) :
    r.test s = .error (r.objection s) := by
  cases r with
  | absolute => exact if_neg (mt isAbsolute_iff_met.1 unmet)
  | splits =>
    have refused := Target.ofPath_of_isAbsolute (isAbsolute_iff_met.2 (rooted rfl))
      (mt Target.exists_ofPath_iff.1 unmet)
    simp [test, refused, Except.map, objection]
  | interval => exact if_pos (Nat.eq_zero_of_not_pos unmet)
  | lineLimit => exact if_pos (Nat.le_of_not_lt unmet)
  | service => exact if_pos (isBlankText_eq_true_iff.2 unmet)
  | program => exact if_pos (isBlankText_eq_true_iff.2 unmet)
  | pollInterval => exact if_pos (Nat.eq_zero_of_not_pos unmet)
  | marker =>
    have refused : Marker.ofText s.watch.marker = .error _ := dif_neg (mt proper_iff_met.1 unmet)
    rw [test, refused]
    rfl

theorem forM_test_of_met {l : List Requirement} (met : ∀ r ∈ l, r.Met s) :
    l.forM (test s) = .ok () := by
  induction l with
  | nil => rfl
  | cons r rest ih =>
    have here := test_of_met (met r List.mem_cons_self)
    have later := ih fun q member => met q (List.mem_cons_of_mem _ member)
    change (test s r).bind _ = _
    rw [here]
    exact later

theorem forM_test_of_firstUnmet (first : r.FirstUnmet s) :
    all.forM (test s) = .error (r.objection s) := by
  obtain ⟨before, after, split, met, unmet⟩ := first
  have rooted : r = .splits → absolute.Met s := by
    rintro rfl
    cases before with
    | nil => simp [all] at split
    | cons q rest =>
      obtain ⟨rfl, -⟩ := List.cons.inj split
      exact met .absolute List.mem_cons_self
  have here := test_of_not_met rooted unmet
  rw [split]
  clear split
  induction before with
  | nil =>
    change (test s r).bind _ = _
    rw [here]
    rfl
  | cons q rest ih =>
    have passed := test_of_met (met q List.mem_cons_self)
    have later := ih fun q member => met q (List.mem_cons_of_mem _ member)
    change (test s q).bind _ = _
    rw [passed]
    exact later

end Requirement

theorem guarded {α : Type} {p : Prop} [Decidable p] (o : Objection) (next : Except Objection α) :
    (if p then (throw o : Except Objection Unit) >>= fun _ => next else next) =
      (if p then .error o else .ok ()) >>= fun _ => next := by
  split <;> rfl

/-- The check is one test after the other; what splitting the path and taking the marker yield is
kept. -/
theorem check_eq (s : Settings) : s.check = (Requirement.all.forM (Requirement.test s)).bind
    fun _ => (Target.ofPath s.watch.path).bind fun target =>
      (Marker.ofText s.watch.marker).bind fun marker => .ok ⟨s, target, marker⟩ := by
  have told : Requirement.all.forM (Requirement.test s) = do
      Requirement.test s .absolute
      (Target.ofPath s.watch.path).map fun _ => ()
      Requirement.test s .interval
      Requirement.test s .lineLimit
      Requirement.test s .service
      Requirement.test s .program
      Requirement.test s .pollInterval
      (Marker.ofText s.watch.marker).map fun _ => ()
      return () := rfl
  have checked : s.check = do
      Requirement.test s .absolute
      let target ← Target.ofPath s.watch.path
      Requirement.test s .interval
      Requirement.test s .lineLimit
      Requirement.test s .service
      Requirement.test s .program
      Requirement.test s .pollInterval
      let marker ← Marker.ofText s.watch.marker
      return ⟨s, target, marker⟩ := by
    unfold check
    dsimp only
    simp only [guarded, Requirement.test]
    cases s.watch.path.isAbsolute <;> rfl
  rw [told, checked]
  -- Both stop at the same test, if they stop.
  rcases Requirement.test s .absolute with o | ⟨⟩
  · rfl
  rcases Target.ofPath s.watch.path with o | target
  · rfl
  rcases Requirement.test s .interval with o | ⟨⟩
  · rfl
  rcases Requirement.test s .lineLimit with o | ⟨⟩
  · rfl
  rcases Requirement.test s .service with o | ⟨⟩
  · rfl
  rcases Requirement.test s .program with o | ⟨⟩
  · rfl
  rcases Requirement.test s .pollInterval with o | ⟨⟩
  · rfl
  rcases Marker.ofText s.watch.marker with o | marker
  · rfl
  · rfl

variable {s : Settings} {c : Checked}

theorem check_of_met {target : Target} {marker : Marker} (met : ∀ r : Requirement, r.Met s)
    (split : Target.ofPath s.watch.path = .ok target)
    (taken : Marker.ofText s.watch.marker = .ok marker) : s.check = .ok ⟨s, target, marker⟩ := by
  rw [check_eq, Requirement.forM_test_of_met fun r _ => met r, split, taken]
  rfl

theorem check_of_firstUnmet {r : Requirement} (first : r.FirstUnmet s) :
    s.check = .error (r.objection s) := by
  rw [check_eq, Requirement.forM_test_of_firstUnmet first]
  rfl

theorem check_eq_ok_iff : (∃ c, s.check = .ok c) ↔ ∀ r : Requirement, r.Met s := by
  constructor
  · rintro ⟨c, accepted⟩
    refine Classical.byContradiction fun unmet => ?_
    obtain ⟨r, first⟩ := Requirement.exists_firstUnmet unmet
    rw [check_of_firstUnmet first] at accepted
    cases accepted
  · intro met
    obtain ⟨target, split⟩ := Target.exists_ofPath_iff.2 (met .splits)
    exact ⟨_, check_of_met met split (dif_pos (proper_iff_met.2 (met .marker)))⟩

/-- What the check keeps: the settings, what the path splits into and the marker. -/
theorem kept_of_check (accepted : s.check = .ok c) : c.settings = s ∧
    Target.ofPath s.watch.path = .ok c.target ∧ Marker.ofText s.watch.marker = .ok c.marker := by
  have met := check_eq_ok_iff.1 ⟨c, accepted⟩
  obtain ⟨target, split⟩ := Target.exists_ofPath_iff.2 (met .splits)
  have taken : Marker.ofText s.watch.marker = .ok _ := dif_pos (proper_iff_met.2 (met .marker))
  cases (check_of_met met split taken).symm.trans accepted
  exact ⟨rfl, split, taken⟩

theorem of_check (accepted : s.check = .ok c) :
    c.settings = s ∧ c.marker.text = s.watch.marker ∧
      (Bytes.ofText s.watch.marker).length < s.watch.lineLimit := by
  obtain ⟨same, -, taken⟩ := kept_of_check accepted
  exact ⟨same, Marker.text_of_ofText taken, check_eq_ok_iff.1 ⟨c, accepted⟩ .lineLimit⟩

/-- Settings are accepted exactly if they meet all requirements, and nothing of them is changed; the
path can then be split as the check has split it. Otherwise the failure is an objection to the
first requirement that is not met, and to no other. -/
theorem accepted_exactly (s : Settings) :
    ((∃ c, s.check = .ok c) ↔ ∀ r : Requirement, r.Met s) ∧
    (∀ c, s.check = .ok c → c.settings = s ∧ c.marker.text = s.watch.marker ∧
      Target.ofPath c.settings.watch.path = .ok c.target) ∧
    ∀ failure, s.check.mapError Failure.refused = .error failure ↔
      ∃ r : Requirement, r.FirstUnmet s ∧ failure = .refused (r.objection s) := by
  refine ⟨check_eq_ok_iff, ?_, ?_⟩
  · intro c accepted
    obtain ⟨rfl, text, -⟩ := of_check accepted
    exact ⟨rfl, text, (kept_of_check accepted).2.1⟩
  · intro failure
    constructor
    · intro failed
      have unmet : ¬ ∀ r : Requirement, r.Met s := by
        intro met
        obtain ⟨c, accepted⟩ := check_eq_ok_iff.2 met
        rw [accepted] at failed
        cases failed
      obtain ⟨r, first⟩ := Requirement.exists_firstUnmet unmet
      rw [check_of_firstUnmet first] at failed
      cases failed
      exact ⟨r, first, rfl⟩
    · rintro ⟨r, first, rfl⟩
      rw [check_of_firstUnmet first]
      rfl

/-- A marker of one character and two bytes just fits beside the newline, and the spelling of the
path does not matter. Where much is wrong, that the path ends in no name comes before the rest. -/
theorem accepted_exactly_at_limits :
    let odd : Path := .ofText "//e/./f/"
    let s : Settings := ⟨⟨odd, 1, "é", 3, false⟩, ⟨" s", "p", []⟩, ⟨.poll, 1⟩⟩
    let wrong : Settings := ⟨⟨.ofText "/e/..", 0, "", 0, false⟩, ⟨"\u2003", "", []⟩, ⟨.poll, 0⟩⟩
    (∃ c, s.check = .ok c ∧ c.settings = s ∧ c.marker.text = "é" ∧
      Target.ofPath odd = .ok c.target) ∧
    wrong.check.mapError Failure.refused = .error (.refused (.namesNoFile wrong.watch.path)) := by
  intro odd s wrong
  constructor
  · have met : ∀ r : Requirement, r.Met s := by
      intro r
      cases r with
      | absolute => rfl
      | splits => exact ⟨[.root, .name [0x65]], [0x66], by decide, by decide⟩
      | interval => exact Nat.le_refl 1
      | lineLimit =>
        have size : (Bytes.ofText "é").length < 3 := by decide
        exact size
      | service => exact ⟨'s', by decide, by decide⟩
      | program => exact ⟨'p', by decide, by decide⟩
      | pollInterval => exact Nat.le_refl 1
      | marker => exact proper_iff_met.1 ⟨by decide, by decide⟩
    obtain ⟨c, accepted⟩ := (accepted_exactly s).1.2 met
    obtain ⟨same, text, split⟩ := (accepted_exactly s).2.1 c accepted
    rw [same] at split
    exact ⟨c, accepted, same, text, split⟩
  · have ends : wrong.watch.path.parts = [.root, .name [0x65], .up] := by decide
    have unsplit : ¬ Requirement.splits.Met wrong := by
      rintro ⟨above, name, -, split⟩
      have last := congrArg List.getLast? (ends.symm.trans split)
      simp at last
    have first : Requirement.splits.FirstUnmet wrong :=
      ⟨[.absolute], _, rfl, List.forall_mem_singleton.2 rfl, unsplit⟩
    exact ((accepted_exactly wrong).2.2 _).2 ⟨.splits, first, rfl⟩

end RoleWatch.Settings
