import RoleWatch.Proofs.Bench.Trial
import RoleWatch.Proofs.Relay.Hearing
import RoleWatch.Proofs.Watch.Tending

/-!
What reports about paths mean to the watch. A report passes through the registrations first and then
through the judgement of the batch, each with cases of its own; what comes out can be said of the
paths and the happenings alone.
-/
namespace RoleWatch

namespace Target

variable (t : Target) (h : Handle) (mask : Mask)

@[simp] theorem fileWatch_path : (t.fileWatch h).path = t.file := rfl

@[simp] theorem fileWatch_handle : (t.fileWatch h).handle = h := rfl

@[simp] theorem dirWatch_path : (t.dirWatch h).path = t.dir := rfl

@[simp] theorem fileWatch_meets_gone :
    ((t.fileWatch h).hears mask).meets Mask.gone = mask.meets Mask.gone := by
  apply Registration.hears_meets
  intro f counts
  cases f <;> simp_all [fileWatch, Mask.gone, Mask.fileInterest, Mask.unsolicited]

@[simp] theorem fileWatch_has_modify :
    ((t.fileWatch h).hears mask).has .modify = mask.has .modify := by
  simp [Registration.has_hears, fileWatch, Mask.fileInterest]

@[simp] theorem dirWatch_meets_gone :
    ((t.dirWatch h).hears mask).meets Mask.gone = mask.meets Mask.gone := by
  apply Registration.hears_meets
  intro f counts
  cases f <;> simp_all [dirWatch, Mask.gone, Mask.directoryInterest, Mask.unsolicited]

@[simp] theorem dirWatch_meets_appeared :
    ((t.dirWatch h).hears mask).meets Mask.appeared = mask.meets Mask.appeared := by
  apply Registration.hears_meets
  intro f counts
  cases f <;> simp_all [dirWatch, Mask.appeared, Mask.directoryInterest, Mask.unsolicited]

end Target

namespace Relay

namespace Happening

/-- Takes the object at a path away. Of the two paths of a rename it is the first that loses its
object, and where nobody can tell the direction any may have. -/
def takesAway (index : Nat) : Happening → Bool
  | .remove | .rename .source | .rename .unknown | .rename .other => true
  | .rename .both => index = 0
  | _ => false

def rewrites : Happening → Bool
  | .content | .modify | .modifyOther | .attribute .any | .attribute .writeTime => true
  | _ => false

/-- Brings an object to a path. Where nobody can tell the direction of a rename, it does if an
object is there. -/
def brings (index : Nat) (isThere : Bool) : Happening → Bool
  | .create | .rename .target => true
  | .rename .both => index ≠ 0
  | .rename .unknown | .rename .other => isThere
  | _ => false

variable (index : Nat) (isThere : Bool) (happening : Happening)

theorem self_meets_gone :
    (happening.mask .self index isThere).meets Mask.gone = happening.takesAway index := by
  rw [Mask.gone, Mask.meets_ofFlags]
  cases happening with
  | rename way =>
    cases way with
    | both =>
      by_cases first : index = 0 <;> simp [mask, Way.mask, takesAway, Bearing.movedOut, first]
    | source | target | unknown | other => simp [mask, Way.mask, takesAway, Bearing.movedOut]
  | create | remove | content | modify | modifyOther | unknown | other | access =>
    simp [mask, takesAway, Bearing.removed]
  | _ which => cases which <;> simp [mask, takesAway]

theorem self_has_modify :
    (happening.mask .self index isThere).has .modify = happening.rewrites := by
  cases happening with
  | rename way =>
    cases way with
    | both =>
      by_cases first : index = 0 <;> simp [mask, Way.mask, rewrites, Bearing.movedOut, first]
    | source | target | unknown | other => simp [mask, Way.mask, rewrites, Bearing.movedOut]
  | create | remove | content | modify | modifyOther | unknown | other | access =>
    simp [mask, rewrites, Bearing.removed]
  | _ which => cases which <;> simp [mask, rewrites]

theorem child_meets_appeared (name : Option Bytes) :
    (happening.mask (.child name) index isThere).meets Mask.appeared =
      happening.brings index isThere := by
  rw [Mask.appeared, Mask.meets_ofFlags]
  cases happening with
  | rename way =>
    cases way with
    | both =>
      by_cases first : index = 0 <;> simp [mask, Way.mask, brings, Bearing.movedOut, first]
    | source | target => simp [mask, Way.mask, brings, Bearing.movedOut]
    | unknown | other => cases isThere <;> simp [mask, Way.mask, brings, Bearing.movedOut]
  | create | remove | content | modify | modifyOther | unknown | other | access =>
    simp [mask, brings, Bearing.removed]
  | _ which => cases which <;> simp [mask, brings]

end Happening

/-- Some report tells of something that counts at a path, however the path is spelled. -/
def Tells (told : List (Except Trouble Report)) (p : Path)
    (counts : Happening → Nat → Path → Bool) : Prop :=
  ∃ report, .ok report ∈ told ∧ ∃ index path, report.paths[index]? = some path ∧
    path.parts = p.parts ∧ counts report.happening index path = true

def TakenAway (told : List (Except Trouble Report)) (p : Path) : Prop :=
  Tells told p fun happening index _ => happening.takesAway index

def Rewritten (told : List (Except Trouble Report)) (p : Path) : Prop :=
  Tells told p fun happening _ _ => happening.rewrites

/-- A rescan may have to find what no report names. -/
def Announced (isThere : Path → Bool) (told : List (Except Trouble Report)) (p : Path) : Prop :=
  (∃ report, .ok report ∈ told ∧ report.rescan = true) ∨
    Tells told p fun happening index path => happening.brings index (isThere path)

/-- Reports about objects that can be there beside a watched file: each path ends in a name, and
none is below the file. -/
structure Plain (t : Target) (told : List (Except Trouble Report)) : Prop where
  named : ∀ report, .ok report ∈ told → ∀ path ∈ report.paths, path.fileName?.isSome
  above : ∀ report, .ok report ∈ told → ∀ path ∈ report.paths,
    path.isWithin t.file = true → path.parts = t.file.parts

/-- What reports call for, by the paths they name and what happened there. -/
def CallsFor (isThere : Path → Bool) (t : Target) (told : List (Except Trouble Report)) :
    Phase → Verdict → Prop
  | .watching, .fileGone => TakenAway told t.file
  | .watching, .changed => ¬ TakenAway told t.file ∧ Rewritten told t.file
  | .watching, .idle => ¬ TakenAway told t.file ∧ ¬ Rewritten told t.file
  | .awaiting, .directoryGone => TakenAway told t.dir
  | .awaiting, .appeared => ¬ TakenAway told t.dir ∧ Announced isThere told t.file
  | .awaiting, .idle => ¬ TakenAway told t.dir ∧ ¬ Announced isThere told t.file
  | _, _ => False

section Judged

variable (isThere : Path → Bool) {told : List (Except Trouble Report)} {r : Relay} {t : Target}
  {f d : Handle}

/-- What is handed out under a handle with a name, or without, is what the reports say of the
paths that bear so on the registered one. -/
theorem Orderly.handed_bears {known : Registration} (orderly : r.Orderly) (plain : Plain t told)
    (member : known ∈ r.registrations) {bearing : Bearing} (proper : bearing ≠ .child none)
    (counts : Mask → Prop) (nonempty : ¬ counts ∅) :
    (∃ e ∈ told.flatMap (r.eventsOf isThere), e.handle = some known.handle ∧
        e.name = bearing.name ∧ counts e.mask) ↔
      ∃ report, .ok report ∈ told ∧ ∃ index path, report.paths[index]? = some path ∧
        Bearing.of? known.path path = some bearing ∧ counts
          (known.hears (report.happening.mask bearing index (isThere path))) := by
  refine (orderly.handed_iff member _).trans ?_
  refine exists_congr fun report => and_congr_right fun queued => exists_congr fun index =>
    exists_congr fun path => and_congr_right fun place => ?_
  obtain ⟨name, named⟩ := Option.isSome_iff_exists.1
    (plain.named report queued path (List.mem_of_getElem? place))
  exact Report.event?_bears named proper nonempty

/-- Nothing stands below the watched file, so what is handed out for it has no name. -/
theorem nameless_of_file (orderly : r.Orderly) (plain : Plain t told)
    (member : t.fileWatch f ∈ r.registrations) {e : Event}
    (handed : e ∈ told.flatMap (r.eventsOf isThere)) (owned : e.handle = some f) :
    e.name = none := by
  obtain ⟨report, queued, index, path, place, e', said, rfl⟩ :=
    (orderly.handed_iff member (· = e)).1 ⟨e, handed, owned, rfl⟩
  have listed : path ∈ report.paths := List.mem_of_getElem? place
  obtain ⟨name, named⟩ := Option.isSome_iff_exists.1 (plain.named report queued path listed)
  obtain ⟨bearing, bears, -, rfl⟩ := Report.event?_eq_some_iff.1 said
  cases bearing with
  | self => rfl
  | child given =>
    rw [Bearing.of?_of_fileName? named] at bears
    split at bears
    · simp at bears
    · rename_i differs
      split at bears
      · rename_i below
        have within : path.isWithin t.file = true := Path.isWithin_iff.2 ⟨_, below.symm⟩
        exact absurd (plain.above report queued path listed within) differs
      · simp at bears

theorem file_handed_iff (orderly : r.Orderly) (plain : Plain t told)
    (member : t.fileWatch f ∈ r.registrations) (counts : Mask → Prop) (nonempty : ¬ counts ∅) :
    (∃ e ∈ told.flatMap (r.eventsOf isThere), e.handle = some f ∧ counts e.mask) ↔
      ∃ report, .ok report ∈ told ∧ ∃ index path, report.paths[index]? = some path ∧
        path.parts = t.file.parts ∧ counts
          ((t.fileWatch f).hears (report.happening.mask .self index (isThere path))) := by
  have proper : Bearing.self ≠ .child none := by simp
  calc (∃ e ∈ told.flatMap (r.eventsOf isThere), e.handle = some f ∧ counts e.mask)
    _ ↔ ∃ e ∈ told.flatMap (r.eventsOf isThere), e.handle = some f ∧
          e.name = Bearing.self.name ∧ counts e.mask := by
        refine exists_congr fun e => and_congr_right fun handed => and_congr_right fun owned => ?_
        rw [nameless_of_file isThere orderly plain member handed owned]
        simp [Bearing.name]
    _ ↔ _ := by
        simpa only [Bearing.of?_eq_self_iff, Target.fileWatch_path, Target.fileWatch_handle] using
          orderly.handed_bears isThere plain member proper counts nonempty

theorem fileGone_iff_takenAway (orderly : r.Orderly) (plain : Plain t told)
    (member : t.fileWatch f ∈ r.registrations) :
    (Judgement.ofFile (some f) (told.flatMap (r.eventsOf isThere))).verdict = .fileGone ↔
      TakenAway told t.file := by
  refine Judgement.ofFile_fileGone_iff.trans ((file_handed_iff isThere orderly plain member
    (fun mask => mask.meets Mask.gone = true) (by simp)).trans ?_)
  simp only [Target.fileWatch_meets_gone, Happening.self_meets_gone, TakenAway, Tells]

theorem file_says_modify_iff (orderly : r.Orderly) (plain : Plain t told)
    (member : t.fileWatch f ∈ r.registrations) :
    (∃ e ∈ told.flatMap (r.eventsOf isThere), e.Of (some f) ∧ e.mask.has .modify = true) ↔
      Rewritten told t.file := by
  refine (file_handed_iff isThere orderly plain member (fun mask => mask.has .modify = true)
    (by simp)).trans ?_
  simp only [Target.fileWatch_has_modify, Happening.self_has_modify, Rewritten, Tells]

theorem directoryGone_iff_takenAway (orderly : r.Orderly) (plain : Plain t told)
    (member : t.dirWatch d ∈ r.registrations) (name : Bytes) :
    (Judgement.ofDirectory (some d) name (told.flatMap (r.eventsOf isThere))).verdict =
      .directoryGone ↔ TakenAway told t.dir := by
  have proper : Bearing.self ≠ .child none := by simp
  refine Judgement.ofDirectory_directoryGone_iff.trans ((orderly.handed_bears isThere plain member
    proper (fun mask => mask.meets Mask.gone = true) (by simp)).trans ?_)
  simp only [Bearing.of?_eq_self_iff, Target.dirWatch_meets_gone, Happening.self_meets_gone,
    TakenAway, Tells, Target.dirWatch_path]

theorem Bearing.of?_dir_iff {p path : Path} (split : Target.ofPath p = .ok t)
    (named : path.fileName?.isSome) :
    Bearing.of? t.dir path = some (.child (some t.name)) ↔ path.parts = t.file.parts := by
  obtain ⟨name, named⟩ := Option.isSome_iff_exists.1 named
  rw [Bearing.of?_of_fileName? named, (Target.parts_of_ofPath split).2]
  constructor
  · intro bears
    split at bears
    · simp at bears
    · split at bears
      · simp_all
      · simp at bears
  · intro same
    have last := Path.getLast?_parts named
    rw [same, List.getLast?_concat] at last
    obtain rfl : t.name = name := by simpa using last
    rw [if_neg (by simp [same]), if_pos same]

theorem dir_says_appeared_iff {p : Path} (split : Target.ofPath p = .ok t) (orderly : r.Orderly)
    (plain : Plain t told) (member : t.dirWatch d ∈ r.registrations) :
    (∃ e ∈ told.flatMap (r.eventsOf isThere), e.Of (some d) ∧ e.name = some t.name ∧
        e.mask.meets Mask.appeared = true) ↔
      Tells told t.file fun happening index path => happening.brings index (isThere path) := by
  have proper : Bearing.child (some t.name) ≠ .child none := by simp
  refine (orderly.handed_bears isThere plain member proper
    (fun mask => mask.meets Mask.appeared = true) (by simp)).trans ?_
  refine exists_congr fun report => and_congr_right fun queued => exists_congr fun index =>
    exists_congr fun path => and_congr_right fun place => and_congr ?_ ?_
  · exact Bearing.of?_dir_iff split (plain.named report queued path (List.mem_of_getElem? place))
  · rw [Target.dirWatch_meets_appeared, Happening.child_meets_appeared]

end Judged

/-- The registration that the phase judges by is held, and the relay has it. -/
def Backs (r : Relay) (t : Target) (held : Holding) : Prop :=
  match held.phase with
  | .awaiting => ∃ d, held.dir = some d ∧ t.dirWatch d ∈ r.registrations
  | .watching => ∃ f, held.file = some f ∧ t.fileWatch f ∈ r.registrations

/-- Whatever else is registered, reports mean to the watch what they call for. -/
theorem judged_reports {World : Type} (w : Watcher World) (acts : List (Act World)) {p : Path}
    {t : Target} (split : Target.ofPath p = .ok t) {held : Holding}
    (backed : (course w empty acts).Backs t held) (isThere : Path → Bool)
    {told : List (Except Trouble Report)} (plain : Plain t told) (verdict : Verdict) :
    (Judgement.ofBatch held t.name
        (told.flatMap ((course w empty acts).eventsOf isThere))).verdict = verdict ↔
      CallsFor isThere t told held.phase verdict := by
  have orderly : (course w empty acts).Orderly := orderly_empty.course acts
  generalize course w empty acts = r at backed orderly
  obtain ⟨phase, dir, file⟩ := held
  cases phase with
  | watching =>
    obtain ⟨f, rfl, member⟩ := backed
    have gone := fileGone_iff_takenAway isThere orderly plain member
    have changed := @Judgement.ofFile_changed_iff (told.flatMap (r.eventsOf isThere)) (some f)
    rw [file_says_modify_iff isThere orderly plain member] at changed
    have watching : (⟨.watching, dir, some f⟩ : Holding).phase = .watching := rfl
    have range := Judgement.verdict_watching watching t.name (told.flatMap (r.eventsOf isThere))
    simp only [Judgement.ofBatch] at range ⊢
    cases verdict <;> simp only [CallsFor] <;> grind
  | awaiting =>
    obtain ⟨d, rfl, member⟩ := backed
    have gone := directoryGone_iff_takenAway isThere orderly plain member t.name
    have appeared :=
      @Judgement.ofDirectory_appeared_iff (told.flatMap (r.eventsOf isThere)) (some d) t.name
    rw [sawOverflow_iff, dir_says_appeared_iff isThere split orderly plain member] at appeared
    have awaiting : (⟨.awaiting, some d, file⟩ : Holding).phase = .awaiting := rfl
    have range := Judgement.verdict_awaiting awaiting t.name (told.flatMap (r.eventsOf isThere))
    simp only [Judgement.ofBatch] at range ⊢
    cases verdict <;> simp only [CallsFor, Announced] <;> grind

open Example Bench.Example in
/-- Another file is moved onto the awaited one, while both the directory and the file are
registered. -/
theorem judged_reports_of_move_in : ∃ (acts : List (Act Unit)) (held : Holding)
    (told : List (Except Trouble Report)),
    Target.ofPath target.file = .ok target ∧ (course watcher empty acts).Backs target held ∧
      Plain target told ∧
      (Judgement.ofBatch held target.name
        (told.flatMap ((course watcher empty acts).eventsOf fun _ => true))).verdict = .appeared := by
  let acts : List (Act Unit) :=
    [.add target.dir .directoryInterest (), .add target.file .fileInterest ()]
  let held : Holding := ⟨.awaiting, some ⟨1⟩, none⟩
  let other : Path := ⟨[0x2f, 0x65, 0x2f, 0x67]⟩
  let told : List (Except Trouble Report) := [.ok ⟨.rename .both, [other, target.file], false⟩]
  have split : Target.ofPath target.file = .ok target := by decide
  have backed : (course watcher empty acts).Backs target held := ⟨⟨1⟩, rfl, by decide⟩
  have plain : Plain target told := by
    refine ⟨?_, ?_⟩ <;> simp only [told, List.mem_singleton, Except.ok.injEq] <;>
      rintro report rfl <;> decide
  have apart : ∀ path ∈ [other, target.file], path.parts ≠ target.dir.parts := by decide
  have stays : ¬ TakenAway told target.dir := by
    rintro ⟨report, queued, index, path, place, same, -⟩
    obtain rfl : report = _ := by simpa [told] using queued
    exact apart path (List.mem_of_getElem? place) same
  have brought : Announced (fun _ => true) told target.file :=
    .inr ⟨_, List.mem_singleton_self _, 1, target.file, rfl, rfl, rfl⟩
  exact ⟨acts, held, told, split, backed, plain,
    (judged_reports watcher acts split backed (fun _ => true) plain .appeared).2 ⟨stays, brought⟩⟩

end Relay

end RoleWatch
