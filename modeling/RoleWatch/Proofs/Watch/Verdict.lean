import RoleWatch.Watch.Judgement

/-!
Which batches call for what. A flag counts if any event concerned has it, so neither the order of a
batch nor an event said twice makes a difference.
-/
namespace RoleWatch

namespace Event

/-- Belongs to the registration in a place of the holding, which may be empty. -/
def Of (e : Event) : Option Handle → Prop
  | none => False
  | some h => e.handle = some h

/-- Says of a registered object itself that it is gone. -/
def Ends (e : Event) (held : Option Handle) : Prop :=
  e.Of held ∧ e.name = none ∧ e.mask.meets Mask.gone = true

end Event

/-- What two batches call for together, if they are judged by the same holding. -/
def Verdict.join : Verdict → Verdict → Verdict
  | .idle, other | other, .idle => other
  | .directoryGone, _ | _, .directoryGone => .directoryGone
  | .fileGone, _ | _, .fileGone => .fileGone
  | one, _ => one

theorem Verdict.join_eq_idle {one other : Verdict} :
    one.join other = .idle ↔ one = .idle ∧ other = .idle := by
  cases one <;> cases other <;> simp [join]

namespace Judgement

variable {batch : List Event}

theorem has_union (events : List Event) (flag : Flag) :
    (union events).has flag = true ↔ ∃ e ∈ events, e.mask.has flag = true := by
  have folded : ∀ start : Mask,
      (events.foldl (fun mask e => mask ∪ e.mask) start).has flag = true ↔
        start.has flag = true ∨ ∃ e ∈ events, e.mask.has flag = true := by
    induction events with
    | nil => simp
    | cons e rest ih =>
      intro start
      simp [ih, or_assoc]
  simpa [union] using folded ∅

theorem meets_union (events : List Event) (mask : Mask) :
    (union events).meets mask = true ↔ ∃ e ∈ events, e.mask.meets mask = true := by
  simp only [Mask.meets_iff, has_union]
  constructor
  · rintro ⟨flag, ⟨e, member, has⟩, asked⟩
    exact ⟨e, member, flag, has, asked⟩
  · rintro ⟨e, member, flag, has, asked⟩
    exact ⟨flag, ⟨e, member, has⟩, asked⟩

theorem concerns_iff {held : Option Handle} {e : Event} :
    concerns held e = true ↔ e.Of held := by
  unfold concerns
  cases held <;> cases owner : e.handle <;> simp [Event.Of, owner, eq_comm]

theorem endsDirectory_iff {dir : Option Handle} {e : Event} :
    endsDirectory dir e = true ↔ e.Ends dir := by
  simp [endsDirectory, Event.Ends, concerns_iff, and_assoc]

theorem namesFile_iff {dir : Option Handle} {name : Bytes} {e : Event} :
    namesFile dir name e = true ↔ e.Of dir ∧ e.name = some name := by
  simp [namesFile, concerns_iff]

theorem meets_union_filter (batch : List Event) (counts : Event → Bool) (mask : Mask) :
    (union (batch.filter counts)).meets mask =
      batch.any fun e => counts e && e.mask.meets mask := by
  rw [Bool.eq_iff_iff, meets_union]
  simp [and_assoc]

theorem has_union_filter (batch : List Event) (counts : Event → Bool) (flag : Flag) :
    (union (batch.filter counts)).has flag = batch.any fun e => counts e && e.mask.has flag := by
  rw [Bool.eq_iff_iff, has_union]
  simp [and_assoc]

theorem ofFile_verdict (file : Option Handle) (batch : List Event) :
    (ofFile file batch).verdict =
      if batch.any fun e => concerns file e && e.mask.meets Mask.gone then .fileGone
      else if batch.any fun e => concerns file e && e.mask.has .modify then .changed
      else .idle := by
  simp only [ofFile, meets_union_filter, has_union_filter]

theorem ofDirectory_verdict (dir : Option Handle) (name : Bytes) (batch : List Event) :
    (ofDirectory dir name batch).verdict =
      if batch.any (endsDirectory dir) then .directoryGone
      else if (batch.any fun e => namesFile dir name e && e.mask.meets Mask.appeared) ||
        sawOverflow batch then .appeared
      else .idle := by
  simp only [ofDirectory, meets_union_filter]
  split
  · rename_i e found
    have ends : batch.any (endsDirectory dir) = true :=
      List.any_eq_true.2 ⟨e, List.mem_of_find?_eq_some found, List.find?_some found⟩
    rw [if_pos ends]
  · rename_i none
    have stays : ¬ batch.any (endsDirectory dir) = true := by simpa using none
    rw [if_neg stays]

theorem verdict_awaiting {held : Holding} (awaiting : held.phase = .awaiting) (name : Bytes)
    (batch : List Event) : (ofBatch held name batch).verdict = .idle ∨
      (ofBatch held name batch).verdict = .appeared ∨
      (ofBatch held name batch).verdict = .directoryGone := by
  simp only [ofBatch, awaiting, ofDirectory_verdict]
  split
  · simp
  · split <;> simp

theorem verdict_watching {held : Holding} (watching : held.phase = .watching) (name : Bytes)
    (batch : List Event) : (ofBatch held name batch).verdict = .idle ∨
      (ofBatch held name batch).verdict = .changed ∨
      (ofBatch held name batch).verdict = .fileGone := by
  simp only [ofBatch, watching, ofFile_verdict]
  split
  · simp
  · split <;> simp

theorem verdict_nil (held : Holding) (name : Bytes) : (ofBatch held name []).verdict = .idle := by
  cases phase : held.phase with
  | awaiting => simp [ofBatch, phase, ofDirectory_verdict, sawOverflow]
  | watching => simp [ofBatch, phase, ofFile_verdict]

theorem verdict_perm {batch batch' : List Event} (same : batch.Perm batch') (held : Holding)
    (name : Bytes) :
    (ofBatch held name batch).verdict = (ofBatch held name batch').verdict := by
  cases phase : held.phase with
  | awaiting =>
    have lost : sawOverflow batch = sawOverflow batch' := same.any_eq
    simp only [ofBatch, phase, ofDirectory_verdict, same.any_eq, lost]
  | watching => simp only [ofBatch, phase, ofFile_verdict, same.any_eq]

theorem verdict_append (held : Holding) (name : Bytes) (batch rest : List Event) :
    (ofBatch held name (batch ++ rest)).verdict =
      (ofBatch held name batch).verdict.join (ofBatch held name rest).verdict := by
  cases phase : held.phase with
  | awaiting =>
    simp only [ofBatch, phase, ofDirectory_verdict, sawOverflow, List.any_append]
    grind [Verdict.join]
  | watching =>
    simp only [ofBatch, phase, ofFile_verdict, List.any_append]
    grind [Verdict.join]

theorem ofFile_idle {file : Option Handle} (stale : ∀ e ∈ batch, concerns file e = false) :
    (ofFile file batch).verdict = .idle := by
  have nothing : ∀ tells : Event → Bool, (batch.any fun e => concerns file e && tells e) = false := by
    intro tells
    simp +contextual [stale]
  simp [ofFile_verdict, nothing]

variable {file dir : Option Handle} {name : Bytes}

theorem ofFile_fileGone_iff : (ofFile file batch).verdict = .fileGone ↔
    ∃ e ∈ batch, e.Of file ∧ e.mask.meets Mask.gone = true := by
  rw [ofFile_verdict]
  split
  · simp_all [concerns_iff]
  · split <;> simp_all [concerns_iff]

theorem ofFile_changed_iff : (ofFile file batch).verdict = .changed ↔
    (ofFile file batch).verdict ≠ .fileGone ∧
      ∃ e ∈ batch, e.Of file ∧ e.mask.has .modify = true := by
  rw [ofFile_verdict]
  split
  · simp
  · split <;> simp_all [concerns_iff]

theorem ofDirectory_directoryGone_iff :
    (ofDirectory dir name batch).verdict = .directoryGone ↔ ∃ e ∈ batch, e.Ends dir := by
  rw [ofDirectory_verdict]
  split
  · simp_all [endsDirectory_iff]
  · split <;> simp_all [endsDirectory_iff]

theorem ofDirectory_appeared_iff : (ofDirectory dir name batch).verdict = .appeared ↔
    (ofDirectory dir name batch).verdict ≠ .directoryGone ∧ (sawOverflow batch = true ∨
      ∃ e ∈ batch, e.Of dir ∧ e.name = some name ∧ e.mask.meets Mask.appeared = true) := by
  rw [ofDirectory_verdict]
  split
  · simp
  · split <;> simp_all [namesFile_iff, and_assoc, or_comm]

end Judgement

end RoleWatch
