import RoleWatch.Proofs.Watch.Verdict

/-!
What a judgement says of its batch, exactly: which events count, which flags they leave in the
mask, and which verdict follows. An event that does not count may be left out, and of two batches
in a row the graver one decides.
-/
namespace RoleWatch

def Holding.post (held : Holding) : Option Handle :=
  match held.phase with
  | .awaiting => held.dir
  | .watching => held.file

/-- Does not count: it has no handle, or not the one that counts, or it names another child than
the awaited file. -/
def Event.Foreign (held : Holding) (name : Bytes) (e : Event) : Prop :=
  ¬ e.Of held.post ∨ (held.phase = .awaiting ∧ ∃ other, e.name = some other ∧ other ≠ name)

/-- How much a verdict calls for; two verdicts of one phase never call for equally much. -/
def Verdict.gravity : Verdict → Nat
  | .idle => 0
  | .changed | .appeared => 1
  | .fileGone | .directoryGone => 2

namespace Judgement

variable {batch : List Event}

/-- What there is to say of a batch while the file is watched. -/
structure OfWatching (file : Option Handle) (batch : List Event) (j : Judgement) : Prop where
  mask (flag : Flag) :
    j.mask.has flag = true ↔ ∃ e ∈ batch, e.Of file ∧ e.mask.has flag = true
  fileGone : j.verdict = .fileGone ↔
    ∃ e ∈ batch, e.Of file ∧ e.mask.meets Mask.gone = true
  changed : j.verdict = .changed ↔
    j.verdict ≠ .fileGone ∧ ∃ e ∈ batch, e.Of file ∧ e.mask.has .modify = true
  otherwise : j.verdict = .fileGone ∨ j.verdict = .changed ∨ j.verdict = .idle

/-- What there is to say of a batch while the file is awaited. -/
structure OfAwaiting (dir : Option Handle) (name : Bytes) (batch : List Event) (j : Judgement) :
    Prop where
  directoryGone : j.verdict = .directoryGone ↔ ∃ e ∈ batch, e.Ends dir
  first : j.verdict = .directoryGone → ∃ front e rest, batch = front ++ e :: rest ∧
    e.Ends dir ∧ (∀ before ∈ front, ¬ before.Ends dir) ∧ j.mask = e.mask
  mask (stays : j.verdict ≠ .directoryGone) (flag : Flag) : j.mask.has flag = true ↔
    ∃ e ∈ batch, e.Of dir ∧ e.name = some name ∧ e.mask.has flag = true
  appeared : j.verdict = .appeared ↔ j.verdict ≠ .directoryGone ∧
    (j.mask.meets Mask.appeared = true ∨ j.overflowed = true)
  otherwise : j.verdict = .directoryGone ∨ j.verdict = .appeared ∨ j.verdict = .idle

theorem sawOverflow_iff : sawOverflow batch = true ↔ ∃ e ∈ batch, e.mask.has .overflow = true := by
  simp [sawOverflow]

theorem ofBatch_overflowed (held : Holding) (name : Bytes) (batch : List Event) :
    (ofBatch held name batch).overflowed = sawOverflow batch := by
  unfold ofBatch
  split
  · unfold ofDirectory
    dsimp only
    split <;> rfl
  · rfl

theorem ofFile_watching (file : Option Handle) (batch : List Event) :
    OfWatching file batch (ofFile file batch) where
  mask flag := by simp [ofFile, has_union, concerns_iff, and_assoc]
  fileGone := ofFile_fileGone_iff
  changed := ofFile_changed_iff
  otherwise := by
    rw [ofFile_verdict]
    split
    · simp
    · split <;> simp

/-- The first word that the directory is gone, or that there is none. -/
theorem ofDirectory_cases (dir : Option Handle) (name : Bytes) (batch : List Event) :
    (∃ front e rest, batch = front ++ e :: rest ∧ e.Ends dir ∧
      (∀ before ∈ front, ¬ before.Ends dir) ∧
      ofDirectory dir name batch = ⟨.directoryGone, e.mask, sawOverflow batch⟩) ∨
    (¬ ∃ e ∈ batch, e.Ends dir) ∧ ∃ mask,
      mask = union (batch.filter (namesFile dir name)) ∧
      ofDirectory dir name batch = ⟨if mask.meets Mask.appeared || sawOverflow batch then .appeared
        else .idle, mask, sawOverflow batch⟩ := by
  unfold ofDirectory
  cases found : batch.find? (endsDirectory dir) with
  | some e =>
    obtain ⟨tells, front, rest, split, silent⟩ := List.find?_eq_some_iff_append.1 found
    refine .inl ⟨front, e, rest, split, endsDirectory_iff.1 tells, ?_, rfl⟩
    intro before there told
    simpa [endsDirectory_iff.2 told] using silent before there
  | none =>
    refine .inr ⟨?_, _, rfl, rfl⟩
    rintro ⟨e, member, told⟩
    exact List.find?_eq_none.1 found e member (endsDirectory_iff.2 told)

theorem ofDirectory_awaiting (dir : Option Handle) (name : Bytes) (batch : List Event) :
    OfAwaiting dir name batch (ofDirectory dir name batch) := by
  rcases ofDirectory_cases dir name batch with
    ⟨front, e, rest, split, told, silent, judged⟩ | ⟨silent, mask, gathered, judged⟩
  · rw [judged]
    exact {
      directoryGone := iff_of_true rfl ⟨e, by simp [split], told⟩
      first := fun _ => ⟨front, e, rest, split, told, silent, rfl⟩
      mask := fun stays => absurd rfl stays
      appeared := by simp
      otherwise := .inl rfl }
  · have stays : (if mask.meets Mask.appeared || sawOverflow batch then Verdict.appeared
        else .idle) ≠ .directoryGone := by split <;> simp
    rw [judged]
    exact {
      directoryGone := iff_of_false stays silent
      first := fun gone => absurd gone stays
      mask := fun _ flag => by simp [gathered, has_union, namesFile_iff, and_assoc]
      appeared := by split <;> simp_all
      otherwise := by split <;> simp }

/-- What does not count may be left out, unless it says that events were lost. -/
theorem ofBatch_erase {held : Holding} {name : Bytes} {e : Event} (foreign : e.Foreign held name)
    (quiet : e.mask.has .overflow = false) (front rest : List Event) :
    ofBatch held name (front ++ rest) = ofBatch held name (front ++ e :: rest) := by
  have lost : sawOverflow (front ++ rest) = sawOverflow (front ++ e :: rest) := by
    simp [sawOverflow, quiet]
  cases phase : held.phase with
  | watching =>
    have apart : concerns held.file e = false := by
      simpa [Event.Foreign, Holding.post, phase, ← concerns_iff] using foreign
    simp [ofBatch, phase, ofFile, lost, apart]
  | awaiting =>
    have apart : ¬ e.Of held.dir ∨ ∃ other, e.name = some other ∧ other ≠ name := by
      simpa [Event.Foreign, Holding.post, phase] using foreign
    have silent : ¬ endsDirectory held.dir e = true := by
      rw [endsDirectory_iff]
      rintro ⟨own, nameless, -⟩
      rcases apart with stranger | ⟨other, named, -⟩
      · exact stranger own
      · simp [nameless] at named
    have unnamed : ¬ namesFile held.dir name e = true := by
      rw [namesFile_iff]
      rintro ⟨own, named⟩
      rcases apart with stranger | ⟨other, names, differs⟩
      · exact stranger own
      · exact differs (Option.some.inj (names.symm.trans named))
    simp [ofBatch, phase, ofDirectory, lost, List.find?_append, List.find?_cons_of_neg silent,
      List.filter_cons_of_neg unnamed]

end Judgement

theorem Verdict.join_gravest (one other : Verdict) :
    (one.join other = one ∨ one.join other = other) ∧ one.gravity ≤ (one.join other).gravity ∧
      other.gravity ≤ (one.join other).gravity := by
  cases one <;> cases other <;> simp [join, gravity]

/-- The judgement on a batch of any length, whatever is held. Lost events are noticed under any
handle. While the file is watched, all flags of its registration count and losses do not; while it
is awaited, the first word that the directory is gone decides, and without one the events that name
the file do, or a loss. What does not count may be left out, and of two batches the graver verdict
is that on both together. -/
theorem batch_judged_exactly (held : Holding) (name : Bytes) (batch : List Event) :
    let judged := Judgement.ofBatch held name
    ((judged batch).overflowed = true ↔ ∃ e ∈ batch, e.mask.has .overflow = true) ∧
    (held.phase = .watching → (judged batch).OfWatching held.file batch) ∧
    (held.phase = .awaiting → (judged batch).OfAwaiting held.dir name batch) ∧
    (∀ front e rest, batch = front ++ e :: rest → e.Foreign held name →
      e.mask.has .overflow = false → judged (front ++ rest) = judged batch) ∧
    ∀ more, ((judged (batch ++ more)).verdict = (judged batch).verdict ∨
        (judged (batch ++ more)).verdict = (judged more).verdict) ∧
      (judged batch).verdict.gravity ≤ (judged (batch ++ more)).verdict.gravity ∧
      (judged more).verdict.gravity ≤ (judged (batch ++ more)).verdict.gravity := by
  intro judged
  refine ⟨?_, ?_, ?_, ?_, ?_⟩
  · rw [← Judgement.sawOverflow_iff]
    exact Bool.eq_iff_iff.1 (Judgement.ofBatch_overflowed held name batch)
  · intro watching
    simpa [judged, Judgement.ofBatch, watching] using Judgement.ofFile_watching held.file batch
  · intro awaiting
    simpa [judged, Judgement.ofBatch, awaiting] using
      Judgement.ofDirectory_awaiting held.dir name batch
  · rintro front e rest rfl foreign quiet
    exact Judgement.ofBatch_erase foreign quiet front rest
  · intro more
    simp only [judged, Judgement.verdict_append]
    exact Verdict.join_gravest _ _

/-- An old registration's last words, a loss and news of the file come before the directory's end. -/
theorem batch_judged_exactly_at_end :
    let held : Holding := ⟨.awaiting, some ⟨2⟩, none⟩
    let stale := Event.onSelf ⟨1⟩ (.ofFlags [.deleteSelf, .ignored])
    let batch : List Event := [Event.lost, .onChild ⟨2⟩ [0x66] (.ofFlags [.create]),
      .onSelf ⟨2⟩ (.ofFlags [.moveSelf])]
    (Judgement.ofBatch held [0x66] (stale :: batch)).OfAwaiting held.dir [0x66] (stale :: batch) ∧
    Judgement.ofBatch held [0x66] batch = Judgement.ofBatch held [0x66] (stale :: batch) ∧
    Judgement.ofBatch held [0x66] batch =
      ⟨.directoryGone, .ofFlags [.moveSelf], true⟩ ∧
    (Judgement.ofBatch ⟨.watching, none, some ⟨1⟩⟩ [0x66] (stale :: batch)).OfWatching (some ⟨1⟩)
      (stale :: batch) := by
  intro held stale batch
  have foreign : stale.Foreign held [0x66] := by
    refine .inl fun own : some (Handle.mk 1) = some ⟨2⟩ => ?_
    simp at own
  have exact := batch_judged_exactly held [0x66] (stale :: batch)
  exact ⟨exact.2.2.1 rfl, exact.2.2.2.1 [] stale batch rfl foreign (by decide), by decide,
    (batch_judged_exactly ⟨.watching, none, some ⟨1⟩⟩ [0x66] (stale :: batch)).2.1 rfl⟩

end RoleWatch
