import RoleWatch.Host
import RoleWatch.Proofs.Watch.Verdict

/-!
The watch over files that stay as they are, told by what it holds and by the next handle alone.
Looking at the file finds the same each time, so an event that arrives after the watch has let go
of a registration changes nothing, and it makes no difference which events arrive together.
-/
namespace RoleWatch

/-- What the watch finds each time it looks: what the service is to be told, which is nothing if
the file cannot be read, and whether the file can be watched. -/
structure Outlook where
  order : Option (Verb × String)
  there : Bool

/-- What the watch holds, and the number of the next registration. -/
structure Standing where
  held : Holding
  next : Nat

namespace Standing

def promote (o : Outlook) (p : Standing) : Standing :=
  if o.order.isSome ∧ o.there then ⟨⟨.watching, none, some ⟨p.next⟩⟩, p.next + 1⟩ else p

def watchDir (p : Standing) : Standing :=
  match p.held.dir with
  | some d => ⟨⟨.awaiting, some d, none⟩, p.next⟩
  | none => ⟨⟨.awaiting, some ⟨p.next⟩, none⟩, p.next + 1⟩

def awaitFile (o : Outlook) (p : Standing) : Standing := p.watchDir.promote o

def follow (o : Outlook) (p : Standing) : Verdict → Standing
  | .idle | .directoryGone => p
  | .appeared => p.promote o
  | .fileGone => p.awaitFile o
  | .changed => if o.order.isSome then p else p.awaitFile o

def judge (p : Standing) (name : Bytes) (batch : List Event) : Verdict :=
  (Judgement.ofBatch p.held name batch).verdict

def attend (o : Outlook) (name : Bytes) (p : Standing) (batch : List Event) : Standing :=
  p.follow o (p.judge name batch)

/-- The events are of registrations made before, and none ends the directory's. -/
structure Fair (p : Standing) (events : List Event) : Prop where
  old : ∀ e ∈ events, ∀ h, e.handle = some h → h.id < p.next
  stays : ∀ e ∈ events, ∀ d, p.held.dir = some d → ¬ e.Ends (some d)

structure Grows (p q : Standing) : Prop where
  next : p.next ≤ q.next
  dir : ∀ d, q.held.dir = some d → p.held.dir = some d ∨ p.next ≤ d.id

variable {o : Outlook} {name : Bytes} {p q r : Standing} {batch rest events : List Event}

theorem Grows.refl (p : Standing) : Grows p p := ⟨Nat.le_refl _, fun _ held => .inl held⟩

theorem Grows.trans (first : Grows p q) (second : Grows q r) : Grows p r where
  next := Nat.le_trans first.next second.next
  dir d held := by
    rcases second.dir d held with before | new
    · exact first.dir d before
    · exact .inr (Nat.le_trans first.next new)

theorem promote_grows (o : Outlook) (p : Standing) : Grows p (p.promote o) := by
  unfold promote
  split
  · exact ⟨Nat.le_succ _, nofun⟩
  · exact .refl p

theorem watchDir_grows (p : Standing) : Grows p p.watchDir := by
  unfold watchDir
  split
  · rename_i d held
    exact ⟨Nat.le_refl _, fun _ same => .inl (held.trans same)⟩
  · refine ⟨Nat.le_succ _, ?_⟩
    rintro _ ⟨⟩
    exact .inr (Nat.le_refl _)

theorem awaitFile_grows (o : Outlook) (p : Standing) : Grows p (p.awaitFile o) :=
  (watchDir_grows p).trans (promote_grows o _)

theorem attend_grows (o : Outlook) (name : Bytes) (p : Standing) (batch : List Event) :
    Grows p (p.attend o name batch) := by
  unfold attend
  cases p.judge name batch with
  | idle => exact .refl p
  | directoryGone => exact .refl p
  | appeared => exact promote_grows o p
  | fileGone => exact awaitFile_grows o p
  | changed =>
    unfold follow
    dsimp only
    split
    · exact .refl p
    · exact awaitFile_grows o p

theorem Fair.mono (fair : p.Fair events) (fewer : ∀ e ∈ batch, e ∈ events) : p.Fair batch where
  old e member := fair.old e (fewer e member)
  stays e member := fair.stays e (fewer e member)

theorem Fair.grown (fair : p.Fair events) (grows : Grows p q) : q.Fair events where
  old e member h named := Nat.lt_of_lt_of_le (fair.old e member h named) grows.next
  stays e member d held ends := by
    rcases grows.dir d held with before | new
    · exact fair.stays e member d before ends
    · have known := fair.old e member d ends.1
      omega

theorem Fair.judge_awaiting (fair : p.Fair batch) (awaiting : p.held.phase = .awaiting)
    (name : Bytes) : p.judge name batch = .idle ∨ p.judge name batch = .appeared := by
  have stays : ¬ batch.any (Judgement.endsDirectory p.held.dir) = true := by
    rw [List.any_eq_true]
    rintro ⟨e, member, ends⟩
    have ends := Judgement.endsDirectory_iff.1 ends
    cases held : p.held.dir with
    | none => exact (held ▸ ends).1
    | some d => exact fair.stays e member d held (held ▸ ends)
  simp only [judge, Judgement.ofBatch, awaiting, Judgement.ofDirectory_verdict, if_neg stays]
  split
  · exact .inr rfl
  · exact .inl rfl

theorem judge_watching (watching : p.held.phase = .watching) (name : Bytes) (batch : List Event) :
    p.judge name batch = .idle ∨ p.judge name batch = .changed ∨
      p.judge name batch = .fileGone :=
  Judgement.verdict_watching watching name batch

theorem Fair.judge_ne_directoryGone (fair : p.Fair batch) (name : Bytes) :
    p.judge name batch ≠ .directoryGone := by
  intro gone
  cases phase : p.held.phase with
  | awaiting =>
    have others := fair.judge_awaiting phase name
    simp [gone] at others
  | watching =>
    have others := judge_watching phase name batch
    simp [gone] at others

theorem judge_nil (p : Standing) (name : Bytes) : p.judge name [] = .idle :=
  Judgement.verdict_nil p.held name

theorem judge_append (p : Standing) (name : Bytes) (batch rest : List Event) :
    p.judge name (batch ++ rest) = (p.judge name batch).join (p.judge name rest) :=
  Judgement.verdict_append p.held name batch rest

theorem attend_of_judge {v : Verdict} (judged : p.judge name batch = v) :
    p.attend o name batch = p.follow o v := by
  rw [attend, judged]

/-- What a look at the file has led to stays, whatever is still said of what was held before. -/
theorem attend_promote (awaiting : p.held.phase = .awaiting) (fair : p.Fair rest) :
    (p.promote o).attend o name rest = p.promote o := by
  by_cases found : o.order.isSome ∧ o.there
  · rw [promote, if_pos found]
    have stale : ∀ e ∈ rest, Judgement.concerns (some ⟨p.next⟩) e = false := by
      intro e member
      rw [Bool.eq_false_iff]
      intro concerned
      exact Nat.lt_irrefl _ (fair.old e member ⟨p.next⟩ (Judgement.concerns_iff.1 concerned))
    have idle : judge ⟨⟨.watching, none, some ⟨p.next⟩⟩, p.next + 1⟩ name rest = .idle :=
      Judgement.ofFile_idle stale
    exact attend_of_judge idle
  · have stuck : p.promote o = p := if_neg found
    rw [stuck]
    rcases fair.judge_awaiting awaiting name with idle | appeared
    · exact attend_of_judge idle
    · exact (attend_of_judge appeared).trans stuck

theorem attend_awaitFile (fair : p.Fair rest) :
    (p.awaitFile o).attend o name rest = p.awaitFile o := by
  have awaiting : p.watchDir.held.phase = .awaiting := by
    unfold watchDir
    split <;> rfl
  exact attend_promote awaiting (fair.grown (watchDir_grows p))

/-- Nothing concerns the file in two batches one after the other just if nothing does in one. -/
theorem judge_append_idle : p.judge name (batch ++ rest) = .idle ↔
    p.judge name batch = .idle ∧ (p.attend o name batch).judge name rest = .idle := by
  rw [judge_append, Verdict.join_eq_idle, and_congr_right_iff]
  intro idle
  rw [attend_of_judge idle]
  rfl

/-- Two batches one after the other come to the same as one. -/
theorem attend_append (fair : p.Fair (batch ++ rest)) :
    (p.attend o name batch).attend o name rest = p.attend o name (batch ++ rest) := by
  have first : p.Fair batch := fair.mono fun _ member => List.mem_append_left _ member
  have second : p.Fair rest := fair.mono fun _ member => List.mem_append_right _ member
  have joined := judge_append p name batch rest
  -- What is not idle in the first batch decides the whole; the second then finds nothing to do. Only
  -- a written file that can be read leaves the watch where it was, so that more may follow.
  cases phase : p.held.phase with
  | awaiting =>
    rcases first.judge_awaiting phase name with idle | appeared
    · rw [attend_of_judge idle, attend, attend, joined, idle]
      rfl
    · have both : p.judge name (batch ++ rest) = .appeared := by
        rw [joined, appeared]
        rcases second.judge_awaiting phase name with other | other <;> rw [other] <;> rfl
      rw [attend_of_judge appeared, attend_of_judge both]
      exact attend_promote phase second
  | watching =>
    rcases judge_watching phase name batch with idle | changed | gone
    · rw [attend_of_judge idle, attend, attend, joined, idle]
      rfl
    · rw [changed] at joined
      rw [attend_of_judge changed, attend, attend, joined]
      cases found : o.order.isSome with
      | true =>
        have kept : p.follow o .changed = p := if_pos found
        rw [kept]
        rcases judge_watching phase name rest with other | other | other
        · rw [other]
          exact kept.symm
        · rw [other]
          rfl
        · rw [other]
          rfl
      | false =>
        have lost : p.follow o .changed = p.awaitFile o := if_neg (by simp [found])
        have stays : (p.awaitFile o).attend o name rest = p.awaitFile o := attend_awaitFile second
        rw [lost]
        rcases judge_watching phase name rest with other | other | other
        · rw [other]
          exact stays.trans lost.symm
        · rw [other]
          exact stays.trans lost.symm
        · rw [other]
          exact stays
    · have both : p.judge name (batch ++ rest) = .fileGone := by
        rw [joined, gone]
        rcases judge_watching phase name rest with other | other | other <;> rw [other] <;> rfl
      rw [attend_of_judge gone, attend_of_judge both]
      exact attend_awaitFile second

end Standing

end RoleWatch
