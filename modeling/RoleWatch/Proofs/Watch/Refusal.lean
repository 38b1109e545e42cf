import RoleWatch.Proofs.Watch.Overheard

/-!
When an operation of the watch fails, whatever the surroundings do: just when the watch had to go
back to the directory and was refused there, or when it hears that the directory is gone.
-/
namespace RoleWatch

def Unread (job : Assignment) (talk : List Exchange) : Prop :=
  ∃ opened failure, .opened job.path opened ∈ talk ∧ job.roleOf opened = .error failure

def Unwatched (t : Target) (talk : List Exchange) : Prop :=
  ∃ cause, .asked t.file .fileInterest (.error cause) ∈ talk

/-- The directory's registration was refused, and the failure says so. -/
def Barred (t : Target) (talk : List Exchange) (failure : Failure) : Prop :=
  ∃ cause, failure = .fatal (.cannotWatch t.dir cause) ∧
    .asked t.dir .directoryInterest (.error cause) ∈ talk

def Unbarred (t : Target) (talk : List Exchange) : Prop :=
  ∀ cause, .asked t.dir .directoryInterest (.error cause) ∉ talk

variable {t : Target} {job : Assignment} {talk more : List Exchange} {failure : Failure}

theorem Unbarred.append (first : Unbarred t talk) (second : Unbarred t more) :
    Unbarred t (talk ++ more) := by
  intro cause member
  rcases List.mem_append.1 member with before | after
  · exact first cause before
  · exact second cause after

theorem Unbarred.not_barred (unbarred : Unbarred t talk) : ¬ Barred t talk failure := by
  rintro ⟨cause, -, member⟩
  exact unbarred cause member

theorem barred_append (unbarred : Unbarred t talk) :
    Barred t (talk ++ more) failure ↔ Barred t more failure := by
  constructor
  · rintro ⟨cause, named, member⟩
    exact ⟨cause, named, (List.mem_append.1 member).resolve_left (unbarred cause)⟩
  · rintro ⟨cause, named, member⟩
    exact ⟨cause, named, List.mem_append_right _ member⟩

theorem barred_of_refused {cause : IoError} :
    Barred t [.asked t.dir .directoryInterest (.error cause)] failure ↔
      failure = .fatal (.cannotWatch t.dir cause) := by
  simp [Barred]

theorem Drops.unbarred (drops : Drops talk) : Unbarred t talk := by
  cases drops with
  | nothing => simp [Unbarred]
  | ended => simp [Unbarred]

theorem unbarred_opened {opened : Except IoError Source} :
    Unbarred t [.opened job.path opened] := by
  simp [Unbarred]

theorem unbarred_obeyed {opened : Except IoError Source} {verb : Verb} {service : String}
    {reply : Except Failure Unit} {answer : Except IoError Handle} :
    Unbarred t [.opened job.path opened, .ordered verb service reply,
      .asked t.file .fileInterest answer] := by
  have other : Mask.directoryInterest ≠ Mask.fileInterest := by decide
  simp [Unbarred, other]

namespace Sentry

variable {s : Sentry} {ending : Ending}

/-- Looking for the awaited file never fails, and nothing is asked of the directory. -/
theorem Promotes.ok (promotes : s.Promotes job ending talk) :
    ending.1 = .ok () ∧ Unbarred s.target talk := by
  cases promotes with
  | unread => exact ⟨rfl, unbarred_opened⟩
  | refused => exact ⟨rfl, unbarred_obeyed⟩
  | watched read drops => exact ⟨rfl, unbarred_obeyed.append drops.unbarred⟩

theorem Awaits.error_iff (awaits : s.Awaits job ending talk) (failure : Failure) :
    ending.1 = .error failure ↔ Barred s.target talk failure := by
  cases awaits with
  | barred drops =>
    rw [barred_append drops.unbarred, barred_of_refused]
    simp [eq_comm]
  | @granted first more d ending drops promotes =>
    obtain ⟨ok, unbarred⟩ := promotes.ok
    have granted : Unbarred s.target [.asked s.target.dir .directoryInterest (.ok d)] := by
      simp [Unbarred]
    exact iff_of_false (by simp [ok])
      (drops.unbarred.append (granted.append unbarred)).not_barred
  | held drops there promotes =>
    obtain ⟨ok, unbarred⟩ := promotes.ok
    exact iff_of_false (by simp [ok]) (drops.unbarred.append unbarred).not_barred

theorem Refreshes.error_iff (refreshes : s.Refreshes job ending talk) (failure : Failure) :
    ending.1 = .error failure ↔ Unread job talk ∧ Barred s.target talk failure := by
  cases refreshes with
  | read => exact iff_of_false (by simp) fun both => by simp [Barred] at both
  | @unread opened cause more ending unread awaits =>
    have heard : Unread job (.opened job.path opened :: more) :=
      ⟨opened, cause, List.mem_cons_self .., unread⟩
    rw [awaits.error_iff, and_iff_right heard]
    exact (barred_append unbarred_opened).symm

theorem Starts.error_iff (starts : s.Starts job ending talk) (failure : Failure) :
    ending.1 = .error failure ↔
      (Unread job talk ∨ Unwatched s.target talk) ∧ Barred s.target talk failure := by
  cases starts with
  | watched read => exact iff_of_false (by simp) fun both => unbarred_obeyed.not_barred both.2
  | @unwatched opened role reply cause more ending read awaits =>
    have unwatched : Unwatched s.target (.opened job.path opened ::
        .ordered (Verb.ofRole role) job.service reply ::
          .asked s.target.file .fileInterest (.error cause) :: more) := ⟨cause, by simp⟩
    rw [awaits.error_iff, and_iff_right (.inr unwatched)]
    exact (barred_append unbarred_obeyed).symm
  | @unread opened cause more ending unread awaits =>
    have heard : Unread job (.opened job.path opened :: more) :=
      ⟨opened, cause, List.mem_cons_self .., unread⟩
    rw [awaits.error_iff, and_iff_right (.inl heard)]
    exact (barred_append unbarred_opened).symm

theorem Rechecks.error_iff (rechecks : s.Rechecks job ending talk) (failure : Failure) :
    ending.1 = .error failure ↔
      s.held.phase = .watching ∧ Unread job talk ∧ Barred s.target talk failure := by
  cases rechecks with
  | watching phase refreshes => rw [refreshes.error_iff, and_iff_right phase]
  | awaiting phase promotes => exact iff_of_false (by simp [promotes.ok]) (by simp [phase])

/-- What a batch leads to: a failure at once if the directory is gone, and else one only if the
directory is needed again and refused. -/
def Escapes (job : Assignment) (s : Sentry) (verdict : Verdict) (talk : List Exchange)
    (failure : Failure) : Prop :=
  (verdict = .directoryGone ∧ failure = .fatal (.directoryRemoved s.target.dir)) ∨
    (verdict = .fileGone ∨ verdict = .changed ∧ Unread job talk) ∧ Barred s.target talk failure

/-- How attending to a batch ends; that the directory is gone changes nothing and asks nothing. -/
def Attended (job : Assignment) (s : Sentry) (verdict : Verdict) (ending : Ending)
    (talk : List Exchange) : Prop :=
  (∀ failure, ending.1 = .error failure ↔ s.Escapes job verdict talk failure) ∧
    (verdict = .directoryGone → ending.2 = s ∧ talk = [])

theorem Acts.attended {verdict : Verdict} (acts : s.Acts job verdict ending talk) :
    s.Attended job verdict ending talk := by
  unfold Attended Escapes
  cases acts with
  | idle => exact ⟨by simp, nofun⟩
  | directoryGone => exact ⟨by simp [eq_comm], fun _ => ⟨rfl, rfl⟩⟩
  | appeared promotes => exact ⟨by simp [promotes.ok], nofun⟩
  | fileGone awaits => exact ⟨by simp [awaits.error_iff], nofun⟩
  | changed refreshes => exact ⟨by simp [refreshes.error_iff], nofun⟩

end Sentry

end RoleWatch
