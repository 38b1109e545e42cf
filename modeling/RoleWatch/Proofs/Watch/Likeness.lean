import RoleWatch.Watch.Vigil

/-!
Two surroundings that the watch cannot tell apart. If every call gets the same answer in related
worlds and leaves them related, so does every operation.
-/
namespace RoleWatch

variable {V W α β : Type}

/-- Two computations with the same answer that keep their worlds related. -/
def Alike (related : V → W → Prop) (left : StateM V α) (right : StateM W α) : Prop :=
  ∀ v w, related v w → (left v).1 = (right w).1 ∧ related (left v).2 (right w).2

namespace Alike

variable {related : V → W → Prop}

theorem pure (a : α) : Alike related (Pure.pure a) (Pure.pure a) :=
  fun _ _ now => ⟨rfl, now⟩

theorem bind {left : StateM V α} {right : StateM W α} {left' : α → StateM V β}
    {right' : α → StateM W β} (first : Alike related left right)
    (next : ∀ a, Alike related (left' a) (right' a)) :
    Alike related (left >>= left') (right >>= right') := by
  intro v w now
  obtain ⟨same, after⟩ := first v w now
  change (left' (left v).1 (left v).2).1 = (right' (right w).1 (right w).2).1 ∧
    related (left' (left v).1 (left v).2).2 (right' (right w).1 (right w).2).2
  rw [same]
  exact next _ _ _ after

theorem bind_unanswered {γ δ : Type} {left : StateM V α} {right : StateM W γ}
    {left' : α → StateM V δ} {right' : γ → StateM W δ}
    (kept : ∀ v w, related v w → related (left v).2 (right w).2)
    (next : ∀ a b, Alike related (left' a) (right' b)) :
    Alike related (left >>= left') (right >>= right') :=
  fun v w now => next _ _ _ _ (kept v w now)

theorem skip_left {left : StateM V α} {left' : α → StateM V β} {right : StateM W β}
    (unseen : ∀ v w, related v w → related (left v).2 w)
    (next : ∀ a, Alike related (left' a) right) : Alike related (left >>= left') right :=
  fun v w now => next _ _ _ (unseen v w now)

theorem skip_right {left : StateM V β} {right : StateM W α} {right' : α → StateM W β}
    (unseen : ∀ v w, related v w → related v (right w).2)
    (next : ∀ a, Alike related left (right' a)) : Alike related left (right >>= right') :=
  fun v w now => next _ _ _ (unseen v w now)

end Alike

def beside {Extra : Type} (step : StateM W α) : StateM (W × Extra) α :=
  fun (w, extra) => ((step w).1, (step w).2, extra)

theorem beside_alike {Extra : Type} (step : StateM W α) :
    Alike (fun (state : W × Extra) w => state.1 = w) (beside step) step := by
  rintro state _ rfl
  exact ⟨rfl, rfl⟩

theorem Assignment.enforce_alike {related : V → W → Prop} {left : Host V} {right : Host W}
    (job : Assignment) (opens : ∀ path, Alike related (left.openFile path) (right.openFile path))
    (performs : ∀ verb service,
      Alike related (left.perform verb service) (right.perform verb service))
    (notes : ∀ entry, Alike related (left.note entry) (right.note entry)) :
    Alike related (job.enforce left) (job.enforce right) := by
  refine ((opens job.path).bind fun _ => .pure _).bind ?_
  rintro (failure | role)
  · exact (notes _).bind fun _ => .pure _
  · refine (notes _).bind fun _ => (performs _ _).bind ?_
    rintro (failure | ⟨⟩)
    · exact (notes _).bind fun _ => (notes _).bind fun _ => .pure _
    · exact (notes _).bind fun _ => .pure _

/-- Whatever the service answers, the duty comes to the same: an answer only decides on one more
note to the log. -/
theorem Assignment.enforce_alike_unanswered {related : V → W → Prop} {left : Host V}
    {right : Host W} (job : Assignment)
    (opens : ∀ path, Alike related (left.openFile path) (right.openFile path))
    (performs : ∀ verb service v w, related v w →
      related (left.perform verb service v).2 (right.perform verb service w).2)
    (notes : ∀ entry v w, related v w → related (left.note entry v).2 w)
    (notes' : ∀ entry v w, related v w → related v (right.note entry w).2) :
    Alike related (job.enforce left) (job.enforce right) := by
  have both (entry : Log.Entry) : Alike related (left.note entry) (right.note entry) :=
    fun v w now => ⟨rfl, notes' entry _ _ (notes entry v w now)⟩
  refine ((opens job.path).bind fun _ => .pure _).bind ?_
  rintro (failure | role)
  · exact (both _).bind fun _ => .pure _
  · refine (both _).bind fun _ => .bind_unanswered (performs _ _) ?_
    rintro (failure | ⟨⟩) (failure' | ⟨⟩)
    · refine .bind_unanswered (fun v w now => ?_) fun _ _ => (both _).bind fun _ => .pure _
      exact notes' _ _ _ (notes _ v w now)
    · exact .skip_left (notes _) fun _ => (both _).bind fun _ => .pure _
    · exact .skip_right (notes' _) fun _ => (both _).bind fun _ => .pure _
    · exact (both _).bind fun _ => .pure _

/-- What the watch asks of two surroundings gets the same answers in related worlds. -/
structure Host.Alike (related : V → W → Prop) (left : Host V) (right : Host W)
    (job : Assignment) : Prop where
  enforce : RoleWatch.Alike related (job.enforce left) (job.enforce right)
  addWatch (path : Path) (interest : Mask) :
    RoleWatch.Alike related (left.addWatch path interest) (right.addWatch path interest)
  removeWatch (handle : Handle) :
    RoleWatch.Alike related (left.removeWatch handle) (right.removeWatch handle)
  note (entry : Log.Entry) : RoleWatch.Alike related (left.note entry) (right.note entry)

namespace Sentry

variable {related : V → W → Prop} {left : Host V} {right : Host W} {job : Assignment}

theorem dropWatch_alike (alike : left.Alike related right job) (handle : Handle) :
    Alike related (dropWatch left handle) (dropWatch right handle) := by
  refine (alike.removeWatch handle).bind ?_
  rintro (cause | ⟨⟩)
  · exact alike.note _
  · exact alike.note _

theorem dropHeld_alike (alike : left.Alike related right job) (held : Option Handle) :
    Alike related (dropHeld left held) (dropHeld right held) := by
  cases held with
  | none => exact .pure ()
  | some handle => exact dropWatch_alike alike handle

theorem watchFile_alike (alike : left.Alike related right job) (s : Sentry) :
    Alike related (s.watchFile left) (s.watchFile right) := by
  refine (alike.addWatch _ _).bind ?_
  rintro (cause | handle)
  · exact .pure _
  · exact .pure _

theorem watchDir_alike (alike : left.Alike related right job) (s : Sentry) :
    Alike related (s.watchDir left) (s.watchDir right) := by
  unfold watchDir
  split
  · exact .pure _
  · refine (alike.addWatch _ _).bind ?_
    rintro (cause | handle)
    · exact (alike.note _).bind fun _ => .pure _
    · exact .pure _

theorem promote_alike (alike : left.Alike related right job) (s : Sentry) :
    Alike related (s.promote left job) (s.promote right job) := by
  refine alike.enforce.bind ?_
  rintro (failure | role)
  · dsimp only
    split
    · exact .pure _
    · exact (alike.note _).bind fun _ => .pure _
  · refine (watchFile_alike alike s).bind ?_
    rintro (failure | handle)
    · dsimp only
      split
      · exact (alike.note _).bind fun _ => .pure _
      · exact (alike.note _).bind fun _ => .pure _
    · exact (dropHeld_alike alike _).bind fun _ => (alike.note _).bind fun _ => .pure _

theorem awaitFile_alike (alike : left.Alike related right job) (s : Sentry) :
    Alike related (s.awaitFile left job) (s.awaitFile right job) := by
  refine (dropHeld_alike alike _).bind fun _ => (watchDir_alike alike _).bind ?_
  rintro ⟨failure | ⟨⟩, s'⟩
  · exact .pure _
  · exact (alike.note _).bind fun _ => promote_alike alike _

theorem refresh_alike (alike : left.Alike related right job) (s : Sentry) :
    Alike related (s.refresh left job) (s.refresh right job) := by
  refine alike.enforce.bind ?_
  rintro (failure | role)
  · dsimp only
    split
    · exact .pure _
    · exact (alike.note _).bind fun _ => awaitFile_alike alike s
  · exact .pure _

theorem start_alike (alike : left.Alike related right job) (s : Sentry) :
    Alike related (s.start left job) (s.start right job) := by
  refine (alike.note _).bind fun _ => alike.enforce.bind ?_
  rintro (failure | role)
  · dsimp only
    split
    · exact .pure _
    · exact (alike.note _).bind fun _ => awaitFile_alike alike s
  · refine (watchFile_alike alike s).bind ?_
    rintro (failure | handle)
    · exact (alike.note _).bind fun _ => awaitFile_alike alike s
    · exact (alike.note _).bind fun _ => .pure _

theorem attend_alike (alike : left.Alike related right job) (s : Sentry) (batch : List Event) :
    Alike related (s.attend left job batch) (s.attend right job batch) := by
  have acted (j : Judgement) : Alike related (s.act left job j) (s.act right job j) := by
    unfold act
    cases j.verdict with
    | idle => exact .pure _
    | directoryGone => exact (alike.note _).bind fun _ => .pure _
    | appeared => exact (alike.note _).bind fun _ => promote_alike alike s
    | fileGone => exact (alike.note _).bind fun _ => awaitFile_alike alike s
    | changed => exact (alike.note _).bind fun _ => refresh_alike alike s
  refine (alike.note _).bind fun _ => ?_
  dsimp only
  split
  · exact (alike.note _).bind fun _ => acted _
  · exact acted _

theorem recheck_alike (alike : left.Alike related right job) (s : Sentry) :
    Alike related (s.recheck left job) (s.recheck right job) := by
  refine (alike.note _).bind fun _ => ?_
  split
  · exact refresh_alike alike s
  · exact promote_alike alike s

theorem release_alike (alike : left.Alike related right job) (s : Sentry) :
    Alike related (s.release left) (s.release right) :=
  (dropHeld_alike alike _).bind fun _ => (dropHeld_alike alike _).bind fun _ =>
    (alike.note _).bind fun _ => .pure _

end Sentry

structure Station.Alike (related : V → W → Prop) (left : Station V) (right : Station W)
    (job : Assignment) : Prop extends left.toHost.Alike related right.toHost job where
  now : RoleWatch.Alike related left.now right.now
  wait (span : Millis) : RoleWatch.Alike related (left.wait span) (right.wait span)
  beat : RoleWatch.Alike related left.beat right.beat

namespace Vigil

variable {related : V → W → Prop} {left : Station V} {right : Station W} {v : Vigil}

theorem look_alike (alike : left.Alike related right v.job) :
    Alike related (v.look left) (v.look right) := by
  unfold look
  split
  · exact Sentry.recheck_alike alike.toAlike v.sentry
  · exact .pure _

theorem beat_alike (alike : left.Alike related right v.job) :
    Alike related (v.beat left) (v.beat right) := by
  refine (alike.note _).bind fun _ => alike.beat.bind fun _ => (look_alike alike).bind ?_
  rintro ⟨failure | ⟨⟩, s⟩
  · exact .pure _
  · exact alike.now.bind fun _ => .pure _

theorem prepare_alike (alike : left.Alike related right v.job) :
    Alike related (v.prepare left) (v.prepare right) := by
  refine alike.now.bind fun now => ?_
  have due : Alike related (v.beatIfDue left (now - v.lastBeat))
      (v.beatIfDue right (now - v.lastBeat)) := by
    unfold beatIfDue
    split
    · exact beat_alike alike
    · exact .pure _
  refine due.bind ?_
  rintro ⟨failure | ⟨⟩, v'⟩
  · exact .pure _
  · exact (alike.note _).bind fun _ => .pure _

theorem receive_alike (alike : left.Alike related right v.job)
    (arrival : Except IoError Arrival) :
    Alike related (v.receive left arrival) (v.receive right arrival) := by
  unfold receive
  split
  · exact .pure _
  · exact .pure _
  · exact (Sentry.attend_alike alike.toAlike v.sentry _).bind fun _ => .pure _
  · split
    · exact .pure _
    · exact (alike.note _).bind fun _ => .pure _

theorem turn_alike (alike : ∀ job, left.Alike related right job) (v : Vigil) :
    Alike related (v.turn left) (v.turn right) := by
  refine (prepare_alike (alike v.job)).bind ?_
  rintro ⟨failure | budget, v'⟩
  · exact .pure _
  · exact ((alike v'.job).wait budget).bind fun arrival => receive_alike (alike v'.job) arrival

theorem start_alike (alike : left.Alike related right v.job) :
    Alike related (v.start left) (v.start right) :=
  alike.beat.bind fun _ => alike.now.bind fun _ =>
    (Sentry.start_alike alike.toAlike v.sentry).bind fun _ => .pure _

theorem finish_alike (alike : left.Alike related right v.job) (failure : Failure) :
    Alike related (v.finish left failure) (v.finish right failure) :=
  (Sentry.release_alike alike.toAlike v.sentry).bind fun _ => (alike.note _).bind fun _ => .pure _

theorem turns_alike {leftTurn : Vigil → StateM V (Option (Except Failure Unit) × Vigil)}
    {rightTurn : Vigil → StateM W (Option (Except Failure Unit) × Vigil)}
    (alike : ∀ v, Alike related (leftTurn v) (rightTurn v)) (limit : Nat) (v : Vigil) :
    Alike related (turns leftTurn limit v) (turns rightTurn limit v) := by
  induction limit generalizing v with
  | zero => exact .pure _
  | succ n ih =>
    refine (alike v).bind ?_
    rintro ⟨_ | failure | ⟨⟩, v'⟩
    · exact .pure _
    · exact .pure _
    · exact ih v'

theorem goOn_alike {leftTurn : Vigil → StateM V (Option (Except Failure Unit) × Vigil)}
    {rightTurn : Vigil → StateM W (Option (Except Failure Unit) × Vigil)}
    (alike : left.Alike related right v.job)
    (turned : ∀ v, Alike related (leftTurn v) (rightTurn v)) (limit : Nat) :
    Alike related (goOn leftTurn left limit v) (goOn rightTurn right limit v) := by
  refine (start_alike alike).bind ?_
  rintro ⟨failure | ⟨⟩, v'⟩
  · exact .pure _
  · exact turns_alike turned limit v'

theorem runBy_alike {leftTurn : Vigil → StateM V (Option (Except Failure Unit) × Vigil)}
    {rightTurn : Vigil → StateM W (Option (Except Failure Unit) × Vigil)}
    (alike : ∀ job, left.Alike related right job)
    (turned : ∀ v, Alike related (leftTurn v) (rightTurn v)) (limit : Nat) (v : Vigil) :
    Alike related (runBy leftTurn left limit v) (runBy rightTurn right limit v) := by
  refine ((alike v.job).note _).bind fun _ => (goOn_alike (alike v.job) turned limit).bind ?_
  rintro ⟨_ | failure, v'⟩
  · exact .pure _
  · exact (finish_alike (alike v'.job) failure).bind fun _ => .pure _

theorem run_alike (alike : ∀ job, left.Alike related right job) (limit : Nat) (v : Vigil) :
    Alike related (v.run left limit) (v.run right limit) :=
  runBy_alike alike (fun v => (turn_alike alike v).bind fun _ => .pure _) limit v

end Vigil

end RoleWatch
