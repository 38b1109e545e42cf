import RoleWatch.Proofs.Bench.Outcome
import RoleWatch.Proofs.Bench.Trial
import RoleWatch.Proofs.Duty.Bounded
import RoleWatch.Proofs.Watch.Overheard

/-!
How many orders the service gets. The file is read from four places, and going back to the
directory always reads it again, so what an operation orders is counted call by call: what each
step asks for and orders, if the file shows the same whenever it is opened.
-/
namespace RoleWatch

/-- What an open file shows: the bytes it holds, and the failure that ends them if there is one. -/
def Source.shown (source : Source) : Bytes × Option IoError := (source.content, source.failure?)

/-- Whenever the file was opened, it showed the same as here. -/
def Still (job : Assignment) (opened : Except IoError Source) (talk : List Exchange) : Prop :=
  ∀ answer, .opened job.path answer ∈ talk → answer.map Source.shown = opened.map Source.shown

namespace Exchange

def order? : Exchange → Option (Verb × String)
  | .ordered verb service _ => some (verb, service)
  | _ => none

def asks : Exchange → Bool
  | .asked .. => true
  | _ => false

end Exchange

def ordersIn (talk : List Exchange) : List (Verb × String) := talk.filterMap Exchange.order?

def asksIn (talk : List Exchange) : List Exchange := talk.filter Exchange.asks

section Counting

variable {job : Assignment} {opened : Except IoError Source} {talk more : List Exchange}

@[simp] theorem ordersIn_append : ordersIn (talk ++ more) = ordersIn talk ++ ordersIn more :=
  List.filterMap_append

@[simp] theorem asksIn_append : asksIn (talk ++ more) = asksIn talk ++ asksIn more :=
  List.filter_append ..

@[simp] theorem still_append :
    Still job opened (talk ++ more) ↔ Still job opened talk ∧ Still job opened more := by
  constructor
  · intro still
    exact ⟨fun answer member => still answer (List.mem_append_left _ member),
      fun answer member => still answer (List.mem_append_right _ member)⟩
  · intro ⟨still, stays⟩ answer member
    rcases List.mem_append.1 member with before | after
    · exact still answer before
    · exact stays answer after

theorem mem_asksIn {path : Path} {interest : Mask} {answer : Except IoError Handle} :
    .asked path interest answer ∈ asksIn talk ↔ .asked path interest answer ∈ talk := by
  simp [asksIn, Exchange.asks]

theorem Assignment.roleOf_congr {answer : Except IoError Source}
    (same : answer.map Source.shown = opened.map Source.shown) :
    job.roleOf answer = job.roleOf opened := by
  cases answer with
  | error cause =>
    cases opened with
    | error cause' =>
      obtain rfl : cause = cause' := Except.error.inj same
      rfl
    | ok source => simp [Except.map] at same
  | ok source =>
    cases opened with
    | error cause => simp [Except.map] at same
    | ok source' =>
      obtain ⟨content, ending⟩ := Prod.mk.inj (Except.ok.inj same)
      have read : FirstLine.read source job.lineLimit = FirstLine.read source' job.lineLimit := by
        rw [FirstLine.read_eq_iff, content, ending, ← FirstLine.read_eq_iff]
      simp only [roleOf, Except.bind, read]

/-- The order that a file calls for: none if it has no first line, else the one for what it holds. -/
inductive Assignment.CallsFor (job : Assignment) :
    Except IoError Source → Option (Verb × String) → Prop where
  | unopened {cause : IoError} : job.CallsFor (.error cause) none
  | unread {source : Source} {cause : IoError}
      (broken : FirstLine.Within job.lineLimit source.content source.failure? (.error cause)) :
      job.CallsFor (.ok source) none
  | read {source : Source} {line : Bytes}
      (read : FirstLine.Within job.lineLimit source.content source.failure? (.ok line)) :
      job.CallsFor (.ok source) (some (job.verbOf source.content, job.service))

theorem Assignment.callsFor_order (job : Assignment) (opened : Except IoError Source) :
    job.CallsFor opened (job.order (job.roleOf opened)) := by
  cases opened with
  | error cause => exact .unopened
  | ok source =>
    obtain ⟨result, within⟩ :=
      FirstLine.exists_within job.lineLimit source.content source.failure?
    have read := FirstLine.read_of_within within
    cases result with
    | error cause =>
      have none : job.order (job.roleOf (.ok source)) = none := by
        simp only [order, roleOf, Except.bind, read]
        rfl
      exact none ▸ .unread within
    | ok line =>
      have called : job.order (job.roleOf (.ok source)) =
          some (job.verbOf source.content, job.service) := by
        rw [← ofRole_roleOf_line, ← FirstLine.eq_of_read read]
        simp only [order, roleOf, Except.bind, read]
        rfl
      exact called ▸ .read within

/-- Where a file ends by itself, there is an order exactly if it holds something. -/
theorem Assignment.CallsFor.order_eq {source : Source} {order : Option (Verb × String)}
    (calls : job.CallsFor (.ok source) order) (whole : source.failure? = none)
    (room : 1 ≤ job.lineLimit) :
    order = if source.content = [] then none else some (job.verbOf source.content, job.service) := by
  have line := FirstLine.read_eq whole room
  cases calls with
  | unread broken =>
    rw [FirstLine.read_of_within broken] at line
    split at line
    · exact (if_pos (by assumption)).symm
    · simp at line
  | read read =>
    rw [FirstLine.read_of_within read] at line
    split at line
    · simp at line
    · exact (if_neg (by assumption)).symm

theorem Still.role {found : Except IoError Source}
    (still : Still job opened (.opened job.path found :: more)) :
    job.roleOf found = job.roleOf opened :=
  Assignment.roleOf_congr (still found (List.mem_cons_self ..))

theorem Still.tail {call : Exchange} (still : Still job opened (call :: more)) :
    Still job opened more :=
  fun answer member => still answer (List.mem_cons_of_mem _ member)

theorem Still.order_eq_none {found : Except IoError Source} {failure : Failure}
    (still : Still job opened (.opened job.path found :: more))
    (unread : job.roleOf found = .error failure) : job.order (job.roleOf opened) = none := by
  rw [← still.role, unread]
  rfl

theorem Still.order_eq_some {found : Except IoError Source} {role : Role}
    (still : Still job opened (.opened job.path found :: more))
    (read : job.roleOf found = .ok role) :
    job.order (job.roleOf opened) = some (Verb.ofRole role, job.service) := by
  rw [← still.role, read]
  rfl

theorem Drops.asksIn_eq (drops : Drops talk) : asksIn talk = [] := by
  cases drops with
  | nothing => rfl
  | ended => rfl

theorem Drops.ordersIn_eq (drops : Drops talk) : ordersIn talk = [] := by
  cases drops with
  | nothing => rfl
  | ended => rfl

end Counting

/-- What looking for the awaited file asks for and orders, by the order that the file calls for. -/
inductive Looks (t : Target) :
    Option (Verb × String) → List Exchange → List (Verb × String) → Prop where
  | unread : Looks t none [] []
  | read {order : Verb × String} {answer : Except IoError Handle} :
      Looks t (some order) [.asked t.file .fileInterest answer] [order]

/-- What going back to a directory that is not held asks for and orders. -/
inductive Returns (t : Target) (order : Option (Verb × String)) :
    List Exchange → List (Verb × String) → Prop where
  | barred {cause : IoError} :
      Returns t order [.asked t.dir .directoryInterest (.error cause)] []
  | looked {d : Handle} {asks : List Exchange} {orders : List (Verb × String)}
      (looks : Looks t order asks orders) :
      Returns t order (.asked t.dir .directoryInterest (.ok d) :: asks) orders

/-- What the beginning of a watch asks for and orders. -/
inductive Begins (t : Target) :
    Option (Verb × String) → List Exchange → List (Verb × String) → Prop where
  | unread {answer : Except IoError Handle} :
      Begins t none [.asked t.dir .directoryInterest answer] []
  | watched {order : Verb × String} {f : Handle} :
      Begins t (some order) [.asked t.file .fileInterest (.ok f)] [order]
  | barred {order : Verb × String} {cause cause' : IoError} :
      Begins t (some order) [.asked t.file .fileInterest (.error cause),
        .asked t.dir .directoryInterest (.error cause')] [order]
  | looked {order : Verb × String} {cause : IoError} {d : Handle}
      {answer : Except IoError Handle} :
      Begins t (some order) [.asked t.file .fileInterest (.error cause),
        .asked t.dir .directoryInterest (.ok d), .asked t.file .fileInterest answer]
        [order, order]

def Granted (t : Target) (talk : List Exchange) : Prop :=
  ∃ d, .asked t.dir .directoryInterest (.ok d) ∈ talk

/-- Whether a batch calls for the order of the file: it was written, or may be there, or is gone and
the directory could be registered, so that it is looked for once more. -/
def Calls (t : Target) (verdict : Verdict) (talk : List Exchange) : Prop :=
  verdict = .changed ∨ verdict = .appeared ∨ verdict = .fileGone ∧ Granted t talk

section Cases

variable {t : Target} {order : Option (Verb × String)} {talk asks : List Exchange}
  {orders : List (Verb × String)}

theorem Looks.orders_eq (looks : Looks t order asks orders) : orders = order.toList := by
  cases looks with
  | unread => rfl
  | read => rfl

theorem Returns.orders_of_none (returns : Returns t none asks orders) : orders = [] := by
  cases returns with
  | barred => rfl
  | looked looks => exact looks.orders_eq

theorem Returns.granted_cases (returns : Returns t order (asksIn talk) orders) :
    (Granted t talk ∧ orders = order.toList) ∨ (¬ Granted t talk ∧ orders = []) := by
  have asked (d : Handle) : .asked t.dir .directoryInterest (.ok d) ∈ talk ↔
      .asked t.dir .directoryInterest (.ok d) ∈ asksIn talk := mem_asksIn.symm
  simp only [Granted, asked]
  generalize asksIn talk = asks at returns
  cases returns with
  | barred => exact .inr ⟨by simp, rfl⟩
  | @looked d _ _ looks => exact .inl ⟨⟨d, List.mem_cons_self ..⟩, looks.orders_eq⟩

theorem Begins.of_returns_none (returns : Returns t none asks orders) :
    Begins t none asks orders := by
  cases returns with
  | barred => exact .unread
  | looked looks =>
    cases looks with
    | unread => exact .unread

theorem Begins.of_returns_some {order : Verb × String} {cause : IoError}
    (returns : Returns t (some order) asks orders) :
    Begins t (some order) (.asked t.file .fileInterest (.error cause) :: asks)
      (order :: orders) := by
  cases returns with
  | barred => exact .barred
  | looked looks =>
    cases looks with
    | read => exact .looked

end Cases

theorem Holding.Fitting.bare {h : Holding} (fitting : h.Fitting) (watching : h.phase = .watching) :
    h.dir = none := by
  unfold Fitting at fitting
  rwa [watching] at fitting

namespace Sentry

variable {job : Assignment} {opened : Except IoError Source} {s : Sentry} {ending : Ending}
  {talk : List Exchange}

theorem Promotes.counted (promotes : s.Promotes job ending talk) (still : Still job opened talk) :
    Looks s.target (job.order (job.roleOf opened)) (asksIn talk) (ordersIn talk) := by
  cases promotes with
  | unread unread =>
    rw [still.order_eq_none unread]
    exact .unread
  | refused read =>
    rw [still.order_eq_some read]
    exact .read
  | @watched found role reply f last read drops =>
    -- One order was given, and ending the directory's registration gives no other.
    have asks : asksIn (.asked s.target.file .fileInterest (.ok f) :: last) =
        [.asked s.target.file .fileInterest (.ok f)] := congrArg (_ :: ·) drops.asksIn_eq
    have orders : ordersIn (.ordered (Verb.ofRole role) job.service reply ::
        .asked s.target.file .fileInterest (.ok f) :: last) =
        [(Verb.ofRole role, job.service)] := congrArg (_ :: ·) drops.ordersIn_eq
    rw [still.order_eq_some read]
    change Looks _ _ (asksIn (.asked s.target.file .fileInterest (.ok f) :: last))
      (ordersIn (.ordered (Verb.ofRole role) job.service reply ::
        .asked s.target.file .fileInterest (.ok f) :: last))
    rw [asks, orders]
    exact .read

theorem Awaits.counted (awaits : s.Awaits job ending talk) (bare : s.held.dir = none)
    (still : Still job opened talk) :
    Returns s.target (job.order (job.roleOf opened)) (asksIn talk) (ordersIn talk) := by
  cases awaits with
  | barred drops =>
    rw [asksIn_append, ordersIn_append, drops.asksIn_eq, drops.ordersIn_eq]
    exact .barred
  | granted drops promotes =>
    rw [asksIn_append, ordersIn_append, drops.asksIn_eq, drops.ordersIn_eq]
    exact .looked (promotes.counted (still_append.1 still).2.tail)
  | held drops there promotes => exact absurd bare there

theorem Refreshes.counted (refreshes : s.Refreshes job ending talk) (bare : s.held.dir = none)
    (still : Still job opened talk) :
    ordersIn talk = (job.order (job.roleOf opened)).toList := by
  cases refreshes with
  | read read =>
    rw [still.order_eq_some read]
    rfl
  | unread unread awaits =>
    -- The file was not read the first time, so it is not read the second time.
    have returns := awaits.counted bare still.tail
    rw [still.order_eq_none unread] at returns ⊢
    exact returns.orders_of_none

theorem Starts.counted (starts : s.Starts job ending talk) (bare : s.held.dir = none)
    (still : Still job opened talk) :
    Begins s.target (job.order (job.roleOf opened)) (asksIn talk) (ordersIn talk) := by
  cases starts with
  | watched read =>
    rw [still.order_eq_some read]
    exact .watched
  | unwatched read awaits =>
    have returns := awaits.counted bare still.tail.tail.tail
    rw [still.order_eq_some read] at returns ⊢
    exact .of_returns_some returns
  | unread unread awaits =>
    have returns := awaits.counted bare still.tail
    rw [still.order_eq_none unread] at returns ⊢
    exact .of_returns_none returns

theorem Rechecks.counted (rechecks : s.Rechecks job ending talk) (fitting : s.held.Fitting)
    (still : Still job opened talk) :
    ordersIn talk = (job.order (job.roleOf opened)).toList := by
  cases rechecks with
  | watching phase refreshes => exact refreshes.counted (fitting.bare phase) still
  | awaiting phase promotes => exact (promotes.counted still).orders_eq

def Counted (t : Target) (verdict : Verdict) (order : Option (Verb × String))
    (talk : List Exchange) : Prop :=
  (Calls t verdict talk → ordersIn talk = order.toList) ∧
    (¬ Calls t verdict talk → ordersIn talk = [])

theorem Acts.counted {batch : List Event}
    (acts : s.Acts job (Judgement.ofBatch s.held s.target.name batch).verdict ending talk)
    (fitting : s.held.Fitting) (still : Still job opened talk) :
    Counted s.target (Judgement.ofBatch s.held s.target.name batch).verdict
      (job.order (job.roleOf opened)) talk := by
  have phases (phase : s.held.phase = .awaiting) :=
    Judgement.verdict_awaiting phase s.target.name batch
  generalize (Judgement.ofBatch s.held s.target.name batch).verdict = verdict at acts phases
  have bare (within : verdict = .changed ∨ verdict = .fileGone) : s.held.dir = none := by
    cases phase : s.held.phase with
    | watching => exact fitting.bare phase
    | awaiting =>
      have others := phases phase
      rcases within with rfl | rfl
      · simp at others
      · simp at others
  unfold Counted Calls
  cases acts with
  | idle => exact ⟨by simp, fun _ => rfl⟩
  | directoryGone => exact ⟨by simp, fun _ => rfl⟩
  | appeared promotes => exact ⟨fun _ => (promotes.counted still).orders_eq, by simp⟩
  | fileGone awaits =>
    rcases (awaits.counted (bare (.inr rfl)) still).granted_cases with
      ⟨granted, once⟩ | ⟨refused, never⟩
    · exact ⟨fun _ => once, by simp [granted]⟩
    · exact ⟨by simp [refused], fun _ => never⟩
  | changed refreshes => exact ⟨fun _ => refreshes.counted (bare (.inl rfl)) still, by simp⟩

/-- A watch after any operations, whatever was answered and however each of them ended. -/
inductive Led (t : Target) : Sentry → Prop where
  | fresh : Led t (ofTarget t)
  | start {World : Type} (host : Host World) (job : Assignment) (w : World) :
      Led t ((ofTarget t).start host job w).1.2
  | attend {World : Type} {s : Sentry} (host : Host World) (job : Assignment) (w : World)
      (batch : List Event) (before : Led t s) : Led t (s.attend host job batch w).1.2
  | recheck {World : Type} {s : Sentry} (host : Host World) (job : Assignment) (w : World)
      (before : Led t s) : Led t (s.recheck host job w).1.2
  | release {World : Type} {s : Sentry} (host : Host World) (w : World) (before : Led t s) :
      Led t (s.release host w).1

theorem Led.fitting {t : Target} (led : Led t s) : s.target = t ∧ s.held.Fitting := by
  induction led with
  | fresh => exact ⟨rfl, rfl⟩
  | start host job w =>
    have done : After ((ofTarget t).start host job) w (Done (fun _ _ => True) True t) :=
      start_done (host.keeps_nothing t) trivial
    exact ⟨done.target, done.tidy.fitting⟩
  | @attend _ s host job w batch before ih =>
    obtain ⟨rfl, fitting⟩ := ih
    have done : After (s.attend host job batch) w (Done (fun _ _ => True) _ s.target) :=
      attend_done (host.keeps_nothing _) ⟨trivial, fitting⟩ batch
    exact ⟨done.target, done.tidy.fitting⟩
  | @recheck _ s host job w before ih =>
    obtain ⟨rfl, fitting⟩ := ih
    have done : After (s.recheck host job) w (Done (fun _ _ => True) _ s.target) :=
      recheck_done (host.keeps_nothing _) ⟨trivial, fitting⟩
    exact ⟨done.target, done.tidy.fitting⟩
  | @release _ s host w before ih =>
    obtain ⟨rfl, fitting⟩ := ih
    have tidy : s.Tidy (fun _ _ => True) w := ⟨trivial, fitting⟩
    have released : (s.release host w).1 = (s.withFile none).withDir none :=
      (release_done (host.keeps_nothing _) tidy).2
    rw [released]
    refine ⟨rfl, ?_⟩
    unfold Holding.Fitting
    split
    · rfl
    · rfl

end Sentry

open Sentry in
/-- While the file stays as it is, a batch gives the one order that it calls for exactly if it says
that the file was written or may be there, or that it is gone and the directory could be registered
then; a look gives it in any case; and a beginning gives it once or, if it has to go back to the
directory, twice. The last order makes no difference, and neither does how often it was given. -/
theorem ordered_as_called {World : Type} (host : Host World) (job : Assignment) {t : Target}
    {s : Sentry} (led : Led t s) (opened : Except IoError Source) (w : World) :
    ∃ order, job.CallsFor opened order ∧
    (∀ batch, ∃ talk, s.attend host.overheard job batch (w, []) =
        ((s.attend host job batch w).1, (s.attend host job batch w).2, talk) ∧
      (Still job opened talk →
        Counted t (Judgement.ofBatch s.held t.name batch).verdict order talk)) ∧
    (∃ talk, s.recheck host.overheard job (w, []) =
        ((s.recheck host job w).1, (s.recheck host job w).2, talk) ∧
      (Still job opened talk → ordersIn talk = order.toList)) ∧
    (s.held.dir = none → ∃ talk, s.start host.overheard job (w, []) =
        ((s.start host job w).1, (s.start host job w).2, talk) ∧
      (Still job opened talk → Begins t order (asksIn talk) (ordersIn talk))) ∧
    ∀ source, opened = .ok source → source.failure? = none → 1 ≤ job.lineLimit →
      order = if source.content = [] then none
        else some (job.verbOf source.content, job.service) := by
  obtain ⟨rfl, fitting⟩ := led.fitting
  refine ⟨_, job.callsFor_order opened, fun batch => ?_, ?_, fun bare => ?_, ?_⟩
  · obtain ⟨talk, heard, acts⟩ := s.attend_heard host job batch w
    exact ⟨talk, heard, acts.counted fitting⟩
  · obtain ⟨talk, heard, rechecks⟩ := s.recheck_heard host job w
    exact ⟨talk, heard, rechecks.counted fitting⟩
  · obtain ⟨talk, heard, starts⟩ := s.start_heard host job w
    exact ⟨talk, heard, starts.counted bare⟩
  · rintro source rfl whole room
    exact (job.callsFor_order (.ok source)).order_eq whole room

namespace Bench.Example

def watched : Sentry := ((Sentry.ofTarget target).start Scene.host job stage).1.2

def replaced : Scene :=
  let scene := ((Sentry.ofTarget target).start Scene.host job stage).2
  let gone := scene.notifier.apply (.delete target.file)
  { scene with notifier := gone.withTree (gone.tree.put target.file.parts (.file [0x73])) }

end Bench.Example

open Bench Example in
/-- A file that went away and came back is told of once, and obeyed once. The service is stopped,
though it was started for what the file held before. -/
theorem ordered_as_called_on_replacement :
    stage.notifier.tree.Holds target.file [0x6d] ∧ job.verbOf [0x6d] = .enable ∧
    ∃ talk, watched.attend Scene.host.overheard job replaced.notifier.pending (replaced, []) =
        ((watched.attend Scene.host job replaced.notifier.pending replaced).1,
          (watched.attend Scene.host job replaced.notifier.pending replaced).2, talk) ∧
      Granted target talk ∧ ordersIn talk = [(.disable, "s")] := by
  have led : Sentry.Led target watched := .start Scene.host job stage
  obtain ⟨order, -, attended, -, -, called⟩ :=
    ordered_as_called Scene.host job led (.ok [.data [0x73]]) replaced
  obtain rfl : order = some (.disable, "s") := called _ rfl rfl (by decide)
  obtain ⟨talk, heard, counted⟩ := attended replaced.notifier.pending
  have said :
      (watched.attend Scene.host.overheard job replaced.notifier.pending (replaced, [])).2.2 =
      [.ended ⟨1⟩ (.error (.worded .invalidInput "watch already dropped")),
        .asked target.dir .directoryInterest (.ok ⟨2⟩), .opened target.file (.ok [.data [0x73]]),
        .ordered .disable "s" (.ok ()), .asked target.file .fileInterest (.ok ⟨3⟩),
        .ended ⟨2⟩ (.ok ())] := rfl
  rw [heard] at said
  have said : talk = _ := said
  have still : Still job (.ok [.data [0x73]]) talk := by
    intro answer member
    obtain ⟨-, rfl⟩ : job.path = target.file ∧ answer = .ok [.data [0x73]] := by
      simpa [said] using member
    rfl
  have granted : Granted target talk := ⟨⟨2⟩, by simp [said]⟩
  exact ⟨⟨rfl, by decide⟩, by decide, talk, heard, granted,
    (counted still).1 (.inr (.inr ⟨rfl, granted⟩))⟩

end RoleWatch
