import Mathlib.Data.List.Induction
import RoleWatch.Proofs.Bench.Responses
import RoleWatch.Proofs.Bench.Script
import RoleWatch.Proofs.Bench.Telling

/-!
The books of a scripted source of events, over every course from the beginning: the handles it
issued, the registrations there are and those that were dropped, how many there were at most, what
was queued and told, and which read returned it.
-/
namespace RoleWatch.Bench.Notifier

variable {n : Notifier} {turn : Turn} {h : Handle}

/-! What is queued, told and returned in a turn, beside what is set up for reads. -/

/-- What is queued in a turn, from whatever source. -/
def Turn.queued (script : List Cue) (n : Notifier) (turn : Turn) : List Event :=
  n.queued (turn.acts script)

/-- What is told in a turn by activity on the files. -/
def Turn.told (script : List Cue) (n : Notifier) (turn : Turn) : List Event :=
  n.told (turn.acts script)

/-- The events in what a read returns. -/
def batchOf : Option (Except IoError Arrival) → List Event
  | some (.ok (.events batch)) => batch
  | _ => []

/-- The batch that a turn returns. -/
def Turn.returned (n : Notifier) : Turn → List Event
  | .read => batchOf n.read.1
  | _ => []

/-- A read that is not set up to be interrupted or to fail. -/
def Turn.Delivers (script : List Cue) : Turn → Prop
  | .read => script.head? ≠ some .interrupt ∧ ∀ kind, script.head? ≠ some (.fail kind)
  | _ => False

def Turn.issued (n : Notifier) : Turn → Option Handle
  | .addWatch p interest => (n.addWatch p interest).1.toOption
  | _ => none

/-- What a turn does to the registrations and to those dropped. -/
inductive Turn.Way (n : Notifier) : Turn → Prop where
  | asks {p : Path} {interest : Mask} : Way n (.addWatch p interest)
  | ends {h : Handle} : Way n (.removeWatch h)
  | acts {turn : Turn} (undisturbed : Undisturbed n (turn.on n))
      (dropped : (turn.on n).dropped = (n.applyAll (turn.acts n.cues)).dropped) : Way n turn

theorem Turn.way (n : Notifier) (turn : Turn) : turn.Way n := by
  cases turn with
  | addWatch => exact .asks
  | removeWatch => exact .ends
  | activity what => exact .acts (n.apply_undisturbed what) rfl
  | read =>
    refine .acts n.read_undisturbed ?_
    have went := n.read_reads
    unfold on
    generalize n.read = out at went
    cases went with
    | plain script | acted script | interrupted script | failed script =>
      simp only [acts, script, applyAll_withScript]
      rfl

/-! What each turn keeps in order. -/

def counter : Counter Notifier Turn where
  on := Turn.on
  next := nextId
  issues := Turn.issued
  counts n turn := by
    cases turn with
    | addWatch p interest =>
      have came := n.addWatch_registers p interest
      dsimp only [Turn.on, Turn.issued]
      generalize n.addWatch p interest = out at came
      cases came with
      | refused | missing => exact .inl ⟨rfl, rfl⟩
      | granted => exact .inr ⟨rfl, rfl⟩
    | removeWatch h => exact .inl ⟨rfl, n.removeWatch_nextId h⟩
    | activity what => exact .inl ⟨rfl, (n.apply_undisturbed what).nextId⟩
    | read => exact .inl ⟨rfl, n.read_undisturbed.nextId⟩

/-- The handles are given by counting, whoever was dropped is still among the registrations, and
the most there were is no less than there are. -/
structure Kept (n : Notifier) : Prop where
  numbered : n.Numbered
  listed : n.Listed
  within : n.active.length ≤ n.maxActive

theorem kept_ofTree (tree : Tree) : (ofTree tree).Kept where
  numbered := Handle.Numbered.nil 1
  listed _ gone := absurd gone List.not_mem_nil
  within := Nat.le_refl 0

namespace Kept

theorem listed_on (kept : n.Kept) (turn : Turn) : (turn.on n).Listed := by
  cases turn.way n with
  | @asks p interest =>
    intro h gone
    have same := (n.addWatch_registers p interest).beside.dropped
    obtain ⟨r, active, own⟩ := kept.listed h (same ▸ gone)
    refine ⟨r, ?_, own⟩
    rw [Turn.on, addWatch_active]
    exact List.mem_append_left _ active
  | @ends k =>
    intro h gone
    obtain ⟨before, other⟩ := (mem_dropped_removeWatch kept.listed).1 gone
    obtain ⟨r, active, rfl⟩ := kept.listed h before
    exact ⟨r, (mem_active_removeWatch kept.numbered).2 ⟨active, other⟩, rfl⟩
  | acts undisturbed dropped =>
    intro h gone
    rw [undisturbed.active]
    exact ((applyAll_told kept.numbered _).listed h (dropped ▸ gone)).elim (kept.listed h) id

theorem maxActive_on (kept : n.Kept) (turn : Turn) :
    (turn.on n).maxActive = max n.maxActive (turn.on n).active.length := by
  have within := kept.within
  cases turn.way n with
  | @asks p interest =>
    have came := n.addWatch_registers p interest
    dsimp only [Turn.on]
    generalize n.addWatch p interest = out at came
    cases came with
    | refused | missing => exact (Nat.max_eq_left within).symm
    | granted => simp
  | @ends k =>
    have fewer : (n.removeWatch k).2.active.length ≤ n.active.length := by
      rw [removeWatch_active]
      exact List.eraseP_sublist.length_le
    rw [Turn.on, (n.removeWatch_releases k).maxActive]
    omega
  | acts undisturbed =>
    rw [undisturbed.maxActive, undisturbed.active]
    omega

theorem on (kept : n.Kept) (turn : Turn) : (turn.on n).Kept where
  numbered := kept.numbered.on turn
  listed := kept.listed_on turn
  within := kept.maxActive_on turn ▸ Nat.le_max_right ..

theorem course (kept : n.Kept) (turns : List Turn) : (n.course turns).Kept := by
  induction turns generalizing n with
  | nil => exact kept
  | cons turn rest ih => exact ih (kept.on turn)

end Kept

/-! The queue: what is queued in a turn, and what is returned. -/

@[simp] theorem batchOf_handOut (n : Notifier) : batchOf n.handOut.1 = n.pending := by
  unfold handOut
  split
  · exact (‹n.pending = []›).symm
  · rfl

@[simp] theorem handOut_pending (n : Notifier) : n.handOut.2.pending = [] := rfl

/-- What waited and what is queued in a turn is returned in it, or waits. -/
theorem Turn.balance (numbered : n.Numbered) (turn : Turn) :
    n.pending ++ turn.queued n.cues n = turn.returned n ++ (turn.on n).pending := by
  have all := applyAll_pending numbered (turn.acts n.cues)
  rw [queued, ← all]
  cases turn with
  | addWatch p interest => exact (n.addWatch_registers p interest).beside.pending.symm
  | removeWatch k => exact (n.removeWatch_pending k).symm
  | activity what => rfl
  | read =>
    have went := n.read_reads
    unfold returned on
    generalize n.read = out at went
    cases went with
    | interrupted script | failed script => simp [acts, script, batchOf, applyAll]
    | plain script => simp [acts, script, applyAll]
    | acted script => simp [acts, script, applyAll_withScript]

theorem Turn.pending_of_delivers (delivers : turn.Delivers n.cues) : (turn.on n).pending = [] := by
  cases turn with
  | read =>
    have went := n.read_reads
    unfold on
    generalize n.read = out at went
    cases went with
    | interrupted script | failed script => simp [Delivers, script] at delivers
    | plain | acted => rfl
  | _ => exact delivers.elim

theorem Turn.returned_of_not_delivers (withheld : ¬ turn.Delivers n.cues) :
    turn.returned n = [] := by
  cases turn with
  | read =>
    have went := n.read_reads
    unfold returned
    generalize n.read = out at went
    cases went with
    | interrupted | failed => rfl
    | plain script | acted script => simp [Delivers, script] at withheld
  | _ => rfl

theorem read_of_interrupted {rest : List Cue} (script : n.cues = .interrupt :: rest) :
    n.read.1 = some (.ok .interrupted) := by
  have went := n.read_reads
  generalize n.read = out at went
  cases went with
  | interrupted => rfl
  | plain other | acted other | failed other => simp [script] at other

theorem read_of_failed {kind : IoError.Kind} {rest : List Cue}
    (script : n.cues = .fail kind :: rest) : n.read.1 = some (.error (.bare kind)) := by
  have went := n.read_reads
  generalize n.read = out at went
  cases went with
  | failed other =>
    obtain ⟨same, -⟩ := List.cons.inj (script.symm.trans other)
    cases same
    rfl
  | plain other | acted other | interrupted other => simp [script] at other

/-! Who is told, and who has heard the last. -/

/-- A handle that was issued, and no registration hears under it any more. -/
def Spent (n : Notifier) (h : Handle) : Prop :=
  h.id < n.nextId ∧ ∀ r ∈ n.active, r.handle = h → h ∈ n.dropped

theorem Kept.spent_of_dropped (kept : n.Kept) (gone : h ∈ n.dropped) : n.Spent h := by
  obtain ⟨r, active, rfl⟩ := kept.listed h gone
  exact ⟨kept.numbered.given _ (List.mem_map_of_mem active), fun _ _ _ => gone⟩

theorem Addressed.not_spent {e : Event} (addressed : n.Addressed e) (spent : n.Spent h) :
    e.handle ≠ some h := by
  intro same
  obtain ⟨r, active, live, own, -⟩ := addressed
  obtain rfl : r.handle = h := Option.some.inj (own.symm.trans same)
  exact live (spent.2 r active rfl)

theorem Spent.on (spent : n.Spent h) (kept : n.Kept) (turn : Turn) : (turn.on n).Spent h := by
  refine ⟨Nat.lt_of_lt_of_le spent.1 (counter.next_le n turn), ?_⟩
  intro r active own
  cases turn.way n with
  | @asks p interest =>
    have came := n.addWatch_registers p interest
    dsimp only [Turn.on] at active ⊢
    generalize n.addWatch p interest = out at came active
    cases came with
    | refused | missing => exact spent.2 r active own
    | granted =>
      rcases List.mem_append.1 active with before | new
      · exact spent.2 r before own
      · -- The new registration has the next number, and the handle an earlier one.
        obtain rfl := List.mem_singleton.1 new
        subst own
        exact absurd spent.1 (Nat.lt_irrefl _)
  | ends =>
    obtain ⟨before, other⟩ := (mem_active_removeWatch kept.numbered).1 active
    exact (mem_dropped_removeWatch kept.listed).2 ⟨spent.2 r before own, own ▸ other⟩
  | acts undisturbed dropped =>
    have stay := (applyAll_told kept.numbered (turn.acts n.cues)).stay
    exact dropped ▸ stay (spent.2 r (undisturbed.active ▸ active) own)

theorem Turn.told_telling (kept : n.Kept) (turn : Turn) :
    (∀ e ∈ turn.told n.cues n, n.Addressed e) ∧ (turn.told n.cues n).Pairwise Final ∧
      ∀ e ∈ turn.told n.cues n, e.mask.has .ignored = true →
        ∃ h ∈ (turn.on n).dropped, e.handle = some h := by
  cases turn.way n with
  | asks | ends => exact ⟨nofun, .nil, nofun⟩
  | acts undisturbed dropped =>
    have told := applyAll_told kept.numbered (turn.acts n.cues)
    exact ⟨told.addressed, told.final, dropped ▸ told.ended⟩

/-! Over a course. -/

/-- What the turns of a course come to, one after another. -/
def through (each : List Cue → Notifier → Turn → List Event) (script : List Cue) (n : Notifier) :
    List Turn → List Event
  | [] => []
  | turn :: rest => each script n turn ++ through each (turn.leaves script) (turn.on n) rest

theorem through_cons (each : List Cue → Notifier → Turn → List Event) (n : Notifier) (turn : Turn)
    (rest : List Turn) : through each n.cues n (turn :: rest) =
      each n.cues n turn ++ through each (turn.on n).cues (turn.on n) rest := by
  rw [through, turn.cues_on]

theorem course_concat (n : Notifier) (turns : List Turn) (turn : Turn) :
    course n (turns ++ [turn]) = turn.on (course n turns) := by
  simp [course]

theorem Spent.untold (spent : n.Spent h) (kept : n.Kept) (turns : List Turn) :
    ∀ e ∈ through Turn.told n.cues n turns, e.handle ≠ some h := by
  induction turns generalizing n with
  | nil => nofun
  | cons turn rest ih =>
    rw [through_cons]
    intro e told
    rcases List.mem_append.1 told with now | later
    · exact ((turn.told_telling kept).1 e now).not_spent spent
    · exact ih (spent.on kept turn) (kept.on turn) e later

theorem Kept.told_final (kept : n.Kept) (turns : List Turn) :
    (through Turn.told n.cues n turns).Pairwise Final := by
  induction turns generalizing n with
  | nil => exact .nil
  | cons turn rest ih =>
    obtain ⟨-, final, ended⟩ := turn.told_telling kept
    rw [through_cons]
    refine List.pairwise_append.2 ⟨final, ih (kept.on turn), ?_⟩
    -- Whoever has had the last word is dropped, and so is told nothing in the turns to come.
    intro e now later after said
    obtain ⟨h, gone, own⟩ := ended e now said
    exact own ▸ ((kept.on turn).spent_of_dropped gone).untold (kept.on turn) rest later after

theorem Kept.through_balance (kept : n.Kept) (turns : List Turn) :
    n.pending ++ through Turn.queued n.cues n turns =
      through (fun _ => Turn.returned) n.cues n turns ++ (n.course turns).pending := by
  induction turns generalizing n with
  | nil => exact List.append_nil _
  | cons turn rest ih =>
    rw [through_cons, through_cons]
    calc n.pending ++ (turn.queued n.cues n ++ through Turn.queued (turn.on n).cues (turn.on n) rest)
        = turn.returned n ++
            ((turn.on n).pending ++ through Turn.queued (turn.on n).cues (turn.on n) rest) := by
          rw [← List.append_assoc, turn.balance kept.numbered, List.append_assoc]
      _ = turn.returned n ++ through (fun _ => Turn.returned) (turn.on n).cues (turn.on n) rest ++
            (n.course (turn :: rest)).pending := by
          rw [ih (kept.on turn), ← List.append_assoc]
          rfl

/-- The most registrations there were is how many there were at some moment, and never fewer. -/
theorem most_registered (tree : Tree) (turns : List Turn) :
    (∀ before, before <+: turns →
      (course (ofTree tree) before).active.length ≤ (course (ofTree tree) turns).maxActive) ∧
    ∃ before, before <+: turns ∧
      (course (ofTree tree) before).active.length = (course (ofTree tree) turns).maxActive := by
  induction turns using List.reverseRecOn with
  | nil =>
    refine ⟨fun before up => ?_, [], List.nil_prefix, rfl⟩
    obtain rfl := List.prefix_nil.1 up
    exact Nat.le_refl 0
  | append_singleton turns turn ih =>
    obtain ⟨at_most, before, up, reached⟩ := ih
    have step := ((kept_ofTree tree).course turns).maxActive_on turn
    rw [← course_concat] at step
    constructor
    · intro before up
      rcases List.prefix_concat_iff.1 up with rfl | up
      · omega
      · have within := at_most before up
        omega
    · -- The number goes up only to how many there are now.
      rcases Nat.le_total (course (ofTree tree) turns).maxActive
        (course (ofTree tree) (turns ++ [turn])).active.length with grown | not_grown
      · exact ⟨_, List.prefix_rfl, by omega⟩
      · exact ⟨before, List.prefix_concat_iff.2 (.inr up), by omega⟩

/-- Everything that is queued in some turns from the beginning, in order. -/
def queuedIn (tree : Tree) (turns : List Turn) : List Event :=
  through Turn.queued [] (ofTree tree) turns

def toldIn (tree : Tree) (turns : List Turn) : List Event :=
  through Turn.told [] (ofTree tree) turns

/-- Everything that reads return in them. -/
def returnedIn (tree : Tree) (turns : List Turn) : List Event :=
  through (fun _ => Turn.returned) [] (ofTree tree) turns

/-- The books of a source after some turns from the beginning. Which reads are interrupted or fail
is told by the turns in which that was set up. -/
structure InOrder (tree : Tree) (turns : List Turn) (n : Notifier) : Prop where
  issued : (counter.issued (ofTree tree) turns).Pairwise (·.id < ·.id)
  distinct : (n.active.map Registration.handle).Nodup
  listed : ∀ h ∈ n.dropped, ∃ r ∈ n.active, r.handle = h
  most : (∀ before, before <+: turns → (course (ofTree tree) before).active.length ≤ n.maxActive) ∧
    ∃ before, before <+: turns ∧ (course (ofTree tree) before).active.length = n.maxActive
  /-- Whatever comes next, activity on the files tells those who are there. -/
  told : ∀ turn : Turn, ∀ e ∈ turn.told (scripted turns) n, n.Addressed e
  last : (toldIn tree turns).Pairwise Final
  once : queuedIn tree turns = returnedIn tree turns ++ n.pending
  delivered : ∀ turn : Turn, turn.Delivers (scripted turns) →
    returnedIn tree (turns ++ [turn]) = queuedIn tree (turns ++ [turn])
  withheld : ∀ turn : Turn, ¬ turn.Delivers (scripted turns) → turn.returned n = []
  interrupted : ∀ rest, scripted turns = .interrupt :: rest → n.read.1 = some (.ok .interrupted)
  failed : ∀ kind rest, scripted turns = .fail kind :: rest → n.read.1 = some (.error (.bare kind))
  refused : ∀ p interest cause, (n.addWatch p interest).1 = .error cause →
    n.Refused p interest cause (n.addWatch p interest).2

/-- The books of a scripted source are in order after any turns whatever. -/
theorem books_in_order (tree : Tree) (turns : List Turn) :
    InOrder tree turns (course (ofTree tree) turns) := by
  have kept := (kept_ofTree tree).course turns
  have script := cues_course tree turns
  constructor
  case issued => exact counter.issued_increasing _ turns
  case distinct => exact kept.numbered.distinct
  case listed => exact kept.listed
  case most => exact most_registered tree turns
  case told =>
    intro turn
    rw [← script]
    exact (turn.told_telling kept).1
  case last => exact (kept_ofTree tree).told_final turns
  case once => exact (kept_ofTree tree).through_balance turns
  case delivered =>
    intro turn delivers
    rw [← script] at delivers
    have both : queuedIn tree (turns ++ [turn]) = returnedIn tree (turns ++ [turn]) ++ _ :=
      (kept_ofTree tree).through_balance (turns ++ [turn])
    rw [course_concat, Turn.pending_of_delivers delivers, List.append_nil] at both
    exact both.symm
  case withheld =>
    intro turn withheld
    rw [← script] at withheld
    exact Turn.returned_of_not_delivers withheld
  case interrupted => exact fun rest set => read_of_interrupted (script.trans set)
  case failed => exact fun kind rest set => read_of_failed (script.trans set)
  case refused => exact fun p interest cause => addWatch_refused

/-- A watched file goes just as a read begins, and the next read is interrupted. The first tells the
file's watch that it is gone and the last word, and its directory's watch does not ask for
deletions. -/
example :
    let turns : List Turn := [.addWatch Example.target.dir .directoryInterest,
      .addWatch Example.target.file .fileInterest,
      .activity (.later (.act [.write Example.target.file [0x6d], .delete Example.target.file])),
      .activity (.later .interrupt), .read]
    let n := course (ofTree Example.stage.notifier.tree) turns
    returnedIn Example.stage.notifier.tree turns = [.onSelf ⟨2⟩ (.ofFlags [.modify]),
      .onSelf ⟨2⟩ (.ofFlags [.deleteSelf]), .onSelf ⟨2⟩ (.ofFlags [.ignored])] ∧
      n.dropped = [⟨2⟩] ∧ ¬ Turn.read.Delivers (scripted turns) := by
  have (turns : List Turn) (interrupted : (scripted turns).head? = some .interrupt) :
      ¬ Turn.read.Delivers (scripted turns) := fun delivers => delivers.1 interrupted
  exact ⟨by decide +kernel, by decide +kernel, this _ rfl⟩

end RoleWatch.Bench.Notifier
