import RoleWatch.Proofs.Bench.Trial
import RoleWatch.Proofs.Relay.Hearing

/-!
Reports that wait while a registration begins. A report is matched with the registrations of the
moment it is read, not with those of the moment it came in, so what waits when a handle is issued may
be handed out under it.
-/
namespace RoleWatch.Relay

variable {World : Type} {w : Watcher World} {r : Relay}

def withInbox (r : Relay) (inbox : List (Except Trouble Report)) : Relay := { r with inbox }

theorem Orderly.withInbox (orderly : r.Orderly) (inbox : List (Except Trouble Report)) :
    (r.withInbox inbox).Orderly :=
  ⟨orderly.given, orderly.distinct⟩

def Delivery.handed (d : Delivery) : List Event :=
  match d.arrival with
  | .ok (.events batch) => batch
  | _ => []

def Delivery.under (d : Delivery) (h : Handle) : List Event :=
  d.handed.filter (·.handle = some h)

def Act.isRead : Act World → Bool
  | .read _ => true
  | _ => false

/-- A report says something to a registration about one of its paths. -/
def Report.Reaches (isThere : Path → Bool) (known : Registration) (report : Report) : Prop :=
  ∃ index path, report.paths[index]? = some path ∧
    ∃ e, report.event? isThere index path known = some e

theorem handed_read (isThere : Path → Bool) (r : Relay) :
    (r.read isThere).1.handed = r.inbox.flatMap (r.eventsOf isThere) := by
  cases waiting : r.inbox with
  | nil => cases closed : r.closed <;> simp [read, Delivery.handed, readNothing, waiting, closed]
  | cons first rest =>
    simp only [read, Delivery.handed, readAll, waiting, List.isEmpty_cons]
    cases (first :: rest).flatMap (r.eventsOf isThere) <;> rfl

/-- What waited before stays in front of what comes in, until it is read. -/
theorem Act.on_withInbox (act : Act World) (older : List (Except Trouble Report)) :
    act.on w (r.withInbox (older ++ r.inbox)) =
      (act.on w r).withInbox ((if act.isRead then [] else older) ++ (act.on w r).inbox) := by
  cases act with
  | told what =>
    cases closed : r.closed <;> simp [Act.on, receive, withInbox, Act.isRead, closed]
  | closed => rfl
  | add path interest world =>
    rcases addWatch_decided w path interest world with ⟨cause, refused⟩ | given
    · simp only [Act.on, refused]
      rfl
    · simp only [Act.on, given]
      rfl
  | remove handle world =>
    simp only [Act.on, removeWatch_forgets]
    rfl
  | read isThere => rfl

theorem course_withInbox (acts : List (Act World)) (older : List (Except Trouble Report)) :
    course w (r.withInbox (older ++ r.inbox)) acts = (course w r acts).withInbox
      ((if acts.any Act.isRead then [] else older) ++ (course w r acts).inbox) := by
  induction acts generalizing r older with
  | nil => rfl
  | cons act rest ih =>
    change course w (act.on w (r.withInbox (older ++ r.inbox))) rest = _
    rw [Act.on_withInbox, ih]
    cases drained : act.isRead <;> simp [course, drained]

theorem under_withInbox (isThere : Path → Bool) (r : Relay)
    (older : List (Except Trouble Report)) (h : Handle) :
    ((r.withInbox (older ++ r.inbox)).read isThere).1.under h =
      (older.flatMap (r.eventsOf isThere)).filter (·.handle = some h) ++
        (r.read isThere).1.under h := by
  simp only [Delivery.under, handed_read, ← List.filter_append, ← List.flatMap_append]
  rfl

/-- Nothing that waited is handed out under a handle just when the registration is not there, or
nothing reaches it. -/
theorem Orderly.under_eq_nil_iff (orderly : r.Orderly) {known : Registration}
    (sole : ∀ other ∈ r.registrations, other.handle = known.handle → other = known)
    (isThere : Path → Bool) (older : List (Except Trouble Report)) :
    (older.flatMap (r.eventsOf isThere)).filter (·.handle = some known.handle) = [] ↔
      (∀ other ∈ r.registrations, other.handle ≠ known.handle) ∨
        ∀ report, .ok report ∈ older → ¬ report.Reaches isThere known := by
  rw [List.filter_eq_nil_iff]
  constructor
  · intro silent
    refine or_iff_not_imp_left.2 fun there report queued reached => ?_
    push Not at there
    obtain ⟨other, member, same⟩ := there
    obtain rfl := sole other member same
    obtain ⟨index, path, place, e, said⟩ := reached
    obtain ⟨e, handed, owned, -⟩ := (orderly.handed_iff member fun _ => True).2
      ⟨report, queued, index, path, place, e, said, trivial⟩
    exact silent e handed (by simpa using owned)
  · intro quiet e handed owned
    obtain ⟨other, member, same, report, queued, index, path, place, said⟩ :=
      owner_of_handed handed (by simpa using owned)
    obtain rfl := sole other member same
    rcases quiet with gone | unreached
    · exact gone other member rfl
    · exact unreached report queued ⟨index, path, place, e, said⟩

/-- What a read hands out under a handle is only what came in after its issue, as if all that waited
then had been read before, just when it was read since, or the registration is gone again, or nothing
that waited reaches it. -/
theorem under_newer_iff (before between : List (Act World)) {p : Path} {interest : Mask}
    {world : World} {h : Handle} {r : Relay}
    (issued : ((course w empty before).addWatch w p interest world).1 = (.ok h, r))
    (isThere : Path → Bool) :
    ((course w r between).read isThere).1.under h =
        ((course w (r.withInbox []) between).read isThere).1.under h ↔
      between.any Act.isRead = true ∨
        (∀ known ∈ (course w r between).registrations, known.handle ≠ h) ∨
        ∀ report, .ok report ∈ (course w empty before).inbox →
          ¬ report.Reaches isThere ⟨h, p, interest⟩ := by
  have orderly : (course w empty before).Orderly := orderly_empty.course before
  generalize course w empty before = earlier at issued orderly
  rcases addWatch_decided w p interest world with ⟨cause, refused⟩ | given
  · simp [refused] at issued
  · obtain ⟨rfl, rfl⟩ : (⟨earlier.nextId⟩ : Handle) = h ∧ earlier.register p interest = r := by
      simpa [given] using issued
    let known : Registration := ⟨⟨earlier.nextId⟩, p, interest⟩
    let begun : Relay := (earlier.register p interest).withInbox []
    have late : course w (earlier.register p interest) between =
        (course w begun between).withInbox
          ((if between.any Act.isRead then [] else earlier.inbox) ++
            (course w begun between).inbox) := by
      rw [← course_withInbox between earlier.inbox]
      exact congrArg (course w · between) (by simp [begun, withInbox, register])
    have begins : begun.Orderly := (orderly.register p interest).withInbox []
    have sole : ∀ other ∈ (course w begun between).registrations,
        other.handle = known.handle → other = known := by
      intro other now same
      have given : other.handle.id < begun.nextId := by
        rw [same]
        exact Nat.lt_succ_self _
      exact begins.sole (List.mem_append_right _ (List.mem_singleton_self known))
        (registered_before now given) same
    have silent := (begins.course (w := w) between).under_eq_nil_iff sole isThere
    rw [late, under_withInbox, List.append_left_eq_self, silent]
    cases between.any Act.isRead <;> simp [withInbox, register, begun, known]

open Example Bench.Example

/-- The file is reported removed and its registration ends; then a file is there again and gets a
registration. A read in between, and it hears only what comes in later. -/
theorem under_newer_after_read : ∃ (before between : List (Act Unit)) (h : Handle) (r : Relay),
    ((course watcher empty before).addWatch watcher target.file .fileInterest ()).1 = (.ok h, r) ∧
      (course watcher empty before).inbox ≠ [] ∧
      ((course watcher r between).read fun _ => true).1.under h =
        ((course watcher (r.withInbox []) between).read fun _ => true).1.under h := by
  let before : List (Act Unit) := [.add target.file .fileInterest (),
    .told (.ok ⟨.remove, [target.file], false⟩), .remove ⟨1⟩ ()]
  let between : List (Act Unit) :=
    [.read fun _ => true, .told (.ok ⟨.content, [target.file], false⟩)]
  have issued : ((course watcher empty before).addWatch watcher target.file .fileInterest ()).1 =
      (.ok ⟨2⟩, (course watcher empty before).register target.file .fileInterest) := rfl
  exact ⟨before, between, ⟨2⟩, _, issued, by decide,
    (under_newer_iff before between issued fun _ => true).2 (.inl rfl)⟩

/-- Without that read, the new registration is told of the end of the old one's file, and the watch
takes its file for gone. -/
theorem older_report_handed_out : ∃ (before : List (Act Unit)) (h : Handle) (r : Relay),
    ((course watcher empty before).addWatch watcher target.file .fileInterest ()).1 = (.ok h, r) ∧
      (r.read fun _ => true).1.under h = [.onSelf h (.ofFlags [.deleteSelf])] ∧
      ((r.withInbox []).read fun _ => true).1.under h = [] ∧
      (Judgement.ofBatch ⟨.watching, none, some h⟩ target.name
        (r.read fun _ => true).1.handed).verdict = .fileGone := by
  let before : List (Act Unit) := [.add target.file .fileInterest (),
    .told (.ok ⟨.remove, [target.file], false⟩), .remove ⟨1⟩ ()]
  exact ⟨before, ⟨2⟩, (course watcher empty before).register target.file .fileInterest, rfl,
    by decide, by decide, by decide⟩

end RoleWatch.Relay
