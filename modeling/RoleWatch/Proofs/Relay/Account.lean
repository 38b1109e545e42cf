import RoleWatch.Proofs.Relay.Hearing

/-!
An account of all reads of a course. What the watcher told is found by one read each, in order, and
a read hands out what it finds, translated for the registrations of its own moment.
-/
namespace RoleWatch.Relay

variable {World : Type} {w : Watcher World} {r : Relay}

/-- A read, with the relay as it finds it. -/
structure Reading where
  found : Relay
  isThere : Path → Bool

def trouble? : Except Trouble Report → Option Trouble
  | .ok _ => none
  | .error trouble => some trouble

namespace Reading

def delivery (g : Reading) : Delivery := (g.found.read g.isThere).1

def reports (g : Reading) : List Report := g.found.inbox.filterMap Except.toOption

def troubles (g : Reading) : List Trouble := g.found.inbox.filterMap trouble?

/-- What the reports are to the registrations that the read finds. -/
def translation (g : Reading) : List Event :=
  g.reports.flatMap (·.events g.isThere g.found.registrations)

end Reading

def Act.reading? (r : Relay) : Act World → Option Reading
  | .read isThere => some ⟨r, isThere⟩
  | _ => none

def readings (w : Watcher World) (r : Relay) : List (Act World) → List Reading
  | [] => []
  | act :: rest => (act.reading? r).toList ++ readings w (act.on w r) rest

/-- What the watcher tells, until it is gone. -/
def arrivals : List (Act World) → List (Except Trouble Report)
  | [] => []
  | .told what :: rest => what :: arrivals rest
  | .closed :: _ => []
  | _ :: rest => arrivals rest

theorem readings_append (w : Watcher World) (r : Relay) (before after : List (Act World)) :
    readings w r (before ++ after) = readings w r before ++ readings w (course w r before) after := by
  induction before generalizing r with
  | nil => rfl
  | cons act rest ih =>
    rw [List.cons_append, readings, readings, ih, List.append_assoc]
    rfl

theorem mem_readings {acts : List (Act World)} {g : Reading} (among : g ∈ readings w r acts) :
    ∃ before after, acts = before ++ .read g.isThere :: after ∧ g.found = course w r before := by
  induction acts generalizing r with
  | nil => exact absurd among List.not_mem_nil
  | cons act rest ih =>
    rcases List.mem_append.1 among with now | later
    · cases act with
      | read isThere =>
        obtain rfl : g = ⟨r, isThere⟩ := by simpa [Act.reading?] using now
        exact ⟨[], rest, rfl, rfl⟩
      | told | closed | add | remove => simp [Act.reading?] at now
    · obtain ⟨before, after, rfl, found⟩ := ih later
      exact ⟨act :: before, after, rfl, found⟩

/-! The account. -/

theorem register_inbox (r : Relay) (p : Path) (interest : Mask) :
    (r.register p interest).inbox = r.inbox := rfl

theorem register_closed (r : Relay) (p : Path) (interest : Mask) :
    (r.register p interest).closed = r.closed := rfl

theorem Act.on_add (w : Watcher World) (r : Relay) (p : Path) (interest : Mask) (world : World) :
    ((Act.add p interest world).on w r).inbox = r.inbox ∧
      ((Act.add p interest world).on w r).closed = r.closed := by
  rcases addWatch_decided w p interest world with ⟨cause, refused⟩ | given
  · simp [Act.on, refused]
  · simp [Act.on, given, register_inbox, register_closed]

theorem Act.on_remove (w : Watcher World) (r : Relay) (h : Handle) (world : World) :
    ((Act.remove h world).on w r).inbox = r.inbox ∧
      ((Act.remove h world).on w r).closed = r.closed := by
  simp [Act.on, removeWatch_forgets]

/-- Whatever a relay had waiting and was told since was found by one of the reads or still waits. -/
theorem found_append_waiting (w : Watcher World) (r : Relay) (acts : List (Act World)) :
    (readings w r acts).flatMap (·.found.inbox) ++ (course w r acts).inbox =
      r.inbox ++ if r.closed then [] else arrivals acts := by
  induction acts generalizing r with
  | nil => simp [readings, course, arrivals]
  | cons act rest ih =>
    have later := ih (act.on w r)
    change _ ++ (course w (act.on w r) rest).inbox = _
    rw [readings, List.flatMap_append, List.append_assoc, later]
    cases act with
    | told what => cases closed : r.closed <;> simp [Act.reading?, Act.on, receive, arrivals, closed]
    | closed => simp [Act.reading?, Act.on, close, arrivals]
    | add p interest world =>
      obtain ⟨inbox, closed⟩ := Act.on_add w r p interest world
      rw [inbox, closed]
      rfl
    | remove h world =>
      obtain ⟨inbox, closed⟩ := Act.on_remove w r h world
      rw [inbox, closed]
      rfl
    | read isThere => simp [Act.reading?, Act.on, read, arrivals]

theorem flatMap_eventsOf (isThere : Path → Bool) (r : Relay)
    (told : List (Except Trouble Report)) : told.flatMap (r.eventsOf isThere) =
      (told.filterMap Except.toOption).flatMap (·.events isThere r.registrations) := by
  induction told with
  | nil => rfl
  | cons first rest ih =>
    cases first with
    | error trouble =>
      have skipped : (.error trouble :: rest : List (Except Trouble Report)).filterMap
          Except.toOption = rest.filterMap Except.toOption := rfl
      rw [List.flatMap_cons, ih, skipped]
      rfl
    | ok report =>
      have counted : (.ok report :: rest : List (Except Trouble Report)).filterMap
          Except.toOption = report :: rest.filterMap Except.toOption := rfl
      rw [List.flatMap_cons, ih, counted]
      rfl

/-- What a read answers, by what it finds. -/
structure Reading.Faithful (g : Reading) : Prop where
  batch : ∀ events, g.delivery.arrival = .ok (.events events) ↔
    g.translation = events ∧ events ≠ []
  interrupted : g.delivery.arrival = .ok .interrupted ↔ g.found.inbox ≠ [] ∧ g.translation = []
  timedOut : g.delivery.arrival = .ok .timedOut ↔ g.found.inbox = [] ∧ g.found.closed = false
  failed : (∃ cause, g.delivery.arrival = .error cause) ↔
    g.found.inbox = [] ∧ g.found.closed = true
  brokenPipe : ∀ cause, g.delivery.arrival = .error cause → cause.kind = .brokenPipe
  warnings : g.delivery.warnings =
    g.troubles.map fun trouble => ⟨.warn, s!"file watch error: {trouble.message}", []⟩

theorem Reading.warnings_eq (g : Reading) : g.delivery.warnings =
    g.troubles.map fun trouble => ⟨.warn, s!"file watch error: {trouble.message}", []⟩ := by
  rw [troubles, List.map_filterMap]
  refine List.filterMap_congr fun told _ => ?_
  cases told with
  | ok report => rfl
  | error trouble => rfl

theorem Reading.arrival_of_waiting {g : Reading} (waiting : g.found.inbox ≠ []) :
    g.delivery.arrival =
      .ok (if g.translation = [] then .interrupted else .events g.translation) := by
  have translated : g.found.inbox.flatMap (g.found.eventsOf g.isThere) = g.translation :=
    flatMap_eventsOf g.isThere g.found g.found.inbox
  have occupied : g.found.inbox.isEmpty = false := by simpa using waiting
  simp only [delivery, read, occupied, readAll, translated]
  cases g.translation <;> rfl

theorem Reading.arrival_of_nothing {g : Reading} (nothing : g.found.inbox = []) :
    g.delivery.arrival = g.found.readNothing := by
  simp [delivery, read, nothing]

theorem Reading.faithful (g : Reading) : g.Faithful := by
  by_cases nothing : g.found.inbox = []
  · have silent : g.translation = [] := by simp [translation, reports, nothing]
    have arrival := arrival_of_nothing nothing
    unfold readNothing at arrival
    cases closed : g.found.closed <;> rw [closed] at arrival <;>
      refine ⟨?_, ?_, ?_, ?_, ?_, g.warnings_eq⟩ <;> simp_all [IoError.kind]
  · have arrival := arrival_of_waiting nothing
    by_cases unheard : g.translation = [] <;> simp only [unheard, if_true, if_false] at arrival <;>
      refine ⟨?_, ?_, ?_, ?_, ?_, g.warnings_eq⟩ <;> simp_all

/-- What is handed out under a handle is for a registration that the read finds. -/
theorem Reading.owner {g : Reading} {batch : List Event}
    (handed : g.delivery.arrival = .ok (.events batch)) {e : Event} (member : e ∈ batch)
    {h : Handle} (owned : e.handle = some h) : ∃ known ∈ g.found.registrations, known.handle = h := by
  obtain ⟨rfl, -⟩ := (g.faithful.batch batch).1 handed
  have said : e ∈ g.found.inbox.flatMap (g.found.eventsOf g.isThere) := by
    rw [flatMap_eventsOf]
    exact member
  obtain ⟨known, registered, same, -⟩ := owner_of_handed said owned
  exact ⟨known, registered, same⟩

structure Accounted (w : Watcher World) (acts : List (Act World)) : Prop where
  once : (readings w empty acts).flatMap (·.found.inbox) ++ (course w empty acts).inbox =
    arrivals acts
  moment : ∀ before isThere after, acts = before ++ .read isThere :: after →
    readings w empty acts = readings w empty before ++ ⟨course w empty before, isThere⟩ ::
      readings w (course w empty (before ++ [.read isThere])) after
  faithful : ∀ g ∈ readings w empty acts, g.Faithful
  ended : ∀ before h world after, acts = before ++ .remove h world :: after →
    h ∈ issued w empty before → ∀ g ∈ readings w (course w empty before) (.remove h world :: after),
      ∀ batch, g.delivery.arrival = .ok (.events batch) → ∀ e ∈ batch, e.handle ≠ some h

/-- In every course a report is translated once, by the first read that finds it, for the registrations
of that moment; troubles are passed over, a batch is never empty, and nothing is handed out any more
under a handle that was ended. -/
theorem told_is_read_once (w : Watcher World) (acts : List (Act World)) : Accounted w acts := by
  constructor
  case once => simpa [empty] using found_append_waiting w empty acts
  case moment =>
    rintro before isThere after rfl
    rw [readings_append, readings, course_append]
    rfl
  case faithful => exact fun g _ => g.faithful
  case ended =>
    rintro before h world after - given g among batch handed e member owned
    obtain ⟨known, registered, same⟩ := g.owner handed member owned
    obtain ⟨earlier, later, split, found⟩ := mem_readings among
    -- The read comes after the end, for the two are different acts.
    obtain ⟨between, rfl⟩ : ∃ between, earlier = .remove h world :: between := by
      cases earlier with
      | nil => simp at split
      | cons first between => exact ⟨between, by simp_all⟩
    have orderly := orderly_empty.course (w := w) before
    rw [found] at registered
    exact orderly.ended (lt_nextId_of_issued given) world between registered same

end RoleWatch.Relay
