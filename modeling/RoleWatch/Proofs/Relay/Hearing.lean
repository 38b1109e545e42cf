import RoleWatch.Proofs.Path.Parent
import RoleWatch.Proofs.Relay.Course
import RoleWatch.Relay.Attribution
import RoleWatch.Watch.Judgement

/-!
What registrations hear of reports: for which of its paths a report says something to which of them,
under which name, and what of it is handed out under a handle.
-/
namespace RoleWatch

@[simp] theorem Mask.empty_meets (m : Mask) : (∅ : Mask).meets m = false := by
  refine Bool.eq_false_iff.2 fun met => ?_
  obtain ⟨f, has, -⟩ := meets_iff.1 met
  simp at has

theorem Registration.has_hears (r : Registration) (mask : Mask) (f : Flag) :
    (r.hears mask).has f = (mask.has f && (r.interest ∪ Mask.unsolicited).has f) :=
  Mask.has_inter mask _ f

theorem Registration.hears_meets {r : Registration} {asked : Mask}
    (within : ∀ f, asked.has f = true → (r.interest ∪ Mask.unsolicited).has f = true)
    (mask : Mask) : (r.hears mask).meets asked = mask.meets asked := by
  rw [Bool.eq_iff_iff, Mask.meets_iff, Mask.meets_iff]
  constructor
  · rintro ⟨f, has, counts⟩
    rw [has_hears, Bool.and_eq_true] at has
    exact ⟨f, has.1, counts⟩
  · rintro ⟨f, has, counts⟩
    exact ⟨f, by rw [has_hears, has, within f counts, Bool.true_and], counts⟩

namespace Relay

/-- Only a report that asks for a rescan says that something was lost. -/
theorem Happening.not_overflow (bearing : Bearing) (index : Nat) (isThere : Bool)
    (happening : Happening) :
    (happening.mask bearing index isThere).has .overflow = false := by
  have movedOut : bearing.movedOut.has .overflow = false := by
    cases bearing <;> simp [Bearing.movedOut]
  cases happening with
  | rename way =>
    cases way with
    | source | target => simp [Happening.mask, Way.mask, movedOut]
    | both | unknown | other => simp only [Happening.mask, Way.mask]; split <;> simp [movedOut]
  | remove => cases bearing <;> simp [Happening.mask, Bearing.removed]
  | create | content | modify | modifyOther | unknown | other | access => simp [Happening.mask]
  | _ which => cases which <;> simp [Happening.mask]

section Attribution

variable {isThere : Path → Bool} {report : Report} {index : Nat} {path : Path}
  {known : Registration} {e : Event} {r : Relay} {told : List (Except Trouble Report)}

theorem Report.event?_eq_some_iff : report.event? isThere index path known = some e ↔
    ∃ bearing, Bearing.of? known.path path = some bearing ∧
      known.hears (report.happening.mask bearing index (isThere path)) ≠ ∅ ∧
      e = ⟨some known.handle, known.hears (report.happening.mask bearing index (isThere path)),
        bearing.name⟩ := by
  unfold Report.event?
  cases bears : Bearing.of? known.path path with
  | none => simp
  | some bearing =>
    simp only [bind, Option.bind, Option.some.injEq, exists_eq_left']
    split
    · simp_all
    · simp_all [eq_comm]

theorem Report.mem_events_iff {registrations : List Registration} :
    e ∈ report.events isThere registrations ↔ (report.rescan = true ∧ e = Event.lost) ∨
      ∃ index path, report.paths[index]? = some path ∧
        ∃ known ∈ registrations, report.event? isThere index path known = some e := by
  have lost : e ∈ (if report.rescan then [Event.lost] else []) ↔
      report.rescan = true ∧ e = Event.lost := by
    cases report.rescan <;> simp
  simp only [Report.events, List.mem_append, lost, List.mem_flatMap, List.mem_filterMap]
  constructor
  · rintro (lost | ⟨⟨path, index⟩, place, said⟩)
    · exact .inl lost
    · exact .inr ⟨index, path, List.mem_zipIdx_iff_getElem?.1 place, said⟩
  · rintro (lost | ⟨index, path, place, said⟩)
    · exact .inl lost
    · exact .inr ⟨(path, index), List.mem_zipIdx_iff_getElem?.2 place, said⟩

theorem mem_eventsOf_iff : e ∈ told.flatMap (r.eventsOf isThere) ↔
    ∃ report, .ok report ∈ told ∧ e ∈ report.events isThere r.registrations := by
  rw [List.mem_flatMap]
  constructor
  · rintro ⟨trouble | report, queued, said⟩
    · exact absurd said List.not_mem_nil
    · exact ⟨report, queued, said⟩
  · rintro ⟨report, queued, said⟩
    exact ⟨.ok report, queued, said⟩

theorem owner_of_handed {h : Handle} (handed : e ∈ told.flatMap (r.eventsOf isThere))
    (owned : e.handle = some h) : ∃ known ∈ r.registrations, known.handle = h ∧
      ∃ report, .ok report ∈ told ∧ ∃ index path, report.paths[index]? = some path ∧
        report.event? isThere index path known = some e := by
  obtain ⟨report, queued, said⟩ := mem_eventsOf_iff.1 handed
  obtain ⟨-, rfl⟩ | ⟨index, path, place, known, found, said⟩ := Report.mem_events_iff.1 said
  · simp [Event.lost] at owned
  · obtain ⟨bearing, -, -, shape⟩ := Report.event?_eq_some_iff.1 said
    have same : known.handle = h := by simpa [shape] using owned
    exact ⟨known, found, same, report, queued, index, path, place, said⟩

/-- What is handed out under the handle of a registration is what the reports say to it. -/
theorem Orderly.handed_iff (orderly : r.Orderly) (member : known ∈ r.registrations)
    (counts : Event → Prop) :
    (∃ e ∈ told.flatMap (r.eventsOf isThere), e.handle = some known.handle ∧ counts e) ↔
      ∃ report, .ok report ∈ told ∧ ∃ index path, report.paths[index]? = some path ∧
        ∃ e, report.event? isThere index path known = some e ∧ counts e := by
  constructor
  · rintro ⟨e, handed, owned, counts⟩
    obtain ⟨other, found, same, report, queued, index, path, place, said⟩ :=
      owner_of_handed handed owned
    obtain rfl := orderly.sole member found same
    exact ⟨report, queued, index, path, place, e, said, counts⟩
  · rintro ⟨report, queued, index, path, place, e, said, counts⟩
    obtain ⟨bearing, -, -, shape⟩ := Report.event?_eq_some_iff.1 said
    have handed := Report.mem_events_iff.2 (.inr ⟨index, path, place, known, member, said⟩)
    exact ⟨e, mem_eventsOf_iff.2 ⟨report, queued, handed⟩, by rw [shape], counts⟩

theorem sawOverflow_iff : Judgement.sawOverflow (told.flatMap (r.eventsOf isThere)) = true ↔
    ∃ report, .ok report ∈ told ∧ report.rescan = true := by
  simp only [Judgement.sawOverflow, List.any_eq_true, mem_eventsOf_iff]
  constructor
  · rintro ⟨e, ⟨report, queued, said⟩, lost⟩
    obtain ⟨rescan, -⟩ | ⟨index, path, place, known, -, said⟩ := Report.mem_events_iff.1 said
    · exact ⟨report, queued, rescan⟩
    · obtain ⟨bearing, -, -, rfl⟩ := Report.event?_eq_some_iff.1 said
      simp [Registration.has_hears, Happening.not_overflow] at lost
  · rintro ⟨report, queued, rescan⟩
    have said : Event.lost ∈ report.events isThere r.registrations :=
      Report.mem_events_iff.2 (.inl ⟨rescan, rfl⟩)
    exact ⟨Event.lost, ⟨report, queued, said⟩, by simp [Event.lost, Mask.overflow]⟩

end Attribution

section Bearings

variable {isThere : Path → Bool} {report : Report} {index : Nat} {path : Path}
  {known : Registration}

/-- A path that ends in a name is the registered one, or one name below it, or of no concern. -/
theorem Bearing.of?_of_fileName? {registered : Path} {name : Bytes}
    (named : path.fileName? = some name) : Bearing.of? registered path =
      if path.parts = registered.parts then some .self
      else if path.parts = registered.parts ++ [.name name] then some (.child (some name))
      else none := by
  obtain ⟨above, parent, parts⟩ := Path.parts_of_fileName? named
  have below : above.same registered = true ↔ path.parts = registered.parts ++ [.name name] := by
    rw [Path.same_iff, parts, List.append_cancel_right_eq]
  simp only [Bearing.of?, parent, named, Path.same_iff, Option.map_some, Option.getD_some, below]

theorem Report.event?_bears {bearing : Bearing} {name : Bytes} (named : path.fileName? = some name)
    (proper : bearing ≠ .child none) {counts : Mask → Prop} (nonempty : ¬ counts ∅) :
    (∃ e, report.event? isThere index path known = some e ∧ e.name = bearing.name ∧
        counts e.mask) ↔
      Bearing.of? known.path path = some bearing ∧
        counts (known.hears (report.happening.mask bearing index (isThere path))) := by
  constructor
  · rintro ⟨e, said, called, holds⟩
    obtain ⟨other, bears, -, rfl⟩ := Report.event?_eq_some_iff.1 said
    have same : other = bearing := by
      rw [Bearing.of?_of_fileName? named] at bears
      cases bearing with
      | self =>
        cases other with
        | self => rfl
        | child given => split at bears <;> simp_all [Bearing.name]
      | child wanted =>
        cases other with
        | self => simp_all [Bearing.name]
        | child given => simp_all [Bearing.name]
    subst same
    exact ⟨bears, holds⟩
  · rintro ⟨bears, holds⟩
    have heard : known.hears (report.happening.mask bearing index (isThere path)) ≠ ∅ := by
      intro empty
      exact nonempty (empty ▸ holds)
    exact ⟨_, Report.event?_eq_some_iff.2 ⟨bearing, bears, heard, rfl⟩, rfl, holds⟩

end Bearings

end Relay

end RoleWatch
