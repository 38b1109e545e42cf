import RoleWatch.Proofs.Bench.Trial
import RoleWatch.Proofs.Relay.Hearing

/-!
The translation of a report, against a relation that speaks of the parts of paths only. Each path
meets each registration once, and exactly the pairs for which there is something to say give an
event.
-/
namespace RoleWatch.Relay

/-- A path is the registered one, or names a child right below it. -/
inductive Touches (registered path : Path) : Option Bytes → Prop where
  | self (same : path.parts = registered.parts) : Touches registered path none
  | child {name : Bytes} (below : path.parts = registered.parts ++ [.name name]) :
      Touches registered path (some name)

namespace Touches

variable {registered path : Path} {name : Option Bytes}

theorem is_prefix (touches : Touches registered path name) :
    registered.parts <+: path.parts := by
  cases touches with
  | self same => exact same ▸ List.prefix_refl _
  | child below => exact ⟨_, below.symm⟩

theorem length_le (touches : Touches registered path name) :
    path.parts.length ≤ registered.parts.length + 1 := by
  cases touches with
  | self same => rw [same]; omega
  | child below => simp [below]

end Touches

namespace Bearing

def ofName : Option Bytes → Bearing
  | none => .self
  | some name => .child (some name)

@[simp] theorem name_ofName (name : Option Bytes) : (ofName name).name = name := by
  cases name <;> rfl

theorem of?_eq_some_iff {registered path : Path} {last : Bytes} {bearing : Bearing}
    (named : path.fileName? = some last) :
    of? registered path = some bearing ↔
      ∃ name, bearing = ofName name ∧ Touches registered path name := by
  rw [of?_of_fileName? named]
  constructor
  · intro bears
    split at bears
    · rename_i same
      exact ⟨none, (Option.some.inj bears).symm, .self same⟩
    · split at bears
      · rename_i below
        exact ⟨some last, (Option.some.inj bears).symm, .child below⟩
      · simp at bears
  · rintro ⟨name, rfl, touches⟩
    cases touches with
    | self same => rw [if_pos same]; rfl
    | @child name below =>
      have ends := Path.getLast?_parts named
      rw [below, List.getLast?_concat] at ends
      obtain rfl : name = last := by simpa using ends
      have longer : path.parts ≠ registered.parts := by
        rw [below]
        simp
      rw [if_neg longer, if_pos below]
      rfl

-- Which flags there can be for an object, whatever happened to it.
def flags : Bearing → List Flag
  | .self => [.modify, .create, .movedTo, .deleteSelf, .moveSelf]
  | .child _ => [.modify, .create, .movedTo, .delete, .movedFrom]

end Bearing

theorem Happening.mem_flags_of_has {happening : Happening} {bearing : Bearing} {index : Nat}
    {isThere : Bool} {f : Flag} (has : (happening.mask bearing index isThere).has f = true) :
    f ∈ bearing.flags := by
  have out : bearing.movedOut.has f = true → f ∈ bearing.flags := by
    cases bearing <;> simp +contextual [Bearing.movedOut, Bearing.flags]
  have common : f = .modify ∨ f = .create ∨ f = .movedTo → f ∈ bearing.flags := by
    rintro (rfl | rfl | rfl) <;> cases bearing <;> simp [Bearing.flags]
  cases happening with
  | rename way =>
    cases way with
    | source => exact out has
    | target => exact common (by simp_all [mask, Way.mask])
    | both =>
      simp only [mask, Way.mask] at has
      split at has
      · exact out has
      · exact common (by simp_all)
    | unknown | other =>
      simp only [mask, Way.mask] at has
      split at has
      · exact common (by simp_all)
      · exact out has
  | remove => cases bearing <;> simp_all [mask, Bearing.removed, Bearing.flags]
  | create | content | modify | modifyOther => exact common (by simp_all [mask])
  | unknown | other | access => simp [mask] at has
  | _ which =>
    cases which with
    | any | writeTime => exact common (by simp_all [mask])
    | accessTime | permissions | owner | extended | other => simp [mask] at has

namespace Report

structure Pair where
  path : Path
  index : Nat
  known : Registration

-- Path by path, and for each path in the order of the registrations.
def pairs (report : Report) (registrations : List Registration) : List Pair :=
  report.paths.zipIdx.flatMap fun place =>
    registrations.map fun known => ⟨place.1, place.2, known⟩

def heard (isThere : Path → Bool) (report : Report) (pair : Pair) (name : Option Bytes) : Mask :=
  pair.known.hears (report.happening.mask (.ofName name) pair.index (isThere pair.path))

/-- The event that a path of a report is to a registration. -/
structure Gives (isThere : Path → Bool) (report : Report) (pair : Pair) (e : Event) : Prop where
  owner : e.handle = some pair.known.handle
  touches : Touches pair.known.path pair.path e.name
  mask : e.mask = report.heard isThere pair e.name
  nonempty : e.mask ≠ ∅

variable {isThere : Path → Bool} {report : Report} {pair : Pair} {e : Event}

theorem mem_pairs {registrations : List Registration} :
    pair ∈ report.pairs registrations ↔
      report.paths[pair.index]? = some pair.path ∧ pair.known ∈ registrations := by
  obtain ⟨path, index, known⟩ := pair
  simp only [pairs, List.mem_flatMap, List.mem_map, Pair.mk.injEq]
  constructor
  · rintro ⟨place, found, _, member, rfl, rfl, rfl⟩
    exact ⟨List.mem_zipIdx_iff_getElem?.1 found, member⟩
  · rintro ⟨place, member⟩
    exact ⟨(path, index), List.mem_zipIdx_iff_getElem?.2 place, known, member, rfl, rfl, rfl⟩

theorem event?_iff_gives (named : pair.path.fileName?.isSome) :
    report.event? isThere pair.index pair.path pair.known = some e ↔
      report.Gives isThere pair e := by
  obtain ⟨last, named⟩ := Option.isSome_iff_exists.1 named
  rw [event?_eq_some_iff]
  constructor
  · rintro ⟨bearing, bears, nonempty, rfl⟩
    obtain ⟨name, rfl, touches⟩ := (Bearing.of?_eq_some_iff named).1 bears
    constructor
    · rfl
    · rwa [Bearing.name_ofName]
    · rw [Bearing.name_ofName, heard]
    · exact nonempty
  · rintro ⟨owner, touches, mask, nonempty⟩
    refine ⟨.ofName e.name, (Bearing.of?_eq_some_iff named).2 ⟨_, rfl, touches⟩, ?_, ?_⟩
    · rw [mask] at nonempty
      exact nonempty
    · rw [heard] at mask
      rw [← mask, ← owner, Bearing.name_ofName]

theorem events_eq (isThere : Path → Bool) (registrations : List Registration) (report : Report) :
    report.events isThere registrations = (if report.rescan then [Event.lost] else []) ++
      (report.pairs registrations).filterMap fun pair =>
        report.event? isThere pair.index pair.path pair.known := by
  rw [events, pairs, List.filterMap_flatMap]
  simp only [List.filterMap_map]
  rfl

theorem Gives.mem_flags {f : Flag} (gives : report.Gives isThere pair e)
    (has : e.mask.has f = true) : f ∈ (Bearing.ofName e.name).flags ∧
      (pair.known.interest.has f = true ∨ Mask.unsolicited.has f = true) := by
  have both := has
  rw [gives.mask, heard, Registration.has_hears, Bool.and_eq_true, Mask.has_union,
    Bool.or_eq_true] at both
  exact ⟨Happening.mem_flags_of_has both.1, both.2⟩

/-- The translation of a report for some registrations. Each pair for which there is an event gives
that one, in the order of the pairs, and which pairs these are is told by their parts. -/
structure Translated (isThere : Path → Bool) (report : Report)
    (registrations : List Registration) : Prop where
  listed : ∃ said : Pair → Option Event,
    (∀ pair ∈ report.pairs registrations, ∀ e,
      said pair = some e ↔ report.Gives isThere pair e) ∧
    report.events isThere registrations = (if report.rescan then [Event.lost] else []) ++
      (report.pairs registrations).filterMap said
  sound : ∀ e ∈ report.events isThere registrations, (report.rescan = true ∧ e = Event.lost) ∨
    ∃ pair ∈ report.pairs registrations, report.Gives isThere pair e
  complete : ∀ pair ∈ report.pairs registrations, ∀ name,
    Touches pair.known.path pair.path name → report.heard isThere pair name ≠ ∅ →
      ⟨some pair.known.handle, report.heard isThere pair name, name⟩ ∈
        report.events isThere registrations
  asked : ∀ pair e, report.Gives isThere pair e → ∀ f, e.mask.has f = true →
    pair.known.interest.has f = true ∨ Mask.unsolicited.has f = true
  child : ∀ pair e, report.Gives isThere pair e → e.name.isSome → e.mask.meets Mask.gone = false
  self : ∀ pair e, report.Gives isThere pair e → e.name = none →
    e.mask.has .delete = false ∧ e.mask.has .movedFrom = false
  deeper : ∀ pair more, pair.path.parts = pair.known.path.parts ++ more → 2 ≤ more.length →
    ∀ e, ¬ report.Gives isThere pair e
  above : ∀ pair more, pair.known.path.parts = pair.path.parts ++ more → more ≠ [] →
    ∀ e, ¬ report.Gives isThere pair e
  -- Whether the one spelling begins with the other is of no account.
  beside : ∀ pair, ¬ pair.known.path.parts <+: pair.path.parts →
    ∀ e, ¬ report.Gives isThere pair e

end Report

/-- Translation says all there is to say to the registrations and nothing else: a report whose paths
end in names gives an event just for each path that is a registered one or right below one, as far
as the registration wants to know. -/
theorem translated_exactly (isThere : Path → Bool) (registrations : List Registration)
    (report : Report) (named : ∀ path ∈ report.paths, path.fileName?.isSome) :
    report.Translated isThere registrations := by
  have given : ∀ pair ∈ report.pairs registrations, ∀ e,
      report.event? isThere pair.index pair.path pair.known = some e ↔
        report.Gives isThere pair e := by
    intro pair member e
    have place := (Report.mem_pairs.1 member).1
    exact Report.event?_iff_gives (named _ (List.mem_of_getElem? place))
  constructor
  case listed => exact ⟨_, given, Report.events_eq isThere registrations report⟩
  case sound =>
    intro e member
    rw [Report.events_eq, List.mem_append, List.mem_filterMap] at member
    rcases member with lost | ⟨pair, among, said⟩
    · cases rescan : report.rescan with
      | true => exact .inl ⟨rfl, by simpa [rescan] using lost⟩
      | false => simp [rescan] at lost
    · exact .inr ⟨pair, among, (given pair among e).1 said⟩
  case complete =>
    intro pair among name touches nonempty
    rw [Report.events_eq, List.mem_append, List.mem_filterMap]
    exact .inr ⟨pair, among, (given pair among _).2 ⟨rfl, touches, rfl, nonempty⟩⟩
  case asked =>
    intro pair e gives f has
    exact (gives.mem_flags has).2
  case child =>
    intro pair e gives below
    obtain ⟨name, called⟩ := Option.isSome_iff_exists.1 below
    refine Bool.eq_false_iff.2 fun met => ?_
    obtain ⟨f, has, gone⟩ := Mask.meets_iff.1 met
    have flags := (gives.mem_flags has).1
    rw [called] at flags
    cases f <;> simp_all [Bearing.ofName, Bearing.flags, Mask.gone]
  case self =>
    intro pair e gives there
    have flags : ∀ f, e.mask.has f = true → f ∈ Bearing.self.flags := by
      intro f has
      have within := (gives.mem_flags has).1
      rwa [there] at within
    constructor
    · refine Bool.eq_false_iff.2 fun has => ?_
      simpa [Bearing.flags] using flags .delete has
    · refine Bool.eq_false_iff.2 fun has => ?_
      simpa [Bearing.flags] using flags .movedFrom has
  case deeper =>
    intro pair more parts long e gives
    have short := gives.touches.length_le
    rw [parts, List.length_append] at short
    omega
  case above =>
    intro pair more parts some_more e gives
    have within := gives.touches.is_prefix.length_le
    rw [parts, List.length_append] at within
    have positive := List.length_pos_iff.2 some_more
    omega
  case beside =>
    intro pair apart e gives
    exact apart gives.touches.is_prefix

open Bench.Example in
/-- A file is renamed within a watched directory while reports were lost. Its old name is watched
too, and so are a path that goes on where the new name ends, a file below and the root. -/
theorem translated_exactly_of_rename :
    let new : Path := ⟨[0x2f, 0x65, 0x2f, 0x67]⟩
    let report : Report := ⟨.rename .both, [target.file, new], true⟩
    let all := Mask.ofFlags Flag.all
    let registrations : List Registration := [⟨⟨1⟩, target.dir, all⟩, ⟨⟨2⟩, target.file, all⟩,
      ⟨⟨3⟩, ⟨[0x2f, 0x65, 0x2f, 0x67, 0x67]⟩, all⟩, ⟨⟨4⟩, ⟨[0x2f]⟩, all⟩]
    (∀ path ∈ report.paths, path.fileName?.isSome) ∧
      report.events (fun _ => false) registrations = [.lost,
        .onChild ⟨1⟩ target.name (.ofFlags [.movedFrom]), .onSelf ⟨2⟩ (.ofFlags [.moveSelf]),
        .onChild ⟨1⟩ [0x67] (.ofFlags [.movedTo])] ∧
      ∀ e, ¬ report.Gives (fun _ => false) ⟨new, 1, ⟨⟨4⟩, ⟨[0x2f]⟩, all⟩⟩ e := by
  intro new report all registrations
  have named : ∀ path ∈ report.paths, path.fileName?.isSome := by decide
  have translated := translated_exactly (fun _ => false) registrations report named
  have below := translated.deeper ⟨new, 1, ⟨⟨4⟩, ⟨[0x2f]⟩, all⟩⟩ [.name [0x65], .name [0x67]]
    (by decide) (by decide)
  exact ⟨named, by decide, below⟩

end RoleWatch.Relay
