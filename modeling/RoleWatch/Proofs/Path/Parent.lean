import RoleWatch.Watch.Target

/-! A path that ends in a name is the path above it and that name: the parts of the one are the
parts of the other and one more. -/
namespace RoleWatch

namespace Bytes

theorem not_mem_of_mem_splitOn {separator : UInt8} {b piece : Bytes}
    (member : piece ∈ splitOn separator b) : separator ∉ piece := by
  induction b generalizing piece with
  | nil => simp_all [splitOn]
  | cons x rest ih =>
    unfold splitOn at member
    split at member
    · rcases List.mem_cons.1 member with rfl | later
      · exact List.not_mem_nil
      · exact ih later
    · rename_i other
      split at member
      · rw [List.mem_singleton.1 member]
        simpa using Ne.symm other
      · rename_i first more pieces
        rw [pieces] at ih
        rcases List.mem_cons.1 member with rfl | later
        · have clean := ih List.mem_cons_self
          simp [Ne.symm other, clean]
        · exact ih (List.mem_cons_of_mem _ later)

theorem splitOn_append {separator : UInt8} {piece : Bytes} (clean : separator ∉ piece)
    (rest : Bytes) :
    splitOn separator (piece ++ separator :: rest) = piece :: splitOn separator rest := by
  induction piece with
  | nil => simp [splitOn]
  | cons x piece ih =>
    simp only [List.mem_cons, not_or] at clean
    rw [List.cons_append, splitOn, if_neg (Ne.symm clean.1), ih clean.2]

theorem splitOn_of_not_mem {separator : UInt8} {piece : Bytes} (clean : separator ∉ piece) :
    splitOn separator piece = [piece] := by
  induction piece with
  | nil => rfl
  | cons x piece ih =>
    simp only [List.mem_cons, not_or] at clean
    rw [splitOn, if_neg (Ne.symm clean.1), ih clean.2]

theorem splitOn_joinWith {separator : UInt8} {piece : Bytes} {pieces : List Bytes}
    (clean : ∀ p ∈ piece :: pieces, separator ∉ p) :
    splitOn separator (joinWith separator (piece :: pieces)) = piece :: pieces := by
  induction pieces generalizing piece with
  | nil => exact splitOn_of_not_mem (clean piece List.mem_cons_self)
  | cons next more ih =>
    have later : ∀ p ∈ next :: more, separator ∉ p :=
      fun p member => clean p (List.mem_cons_of_mem _ member)
    rw [joinWith, splitOn_append (clean piece List.mem_cons_self), ih later]
    simp

end Bytes

namespace Path

def ofSegments (front : Bytes) (rest : List Bytes) : Path :=
  ⟨Bytes.joinWith slash (front :: rest)⟩

theorem segments_eq {p : Path} {front : Bytes} {rest : List Bytes}
    (split : p.segments = (front, rest)) : Bytes.splitOn slash p.bytes = front :: rest := by
  unfold segments at split
  cases pieces : Bytes.splitOn slash p.bytes with
  | nil => exact absurd pieces (Bytes.splitOn_ne_nil _ _)
  | cons first more =>
    rw [pieces] at split
    cases split
    rfl

theorem segments_clean {p : Path} {front : Bytes} {rest : List Bytes}
    (split : p.segments = (front, rest)) : ∀ segment ∈ front :: rest, slash ∉ segment := by
  rw [← segments_eq split]
  exact fun segment member => Bytes.not_mem_of_mem_splitOn member

theorem segments_ofSegments {front : Bytes} {rest : List Bytes}
    (clean : ∀ segment ∈ front :: rest, slash ∉ segment) :
    (ofSegments front rest).segments = (front, rest) := by
  unfold segments ofSegments
  rw [Bytes.splitOn_joinWith clean]

theorem isAbsolute_iff {p : Path} {front : Bytes} {rest : List Bytes}
    (split : p.segments = (front, rest)) : p.isAbsolute = true ↔ front = [] ∧ rest ≠ [] := by
  have pieces := segments_eq split
  obtain ⟨bytes⟩ := p
  cases bytes with
  | nil =>
    obtain ⟨rfl, rfl⟩ := List.cons.inj pieces
    simp [isAbsolute]
  | cons b bytes =>
    simp only [Bytes.splitOn] at pieces
    split at pieces
    · rename_i hit
      obtain ⟨rfl, rfl⟩ := List.cons.inj pieces
      simp [isAbsolute, hit, Bytes.splitOn_ne_nil]
    · rename_i other
      have named : front ≠ [] := by
        split at pieces
        · rw [← (List.cons.inj pieces).1]
          simp
        · rw [← (List.cons.inj pieces).1]
          simp
      simp [isAbsolute, other, named]

theorem parts_eq {p : Path} {front : Bytes} {rest : List Bytes}
    (split : p.segments = (front, rest)) :
    p.parts = (frontPart? p.isAbsolute front).toList ++ rest.filterMap Part.ofSegment? := by
  unfold parts
  rw [split]

theorem ofSegment?_of_isFiller {segment : Bytes} (filler : isFiller segment = true) :
    Part.ofSegment? segment = none := by
  simp [Part.ofSegment?, filler]

theorem filterMap_trimFiller (l : List Bytes) :
    (trimFiller l).filterMap Part.ofSegment? = l.filterMap Part.ofSegment? := by
  have dropped : ∀ l : List Bytes,
      (l.dropWhile isFiller).filterMap Part.ofSegment? = l.filterMap Part.ofSegment? := by
    intro l
    induction l with
    | nil => rfl
    | cons segment rest ih =>
      rw [List.dropWhile_cons]
      split
      · rename_i filler
        rw [ih, List.filterMap_cons, ofSegment?_of_isFiller filler]
      · rfl
  rw [trimFiller, List.filterMap_reverse, dropped, List.filterMap_reverse, List.reverse_reverse]

theorem mem_of_mem_trimFiller {l : List Bytes} {segment : Bytes} (member : segment ∈ trimFiller l) :
    segment ∈ l := by
  rw [trimFiller, List.mem_reverse] at member
  exact List.mem_reverse.1 ((List.dropWhile_sublist _).subset member)

theorem not_filler_of_trimFiller {l kept : List Bytes} {last : Bytes}
    (trimmed : trimFiller l = kept ++ [last]) : isFiller last = false := by
  have turned : l.reverse.dropWhile isFiller = last :: kept.reverse := by
    have same := congrArg List.reverse trimmed
    simpa [trimFiller] using same
  have first := List.head?_dropWhile_not isFiller l.reverse
  rw [turned] at first
  simpa using first

theorem frontPart?_clean {front : Bytes} (clean : slash ∉ front) :
    (⟨front⟩ : Path).parts = (frontPart? false front).toList := by
  have split : (⟨front⟩ : Path).segments = (front, []) := by
    unfold segments
    rw [Bytes.splitOn_of_not_mem clean]
  have relative : (⟨front⟩ : Path).isAbsolute = false := by
    refine Bool.eq_false_iff.2 fun absolute => ?_
    exact ((isAbsolute_iff split).1 absolute).2 rfl
  rw [parts_eq split, relative]
  simp

theorem parts_parent {p : Path} {front last : Bytes} {rest kept : List Bytes}
    (split : p.segments = (front, rest)) (trimmed : trimFiller rest = kept ++ [last]) :
    ∃ q, p.parent? = some q ∧ p.parts = q.parts ++ (Part.ofSegment? last).toList := by
  have clean := segments_clean split
  have nonempty : rest ≠ [] := by
    rintro rfl
    simp [trimFiller] at trimmed
  have whole : rest.filterMap Part.ofSegment? =
      (trimFiller kept).filterMap Part.ofSegment? ++ (Part.ofSegment? last).toList := by
    rw [← filterMap_trimFiller rest, trimmed, List.filterMap_append, filterMap_trimFiller]
    cases found : Part.ofSegment? last <;> simp [found]
  have occupied : (kept ++ [last]).isEmpty = false := by simp
  rw [parts_eq split, whole, ← List.append_assoc]
  cases left : trimFiller kept with
  | nil =>
    have parent : p.parent? = if p.isAbsolute then some ⟨[slash]⟩ else some ⟨front⟩ := by
      unfold parent?
      rw [split]
      simp only [trimmed, List.dropLast_concat, occupied, left]
    cases absolute : p.isAbsolute with
    | true =>
      rw [absolute] at parent
      have root : (⟨[slash]⟩ : Path).parts = [.root] := by decide
      exact ⟨⟨[slash]⟩, by simpa using parent, by simp [frontPart?, root]⟩
    | false =>
      rw [absolute] at parent
      refine ⟨⟨front⟩, by simpa using parent, ?_⟩
      rw [frontPart?_clean (clean front List.mem_cons_self)]
      simp
  | cons first more =>
    have parent : p.parent? = some (ofSegments front (first :: more)) := by
      unfold parent?
      rw [split]
      simp only [trimmed, List.dropLast_concat, occupied, left]
      rfl
    refine ⟨ofSegments front (first :: more), parent, ?_⟩
    have inside : ∀ segment ∈ front :: first :: more, slash ∉ segment := by
      rw [← left]
      intro segment member
      rcases List.mem_cons.1 member with rfl | later
      · exact clean segment List.mem_cons_self
      · have within : segment ∈ trimFiller rest := by
          rw [trimmed]
          exact List.mem_append_left _ (mem_of_mem_trimFiller later)
        exact clean segment (List.mem_cons_of_mem _ (mem_of_mem_trimFiller within))
    have again := segments_ofSegments inside
    have sameRoot : (ofSegments front (first :: more)).isAbsolute = p.isAbsolute := by
      rw [Bool.eq_iff_iff, isAbsolute_iff again, isAbsolute_iff split]
      simp [nonempty]
    rw [parts_eq again, sameRoot]

theorem ofSegment?_of_not_filler {segment : Bytes} (sounds : isFiller segment = false) :
    ∃ part, Part.ofSegment? segment = some part := by
  unfold Part.ofSegment?
  rw [if_neg (by simp [sounds])]
  split
  · exact ⟨.up, rfl⟩
  · exact ⟨.name segment, rfl⟩

theorem getLast?_parts {p : Path} {name : Bytes} (named : p.fileName? = some name) :
    p.parts.getLast? = some (.name name) := by
  unfold fileName? at named
  split at named
  · rename_i found
    rw [found, Option.some.inj named]
  · simp at named

theorem parent?_of_blank {p : Path} {front name : Bytes} {rest : List Bytes}
    (split : p.segments = (front, rest)) (blank : trimFiller rest = [])
    (only : frontPart? p.isAbsolute front = some (.name name)) : p.parent? = some ⟨[]⟩ := by
  have relative : p.isAbsolute = false := by
    refine Bool.eq_false_iff.2 fun absolute => ?_
    simp [absolute, frontPart?] at only
  have occupied : p.bytes.isEmpty = false := by
    refine Bool.eq_false_iff.2 fun empty => ?_
    have pieces := segments_eq split
    rw [List.isEmpty_iff.1 empty] at pieces
    obtain ⟨rfl, -⟩ := List.cons.inj pieces
    rw [relative] at only
    simp [frontPart?, Part.ofSegment?, isFiller, dot] at only
  unfold parent?
  rw [split]
  simp [blank, relative, occupied]

/-- A path that ends in a name stands in the path above it under that name. -/
theorem parts_of_fileName? {p : Path} {name : Bytes} (named : p.fileName? = some name) :
    ∃ q, p.parent? = some q ∧ p.parts = q.parts ++ [.name name] := by
  have last := getLast?_parts named
  obtain ⟨front, rest, split⟩ : ∃ front rest, p.segments = (front, rest) := ⟨_, _, rfl⟩
  rcases List.eq_nil_or_concat (trimFiller rest) with blank | ⟨kept, final, trimmed⟩
  · have nothing : rest.filterMap Part.ofSegment? = [] := by
      rw [← filterMap_trimFiller, blank]
      rfl
    have only := parts_eq split
    rw [nothing, List.append_nil] at only
    cases front_part : frontPart? p.isAbsolute front with
    | none => simp [only, front_part] at last
    | some part =>
      simp only [only, front_part, Option.toList_some, List.getLast?_singleton,
        Option.some.injEq] at last
      subst last
      exact ⟨⟨[]⟩, parent?_of_blank split blank front_part, by rw [only, front_part]; rfl⟩
  · rw [List.concat_eq_append] at trimmed
    obtain ⟨q, parent, parts⟩ := parts_parent split trimmed
    obtain ⟨part, said⟩ := ofSegment?_of_not_filler (not_filler_of_trimFiller trimmed)
    rw [said, Option.toList_some] at parts
    rw [parts, List.getLast?_concat, Option.some.injEq] at last
    exact ⟨q, parent, by rw [parts, last]⟩

theorem fileName?_of_parts {p : Path} {above : List Part} {name : Bytes}
    (ends : p.parts = above ++ [.name name]) : p.fileName? = some name := by
  rw [fileName?, ends, List.getLast?_concat]

/-- Whatever is spelled names some part. -/
theorem parts_eq_nil_iff {p : Path} : p.parts = [] ↔ p.bytes = [] := by
  constructor
  · intro none
    obtain ⟨front, rest, split⟩ : ∃ front rest, p.segments = (front, rest) := ⟨_, _, rfl⟩
    have said := parts_eq split
    rw [none, eq_comm, List.append_eq_nil_iff, Option.toList_eq_nil_iff] at said
    have unsaid := said.1
    have relative : p.isAbsolute = false := by
      refine Bool.eq_false_iff.2 fun absolute => ?_
      simp [frontPart?, absolute] at unsaid
    have blank : front = [] := by
      rw [relative] at unsaid
      unfold frontPart? Part.ofSegment? at unsaid
      by_cases here : front = dot
      · simp [here] at unsaid
      · by_cases up : front = dotDot
        · simp [up, isFiller, dot, dotDot] at unsaid
        · simpa [here, up, isFiller] using unsaid
    have alone : rest = [] := by
      by_cases more : rest = []
      · exact more
      · have absolute := (isAbsolute_iff split).2 ⟨blank, more⟩
        simp [relative] at absolute
    have pieces := segments_eq split
    rw [blank, alone] at pieces
    rw [← Bytes.joinWith_splitOn slash p.bytes, pieces]
    rfl
  · intro empty
    obtain ⟨bytes⟩ := p
    obtain rfl : bytes = [] := empty
    rfl

theorem parts_of_isAbsolute {p : Path} (absolute : p.isAbsolute = true) :
    ∃ below, p.parts = .root :: below := by
  obtain ⟨front, rest, split⟩ : ∃ front rest, p.segments = (front, rest) := ⟨_, _, rfl⟩
  refine ⟨rest.filterMap Part.ofSegment?, ?_⟩
  rw [parts_eq split, absolute]
  simp [frontPart?]

end Path

/-- A target's parts fit together: the file stands in the directory under the name. -/
theorem Target.parts_of_ofPath {p : Path} {t : Target} (split : ofPath p = .ok t) :
    t.file = p ∧ t.file.parts = t.dir.parts ++ [.name t.name] := by
  unfold ofPath at split
  split at split
  · simp at split
  · rename_i name dir named parent
    obtain ⟨q, above, parts⟩ := Path.parts_of_fileName? named
    rw [parent] at above
    obtain rfl := Option.some.inj above
    split at split
    · simp at split
    · cases split
      exact ⟨rfl, parts⟩
  · simp at split

/-- A path can be split exactly if its last part is a name and there is a part before it. -/
theorem Target.exists_ofPath_iff {p : Path} : (∃ t, ofPath p = .ok t) ↔
    ∃ above name, above ≠ [] ∧ p.parts = above ++ [.name name] := by
  constructor
  · rintro ⟨t, split⟩
    obtain ⟨-, parts⟩ := Target.parts_of_ofPath split
    refine ⟨t.dir.parts, t.name, ?_, by rwa [← (Target.parts_of_ofPath split).1]⟩
    rw [Ne, Path.parts_eq_nil_iff]
    intro empty
    unfold ofPath at split
    split at split
    · simp at split
    · split at split
      · simp at split
      · rename_i occupied
        cases split
        exact occupied (List.isEmpty_iff.2 empty)
    · simp at split
  · rintro ⟨above, name, some_above, ends⟩
    have named := Path.fileName?_of_parts ends
    obtain ⟨q, parent, parts⟩ := Path.parts_of_fileName? named
    have same : q.parts = above := List.append_cancel_right (parts.symm.trans ends)
    have occupied : q.bytes ≠ [] := by
      rw [Ne, ← Path.parts_eq_nil_iff, same]
      exact some_above
    refine ⟨⟨p, q, name⟩, ?_⟩
    simp [ofPath, named, parent, occupied]

/-- An absolute path that cannot be split does not end in a name. -/
theorem Target.ofPath_of_isAbsolute {p : Path} (absolute : p.isAbsolute = true)
    (refused : ¬ ∃ t, ofPath p = .ok t) : ofPath p = .error (.namesNoFile p) := by
  cases named : p.fileName? with
  | none => simp [ofPath, named]
  | some name =>
    obtain ⟨q, -, ends⟩ := Path.parts_of_fileName? named
    refine absurd (Target.exists_ofPath_iff.2 ⟨q.parts, name, ?_, ends⟩) refused
    intro alone
    obtain ⟨below, rooted⟩ := Path.parts_of_isAbsolute absolute
    rw [ends, alone] at rooted
    simp at rooted

end RoleWatch
