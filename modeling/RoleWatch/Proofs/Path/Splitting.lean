import RoleWatch.Proofs.Path.Parent

/-!
Splitting a watched path, against how it is spelled. A path can be split exactly if its spelling
ends in an ordinary name with something in front of it, and both pieces are then told by the parts
alone, so that every other spelling of the same parts falls into the same two pieces.
-/
namespace RoleWatch

namespace Bytes

theorem splitOn_append_separator (separator : UInt8) (b rest : Bytes) :
    splitOn separator (b ++ separator :: rest) = splitOn separator b ++ splitOn separator rest := by
  induction b with
  | nil => simp [splitOn]
  | cons x b ih =>
    rw [List.cons_append, splitOn, splitOn, ih]
    split
    · rfl
    · cases pieces : splitOn separator b with
      | nil => exact absurd pieces (splitOn_ne_nil _ _)
      | cons piece more => rfl

theorem joinWith_append (separator : UInt8) (piece : Bytes) (pieces more : List Bytes) :
    joinWith separator (piece :: pieces ++ more) =
      joinWith separator (piece :: pieces) ++ more.flatMap (separator :: ·) := by
  induction pieces generalizing piece with
  | nil =>
    induction more generalizing piece with
    | nil => simp [joinWith]
    | cons next more ih =>
      have later := ih next
      simp only [List.cons_append, List.nil_append, joinWith] at later ⊢
      rw [later, List.flatMap_cons, List.cons_append]
  | cons next pieces ih =>
    simp only [List.cons_append, joinWith, List.append_assoc] at ih ⊢
    rw [ih]

theorem splitOn_flatMap {separator : UInt8} (b : Bytes) {pieces : List Bytes}
    (clean : ∀ piece ∈ pieces, separator ∉ piece) :
    splitOn separator (b ++ pieces.flatMap (separator :: ·)) = splitOn separator b ++ pieces := by
  induction pieces generalizing b with
  | nil => simp
  | cons piece pieces ih =>
    have here := splitOn_of_not_mem (clean piece List.mem_cons_self)
    have whole : b ++ (piece :: pieces).flatMap (separator :: ·) =
        (b ++ separator :: piece) ++ pieces.flatMap (separator :: ·) := by simp
    rw [whole, ih _ fun p member => clean p (List.mem_cons_of_mem _ member),
      splitOn_append_separator, here, List.append_assoc, List.singleton_append]

end Bytes

namespace Path

/-- A name under which something can stand in a directory. -/
structure Ordinary (name : Bytes) : Prop where
  nonempty : name ≠ []
  unsplit : slash ∉ name
  ne_dot : name ≠ dot
  ne_dotDot : name ≠ dotDot

/-- A spelling that ends in an ordinary name: in front of it there is nothing or something up to a
slash, and after it only slashes and dots that say nothing. -/
structure EndsIn (p : Path) (front name : Bytes) : Prop where
  ordinary : Ordinary name
  apart : front = [] ∨ front.getLast? = some slash
  spelled : ∃ fillers : List Bytes, (∀ filler ∈ fillers, isFiller filler = true) ∧
    p.bytes = front ++ name ++ fillers.flatMap (slash :: ·)

/-- A path taken from another one on, with one slash between them; an absolute one stands alone. -/
def join (p q : Path) : Path :=
  if q.isAbsolute then q
  else if p.bytes = [] ∨ p.bytes.getLast? = some slash then ⟨p.bytes ++ q.bytes⟩
  else ⟨p.bytes ++ slash :: q.bytes⟩

theorem isFiller_clean {segment : Bytes} (filler : isFiller segment = true) : slash ∉ segment := by
  have cases : segment = [] ∨ segment = dot := by simpa [isFiller] using filler
  rcases cases with rfl | rfl
  · exact List.not_mem_nil
  · decide

theorem Ordinary.ofSegment? {name : Bytes} (ordinary : Ordinary name) :
    Part.ofSegment? name = some (.name name) := by
  simp [Part.ofSegment?, isFiller, ordinary.nonempty, ordinary.ne_dot, ordinary.ne_dotDot]

theorem Part.ofSegment?_eq_name {segment name : Bytes} (clean : slash ∉ segment)
    (said : ofSegment? segment = some (.name name)) : segment = name ∧ Ordinary name := by
  unfold ofSegment? at said
  split at said
  · simp at said
  · rename_i sounds
    have more : segment ≠ [] ∧ segment ≠ dot := by simpa [isFiller] using sounds
    split at said
    · simp at said
    · rename_i other
      obtain rfl : segment = name := by simpa using said
      exact ⟨rfl, more.1, clean, more.2, other⟩

theorem ordinary_of_frontPart? {rooted : Bool} {front name : Bytes} (clean : slash ∉ front)
    (said : frontPart? rooted front = some (.name name)) : front = name ∧ Ordinary name := by
  unfold frontPart? at said
  split at said
  · simp at said
  · split at said
    · simp at said
    · exact Part.ofSegment?_eq_name clean said

theorem parts_of_splitOn {p : Path} {front : Bytes} {rest : List Bytes}
    (pieces : Bytes.splitOn slash p.bytes = front :: rest) :
    p.parts = (frontPart? p.isAbsolute front).toList ++ rest.filterMap Part.ofSegment? := by
  refine parts_eq ?_
  unfold segments
  rw [pieces]

theorem parts_append_slash {b : Bytes} (nonempty : b ≠ []) :
    (⟨b ++ [slash]⟩ : Path).parts = (⟨b⟩ : Path).parts := by
  obtain ⟨front, rest, split⟩ := List.exists_cons_of_ne_nil (Bytes.splitOn_ne_nil slash b)
  have longer : Bytes.splitOn slash (b ++ [slash]) = front :: (rest ++ [[]]) := by
    rw [Bytes.splitOn_append_separator, split]
    rfl
  have rooted : (⟨b ++ [slash]⟩ : Path).isAbsolute = (⟨b⟩ : Path).isAbsolute := by
    obtain ⟨first, more, rfl⟩ := List.exists_cons_of_ne_nil nonempty
    rfl
  rw [parts_of_splitOn longer, parts_of_splitOn split, rooted]
  simp [Part.ofSegment?, isFiller]

namespace EndsIn

variable {p : Path} {front name : Bytes}

/-- The name is the last part, and the parts before it are those of what is in front. -/
theorem parts (ends : p.EndsIn front name) :
    p.parts = (⟨front⟩ : Path).parts ++ [.name name] := by
  obtain ⟨ordinary, apart, fillers, filler, spelled⟩ := ends
  have clean : ∀ segment ∈ fillers, slash ∉ segment :=
    fun segment member => isFiller_clean (filler segment member)
  have silent : fillers.filterMap Part.ofSegment? = [] :=
    List.filterMap_eq_nil_iff.2 fun s member => ofSegment?_of_isFiller (filler s member)
  rcases apart with rfl | closed
  · have pieces : Bytes.splitOn slash p.bytes = name :: fillers := by
      rw [spelled, List.nil_append, Bytes.splitOn_flatMap name clean,
        Bytes.splitOn_of_not_mem ordinary.unsplit, List.singleton_append]
    have relative : p.isAbsolute = false := by
      have segments : p.segments = (name, fillers) := by rw [segments, pieces]
      exact Bool.eq_false_iff.2 fun absolute =>
        ordinary.nonempty ((isAbsolute_iff segments).1 absolute).1
    rw [parts_of_splitOn pieces, silent, relative]
    simp [frontPart?, ordinary.ne_dot, ordinary.ofSegment?, parts_eq_nil_iff.2]
  · obtain ⟨above, rfl⟩ := List.getLast?_eq_some_iff.1 closed
    obtain ⟨first, rest, split⟩ := List.exists_cons_of_ne_nil (Bytes.splitOn_ne_nil slash above)
    have pieces : Bytes.splitOn slash p.bytes = first :: (rest ++ name :: fillers) := by
      have whole : p.bytes = (above ++ slash :: name) ++ fillers.flatMap (slash :: ·) := by
        rw [spelled]
        simp
      rw [whole, Bytes.splitOn_flatMap _ clean, Bytes.splitOn_append_separator, split,
        Bytes.splitOn_of_not_mem ordinary.unsplit]
      simp
    have before : Bytes.splitOn slash (above ++ [slash]) = first :: (rest ++ [[]]) := by
      rw [Bytes.splitOn_append_separator, split]
      rfl
    have rooted : p.isAbsolute = (⟨above ++ [slash]⟩ : Path).isAbsolute := by
      cases above <;> simp [isAbsolute, spelled]
    rw [parts_of_splitOn pieces, parts_of_splitOn before, rooted, List.filterMap_append,
      List.filterMap_append, List.filterMap_cons, ordinary.ofSegment?, silent]
    simp [Part.ofSegment?, isFiller]

theorem fileName? (ends : p.EndsIn front name) : p.fileName? = some name :=
  fileName?_of_parts ends.parts

end EndsIn

theorem trimFiller_append (l : List Bytes) : ∃ fillers,
    (∀ filler ∈ fillers, isFiller filler = true) ∧ l = trimFiller l ++ fillers := by
  refine ⟨(l.reverse.takeWhile isFiller).reverse, ?_, ?_⟩
  · intro filler member
    exact List.all_eq_true.1 List.all_takeWhile filler (List.mem_reverse.1 member)
  · rw [trimFiller, ← List.reverse_append, List.takeWhile_append_dropWhile, List.reverse_reverse]

/-- A path whose last part is a name is spelled so that it ends in that name. -/
theorem endsIn_of_fileName? {p : Path} {name : Bytes} (named : p.fileName? = some name) :
    ∃ front, p.EndsIn front name := by
  have last := getLast?_parts named
  obtain ⟨front, rest, split⟩ : ∃ front rest, p.segments = (front, rest) := ⟨_, _, rfl⟩
  have clean := segments_clean split
  obtain ⟨fillers, filler, whole⟩ := trimFiller_append rest
  have spelled : p.bytes = Bytes.joinWith slash (front :: rest) := by
    rw [← segments_eq split, Bytes.joinWith_splitOn]
  rcases List.eq_nil_or_concat (trimFiller rest) with blank | ⟨kept, final, trimmed⟩
  · -- Nothing but the stretch in front says anything, so it is the name.
    have only := parts_eq split
    have silent : rest.filterMap Part.ofSegment? = [] := by
      rw [← filterMap_trimFiller, blank]
      rfl
    rw [silent, List.append_nil] at only
    have said : frontPart? p.isAbsolute front = some (.name name) := by
      cases front_part : frontPart? p.isAbsolute front with
      | none => simp [only, front_part] at last
      | some part => simpa [only, front_part] using last
    obtain ⟨rfl, ordinary⟩ := ordinary_of_frontPart? (clean front List.mem_cons_self) said
    refine ⟨[], ordinary, .inl rfl, fillers, filler, ?_⟩
    rw [blank, List.nil_append] at whole
    have joined := Bytes.joinWith_append slash front [] fillers
    rw [spelled, whole]
    simpa [Bytes.joinWith] using joined
  · rw [List.concat_eq_append] at trimmed
    obtain ⟨q, -, parts⟩ := parts_parent split trimmed
    obtain ⟨part, said⟩ := ofSegment?_of_not_filler (not_filler_of_trimFiller trimmed)
    rw [said, Option.toList_some] at parts
    rw [parts, List.getLast?_concat, Option.some.injEq] at last
    have within : final ∈ rest :=
      mem_of_mem_trimFiller (trimmed ▸ List.mem_append_right _ (by simp))
    obtain ⟨rfl, ordinary⟩ := Part.ofSegment?_eq_name
      (clean final (List.mem_cons_of_mem _ within)) (last ▸ said)
    refine ⟨Bytes.joinWith slash (front :: kept) ++ [slash], ordinary, .inr (by simp), fillers,
      filler, ?_⟩
    have joined := Bytes.joinWith_append slash front kept (final :: fillers)
    rw [spelled, whole, trimmed]
    simpa [List.append_assoc] using joined

theorem parts_join {p : Path} {name : Bytes} (ordinary : Ordinary name) :
    (p.join ⟨name⟩).parts = p.parts ++ [.name name] := by
  have relative : (⟨name⟩ : Path).isAbsolute = false := by
    refine Bool.eq_false_iff.2 fun absolute => ordinary.unsplit ?_
    exact List.mem_of_head? (by simpa [isAbsolute] using absolute)
  have nothing : ∀ b : Bytes, b ++ name = b ++ name ++ ([] : List Bytes).flatMap (slash :: ·) :=
    fun b => by simp
  unfold join
  rw [relative, if_neg Bool.false_ne_true]
  by_cases apart : p.bytes = [] ∨ p.bytes.getLast? = some slash
  · rw [if_pos apart]
    exact EndsIn.parts ⟨ordinary, apart, [], by simp, nothing _⟩
  · rw [if_neg apart]
    obtain ⟨some_bytes, -⟩ := not_or.1 apart
    have ends : (⟨p.bytes ++ slash :: name⟩ : Path).EndsIn (p.bytes ++ [slash]) name :=
      ⟨ordinary, .inr (by simp), [], by simp, by simp⟩
    rw [ends.parts, parts_append_slash some_bytes]

end Path

namespace Target

open RoleWatch.Path

/-- The pieces of a path fit together again, and any path with the same parts has the same two. -/
structure Splits (p : Path) (t : Target) : Prop where
  file : t.file = p
  spelled : ∃ front, front ≠ [] ∧ p.EndsIn front t.name ∧ (⟨front⟩ : Path).parts = t.dir.parts
  dir : t.dir.bytes ≠ []
  joined : (t.dir.join ⟨t.name⟩).parts = p.parts
  again : ∃ t', ofPath (t.dir.join ⟨t.name⟩) = .ok t' ∧ t'.dir.parts = t.dir.parts ∧
    t'.name = t.name
  alike : ∀ q : Path, q.parts = p.parts →
    q.fileName? = some t.name ∧ ∃ above, q.parent? = some above ∧ above.parts = t.dir.parts

theorem exists_of_parts {p : Path} {above : List Part} {name : Bytes} (more : above ≠ [])
    (ends : p.parts = above ++ [.name name]) :
    ∃ t, ofPath p = .ok t ∧ t.dir.parts = above ∧ t.name = name := by
  obtain ⟨t, split⟩ := exists_ofPath_iff.2 ⟨above, name, more, ends⟩
  obtain ⟨rfl, parts⟩ := parts_of_ofPath split
  obtain ⟨same, last⟩ := List.append_inj' (parts.symm.trans ends) rfl
  exact ⟨t, split, same, by simpa using last⟩

theorem exists_ofPath_iff_endsIn {p : Path} :
    (∃ t, ofPath p = .ok t) ↔ ∃ front name, front ≠ [] ∧ p.EndsIn front name := by
  rw [exists_ofPath_iff]
  constructor
  · rintro ⟨above, name, more, parts⟩
    obtain ⟨front, ends⟩ := endsIn_of_fileName? (fileName?_of_parts parts)
    refine ⟨front, name, ?_, ends⟩
    rintro rfl
    have same := List.append_cancel_right (ends.parts.symm.trans parts)
    exact more (same.symm.trans (parts_eq_nil_iff.2 rfl))
  · rintro ⟨front, name, more, ends⟩
    exact ⟨_, name, fun none => more (parts_eq_nil_iff.1 none), ends.parts⟩

theorem splits_of_ofPath {p : Path} {t : Target} (split : ofPath p = .ok t) : Splits p t := by
  obtain ⟨file, parts⟩ := parts_of_ofPath split
  rw [file] at parts
  obtain ⟨front, ends⟩ := endsIn_of_fileName? (fileName?_of_parts parts)
  have before : (⟨front⟩ : Path).parts = t.dir.parts :=
    List.append_cancel_right (ends.parts.symm.trans parts)
  have more : t.dir.parts ≠ [] := by
    obtain ⟨above, name, more, other⟩ := exists_ofPath_iff.1 ⟨t, split⟩
    rwa [(List.append_inj' (parts.symm.trans other) rfl).1]
  have joined := (parts_join (p := t.dir) ends.ordinary)
  constructor
  case file => exact file
  case spelled =>
    refine ⟨front, ?_, ends, before⟩
    rintro rfl
    exact more (before.symm.trans (parts_eq_nil_iff.2 rfl))
  case dir => exact fun none => more (parts_eq_nil_iff.2 none)
  case joined => rw [joined, parts]
  case again => exact exists_of_parts more joined
  case alike =>
    intro q same
    have named := fileName?_of_parts (same.trans parts)
    obtain ⟨above, parent, whole⟩ := parts_of_fileName? named
    exact ⟨named, above, parent, List.append_cancel_right (whole.symm.trans (same.trans parts))⟩

/-- Why a path cannot be split: it does not end in a name, or the name is all there is. -/
theorem ofPath_eq_error_iff {p : Path} {objection : Objection} :
    ofPath p = .error objection ↔
      (objection = .namesNoFile p ∧ ∀ front name, ¬ p.EndsIn front name) ∨
        (objection = .hasNoParent p ∧ ∃ name, p.EndsIn [] name) := by
  cases named : p.fileName? with
  | none =>
    have unnamed : ∀ front name, ¬ p.EndsIn front name := by
      intro front name ends
      simp [ends.fileName?] at named
    simp [ofPath, named, unnamed, eq_comm]
  | some name =>
    obtain ⟨front, ends⟩ := endsIn_of_fileName? named
    obtain ⟨dir, parent, parts⟩ := parts_of_fileName? named
    have before : (⟨front⟩ : Path).parts = dir.parts :=
      List.append_cancel_right (ends.parts.symm.trans parts)
    have bare : dir.bytes = [] ↔ ∃ name, p.EndsIn [] name := by
      constructor
      · intro none
        have nothing : front = [] :=
          parts_eq_nil_iff.1 (before.trans (parts_eq_nil_iff.2 none))
        exact ⟨name, nothing ▸ ends⟩
      · rintro ⟨other, alone⟩
        have same := congrArg List.dropLast (alone.parts.symm.trans parts)
        rw [List.dropLast_concat, List.dropLast_concat] at same
        exact parts_eq_nil_iff.1 (same.symm.trans (parts_eq_nil_iff.2 rfl))
    have some_name : ¬ ∀ front name, ¬ p.EndsIn front name := fun none => none front name ends
    simp only [ofPath, named, parent, List.isEmpty_iff, ← bare]
    by_cases none : dir.bytes = []
    · simp [none, some_name, eq_comm]
    · simp [none, some_name]

/-- A path is split exactly if its spelling ends in an ordinary name with something in front of it.
The pieces then make up the path again, and are those of every spelling of its parts. Otherwise the
settings are refused, and the message says whether a name is missing or what stands before it. -/
theorem split_exactly (p : Path) :
    ((∃ t, ofPath p = .ok t) ↔ ∃ front name, front ≠ [] ∧ p.EndsIn front name) ∧
    (∀ t, ofPath p = .ok t → Splits p t) ∧
    (∀ objection, ofPath p = .error objection ↔
      (objection = .namesNoFile p ∧ ∀ front name, ¬ p.EndsIn front name) ∨
        (objection = .hasNoParent p ∧ ∃ name, p.EndsIn [] name)) ∧
    (Failure.refused (.namesNoFile p)).message =
      "Configuration error: " ++ (p.display ++ " does not name a file") ∧
    (Failure.refused (.hasNoParent p)).message =
      "Configuration error: " ++ (p.display ++ " has no parent directory") :=
  ⟨exists_ofPath_iff_endsIn, fun _ => splits_of_ofPath, fun _ => ofPath_eq_error_iff, rfl, rfl⟩

/-- `//e/.//f/./` stands for `f` in `/e`, however either is spelled. -/
theorem split_exactly_of_loose_spelling :
    let loose : Path := ⟨[0x2f, 0x2f, 0x65, 0x2f, 0x2e, 0x2f, 0x2f, 0x66, 0x2f, 0x2e, 0x2f]⟩
    ∃ t, ofPath loose = .ok t ∧ t.dir.bytes = [0x2f, 0x2f, 0x65] ∧ t.name = [0x66] ∧
      (⟨[0x2f, 0x65, 0x2f, 0x66]⟩ : Path).parts = loose.parts ∧ Splits loose t := by
  intro loose
  have split : ofPath loose = .ok ⟨loose, ⟨[0x2f, 0x2f, 0x65]⟩, [0x66]⟩ := rfl
  exact ⟨_, split, rfl, rfl, by decide, (split_exactly loose).2.1 _ split⟩

end Target

end RoleWatch
