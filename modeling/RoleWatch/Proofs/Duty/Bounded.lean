import RoleWatch.Proofs.Duty.Line

/-!
The bounded first line in one shot: what it is, told from the bytes that an open file holds, the
way it ends and the limit, and without the reads that bring the bytes.
-/
namespace RoleWatch.FirstLine

/-- What the first line of these bytes comes to within a limit, if after them the file ends by
itself or with a failure. -/
inductive Within (limit : Nat) (held : Bytes) (ending : Option IoError) :
    Except IoError Bytes → Prop where
  | line {front back : Bytes} (split : held = front ++ newline :: back)
      (first : newline ∉ front) (fits : front.length < limit) :
      Within limit held ending (.ok (front ++ [newline]))
  | cut (unended : newline ∉ held.take limit) (room : 0 < limit) (long : limit ≤ held.length) :
      Within limit held ending (.ok (held.take limit))
  | failed {cause : IoError} (unended : newline ∉ held) (short : held.length < limit)
      (stopped : ending = some cause) : Within limit held ending (.error cause)
  | rest (unended : newline ∉ held) (short : held.length < limit) (ended : ending = none)
      (something : held ≠ []) : Within limit held ending (.ok held)
  | blank (short : held.length < limit) (ended : ending = none) (empty : held = []) :
      Within limit held ending (.error nothing)
  | closed (full : limit = 0) : Within limit held ending (.error nothing)

variable {limit : Nat} {held front back : Bytes} {ending : Option IoError} {source : Source}

theorem take_split (fits : front.length < limit) :
    ∃ more, (front ++ newline :: back).take limit = front ++ newline :: more := by
  obtain ⟨room, rfl⟩ := Nat.exists_eq_add_of_lt fits
  refine ⟨back.take room, ?_⟩
  rw [List.take_append, List.take_of_length_le (by omega)]
  have left : front.length + room + 1 - front.length = room + 1 := by omega
  rw [left, List.take_succ_cons]

theorem upToNewline_split (first : newline ∉ front) :
    upToNewline (front ++ newline :: back) = front ++ [newline] := by
  rw [upToNewline_append, if_neg first]
  simp [upToNewline]

theorem exists_first_newline (ends : newline ∈ held) :
    ∃ front back, held = front ++ newline :: back ∧ newline ∉ front := by
  induction held with
  | nil => exact absurd ends List.not_mem_nil
  | cons b rest ih =>
    by_cases here : b = newline
    · exact ⟨[], rest, by simp [here], List.not_mem_nil⟩
    · have later : newline ∈ rest := by
        simpa [Ne.symm here] using ends
      obtain ⟨front, back, split, first⟩ := ih later
      refine ⟨b :: front, back, by simp [split], ?_⟩
      simp [Ne.symm here, first]

theorem read_of_collect {line : Bytes} (something : line ≠ [])
    (collected : collect [] limit source = .ok line) : read source limit = .ok line := by
  unfold read
  rw [collected]
  cases line with
  | nil => exact absurd rfl something
  | cons b rest => rfl

theorem read_of_within {result : Except IoError Bytes}
    (within : Within limit source.content source.failure? result) :
    read source limit = result := by
  have collected := collect_eq [] limit source
  cases within with
  | @line front back split first fits =>
    obtain ⟨more, taken⟩ :
        ∃ more, (front ++ newline :: back).take limit = front ++ newline :: more := take_split fits
    rw [split, taken] at collected
    have ends : newline ∈ front ++ newline :: more := by simp
    rw [if_neg fun both => both.1 ends, upToNewline_split first] at collected
    exact read_of_collect (by simp) collected
  | cut unended room long =>
    have full : ¬ source.content.length < limit := Nat.not_lt_of_le long
    rw [if_neg fun both => full both.2, upToNewline_of_not_mem unended] at collected
    refine read_of_collect ?_ collected
    intro none
    have length := congrArg List.length none
    rw [List.length_take, List.length_nil] at length
    omega
  | @failed cause unended short stopped =>
    rw [List.take_of_length_le (Nat.le_of_lt short), if_pos ⟨unended, short⟩, stopped] at collected
    unfold read
    rw [collected]
  | rest unended short ended something =>
    rw [List.take_of_length_le (Nat.le_of_lt short), if_pos ⟨unended, short⟩, ended] at collected
    exact read_of_collect something collected
  | blank short ended empty =>
    rw [List.take_of_length_le (Nat.le_of_lt short), ended, empty] at collected
    unfold read
    rw [collected, if_pos (by simpa [empty] using short)]
    rfl
  | closed full =>
    subst full
    unfold read
    rw [collected]
    simp [upToNewline]

theorem exists_within (limit : Nat) (held : Bytes) (ending : Option IoError) :
    ∃ result, Within limit held ending result := by
  rcases Nat.eq_zero_or_pos limit with full | room
  · exact ⟨_, .closed full⟩
  · by_cases ends : newline ∈ held.take limit
    · obtain ⟨front, back, split, first⟩ := exists_first_newline ends
      have whole : held = front ++ newline :: (back ++ held.drop limit) := by
        rw [← List.cons_append, ← List.append_assoc, ← split, List.take_append_drop]
      have length := congrArg List.length split
      rw [List.length_take, List.length_append, List.length_cons] at length
      exact ⟨_, .line whole first (by omega)⟩
    · rcases Nat.lt_or_ge held.length limit with short | long
      · rw [List.take_of_length_le (Nat.le_of_lt short)] at ends
        cases ending with
        | some cause => exact ⟨_, .failed ends short rfl⟩
        | none =>
          by_cases empty : held = []
          · exact ⟨_, .blank short rfl empty⟩
          · exact ⟨_, .rest ends short rfl empty⟩
      · exact ⟨_, .cut ends room long⟩

theorem read_eq_iff {result : Except IoError Bytes} :
    read source limit = result ↔ Within limit source.content source.failure? result := by
  constructor
  · rintro rfl
    obtain ⟨result, within⟩ := exists_within limit source.content source.failure?
    rwa [read_of_within within]
  · exact read_of_within

/-- Bytes in which the line ends or the limit is reached settle the line, whatever follows them. -/
theorem Within.of_settled {known more more' : Bytes} {ending' : Option IoError}
    {result : Except IoError Bytes}
    (settled : newline ∈ known.take limit ∨ limit ≤ known.length)
    (within : Within limit (known ++ more) ending result) :
    Within limit (known ++ more') ending' result := by
  have taken (added : Bytes) (long : limit ≤ known.length) :
      (known ++ added).take limit = known.take limit :=
    List.take_append_of_le_length long
  cases within with
  | @line front back split first fits =>
    have short : ¬ known <+: front := by
      intro within_front
      rcases settled with ends | long
      · exact first (within_front.subset (List.mem_of_mem_take ends))
      · have bound := within_front.length_le
        omega
    -- So the newline that ends the line is one of the known bytes.
    rcases List.append_eq_append_iff.1 split with ⟨gap, longer, -⟩ | ⟨last, whole, tail⟩
    · exact absurd ⟨gap, longer.symm⟩ short
    · cases last with
      | nil => exact absurd ⟨[], by simp [whole]⟩ short
      | cons b last =>
        obtain ⟨rfl, -⟩ := List.cons.inj tail
        have split' : known ++ more' = front ++ newline :: (last ++ more') := by simp [whole]
        exact .line split' first fits
  | cut unended room long =>
    rcases settled with ends | reached
    · refine absurd ?_ unended
      rw [List.take_append]
      exact List.mem_append_left _ ends
    · rw [taken more reached] at unended ⊢
      rw [← taken more' reached] at unended ⊢
      exact .cut unended room (by rw [List.length_append]; omega)
  | failed unended short stopped =>
    rw [List.length_append] at short
    rcases settled with ends | reached
    · exact absurd (List.mem_append_left _ (List.mem_of_mem_take ends)) unended
    · omega
  | rest unended short ended something =>
    rw [List.length_append] at short
    rcases settled with ends | reached
    · exact absurd (List.mem_append_left _ (List.mem_of_mem_take ends)) unended
    · omega
  | blank short ended empty =>
    obtain ⟨rfl, rfl⟩ := List.append_eq_nil_iff.1 empty
    rcases settled with ends | reached
    · simp at ends
    · exact .closed (by simpa using reached)
  | closed full => exact .closed full

/-- The first line is what the bytes of a file, its ending and the limit make it: how they fall into
reads and where reads are interrupted makes no difference, and neither does anything behind the end
of the line or the limit. -/
theorem line_of_content (source : Source) (limit : Nat) :
    (∀ result, read source limit = result ↔
      Within limit source.content source.failure? result) ∧
    nothing.kind = .unexpectedEof ∧
    (∀ source' : Source, source'.content = source.content → source'.failure? = source.failure? →
      read source' limit = read source limit) ∧
    ∀ (source' : Source) (known more more' : Bytes), source.content = known ++ more →
      source'.content = known ++ more' →
      (newline ∈ known.take limit ∨ limit ≤ known.length) →
      read source' limit = read source limit := by
  refine ⟨fun _ => read_eq_iff, rfl, ?_, ?_⟩
  · intro source' same ending
    rw [read_eq_iff, same, ending, ← read_eq_iff]
  · intro source' known more more' holds holds' settled
    have within : Within limit (known ++ more) source.failure? (read source limit) := by
      rw [← holds, ← read_eq_iff]
    rw [read_eq_iff, holds']
    exact within.of_settled settled

/-- The newline is the last byte within the limit and comes in the third read, after an
interruption; what comes after it fails. Another file gives the same bytes in one read and more. -/
theorem line_of_content_in_pieces :
    let source : Source := [.data [0x61], .failed (.bare .interrupted), .data [0x62, newline],
      .failed (.bare .other)]
    let other : Source := [.data [0x61, 0x62, newline, 0x63]]
    read source 3 = .ok [0x61, 0x62, newline] ∧ read other 3 = read source 3 ∧
      read source 4 = read source 3 := by
  intro source other
  have told := (line_of_content source 3).1
  have split : source.content = [0x61, 0x62] ++ newline :: [] := rfl
  have line : Within 3 source.content source.failure? (.ok [0x61, 0x62, newline]) :=
    .line split (by decide) (by decide)
  have longer : Within 4 source.content source.failure? (.ok [0x61, 0x62, newline]) :=
    .line split (by decide) (by decide)
  have same := (line_of_content source 3).2.2.2 other [0x61, 0x62, newline] [] [0x63] rfl rfl
    (.inl (by decide))
  refine ⟨(told _).2 line, same, ?_⟩
  rw [(told _).2 line]
  exact ((line_of_content source 4).1 _).2 longer

end RoleWatch.FirstLine
