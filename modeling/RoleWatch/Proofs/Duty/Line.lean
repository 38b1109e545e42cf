import RoleWatch.Duty.FirstLine

/-!
The first line of an open file by what the file holds. How the bytes fall into chunks, and where
reads are interrupted, makes no difference.
-/
namespace RoleWatch

namespace Source

/-- What an open file holds: the bytes up to the first empty chunk or the first failure that is no
mere interruption. -/
def content : Source → Bytes
  | [] => []
  | .failed cause :: rest => if cause.kind = .interrupted then content rest else []
  | .data bytes :: rest => if bytes = [] then [] else bytes ++ content rest

/-- The failure that ends an open file, if it does not end by itself. -/
def failure? : Source → Option IoError
  | [] => none
  | .failed cause :: rest => if cause.kind = .interrupted then failure? rest else some cause
  | .data bytes :: rest => if bytes = [] then none else failure? rest

end Source

namespace FirstLine

theorem upToNewline_append (line rest : Bytes) :
    upToNewline (line ++ rest) =
      if newline ∈ line then upToNewline line else line ++ upToNewline rest := by
  induction line with
  | nil => simp
  | cons b line ih =>
    by_cases ends : b = newline
    · simp [upToNewline, ends]
    · simp only [List.cons_append, upToNewline, if_neg ends, ih, List.mem_cons, Ne.symm ends,
        false_or]
      split <;> rfl

theorem upToNewline_of_not_mem {line : Bytes} (unended : newline ∉ line) :
    upToNewline line = line := by
  simpa [upToNewline, unended] using upToNewline_append line []

theorem upToNewline_eq_nil_iff {line : Bytes} : upToNewline line = [] ↔ line = [] := by
  cases line with
  | nil => simp [upToNewline]
  | cons b rest =>
    unfold upToNewline
    split <;> simp

/-- What is collected of a line depends on what the file holds within the room, and on a failure
only if it comes before the room is full and before a newline. -/
theorem collect_eq (line : Bytes) (room : Nat) (source : Source) :
    collect line room source =
      if newline ∉ source.content.take room ∧ source.content.length < room then
        match source.failure? with
        | some cause => .error cause
        | none => .ok (line ++ source.content)
      else .ok (line ++ upToNewline (source.content.take room)) := by
  induction source generalizing line room with
  | nil => cases room <;> simp [collect, Source.content, Source.failure?, upToNewline]
  | cons chunk rest ih =>
    by_cases full : room = 0
    · simp [collect, full, upToNewline]
    · cases chunk with
      | failed cause =>
        by_cases interrupted : cause.kind = .interrupted
        · simp [collect, full, interrupted, Source.content, Source.failure?, ih]
        · have room : 0 < room := by omega
          simp [collect, full, interrupted, Source.content, Source.failure?, room]
      | data bytes =>
        by_cases ended : bytes = []
        · have room : 0 < room := by omega
          simp [collect, full, ended, Source.content, Source.failure?, room]
        · have some_taken : (bytes.take room).isEmpty = false := by simp [full, ended]
          have left : room - (bytes.take room).length = room - bytes.length := by
            rw [List.length_take]
            omega
          simp only [collect, if_neg full, some_taken, Source.content, Source.failure?,
            if_neg ended, List.take_append, List.length_append, List.mem_append,
            upToNewline_append, left, ih, List.contains_iff_mem]
          by_cases seen : newline ∈ bytes.take room
          · simp [seen]
          · have fits : (Source.content rest).length < room - bytes.length ↔
                bytes.length + (Source.content rest).length < room := by omega
            simp only [seen, false_or, if_false, fits, List.append_assoc, Bool.false_eq_true]
            split
            · rename_i short
              have whole : bytes.take room = bytes := List.take_of_length_le (by omega)
              rw [whole]
            · rfl

theorem read_eq {source : Source} (whole : source.failure? = none) {limit : Nat}
    (room : 0 < limit) : read source limit =
      if source.content = [] then .error nothing
      else .ok (upToNewline (source.content.take limit)) := by
  have collected :
      collect [] limit source = .ok (upToNewline (source.content.take limit)) := by
    rw [collect_eq, whole]
    split
    · rename_i short
      have all : source.content.take limit = source.content := List.take_of_length_le (by omega)
      rw [all] at short ⊢
      rw [upToNewline_of_not_mem short.1, List.nil_append]
    · rfl
  unfold read
  rw [collected]
  have unlimited : limit ≠ 0 := by omega
  cases line : upToNewline (source.content.take limit) with
  | nil => simp_all [upToNewline_eq_nil_iff]
  | cons b rest =>
    have something : source.content ≠ [] := by
      intro blank
      simp [blank, upToNewline] at line
    rw [if_neg something]

theorem eq_of_read {source : Source} {limit : Nat} {line : Bytes}
    (found : read source limit = .ok line) :
    line = upToNewline (source.content.take limit) := by
  have collected : collect [] limit source = .ok line := by
    unfold read at found
    split at found
    · simp at found
    · exact found
  rw [collect_eq] at collected
  split at collected
  · rename_i short
    split at collected
    · simp at collected
    · obtain rfl := Except.ok.inj collected
      have all : source.content.take limit = source.content := List.take_of_length_le (by omega)
      rw [all] at short ⊢
      rw [upToNewline_of_not_mem short.1, List.nil_append]
  · exact (Except.ok.inj collected).symm

end FirstLine

end RoleWatch
