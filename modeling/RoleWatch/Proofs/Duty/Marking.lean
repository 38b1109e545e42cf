import RoleWatch.Host

/-!
Which contents declare a marker. A marker has no newline in it, so it makes no difference whether
the line is looked at or the whole content.
-/
namespace RoleWatch

theorem Marker.text_of_ofText {text : String} {marker : Marker}
    (taken : ofText text = .ok marker) : marker.text = text := by
  unfold ofText at taken
  split at taken
  · cases taken
    rfl
  · simp at taken

theorem Bytes.newline_mem_encode {c : Char} (member : FirstLine.newline ∈ String.utf8EncodeChar c) :
    c = '\n' := by
  have byte : FirstLine.newline.toNat = 10 := rfl
  have code : c.val.toNat = 10 := by
    -- Every byte of a longer encoding is 128 or more.
    simp only [String.utf8EncodeChar] at member
    repeat' split at member
    all_goals
      simp only [List.mem_cons, List.not_mem_nil, or_false, ← UInt8.toNat_inj, byte,
        UInt8.toNat_ofNat'] at member
      omega
  exact Char.ext (UInt32.toNat_inj.1 code)

theorem Marker.oneLine (marker : Marker) : FirstLine.newline ∉ Bytes.ofText marker.text := by
  intro member
  obtain ⟨c, listed, encoded⟩ := List.mem_flatMap.1 member
  have blank := List.any_eq_false.1 marker.noBlank c listed
  rw [Bytes.newline_mem_encode encoded] at blank
  exact blank (by decide)

namespace Marker

variable {front line : Bytes} {n : Nat}

theorem stripFront?_take (fits : front.length ≤ n) :
    stripFront? front (line.take n) =
      (stripFront? front line).map (List.take (n - front.length)) := by
  induction front generalizing line n with
  | nil => simp [stripFront?]
  | cons b front ih =>
    obtain ⟨m, rfl⟩ : ∃ m, n = m + 1 := Nat.exists_eq_succ_of_ne_zero (by simp at fits; omega)
    cases line with
    | nil => simp [stripFront?]
    | cons c line =>
      have fits : front.length ≤ m := by simpa using fits
      by_cases agree : b = c
      · simp [stripFront?, agree, ih fits]
      · simp [stripFront?, agree]

theorem stripFront?_upToNewline (oneLine : FirstLine.newline ∉ front) :
    stripFront? front (FirstLine.upToNewline line) =
      (stripFront? front line).map FirstLine.upToNewline := by
  induction front generalizing line with
  | nil => simp [stripFront?]
  | cons b front ih =>
    simp only [List.mem_cons, not_or] at oneLine
    cases line with
    | nil => simp [stripFront?, FirstLine.upToNewline]
    | cons c line =>
      by_cases ends : c = FirstLine.newline
      · have differs : b ≠ c := by
          rw [ends]
          exact Ne.symm oneLine.1
        simp [FirstLine.upToNewline, ends, stripFront?, ends ▸ differs]
      · by_cases agree : b = c
        · simp [FirstLine.upToNewline, ends, stripFront?, agree, ih oneLine.2]
        · simp [FirstLine.upToNewline, ends, stripFront?, agree]

theorem endsWord_take (room : 0 < n) : endsWord (line.take n) = endsWord line := by
  cases line with
  | nil => simp
  | cons b line =>
    obtain ⟨m, rfl⟩ := Nat.exists_eq_succ_of_ne_zero (Nat.ne_of_gt room)
    rfl

theorem endsWord_upToNewline : endsWord (FirstLine.upToNewline line) = endsWord line := by
  cases line with
  | nil => rfl
  | cons b line =>
    unfold FirstLine.upToNewline
    split <;> rfl

@[simp] theorem roleOf_upToNewline (marker : Marker) :
    marker.roleOf (FirstLine.upToNewline line) = marker.roleOf line := by
  unfold roleOf
  rw [stripFront?_upToNewline marker.oneLine]
  cases stripFront? (Bytes.ofText marker.text) line with
  | none => rfl
  | some rest => simp only [Option.map_some, endsWord_upToNewline]

theorem roleOf_take {marker : Marker} (room : (Bytes.ofText marker.text).length < n) :
    marker.roleOf (line.take n) = marker.roleOf line := by
  have left : 0 < n - (Bytes.ofText marker.text).length := by omega
  unfold roleOf
  rw [stripFront?_take (Nat.le_of_lt room)]
  cases stripFront? (Bytes.ofText marker.text) line with
  | none => rfl
  | some rest => simp only [Option.map_some, endsWord_take left]

theorem roleOf_line {marker : Marker} (room : (Bytes.ofText marker.text).length < n) :
    marker.roleOf (FirstLine.upToNewline (line.take n)) = marker.roleOf line := by
  rw [roleOf_upToNewline, roleOf_take room]

theorem roleOf_nil (marker : Marker) : marker.roleOf [] = .standby := by
  have named : Bytes.ofText marker.text ≠ [] := by
    intro blank
    have empty : ∀ c, c ∉ marker.text.toList := by
      simpa [Bytes.ofText, String.utf8EncodeChar_ne_nil] using blank
    exact marker.nonempty (String.toList_eq_nil_iff.1 (List.eq_nil_iff_forall_not_mem.2 empty))
  unfold roleOf
  cases front : Bytes.ofText marker.text with
  | nil => exact absurd front named
  | cons b rest => rfl

end Marker

/-- A content begins with a token and goes on, if at all, with something that ends a word. -/
def Declares (token content : Bytes) : Prop :=
  ∃ rest, content = token ++ rest ∧
    (rest = [] ∨ ∃ b more, rest = b :: more ∧ b ∈ [0x20, 0x09, 0x0a, 0x0b, 0x0c, 0x0d, 0x00])

theorem Marker.endsWord_iff {rest : Bytes} : endsWord rest = true ↔ rest = [] ∨
    ∃ b more, rest = b :: more ∧ b ∈ [0x20, 0x09, 0x0a, 0x0b, 0x0c, 0x0d, 0x00] := by
  cases rest <;> simp [endsWord, separators]

theorem declares_iff {token content : Bytes} : Declares token content ↔
    ∃ rest, Marker.stripFront? token content = some rest ∧ Marker.endsWord rest = true :=
  exists_congr fun _ =>
    and_congr Marker.stripFront?_eq_some_iff.symm Marker.endsWord_iff.symm

instance (token content : Bytes) : Decidable (Declares token content) :=
  decidable_of_iff ((Marker.stripFront? token content).any Marker.endsWord = true) <| by
    rw [declares_iff, Option.any_eq_true]

theorem Marker.roleOf_eq_master_iff {marker : Marker} {content : Bytes} :
    marker.roleOf content = .master ↔ Declares (Bytes.ofText marker.text) content := by
  rw [declares_iff]
  unfold roleOf
  cases stripFront? (Bytes.ofText marker.text) content with
  | none => simp
  | some rest => cases ended : endsWord rest <;> simp [ended]

/-- The order for a content tells whether it declares the marker. -/
theorem Verb.ofRole_roleOf (marker : Marker) (content : Bytes) :
    ofRole (marker.roleOf content) =
      if Declares (Bytes.ofText marker.text) content then .enable else .disable := by
  simp only [← Marker.roleOf_eq_master_iff]
  cases marker.roleOf content with
  | master => rfl
  | standby => rfl

end RoleWatch
