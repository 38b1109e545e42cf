import RoleWatch.Text.Ranges

/-!
White space as Unicode's White_Space property has it, and cutting it off at both ends of a text.
-/
namespace RoleWatch.Blank

def ranges : Ranges :=
  [(0x9, 0xd), (0x20, 0x20), (0x85, 0x85), (0xa0, 0xa0), (0x1680, 0x1680), (0x2000, 0x200a),
   (0x2028, 0x2029), (0x202f, 0x202f), (0x205f, 0x205f), (0x3000, 0x3000)]

def isBlank (c : Char) : Bool := ranges.has c.toNat

def trimChars (cs : List Char) : List Char :=
  ((cs.dropWhile isBlank).reverse.dropWhile isBlank).reverse

def trim (text : String) : String := String.ofList (trimChars text.toList)

theorem dropWhile_blank_eq_nil_iff {cs : List Char} :
    cs.dropWhile isBlank = [] ↔ ∀ c ∈ cs, isBlank c = true := by
  induction cs with
  | nil => simp
  | cons c rest ih =>
    by_cases blank : isBlank c = true <;> simp [blank, ih]

theorem trimChars_eq_nil_iff {cs : List Char} :
    trimChars cs = [] ↔ ∀ c ∈ cs, isBlank c = true := by
  rw [← dropWhile_blank_eq_nil_iff, trimChars, List.reverse_eq_nil_iff,
    dropWhile_blank_eq_nil_iff]
  constructor
  · intro blank
    cases left : cs.dropWhile isBlank with
    | nil => rfl
    | cons c rest =>
      have isHead : cs.dropWhile isBlank ≠ [] := by simp [left]
      have notBlank := List.head_dropWhile_not isBlank isHead
      simp only [left, List.head_cons] at notBlank
      have isIn : c ∈ (cs.dropWhile isBlank).reverse := by simp [left]
      exact absurd (blank c isIn) (by simp [notBlank])
  · intro gone
    simp [gone]

end RoleWatch.Blank
