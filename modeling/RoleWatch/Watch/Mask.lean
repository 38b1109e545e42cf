import RoleWatch.Text.Record

/-!
Kinds of change to a file or directory, and sets of them. A set is known by the flags it has:
`Mask.ext_has` says so, and each operation has one lemma about `has`.
-/
namespace RoleWatch

inductive Flag where
  | modify
  | create
  | delete
  | movedFrom
  | movedTo
  | deleteSelf
  | moveSelf
  | unmount
  | ignored
  | overflow
  deriving DecidableEq

namespace Flag

def all : List Flag :=
  [.modify, .create, .delete, .movedFrom, .movedTo, .deleteSelf, .moveSelf, .unmount, .ignored,
   .overflow]

def index : Flag → Fin 10
  | .modify => 0
  | .create => 1
  | .delete => 2
  | .movedFrom => 3
  | .movedTo => 4
  | .deleteSelf => 5
  | .moveSelf => 6
  | .unmount => 7
  | .ignored => 8
  | .overflow => 9

def name : Flag → String
  | .modify => "MODIFY"
  | .create => "CREATE"
  | .delete => "DELETE"
  | .movedFrom => "MOVED_FROM"
  | .movedTo => "MOVED_TO"
  | .deleteSelf => "DELETE_SELF"
  | .moveSelf => "MOVE_SELF"
  | .unmount => "UNMOUNT"
  | .ignored => "IGNORED"
  | .overflow => "Q_OVERFLOW"

def ofName? (name : String) : Option Flag := all.find? fun f => f.name = name

end Flag

/-- A set of kinds of change. -/
structure Mask where
  bits : BitVec 10
  deriving DecidableEq

namespace Mask

def has (m : Mask) (f : Flag) : Bool := m.bits.getLsbD f.index

instance : EmptyCollection Mask := ⟨⟨0⟩⟩

instance : Union Mask := ⟨fun a b => ⟨a.bits ||| b.bits⟩⟩

instance : Inter Mask := ⟨fun a b => ⟨a.bits &&& b.bits⟩⟩

@[simp] theorem has_empty (f : Flag) : (∅ : Mask).has f = false := by cases f <;> rfl

@[simp] theorem has_union (a b : Mask) (f : Flag) : (a ∪ b).has f = (a.has f || b.has f) :=
  BitVec.getLsbD_or

@[simp] theorem has_inter (a b : Mask) (f : Flag) : (a ∩ b).has f = (a.has f && b.has f) :=
  BitVec.getLsbD_and

/-- A set is known by its flags. -/
theorem ext_has {a b : Mask} (h : ∀ f, a.has f = b.has f) : a = b := by
  have bits : a.bits = b.bits := by
    apply BitVec.eq_of_getLsbD_eq
    intro i hi
    have named : ∀ j : Fin 10, ∃ f ∈ Flag.all, f.index = j := by decide
    obtain ⟨f, _, place⟩ := named ⟨i, hi⟩
    have agree := h f
    rwa [has, has, place] at agree
  cases a
  cases b
  simp_all

def ofFlags (flags : List Flag) : Mask := ⟨flags.foldl (fun bits f => bits ||| 1 <<< f.index.val) 0⟩

def flags (m : Mask) : List Flag := Flag.all.filter m.has

def meets (a b : Mask) : Bool := a ∩ b != ∅

def directoryInterest : Mask := ofFlags [.create, .movedTo, .moveSelf, .deleteSelf]

def fileInterest : Mask := ofFlags [.modify, .moveSelf, .deleteSelf]

def gone : Mask := ofFlags [.deleteSelf, .moveSelf, .unmount]

def appeared : Mask := ofFlags [.create, .movedTo]

/-- Delivered whether or not it was asked for. -/
def unsolicited : Mask := ofFlags [.unmount, .ignored, .overflow]

def overflow : Mask := ofFlags [.overflow]

def describe (m : Mask) : String :=
  Record.tagged "EventMask" <|
    if m = ∅ then "0x0" else String.intercalate " | " (m.flags.map Flag.name)

theorem meets_iff {a b : Mask} : a.meets b = true ↔ ∃ f, a.has f = true ∧ b.has f = true := by
  constructor
  · intro met
    refine Classical.byContradiction fun none => ?_
    have empty : a ∩ b = ∅ := ext_has fun f => by
      cases inA : a.has f <;> cases inB : b.has f <;> simp_all
    simp [meets, empty] at met
  · rintro ⟨f, inA, inB⟩
    have differs : a ∩ b ≠ ∅ := fun same => by
      have both : (a ∩ b).has f = true := by simp [inA, inB]
      simp [same] at both
    simpa [meets] using differs

theorem has_bit (f g : Flag) : (⟨1 <<< f.index.val⟩ : Mask).has g = decide (g = f) := by
  cases f <;> cases g <;> decide

@[simp] theorem has_ofFlags (flags : List Flag) (f : Flag) :
    (ofFlags flags).has f = decide (f ∈ flags) := by
  have gathered : ∀ bits : BitVec 10,
      (⟨flags.foldl (fun bits f => bits ||| 1 <<< f.index.val) bits⟩ : Mask).has f =
        ((⟨bits⟩ : Mask).has f || decide (f ∈ flags)) := by
    induction flags with
    | nil => simp
    | cons g rest ih =>
      intro bits
      have added : (⟨bits ||| 1 <<< g.index.val⟩ : Mask) = ⟨bits⟩ ∪ ⟨1 <<< g.index.val⟩ := rfl
      rw [List.foldl_cons, ih, added, has_union, has_bit]
      simp [Bool.or_assoc]
  have start : (⟨0⟩ : Mask).has f = false := has_empty f
  rw [ofFlags, gathered, start, Bool.false_or]

theorem meets_ofFlags (m : Mask) (flags : List Flag) :
    m.meets (ofFlags flags) = flags.any m.has := by
  rw [Bool.eq_iff_iff, meets_iff]
  simp [and_comm]

end Mask

end RoleWatch
