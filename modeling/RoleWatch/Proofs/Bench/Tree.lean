import RoleWatch.Bench.Tree

/-! What a tree of files answers after each change to it, place by place. -/
namespace RoleWatch.Bench

def Place.child (dir : Place) (name : Bytes) : Place := dir ++ [.name name]

namespace Place

@[simp] theorem above?_child (dir : Place) (name : Bytes) : (dir.child name).above? = some dir := by
  simp [above?, child]

theorem child_inj {dir : Place} {x y : Bytes} : dir.child x = dir.child y ↔ x = y := by
  simp [child]

theorem child_ne (dir : Place) (name : Bytes) : dir.child name ≠ dir := by
  simp [child]

theorem child_prefix_child {dir : Place} {x y : Bytes} : dir.child x <+: dir.child y ↔ x = y := by
  constructor
  · intro below
    have same := below.eq_of_length (by simp [child])
    exact child_inj.1 same
  · rintro rfl
    exact List.prefix_rfl

theorem not_child_prefix (dir : Place) (name : Bytes) : ¬ dir.child name <+: dir := by
  intro below
  have short := below.length_le
  simp only [child, List.length_append, List.length_singleton] at short
  omega

end Place

namespace Tree

theorem lookup_filter (f : Place → Bool) (nodes : List (Place × Node)) (q : Place) :
    (nodes.filter fun entry => f entry.1).lookup q = if f q then nodes.lookup q else none := by
  induction nodes with
  | nil => simp
  | cons entry rest ih =>
    obtain ⟨place, node⟩ := entry
    rw [List.filter_cons, List.lookup_cons]
    by_cases here : q = place
    · subst here
      cases kept : f q <;> simp [kept, ih]
    · have other : (q == place) = false := by simpa using here
      simp only [other]
      split
      · rw [List.lookup_cons, other]
        exact ih
      · exact ih

theorem at?_put (t : Tree) (place : Place) (node : Node) (q : Place) :
    (t.put place node).at? q = if q = place then some node else t.at? q := by
  have others := lookup_filter (fun p => decide (p ≠ place)) t.nodes q
  unfold put at?
  rw [List.lookup_cons, others]
  by_cases here : q = place
  · simp [here]
  · have other : (q == place) = false := by simpa using here
    simp [here, other]

theorem ensure_of_present {t : Tree} {place : Place} (present : (t.at? place).isSome = true) :
    t.ensure place = t := by
  rw [ensure, if_pos present]

theorem at?_addFile {t : Tree} {p : Path} {dir : Place} {name : Bytes}
    (stands : p.parts = dir.child name) (present : (t.at? dir).isSome = true) (content : Bytes)
    (q : Place) : (t.addFile p content).at? q =
      if q = dir.child name then some (.file content) else t.at? q := by
  unfold addFile
  rw [stands, Place.above?_child]
  dsimp only
  rw [ensure_of_present present, at?_put]

theorem remove?_eq_none_iff {t : Tree} {p : Path} : t.remove? p = none ↔ t.get? p = none := by
  unfold remove? exists?
  cases t.get? p <;> simp

/-- A removal takes a place and those below it, and no other. -/
theorem at?_remove? {t t' : Tree} {p : Path} (removed : t.remove? p = some t') (q : Place) :
    t'.at? q = if p.parts <+: q then none else t.at? q := by
  unfold remove? at removed
  split at removed
  · obtain rfl := Option.some.inj removed
    have rest := lookup_filter (fun place => !p.parts.isPrefixOf place) t.nodes q
    unfold at?
    rw [rest]
    by_cases below : p.parts <+: q
    · rw [if_pos below, List.isPrefixOf_iff_prefix.2 below]
      rfl
    · have apart : p.parts.isPrefixOf q = false :=
        Bool.eq_false_iff.2 fun start => below (List.isPrefixOf_iff_prefix.1 start)
      rw [if_neg below, apart]
      rfl
  · simp at removed

theorem rename_eq_ok_iff {t t' : Tree} {source target : Path} :
    t.rename source target = .ok t' ↔ ∃ content gone, t.get? source = some (.file content) ∧
      t.remove? source = some gone ∧ t' = gone.addFile target content := by
  unfold rename
  cases found : t.get? source with
  | none => simp
  | some node =>
    cases node with
    | directory => simp
    | file content =>
      have there : t.remove? source ≠ none := by
        rw [Ne, remove?_eq_none_iff, found]
        simp
      obtain ⟨gone, removed⟩ := Option.ne_none_iff_exists'.1 there
      simp [removed, eq_comm]

/-! What can be read. -/

end Tree

def Node.content? : Node → Option Bytes
  | .file content => some content
  | .directory => none

namespace Tree

def fileAt? (t : Tree) (place : Place) : Option Bytes := (t.at? place).bind Node.content?

theorem toOption_content (t : Tree) (p : Path) : (t.content p).toOption = t.fileAt? p.parts := by
  unfold content fileAt? get?
  cases t.at? p.parts with
  | none => rfl
  | some node => cases node <;> rfl

theorem fileAt?_put (t : Tree) (place : Place) (node : Node) (q : Place) :
    (t.put place node).fileAt? q = if q = place then node.content? else t.fileAt? q := by
  unfold fileAt?
  rw [at?_put]
  by_cases here : q = place
  · rw [if_pos here, if_pos here, Option.bind_some]
  · rw [if_neg here, if_neg here]

theorem fileAt?_ensure (t : Tree) (place q : Place) : (t.ensure place).fileAt? q = t.fileAt? q := by
  have made : ∀ {t : Tree} {place : Place}, ¬ (t.at? place).isSome = true →
      (t.put place .directory).fileAt? q = t.fileAt? q := by
    intro t place absent
    rw [fileAt?_put]
    by_cases here : q = place
    · rw [if_pos here, here, fileAt?, Option.not_isSome_iff_eq_none.1 absent]
      rfl
    · rw [if_neg here]
  induction t, place using ensure.induct with
  | case1 t place present => rw [ensure_of_present present]
  | case2 t place absent top =>
    rw [ensure, if_neg absent]
    split
    · exact made absent
    · simp_all
  | case3 t place absent above found ih =>
    rw [ensure, if_neg absent]
    split
    · simp_all
    · obtain rfl : above = _ := Option.some.inj (found.symm.trans ‹_›)
      exact ih.trans (made absent)

theorem fileAt?_addFile (t : Tree) (p : Path) (content : Bytes) (q : Place) :
    (t.addFile p content).fileAt? q = if q = p.parts then some content else t.fileAt? q := by
  unfold addFile
  rw [fileAt?_put]
  cases Place.above? p.parts with
  | none => rfl
  | some above =>
    dsimp only
    rw [fileAt?_ensure]
    rfl

theorem fileAt?_remove? {t t' : Tree} {p : Path} (removed : t.remove? p = some t') (q : Place) :
    t'.fileAt? q = if p.parts <+: q then none else t.fileAt? q := by
  unfold fileAt?
  rw [at?_remove? removed]
  by_cases below : p.parts <+: q
  · rw [if_pos below, if_pos below, Option.bind_none]
  · rw [if_neg below, if_neg below]

theorem fileAt?_rename {t t' : Tree} {source target : Path}
    (renamed : t.rename source target = .ok t') (q : Place) :
    ∃ content, t'.fileAt? q = if q = target.parts then some content
      else if source.parts <+: q then none else t.fileAt? q := by
  obtain ⟨content, gone, -, removed, rfl⟩ := rename_eq_ok_iff.1 renamed
  exact ⟨content, by rw [fileAt?_addFile, fileAt?_remove? removed]⟩

section

variable {t t' : Tree} {p source target : Path} {content : Bytes} {q : Place}

theorem eq_of_fileAt?_addFile (changed : (t.addFile p content).fileAt? q ≠ t.fileAt? q) :
    p.parts = q := by
  refine Classical.byContradiction fun apart => changed ?_
  rw [fileAt?_addFile, if_neg (Ne.symm apart)]

theorem prefix_of_fileAt?_remove? (removed : t.remove? p = some t')
    (changed : t'.fileAt? q ≠ t.fileAt? q) : p.parts <+: q := by
  refine Classical.byContradiction fun apart => changed ?_
  rw [fileAt?_remove? removed, if_neg apart]

theorem place_of_fileAt?_rename (renamed : t.rename source target = .ok t')
    (changed : t'.fileAt? q ≠ t.fileAt? q) : target.parts = q ∨ source.parts <+: q := by
  obtain ⟨content, file⟩ := fileAt?_rename renamed q
  refine Classical.byContradiction fun neither => changed ?_
  obtain ⟨apart, aside⟩ := not_or.1 neither
  rw [file, if_neg (Ne.symm apart), if_neg aside]

end

end Tree

end RoleWatch.Bench
