import RoleWatch.Bench.Notifier
import RoleWatch.Proofs.Bench.Tree
import RoleWatch.Proofs.Path.Parent

/-!
A tree of files grown by single changes. Above whatever stands in it something stands as well, all
the way up to the root. Making a directory relies on that, for it looks no further than the first
place that is occupied, and keeps it up in turn.
-/
namespace RoleWatch.Bench

inductive Tree.Change where
  | addFile (p : Path) (content : Bytes)
  | addDirectory (p : Path)
  | remove (p : Path)
  | rename (source target : Path)

namespace Tree.Change

/-- A removal or a move that is refused leaves the tree as it was. -/
def on (t : Tree) : Change → Tree
  | .addFile p content => t.addFile p content
  | .addDirectory p => t.addDirectory p
  | .remove p => (t.remove? p).getD t
  | .rename source target => (t.rename source target).toOption.getD t

def IsAbsolute : Change → Prop
  | .addFile p _ | .addDirectory p | .remove p => p.isAbsolute = true
  | .rename source target => source.isAbsolute = true ∧ target.isAbsolute = true

def activity : Change → Activity
  | .addFile p content => .addFile p content
  | .addDirectory p => .addDirectory p
  | .remove p => .remove p
  | .rename source target => .rename source target

end Tree.Change

/-! Places of absolute paths. -/

namespace Place

/-- A place that begins at the root and does not come back to it. -/
def Rooted (place : Place) : Prop := ∃ below, place = .root :: below ∧ .root ∉ below

theorem above?_concat (place : Place) {part : Path.Part} (other : part ≠ .root) :
    above? (place ++ [part]) = some place := by
  unfold above?
  rw [List.getLast?_concat, List.dropLast_concat]
  cases part <;> simp_all

/-- The root has nothing above it, and any other place is one step below a rooted one. -/
theorem Rooted.cases {place : Place} (rooted : place.Rooted) :
    place = [.root] ∨ ∃ above part, place = above ++ [part] ∧ above.Rooted ∧
      place.above? = some above := by
  obtain ⟨below, rfl, apart⟩ := rooted
  rcases List.eq_nil_or_concat below with rfl | ⟨kept, last, rfl⟩
  · exact .inl rfl
  · simp only [List.concat_eq_append, List.mem_append, List.mem_singleton, not_or] at apart ⊢
    refine .inr ⟨.root :: kept, last, rfl, ⟨kept, rfl, apart.1⟩, ?_⟩
    exact above?_concat (.root :: kept) (Ne.symm apart.2)

theorem Rooted.ne_nil {place : Place} (rooted : place.Rooted) : place ≠ [] := by
  obtain ⟨below, rfl, -⟩ := rooted
  simp

theorem Rooted.of_prefix {above place : Place} (rooted : place.Rooted) (up : above <+: place)
    (more : above ≠ []) : above.Rooted := by
  obtain ⟨below, rfl, apart⟩ := rooted
  obtain ⟨first, rest, rfl⟩ := List.exists_cons_of_ne_nil more
  obtain ⟨rfl, within⟩ := List.cons_prefix_cons.1 up
  exact ⟨rest, rfl, fun member => apart (within.subset member)⟩

end Place

theorem Path.rooted_parts {p : Path} (absolute : p.isAbsolute = true) : Place.Rooted p.parts := by
  obtain ⟨front, rest, split⟩ : ∃ front rest, p.segments = (front, rest) := ⟨_, _, rfl⟩
  refine ⟨rest.filterMap Path.Part.ofSegment?, ?_, ?_⟩
  · rw [Path.parts_eq split, absolute]
    rfl
  · intro member
    obtain ⟨segment, -, said⟩ := List.mem_filterMap.1 member
    unfold Path.Part.ofSegment? at said
    split at said
    · simp at said
    · split at said <;> simp at said

namespace Tree

variable {t t' : Tree} {place above : Place} {p source target : Path}

/-- On the way down to a place, whatever is occupied stands on something. -/
def Reaches (t : Tree) (place : Place) : Prop :=
  ∀ q, q <+: place → (t.at? q).isSome = true →
    ∀ above, above <+: q → above ≠ [] → (t.at? above).isSome = true

theorem ensure_of_absent (absent : t.at? place = none) (next : place.above? = some above) :
    t.ensure place = (t.put place .directory).ensure above := by
  rw [ensure, if_neg (by simp [absent])]
  split
  · simp_all
  · obtain rfl : above = _ := Option.some.inj (next.symm.trans ‹_›)
    rfl

theorem ensure_of_absent_top (absent : t.at? place = none) (top : place.above? = none) :
    t.ensure place = t.put place .directory := by
  rw [ensure, if_neg (by simp [absent])]
  split
  · rfl
  · simp_all

/-- What is made at a place is not seen above it. -/
theorem at?_put_above {q : Place} (up : q <+: above) (part : Path.Part) (node : Node) :
    (t.put (above ++ [part]) node).at? q = t.at? q := by
  rw [at?_put, if_neg]
  rintro rfl
  have length := up.length_le
  simp only [List.length_append, List.length_singleton] at length
  omega

theorem Reaches.put {part : Path.Part} (reaches : t.Reaches (above ++ [part])) (node : Node) :
    (t.put (above ++ [part]) node).Reaches above := by
  intro q up there r within more
  rw [at?_put_above up] at there
  rw [at?_put_above (within.trans up)]
  exact reaches q (up.trans (List.prefix_append ..)) there r within more

/-- Directories are made at the places on the way that are free, and nowhere else. -/
theorem at?_ensure (rooted : place.Rooted) (reaches : t.Reaches place) (q : Place) :
    (t.ensure place).at? q =
      (t.at? q).or (if q <+: place ∧ q ≠ [] then some .directory else none) := by
  induction size : place.length generalizing t place with
  | zero => exact absurd (List.eq_nil_of_length_eq_zero size) rooted.ne_nil
  | succ n ih =>
    cases here : t.at? place with
    | some node =>
      rw [ensure_of_present (by simp [here])]
      cases there : t.at? q with
      | some node => rfl
      | none =>
        -- Nothing on the way is free.
        have aside : ¬ (q <+: place ∧ q ≠ []) := by
          rintro ⟨up, more⟩
          have taken := reaches place List.prefix_rfl (by simp [here]) q up more
          simp [there] at taken
        rw [if_neg aside]
        rfl
    | none =>
      rcases rooted.cases with rfl | ⟨above, part, rfl, rooted', next⟩
      · have only : q <+: [.root] ∧ q ≠ [] ↔ q = [.root] := by
          cases q <;> simp [List.cons_prefix_cons]
        rw [ensure_of_absent_top here rfl, at?_put]
        simp only [only]
        by_cases top : q = [.root]
        · simp [top, here]
        · simp [top]
      · have reaches' := reaches.put .directory
        rw [ensure_of_absent here next, ih rooted' reaches' (by simpa using size), at?_put]
        by_cases last : q = above ++ [part]
        · simp [last, here]
        · simp [last, List.prefix_concat_iff]

/-- Above everything there is something, up to the root. -/
structure Closed (t : Tree) : Prop where
  rooted : ∀ place, (t.at? place).isSome = true → place.Rooted
  above : ∀ place, (t.at? place).isSome = true →
    ∀ above, above <+: place → above ≠ [] → (t.at? above).isSome = true

namespace Closed

theorem reaches (closed : t.Closed) (place : Place) : t.Reaches place :=
  fun q _ there => closed.above q there

/-- What grows on the way down to a place stands on what was there or on what has grown. -/
theorem of_grown (closed : t.Closed) (rooted : place.Rooted)
    (grown : ∀ q, (t'.at? q).isSome = true ↔ (t.at? q).isSome = true ∨ q <+: place ∧ q ≠ []) :
    t'.Closed where
  rooted q there := by
    rcases (grown q).1 there with before | ⟨up, more⟩
    · exact closed.rooted q before
    · exact rooted.of_prefix up more
  above q there r within more := by
    refine (grown r).2 ?_
    rcases (grown q).1 there with before | ⟨up, -⟩
    · exact .inl (closed.above q before r within more)
    · exact .inr ⟨within.trans up, more⟩

theorem ensure (closed : t.Closed) (rooted : place.Rooted) : (t.ensure place).Closed := by
  refine closed.of_grown rooted fun q => ?_
  rw [at?_ensure rooted (closed.reaches place)]
  cases t.at? q <;> simp

/-- A file that is added brings directories along where something above it was missing. -/
theorem at?_addFile (closed : t.Closed) (rooted : Place.Rooted p.parts) (content : Bytes)
    (q : Place) : (t.addFile p content).at? q = if q = p.parts then some (.file content) else
      (t.at? q).or (if q <+: p.parts ∧ q ≠ [] then some .directory else none) := by
  unfold Tree.addFile
  rw [at?_put]
  by_cases here : q = p.parts
  · rw [if_pos here, if_pos here]
  · rw [if_neg here, if_neg here]
    rcases rooted.cases with top | ⟨above, part, stands, rooted', next⟩
    · have none : Place.above? p.parts = none := by rw [top]; rfl
      have aside : ¬ (q <+: p.parts ∧ q ≠ []) := by
        rintro ⟨up, more⟩
        rw [top] at up here
        exact here (up.eq_of_length_le (List.length_pos_iff.2 more))
      rw [none, if_neg aside, Option.or_none]
    · have up : q <+: p.parts ↔ q <+: above := by
        rw [stands] at here ⊢
        rw [List.prefix_concat_iff, or_iff_right here]
      simp only [next, up]
      exact Tree.at?_ensure rooted' (closed.reaches above) q

theorem isSome_addFile_iff (closed : t.Closed) (rooted : Place.Rooted p.parts) (content : Bytes)
    (q : Place) : ((t.addFile p content).at? q).isSome = true ↔
      (t.at? q).isSome = true ∨ q <+: p.parts ∧ q ≠ [] := by
  rw [closed.at?_addFile rooted]
  by_cases here : q = p.parts
  · simp [here, rooted.ne_nil]
  · rw [if_neg here]
    cases t.at? q <;> simp

theorem addFile (closed : t.Closed) (rooted : Place.Rooted p.parts) (content : Bytes) :
    (t.addFile p content).Closed :=
  closed.of_grown rooted (closed.isSome_addFile_iff rooted content)

/-- Nothing is left below what is removed. -/
theorem remove (closed : t.Closed) (removed : t.remove? p = some t') : t'.Closed := by
  have kept : ∀ {q}, (t'.at? q).isSome = true → ¬ p.parts <+: q ∧ (t.at? q).isSome = true := by
    intro q there
    rw [at?_remove? removed] at there
    by_cases below : p.parts <+: q
    · simp [below] at there
    · exact ⟨below, by simpa [below] using there⟩
  constructor
  · exact fun q there => closed.rooted q (kept there).2
  · intro q there r within more
    obtain ⟨aside, before⟩ := kept there
    rw [at?_remove? removed, if_neg fun below => aside (below.trans within)]
    exact closed.above q before r within more

theorem rename (closed : t.Closed) (rooted : Place.Rooted target.parts)
    (renamed : t.rename source target = .ok t') : t'.Closed := by
  obtain ⟨content, gone, -, removed, rfl⟩ := rename_eq_ok_iff.1 renamed
  exact (closed.remove removed).addFile rooted content

end Closed

/-- What each change does to a tree, in the terms of the paths alone. -/
structure OfPaths (t : Tree) : Prop where
  above : ∀ p q : Path, t.exists? p = true → p.isWithin q = true → q.bytes ≠ [] →
    t.exists? q = true
  added : ∀ p content, (t.addFile p content).content p = .ok content ∧
    ∀ (q : Path) (old : Bytes), q.same p = false → t.content q = .ok old →
      (t.addFile p content).content q = .ok old
  removable : ∀ p, (t.remove? p).isSome = t.exists? p
  removed : ∀ p t', t.remove? p = some t' → ∀ q : Path,
    (t'.exists? q = true ↔ t.exists? q = true ∧ q.isWithin p = false) ∧
      (q.isWithin p = false → t'.get? q = t.get? q)
  movable : ∀ source target, (∃ t', t.rename source target = .ok t') ↔ t.isFile source = true
  moved : ∀ source target t', t.rename source target = .ok t' →
    t'.content target = t.content source ∧
      ∀ (q : Path) (old : Bytes), q.same target = false → q.isWithin source = false →
        t.content q = .ok old → t'.content q = .ok old
  left : ∀ source target t', target.isAbsolute = true → t.rename source target = .ok t' →
    (t'.exists? source = true ↔ target.isWithin source = true)
  refused : ∀ change : Change, (∃ p, change = .remove p ∧ t.remove? p = none) ∨
      (∃ source target cause, change = .rename source target ∧
        t.rename source target = .error cause) → change.on t = t

theorem content_eq_ok_iff {content : Bytes} :
    t.content p = .ok content ↔ t.fileAt? p.parts = some content := by
  rw [← toOption_content]
  cases t.content p <;> simp [Except.toOption]

theorem isFile_iff : t.isFile p = true ↔ ∃ content, t.get? p = some (.file content) := by
  unfold isFile
  cases t.get? p with
  | none => simp
  | some node => cases node <;> simp

theorem isWithin_eq_false_iff {p q : Path} : q.isWithin p = false ↔ ¬ p.parts <+: q.parts := by
  rw [← Path.isWithin_iff, Bool.not_eq_true]

theorem content_addFile (t : Tree) (p : Path) (content : Bytes) :
    (t.addFile p content).content p = .ok content :=
  content_eq_ok_iff.2 (by rw [fileAt?_addFile, if_pos rfl])

theorem content_addFile_of_ne {q : Path} {old : Bytes} (other : q.same p = false)
    (there : t.content q = .ok old) (content : Bytes) :
    (t.addFile p content).content q = .ok old := by
  have apart : q.parts ≠ p.parts := by simpa [Path.same] using other
  rw [content_eq_ok_iff, fileAt?_addFile, if_neg apart]
  exact content_eq_ok_iff.1 there

theorem content_remove? {q : Path} {old : Bytes} (removed : t.remove? p = some t')
    (aside : q.isWithin p = false) (there : t.content q = .ok old) : t'.content q = .ok old := by
  rw [content_eq_ok_iff, fileAt?_remove? removed, if_neg (isWithin_eq_false_iff.1 aside)]
  exact content_eq_ok_iff.1 there

theorem Closed.ofPaths (closed : t.Closed) : t.OfPaths where
  above p q there within more :=
    closed.above _ there _ (Path.isWithin_iff.1 within) (mt Path.parts_eq_nil_iff.1 more)
  added p content :=
    ⟨t.content_addFile p content, fun _ _ other there => content_addFile_of_ne other there content⟩
  removable p := by
    unfold remove?
    cases t.exists? p <;> rfl
  removed p t' removed q := by
    have at_place := at?_remove? removed q.parts
    rw [isWithin_eq_false_iff, exists?, exists?, get?, get?, at_place]
    by_cases below : p.parts <+: q.parts
    · simp [below]
    · simp [below]
  movable source target := by
    rw [isFile_iff]
    constructor
    · rintro ⟨t', renamed⟩
      obtain ⟨content, -, found, -, -⟩ := rename_eq_ok_iff.1 renamed
      exact ⟨content, found⟩
    · rintro ⟨content, found⟩
      have there : t.remove? source ≠ none := by simp [remove?_eq_none_iff, found]
      obtain ⟨gone, removed⟩ := Option.ne_none_iff_exists'.1 there
      exact ⟨_, rename_eq_ok_iff.2 ⟨content, gone, found, removed, rfl⟩⟩
  moved source target t' renamed := by
    obtain ⟨content, gone, found, removed, rfl⟩ := rename_eq_ok_iff.1 renamed
    constructor
    · have held : t.content source = .ok content := by simp [Tree.content, found]
      rw [held, content_addFile]
    · intro q old other aside there
      exact content_addFile_of_ne other (content_remove? removed aside there) content
  left source target t' absolute renamed := by
    obtain ⟨content, gone, found, removed, rfl⟩ := rename_eq_ok_iff.1 renamed
    have rooted := Path.rooted_parts absolute
    have vacant : gone.at? source.parts = none := by
      rw [at?_remove? removed, if_pos List.prefix_rfl]
    have stood : Place.Rooted source.parts := closed.rooted _ (by rw [← get?, found]; rfl)
    rw [Path.isWithin_iff, exists?, get?,
      (closed.remove removed).isSome_addFile_iff rooted, vacant]
    simp [stood.ne_nil]
  refused change refused := by
    rcases refused with ⟨p, rfl, none⟩ | ⟨source, target, cause, rfl, error⟩
    · simp [Change.on, none]
    · simp [Change.on, error, Except.toOption]

/-! Growing a tree. -/

theorem Change.closed {change : Change} (absolute : change.IsAbsolute) (closed : t.Closed) :
    (change.on t).Closed := by
  cases change with
  | addFile p content => exact closed.addFile (Path.rooted_parts absolute) content
  | addDirectory p => exact closed.ensure (Path.rooted_parts absolute)
  | remove p =>
    cases removed : t.remove? p with
    | none => simpa [on, removed] using closed
    | some t' => simpa [on, removed] using closed.remove removed
  | rename source target =>
    cases renamed : t.rename source target with
    | error cause => simpa [on, renamed, Except.toOption] using closed
    | ok t' =>
      simpa [on, renamed, Except.toOption] using
        closed.rename (Path.rooted_parts absolute.2) renamed

theorem closed_bare : bare.Closed := ⟨nofun, nofun⟩

theorem closed_empty : empty.Closed := by
  have made : bare.ensure [.root] = empty := ensure_of_absent_top rfl rfl
  exact made ▸ closed_bare.ensure ⟨[], rfl, nofun⟩

/-- Whatever changes on absolute paths made a tree, it has something above everything in it, and
each further change affects the paths it names and those below them and no others. -/
theorem changed_by_paths {start : Tree} (new : start = .empty ∨ start = .bare)
    {changes : List Change} (absolute : ∀ change ∈ changes, change.IsAbsolute) :
    (changes.foldl Change.on start).OfPaths ∧
      ∀ (n : Notifier) (change : Change), (n.apply change.activity).tree = change.on n.tree := by
  have grown : (changes.foldl Change.on start).Closed := by
    have begun : start.Closed := by
      rcases new with rfl | rfl
      · exact closed_empty
      · exact closed_bare
    clear new
    induction changes generalizing start with
    | nil => exact begun
    | cons change rest ih =>
      exact ih (fun later member => absolute later (List.mem_cons_of_mem _ member))
        (change.closed (absolute change List.mem_cons_self) begun)
  exact ⟨grown.ofPaths, fun n change => by cases change <;> rfl⟩

/-- Below `/a` there are `b/f` and `bc`; then a file takes the place of `b` and moves to `/c`. -/
theorem changed_by_paths_of_move :
    let a : Bytes := [0x2f, 0x61]
    let b : Bytes := a ++ [0x2f, 0x62]
    let changes : List Change :=
      [.addFile ⟨b ++ [0x2f, 0x66]⟩ [1], .addFile ⟨b ++ [0x63]⟩ [2], .addFile ⟨b⟩ [3]]
    (∀ change ∈ changes, change.IsAbsolute) ∧
    ∃ t', (changes.foldl Change.on .empty).rename ⟨b⟩ ⟨[0x2f, 0x63]⟩ = .ok t' ∧
      t'.content ⟨[0x2f, 0x63]⟩ = .ok [3] ∧ t'.content ⟨b ++ [0x63]⟩ = .ok [2] ∧
      t'.exists? ⟨b⟩ = false := by
  intro a b changes
  have absolute : ∀ change ∈ changes, change.IsAbsolute := by
    simp [changes, Change.IsAbsolute, Path.isAbsolute, Path.slash, a, b]
  have laws := (changed_by_paths (.inl rfl) absolute).1
  have source : (changes.foldl Change.on .empty).content ⟨b⟩ = .ok [3] :=
    content_eq_ok_iff.2 (by decide +kernel)
  have other : (changes.foldl Change.on .empty).content ⟨b ++ [0x63]⟩ = .ok [2] :=
    content_eq_ok_iff.2 (by decide +kernel)
  obtain ⟨t', renamed⟩ := (laws.movable ⟨b⟩ ⟨[0x2f, 0x63]⟩).2 (by decide +kernel)
  obtain ⟨moved, kept⟩ := laws.moved _ _ t' renamed
  refine ⟨absolute, t', renamed, moved.trans source, kept _ _ (by decide) (by decide) other, ?_⟩
  have left := laws.left _ _ t' (by decide) renamed
  exact Bool.eq_false_iff.2 fun there => absurd (left.1 there) (by decide)

end Tree

end RoleWatch.Bench
