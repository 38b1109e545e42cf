import RoleWatch.Toml.Document

/-!
The entries of a document, and of every table inside it at any depth, stand in the order of their
keys, each key once. What is being read keeps to that order from token to token, and what is
being built from line to line, so a document that a text gives has it too.
-/
namespace RoleWatch.Toml

variable {ε α β : Type}

def Yields (holds : α → Prop) (result : Except ε α) : Prop := ∀ a, result = .ok a → holds a

namespace Yields

variable {holds : α → Prop} {a : α}

theorem ok (fact : holds a) : Yields holds (.ok a : Except ε α) := by
  rintro _ ⟨⟩
  exact fact

theorem error {e : ε} : Yields holds (.error e : Except ε α) := nofun

theorem bind {kept : β → Prop} {first : Except ε β} {next : β → Except ε α}
    (before : Yields kept first) (after : ∀ b, kept b → Yields holds (next b)) :
    Yields holds (first >>= next) := by
  cases first with
  | error e => exact error
  | ok b => exact after b (before b rfl)

theorem any {result : Except ε α} : Yields (fun _ => True) result := fun _ _ => trivial

theorem foldlM {step : α → β → Except ε α} {items : List β} (start : holds a)
    (keeps : ∀ a, holds a → ∀ b ∈ items, Yields holds (step a b)) :
    Yields holds (items.foldlM step a) := by
  induction items generalizing a with
  | nil => exact ok start
  | cons b rest ih =>
    rw [List.foldlM_cons]
    exact (keeps a start b (.head _)).bind fun a' kept =>
      ih kept fun a fact b among => keeps a fact b (.tail _ among)

end Yields

/-- Every entry stands before those with larger keys, and no key stands twice. -/
def Entries.Sorted (entries : Entries) : Prop := (entries.map Prod.fst).Pairwise (· < ·)

/-- A value in which the entries of every table, at any depth, are sorted. -/
inductive Value.Ordered : Value → Prop where
  | text (content : String) : Ordered (.text content)
  | integer (number : Int) : Ordered (.integer number)
  | real (number : Binary64) : Ordered (.real number)
  | excess : Ordered .excess
  | boolean (truth : Bool) : Ordered (.boolean truth)
  | moment : Ordered .moment
  | list {items : List Value} (each : ∀ item ∈ items, Ordered item) : Ordered (.list items)
  | tables {items : List Value} (each : ∀ item ∈ items, Ordered item) : Ordered (.tables items)
  | table {origin : Origin} {entries : Entries} (sorted : entries.Sorted)
      (each : ∀ entry ∈ entries, Ordered entry.2) : Ordered (.table origin entries)

namespace Entries

structure Ordered (entries : Entries) : Prop where
  sorted : entries.Sorted
  each : ∀ entry ∈ entries, entry.2.Ordered

theorem Ordered.empty : Ordered [] := ⟨.nil, nofun⟩

variable {key : String} {value : Value} {entries : Entries}

theorem Sorted.nodup (sorted : entries.Sorted) : (entries.map Prod.fst).Nodup :=
  sorted.imp fun less => String.ne_of_lt less

theorem mem_put {entry : String × Value} (among : entry ∈ entries.put key value) :
    entry = (key, value) ∨ entry ∈ entries := by
  induction entries with
  | nil => exact .inl (List.mem_singleton.mp among)
  | cons first rest ih =>
    unfold put at among
    split at among
    · exact (List.mem_cons.mp among).imp_right (.tail _)
    · split at among
      · exact List.mem_cons.mp among
      · rcases List.mem_cons.mp among with rfl | among
        · exact .inr (.head _)
        · exact (ih among).imp_right (.tail _)

theorem mem_of_lookup (found : entries.lookup key = some value) : (key, value) ∈ entries := by
  obtain ⟨front, rest, rfl, -⟩ := List.lookup_eq_some_iff.mp found
  exact List.mem_append_right _ (.head _)

theorem lookup_eq_none (absent : key ∉ entries.map Prod.fst) : entries.lookup key = none :=
  List.lookup_eq_none_iff.mpr fun entry among => bne_iff_ne.mpr fun named =>
    absent (List.mem_map.mpr ⟨entry, among, named.symm⟩)

theorem Sorted.lookup (sorted : entries.Sorted) (among : (key, value) ∈ entries) :
    entries.lookup key = some value := by
  obtain ⟨front, rest, rfl⟩ := List.append_of_mem among
  rw [Sorted, List.map_append] at sorted
  refine List.lookup_eq_some_iff.mpr ⟨front, rest, rfl, fun entry before => ?_⟩
  have smaller := (List.pairwise_append.mp sorted).2.2 entry.1 (List.mem_map_of_mem before) key
    (.head _)
  exact bne_iff_ne.mpr (String.ne_of_lt smaller).symm

theorem put_sorted (sorted : entries.Sorted) : (entries.put key value).Sorted := by
  induction entries with
  | nil => exact List.pairwise_singleton _ _
  | cons first rest ih =>
    obtain ⟨other, held⟩ := first
    obtain ⟨above, later⟩ := List.pairwise_cons.mp sorted
    unfold put
    split
    · rename_i same
      exact same ▸ sorted
    · rename_i differs
      split
      · rename_i less
        refine List.pairwise_cons.mpr ⟨fun larger among => ?_, sorted⟩
        rcases List.mem_cons.mp among with rfl | among
        · exact less
        · exact String.lt_trans less (above larger among)
      · rename_i notLess
        have greater : other < key :=
          (Std.lt_trichotomy key other).resolve_left notLess |>.resolve_left differs
        refine List.pairwise_cons.mpr ⟨fun larger among => ?_, ih later⟩
        obtain ⟨entry, held, rfl⟩ := List.mem_map.mp among
        rcases mem_put held with rfl | held
        · exact greater
        · exact above _ (List.mem_map_of_mem held)

theorem Ordered.put (ordered : entries.Ordered) (fit : value.Ordered) :
    (entries.put key value).Ordered := by
  refine ⟨put_sorted ordered.sorted, fun entry among => ?_⟩
  rcases mem_put among with rfl | among
  · exact fit
  · exact ordered.each entry among

theorem Ordered.lookup (ordered : entries.Ordered) (found : entries.lookup key = some value) :
    value.Ordered :=
  ordered.each _ (mem_of_lookup found)

theorem Ordered.table {origin : Origin} (ordered : entries.Ordered) :
    (Value.table origin entries).Ordered :=
  .table ordered.sorted ordered.each

end Entries

theorem Value.Ordered.entries {origin : Origin} {entries : Entries}
    (ordered : (Value.table origin entries).Ordered) : entries.Ordered := by
  cases ordered with
  | table sorted each => exact ⟨sorted, each⟩

theorem Value.Ordered.items {items : List Value} (ordered : (Value.tables items).Ordered) :
    ∀ item ∈ items, item.Ordered := by
  cases ordered with
  | tables each => exact each

/-! ### Tables -/

abbrev Section.Ordered (here : Section) : Prop := here.2.Ordered

theorem alter_ordered (purpose : Purpose) {change : Section → Except Fault Section}
    (keeps : ∀ here, Section.Ordered here → Yields Section.Ordered (change here))
    (path : List String) : ∀ here, Section.Ordered here →
      Yields Section.Ordered (alter purpose change path here) := by
  induction path with
  | nil => exact keeps
  | cons key rest ih =>
    rintro ⟨origin, entries⟩ ordered
    simp only [alter]
    split
    · refine (ih _ .empty).bind fun there fit => .ok ?_
      exact Entries.Ordered.put ordered fit.table
    · rename_i held inner found
      split
      · have inside := (ordered.lookup found).entries
        exact (ih _ inside).bind fun there fit => .ok (Entries.Ordered.put ordered fit.table)
      · exact .error
    · rename_i items found
      have each := (ordered.lookup found).items
      split
      · rename_i held inner last
        have inside := (each _ (List.mem_of_getLast? last)).entries
        refine (ih _ inside).bind fun there fit => .ok ?_
        refine Entries.Ordered.put ordered (.tables fun item among => ?_)
        rcases List.mem_append.mp among with among | among
        · exact each item ((List.dropLast_subset items among))
        · exact List.mem_singleton.mp among ▸ fit.table
      · exact .error
    · exact .error

theorem assign_ordered (path : KeyPath) {value : Value} (fit : value.Ordered) (here : Section)
    (ordered : here.2.Ordered) : Yields Section.Ordered (assign path value here) := by
  refine alter_ordered _ (fun there ordered => ?_) _ here ordered
  dsimp only
  split
  · exact .error
  · split
    · exact .error
    · exact .ok (Entries.Ordered.put ordered fit)

theorem openTable_ordered (path : KeyPath) (root : Section) (ordered : root.2.Ordered) :
    Yields Section.Ordered (openTable path root) := by
  refine alter_ordered _ (fun there ordered => ?_) _ root ordered
  dsimp only
  split
  · exact .ok (ordered.put Entries.Ordered.empty.table)
  · rename_i inner found
    exact .ok (ordered.put (ordered.lookup found).entries.table)
  · exact .error

theorem openItem_ordered (path : KeyPath) (root : Section) (ordered : root.2.Ordered) :
    Yields Section.Ordered (openItem path root) := by
  have fresh : (Value.table .header []).Ordered := Entries.Ordered.empty.table
  refine alter_ordered _ (fun there ordered => ?_) _ root ordered
  dsimp only
  split
  · refine .ok (ordered.put (.tables fun item among => ?_))
    exact List.mem_singleton.mp among ▸ fresh
  · rename_i items found
    refine .ok (ordered.put (.tables fun item among => ?_))
    rcases List.mem_append.mp among with among | among
    · exact (ordered.lookup found).items item among
    · exact List.mem_singleton.mp among ▸ fresh
  · exact .error

/-! ### Lines -/

theorem Scalar.ofChars_ordered (cs : List Char) : Yields Value.Ordered (Scalar.ofChars cs) := by
  unfold Scalar.ofChars
  split
  · exact .ok (.boolean true)
  split
  · exact .ok (.boolean false)
  split
  · exact .ok .moment
  split
  · exact .ok (.integer _)
  · exact .error
  · split
    · exact .ok (.real _)
    · exact .ok .excess
  · exact .ok (.real _)

namespace Line

def Place.Ordered : Place → Prop
  | .entry held => held.2.Ordered
  | .table | .item | .line => True

def Frame.Ordered : Frame → Prop
  | .line _ => True
  | .list items => ∀ item ∈ items, item.Ordered
  | .table held _ => held.2.Ordered

def Point.Ordered : Point → Prop
  | .key place _ | .keyed place _ => place.Ordered
  | .item items | .listed items => ∀ item ∈ items, item.Ordered
  | .entry held | .entered held => held.2.Ordered
  | .fresh | .bracketed | .unbracketed _ | .ended | .value | .scalar _ | .dated _ => True

def Ordered : Line → Prop
  | .pair _ value => value.Ordered
  | .table _ | .item _ => True

structure Reader.Ordered (r : Reader) : Prop where
  frames : ∀ frame ∈ r.frames, frame.Ordered
  point : r.point.Ordered

structure Reached (reached : Reader × List Line) : Prop where
  reader : reached.1.Ordered
  lines : ∀ line ∈ reached.2, line.Ordered

variable {frames : List Frame}

theorem move_ordered {point : Point} (held : ∀ frame ∈ frames, frame.Ordered)
    (fit : point.Ordered) : Yields Reached (move frames point) :=
  .ok ⟨⟨held, fit⟩, nofun⟩

theorem push_ordered (frame : Frame) (fit : frame.Ordered)
    (held : ∀ frame ∈ frames, frame.Ordered) : ∀ inner ∈ frame :: frames, inner.Ordered :=
  List.forall_mem_cons.mpr ⟨fit, held⟩

theorem readKey_ordered (held : ∀ frame ∈ frames, frame.Ordered) (place : Place)
    (fit : place.Ordered) (path : List String) (token : Token) :
    Yields Reached (readKey frames place path token) :=
  Yields.any.bind fun _ _ => move_ordered held fit

theorem complete_ordered {value : Value} (fit : value.Ordered)
    (held : ∀ frame ∈ frames, frame.Ordered) : Yields Reached (complete value frames) := by
  unfold complete
  split
  · rename_i path outer
    have outside := List.forall_mem_cons.mp held
    exact .ok ⟨⟨outside.2, trivial⟩, fun line among => List.mem_singleton.mp among ▸ fit⟩
  · rename_i items outer
    have outside := List.forall_mem_cons.mp held
    exact move_ordered outside.2 (List.forall_mem_cons.mpr ⟨fit, outside.1⟩)
  · rename_i here path outer
    have outside := List.forall_mem_cons.mp held
    exact (assign_ordered path fit here outside.1).bind fun there kept =>
      move_ordered outside.2 kept
  · exact .error

theorem beginValue_ordered (held : ∀ frame ∈ frames, frame.Ordered) (token : Token) :
    Yields Reached (beginValue frames token) := by
  unfold beginValue
  split
  · exact move_ordered held trivial
  · exact move_ordered held trivial
  · exact complete_ordered (.text _) held
  · split
    · exact move_ordered held nofun
    · exact .error
  · split
    · exact move_ordered held .empty
    · exact .error
  · exact .error

theorem reverse_ordered {items : List Value} (each : ∀ item ∈ items, item.Ordered) :
    (Value.list items.reverse).Ordered :=
  .list fun item among => each item (List.mem_reverse.mp among)

theorem afterValue_ordered {r : Reader} (ordered : r.Ordered) (token : Token) :
    Yields Reached (afterValue r token) := by
  obtain ⟨frames, point⟩ := r
  obtain ⟨held, fit⟩ := ordered
  unfold afterValue
  dsimp only at held fit ⊢
  split
  · exact move_ordered held fit
  · exact move_ordered held fit
  · exact move_ordered held fit
  · exact move_ordered held fit
  · exact move_ordered held fit
  · exact move_ordered held trivial
  · exact move_ordered held fit
  · exact complete_ordered (reverse_ordered fit) held
  · exact move_ordered held fit
  · exact complete_ordered (Entries.Ordered.table fit) held
  · exact .error

theorem endScalar_ordered (held : ∀ frame ∈ frames, frame.Ordered) (read : List Char) :
    Yields Reached (endScalar frames read) :=
  (Scalar.ofChars_ordered _).bind fun _ fit => complete_ordered fit held

theorem afterScalar_ordered (held : ∀ frame ∈ frames, frame.Ordered) (read : List Char)
    (token : Token) : Yields Reached (afterScalar frames read token) := by
  refine (endScalar_ordered held read).bind fun reached ended => ?_
  refine (afterValue_ordered ended.reader token).bind fun more followed => .ok ⟨followed.reader, ?_⟩
  intro line among
  exact (List.mem_append.mp among).elim (ended.lines line) (followed.lines line)

theorem afterKey_ordered (held : ∀ frame ∈ frames, frame.Ordered) {place : Place}
    (fit : place.Ordered) (path : List String) (token : Token) :
    Yields Reached (afterKey frames place path token) := by
  cases token with
  | blank c => exact move_ordered held fit
  | dot => exact move_ordered held fit
  | equals =>
    cases place with
    | line =>
      exact Yields.any.bind fun path _ =>
        move_ordered (push_ordered (.line path) trivial held) trivial
    | entry here =>
      exact Yields.any.bind fun path _ =>
        move_ordered (push_ordered (.table here path) fit held) trivial
    | table => exact .error
    | item => exact .error
  | unbracket =>
    cases place with
    | table =>
      refine Yields.any.bind fun path _ => .ok ⟨⟨held, trivial⟩, fun line among => ?_⟩
      exact List.mem_singleton.mp among ▸ trivial
    | item => exact move_ordered held trivial
    | line => exact .error
    | entry here => exact .error
  | _ => exact .error

theorem step_ordered {r : Reader} (ordered : r.Ordered) (token : Token) :
    Yields Reached (step r token) := by
  obtain ⟨frames, point⟩ := r
  obtain ⟨held, fit⟩ := ordered
  unfold step
  dsimp only at held fit ⊢
  cases point with
  | fresh =>
    cases token with
    | blank c => exact move_ordered held fit
    | newline => exact move_ordered held fit
    | bracket => exact move_ordered held trivial
    | _ => exact readKey_ordered held .line trivial [] _
  | bracketed =>
    cases token with
    | blank c => exact move_ordered held trivial
    | bracket => exact move_ordered held trivial
    | _ => exact readKey_ordered held .table trivial [] _
  | key place path =>
    cases token with
    | blank c => exact move_ordered held fit
    | _ => exact readKey_ordered held place fit path _
  | keyed place path => exact afterKey_ordered held fit path token
  | unbracketed path =>
    cases token with
    | unbracket =>
      refine Yields.any.bind fun path _ => .ok ⟨⟨held, trivial⟩, fun line among => ?_⟩
      exact List.mem_singleton.mp among ▸ trivial
    | _ => exact .error
  | value =>
    cases token with
    | blank c => exact move_ordered held fit
    | _ => exact beginValue_ordered held _
  | scalar read =>
    have ends (token : Token) : Yields Reached
        (if token = .blank ' ' ∧ Scalar.isDate read.reverse then move frames (.dated read)
          else afterScalar frames read token) := by
      split
      · exact move_ordered held trivial
      · exact afterScalar_ordered held read token
    cases token with
    | word cs => exact move_ordered held trivial
    | dot => exact move_ordered held trivial
    | _ => exact ends _
  | dated read =>
    cases token with
    | word cs => exact move_ordered held trivial
    | _ => exact afterScalar_ordered held read _
  | item items =>
    cases token with
    | blank c => exact move_ordered held fit
    | newline => exact move_ordered held fit
    | unbracket => exact complete_ordered (reverse_ordered fit) held
    | _ => exact beginValue_ordered (push_ordered (.list items) fit held) _
  | entry here =>
    cases token with
    | blank c => exact move_ordered held fit
    | newline => exact move_ordered held fit
    | unbrace => exact complete_ordered (Entries.Ordered.table fit) held
    | _ => exact readKey_ordered held (.entry here) fit [] _
  | ended => exact afterValue_ordered ⟨held, fit⟩ token
  | listed items => exact afterValue_ordered ⟨held, fit⟩ token
  | entered here => exact afterValue_ordered ⟨held, fit⟩ token

theorem finish_ordered {r : Reader} (ordered : r.Ordered) :
    Yields (fun lines => ∀ line ∈ lines, Line.Ordered line) (finish r) := by
  unfold finish
  split
  any_goals refine (endScalar_ordered ordered.frames _).bind fun reached kept => ?_
  any_goals refine (move_ordered ordered.frames ordered.point).bind fun reached kept => ?_
  all_goals
    dsimp only
    split
    · exact .ok kept.lines
    · exact .ok kept.lines
    · exact .error

theorem ofTokens_ordered (tokens : List Token) :
    Yields (fun lines => ∀ line ∈ lines, Line.Ordered line) (ofTokens tokens) := by
  have start : Reached (⟨[], .fresh⟩, []) := ⟨⟨nofun, trivial⟩, nofun⟩
  refine (Yields.foldlM start fun reached kept token _ => ?_).bind fun reached kept => ?_
  · refine (step_ordered kept.reader token).bind fun stepped went => .ok ⟨went.reader, ?_⟩
    intro line among
    rcases List.mem_append.mp among with among | among
    · exact went.lines line (List.mem_reverse.mp among)
    · exact kept.lines line among
  · refine (finish_ordered kept.reader).bind fun last ended => .ok fun line among => ?_
    rcases List.mem_append.mp among with among | among
    · exact kept.lines line (List.mem_reverse.mp among)
    · exact ended line among

end Line

/-! ### Documents -/

namespace Document

def Ordered (d : Document) : Prop := d.root.2.Ordered

theorem add_ordered {d : Document} (ordered : d.Ordered) {line : Line} (fit : line.Ordered) :
    Yields Document.Ordered (d.add line) := by
  cases line with
  | table path => exact (openTable_ordered path _ ordered).bind fun root kept => .ok kept
  | item path => exact (openItem_ordered path _ ordered).bind fun root kept => .ok kept
  | pair path value =>
    exact (alter_ordered .header (assign_ordered path fit) d.path d.root ordered).bind
      fun root kept => .ok kept

/-- In the document that a text gives, the entries of every table are in the order of their keys,
each key once. -/
theorem ofText_ordered (text : String) : Yields Entries.Ordered (Document.ofText text) := by
  refine Yields.any.bind fun tokens _ => (Line.ofTokens_ordered tokens).bind fun lines each => ?_
  have start : Document.empty.Ordered := Entries.Ordered.empty
  have made : Yields Document.Ordered (lines.foldlM add empty) :=
    Yields.foldlM start fun d ordered line among => add_ordered ordered (each line among)
  exact made.bind fun d kept => .ok kept

end Document

end RoleWatch.Toml
