import RoleWatch.Proofs.Daemon.OneShot
import RoleWatch.Proofs.Settings.Items

/-!
Settings in three layers: what the command line gives outweighs the file, and the file outweighs
the standard settings, for every item on its own.
-/
namespace RoleWatch

open Toml (Entries Origin)

/-- Whether a file is the text of a document with some entries. -/
def Toml.Holds (file : Bytes) (entries : Entries) : Prop :=
  ∃ text, Utf8.decode? file = some text ∧ Document.ofText text = .ok entries

theorem Toml.Holds.ordered {file : Bytes} {entries : Entries} (holds : Holds file entries) :
    entries.Ordered := by
  obtain ⟨text, -, read⟩ := holds
  exact Document.ofText_ordered text entries read

namespace Settings

variable {entries : Entries} {part : Part} {s : Settings}

def Part.table? (part : Part) (entries : Entries) : Option Entries :=
  match entries.lookup part.name with
  | some (.table _ inner) => some inner
  | _ => none

/-- Whether every section that a document has is a table. -/
def Tabular (entries : Entries) : Prop :=
  ∀ (part : Part) v, entries.lookup part.name = some v → ∃ origin inner, v = .table origin inner

namespace Item

def at? (i : Item part) (entries : Entries) : Option Toml.Value :=
  (part.table? entries).bind fun inner => inner.lookup i.key

def get (i : Item part) (s : Settings) : i.Worth := i.within (part.get s)

/-- What the command line gives for an item; it has no option for some. -/
def given : {part : Part} → (i : Item part) → Options → Option i.Worth
  | _, .path, o => o.watchFile
  | _, .interval, o => o.interval
  | _, .marker, o => o.marker
  | _, .service, o => o.service
  | _, .backend, o => o.backend
  | _, .lineLimit, _ | _, .rechecks, _ | _, .program, _ | _, .arguments, _
  | _, .pollInterval, _ => none

def without : {part : Part} → Item part → Options → Options
  | _, .path, o => { o with watchFile := none }
  | _, .interval, o => { o with interval := none }
  | _, .marker, o => { o with marker := none }
  | _, .service, o => { o with service := none }
  | _, .backend, o => { o with backend := none }
  | _, .lineLimit, o | _, .rechecks, o | _, .program, o | _, .arguments, o
  | _, .pollInterval, o => o

def set (i : Item part) (origin : Origin) (v : Toml.Value) (entries : Entries) : Entries :=
  entries.put part.name (.table origin (((part.table? entries).getD []).put i.key v))

/-- Whether an item comes from the first layer that says something about it. -/
def Settled (i : Item part) (o : Options) (entries : Entries) (s : Settings) : Prop :=
  match i.given o, i.at? entries with
  | some x, _ => i.get s = x
  | none, some v => i.Reads v (i.get s)
  | none, none => i.get s = i.get .standard

end Item

/-- Whether nothing in a document is unknown, and every value is of its item's type and range. -/
structure Fits (entries : Entries) : Prop where
  parts : ∀ entry ∈ entries, ∃ part : Part, part.name = entry.1
  items : ∀ (part : Part) inner, part.table? entries = some inner →
    ∀ entry ∈ inner, ∃ i : Item part, i.key = entry.1
  values : ∀ {part : Part} (i : Item part) v, i.at? entries = some v → ∃ x, i.Reads v x

def Part.rest (part : Part) (entries : Entries) : Entries :=
  entries.filter fun entry => entry.1 ≠ part.name

/-- Whether a document says nothing of a section but what stands anyway: the section is absent, or
empty, or spells out standard values. -/
def Part.SaysNothing (part : Part) (entries : Entries) : Prop :=
  ∀ inner, part.table? entries = some inner →
    ∀ entry ∈ inner, ∃ i : Item part, i.key = entry.1 ∧ i.Reads entry.2 (i.get .standard)

/-! ### The layers one by one -/

theorem ext_items {t : Settings} (same : ∀ {part : Part} (i : Item part), i.get s = i.get t) :
    s = t :=
  Schema.document.ext s t fun _ => Item.ext_within _ _ fun i => same i

theorem Part.get_standard (part : Part) : part.get .standard = part.standard := by
  cases part <;> rfl

theorem Item.get_override (i : Item part) (o : Options) (s : Settings) :
    i.get (o.override s) = (i.given o).getD (i.get s) := by
  cases i <;> rfl

theorem override_again (o : Options) (s : Settings) : o.override (o.override s) = o.override s := by
  apply ext_items
  intro part i
  rw [i.get_override, i.get_override]
  cases i.given o <;> rfl

theorem Item.reads_unique (i : Item part) {v : Toml.Value} {x y : i.Worth} (first : i.Reads v x)
    (second : i.Reads v y) : x = y :=
  Except.ok.inj ((i.read_eq_ok_iff.mpr first).symm.trans (i.read_eq_ok_iff.mpr second))

theorem Part.lookup_of_table? {inner : Entries} (found : part.table? entries = some inner) :
    ∃ origin, entries.lookup part.name = some (.table origin inner) := by
  unfold Part.table? at found
  split at found
  · rename_i origin held known
    cases found
    exact ⟨origin, known⟩
  · cases found

theorem Part.table?_of_lookup {origin : Origin} {inner : Entries}
    (found : entries.lookup part.name = some (.table origin inner)) :
    part.table? entries = some inner := by
  rw [Part.table?, found]

/-- The values of a section can be read exactly if each of them can. -/
theorem Part.reads_iff (part : Part) (origin : Origin) (inner : Entries) :
    (∃ x, part.read (.table origin inner) = .ok x) ↔ ∀ entry ∈ inner, part.schema.Takes entry := by
  rw [Part.read_table]
  exact part.schema.loads_iff _ _

theorem fits_of_takes (takes : ∀ entry ∈ entries, Schema.document.Takes entry) :
    Fits entries := by
  have inside (part : Part) (inner : Entries) (found : part.table? entries = some inner) :
      ∀ entry ∈ inner, part.schema.Takes entry := by
    obtain ⟨origin, known⟩ := part.lookup_of_table? found
    obtain ⟨other, x, named, red⟩ := takes _ (Entries.mem_of_lookup known)
    cases Schema.document.name_injective other part named
    exact (part.reads_iff origin inner).mp ⟨x, red⟩
  constructor
  case parts =>
    intro entry among
    obtain ⟨part, _, named, -⟩ := takes entry among
    exact ⟨part, named⟩
  case items =>
    intro part inner found entry among
    obtain ⟨i, _, named, -⟩ := inside part inner found entry among
    exact ⟨i, named⟩
  case values =>
    intro part i v found
    obtain ⟨inner, held, known⟩ := Option.bind_eq_some_iff.mp found
    obtain ⟨j, x, named, red⟩ := inside part inner held _ (Entries.mem_of_lookup known)
    cases Item.key_injective j i named
    exact ⟨x, i.read_eq_ok_iff.mp red⟩

theorem takes_of_fits (ordered : entries.Ordered) (tabular : Tabular entries)
    (fits : Fits entries) : ∀ entry ∈ entries, Schema.document.Takes entry := by
  intro entry among
  obtain ⟨part, named⟩ := fits.parts entry among
  obtain ⟨title, v⟩ := entry
  cases named
  have known := ordered.sorted.lookup among
  obtain ⟨origin, inner, rfl⟩ := tabular part v known
  have found := part.table?_of_lookup known
  have each : ∀ entry ∈ inner, part.schema.Takes entry := by
    intro entry within
    obtain ⟨i, named⟩ := fits.items part inner found entry within
    obtain ⟨title, held⟩ := entry
    cases named
    have present : i.at? entries = some held := by
      rw [Item.at?, found]
      exact (ordered.each _ among).entries.sorted.lookup within
    obtain ⟨x, reads⟩ := fits.values i held present
    exact ⟨i, x, rfl, i.read_eq_ok_iff.mpr reads⟩
  obtain ⟨x, red⟩ := (part.reads_iff origin inner).mpr each
  exact ⟨part, x, rfl, red⟩

/-- A document gives settings exactly if it fits. -/
theorem loads_iff_fits (ordered : entries.Ordered) (tabular : Tabular entries) :
    (∃ s, ofEntries entries = .ok s) ↔ Fits entries :=
  (Schema.document.loads_iff .standard entries).trans
    ⟨fits_of_takes, takes_of_fits ordered tabular⟩

section

variable (i : Item part) (ordered : entries.Ordered)

include ordered

theorem Part.tells_of_load (loaded : ofEntries entries = .ok s) {origin : Origin} {inner : Entries}
    (known : entries.lookup part.name = some (.table origin inner)) :
    part.schema.Tells inner part.unsaid (part.get s) := by
  have whole := Schema.document.tells_of_load ordered.sorted.nodup loaded
  have read := (part.read_table origin inner).symm.trans (whole.read part _ known)
  exact part.schema.tells_of_load (ordered.lookup known).entries.sorted.nodup read

/-- Of the settings that a document gives, an item has the value that the document has for it. -/
theorem Item.reads_of_at? (loaded : ofEntries entries = .ok s) {v : Toml.Value}
    (found : i.at? entries = some v) : i.Reads v (i.get s) := by
  obtain ⟨inner, known, held⟩ := Option.bind_eq_some_iff.mp found
  obtain ⟨origin, known⟩ := part.lookup_of_table? known
  exact i.read_eq_ok_iff.mp ((part.tells_of_load ordered loaded known).read i v held)

variable (tabular : Tabular entries)

include tabular

theorem Item.standard_of_at? (loaded : ofEntries entries = .ok s)
    (absent : i.at? entries = none) : i.get s = i.get .standard := by
  cases known : entries.lookup part.name with
  | none =>
    have whole := Schema.document.tells_of_load ordered.sorted.nodup loaded
    exact congrArg i.within (whole.kept part known)
  | some v =>
    obtain ⟨origin, inner, rfl⟩ := tabular part v known
    rw [Item.at?, part.table?_of_lookup known] at absent
    have kept := (part.tells_of_load ordered loaded known).kept i absent
    exact kept.trans (congrArg i.within (part.unsaid_eq_standard.trans part.get_standard.symm))

theorem Item.settled (loaded : ofEntries entries = .ok s) (o : Options) :
    i.Settled o entries (o.override s) := by
  unfold Item.Settled
  rw [i.get_override]
  cases i.given o with
  | some x => rfl
  | none =>
    cases found : i.at? entries with
    | some v => exact i.reads_of_at? ordered loaded found
    | none => exact i.standard_of_at? ordered tabular loaded found

end

/-! ### Two documents -/

/-- A section of which nothing is said can be left out. -/
theorem ofEntries_rest (ordered : entries.Ordered) (tabular : Tabular entries)
    (nothing : part.SaysNothing entries) : ofEntries (part.rest entries) = ofEntries entries := by
  apply Schema.document.load_filter
  intro v among
  have known := ordered.sorted.lookup among
  obtain ⟨origin, inner, rfl⟩ := tabular part v known
  refine (part.read_table origin inner).trans ?_
  change _ = Except.ok (part.get .standard)
  rw [part.get_standard, ← part.unsaid_eq_standard]
  apply part.schema.load_standing
  intro entry within
  obtain ⟨i, named, reads⟩ := nothing inner (part.table?_of_lookup known) entry within
  refine ⟨i, named, i.read_eq_ok_iff.mpr ?_⟩
  rw [part.unsaid_eq_standard, ← part.get_standard]
  exact reads

section

variable (i : Item part) (origin : Origin) (v : Toml.Value) (entries : Entries) {other : Part}

theorem Item.table?_set :
    part.table? (i.set origin v entries) = some (((part.table? entries).getD []).put i.key v) := by
  apply Part.table?_of_lookup
  rw [Item.set, Entries.lookup_put, if_pos rfl]

theorem Item.lookup_set_of_ne (differs : other ≠ part) :
    (i.set origin v entries).lookup other.name = entries.lookup other.name := by
  rw [Item.set, Entries.lookup_put]
  exact if_neg fun named => differs (Schema.document.name_injective other part named)

theorem Item.table?_set_of_ne (differs : other ≠ part) :
    other.table? (i.set origin v entries) = other.table? entries := by
  rw [Part.table?, i.lookup_set_of_ne _ _ _ differs, Part.table?]

theorem Item.at?_set : i.at? (i.set origin v entries) = some v := by
  rw [Item.at?, i.table?_set, Option.bind_some, Entries.lookup_put, if_pos rfl]

theorem Item.at?_set_of_ne (j : Item other) (differs : (⟨other, j⟩ : Sigma Item) ≠ ⟨part, i⟩) :
    j.at? (i.set origin v entries) = j.at? entries := by
  by_cases same : other = part
  · subst same
    have keys : j.key ≠ i.key := fun named => differs (by rw [Item.key_injective j i named])
    rw [Item.at?, i.table?_set, Option.bind_some, Entries.lookup_put, if_neg keys, Item.at?]
    cases other.table? entries <;> rfl
  · rw [Item.at?, i.table?_set_of_ne _ _ _ same, Item.at?]

end

theorem Item.given_without (i : Item part) (o : Options) : i.given (i.without o) = none := by
  cases i <;> rfl

theorem Item.given_without_of_ne (i : Item part) (o : Options) {other : Part} (j : Item other)
    (differs : (⟨other, j⟩ : Sigma Item) ≠ ⟨part, i⟩) : j.given (i.without o) = j.given o := by
  cases i <;> cases j <;> first | rfl | exact absurd rfl differs

theorem Tabular.set (tabular : Tabular entries) (i : Item part) (origin : Origin)
    (v : Toml.Value) : Tabular (i.set origin v entries) := by
  intro other w found
  by_cases same : other = part
  · subst same
    rw [Item.set, Entries.lookup_put, if_pos rfl] at found
    cases found
    exact ⟨_, _, rfl⟩
  · rw [i.lookup_set_of_ne _ _ _ same] at found
    exact tabular other w found

theorem Fits.set (fits : Fits entries) {i : Item part} (origin : Origin) {v : Toml.Value}
    {x : i.Worth} (reads : i.Reads v x) : Fits (i.set origin v entries) := by
  constructor
  case parts =>
    intro entry among
    obtain rfl | among := Entries.mem_put among
    · exact ⟨part, rfl⟩
    · exact fits.parts entry among
  case items =>
    intro other inner found entry among
    by_cases same : other = part
    · subst same
      rw [i.table?_set] at found
      cases found
      obtain rfl | among := Entries.mem_put among
      · exact ⟨i, rfl⟩
      · cases held : other.table? entries with
        | none =>
          rw [held] at among
          cases among
        | some inner =>
          rw [held] at among
          exact fits.items other inner held entry among
    · rw [i.table?_set_of_ne _ _ _ same] at found
      exact fits.items other inner found entry among
  case values =>
    intro other j w found
    by_cases same : (⟨other, j⟩ : Sigma Item) = ⟨part, i⟩
    · cases same
      rw [i.at?_set] at found
      cases found
      exact ⟨x, reads⟩
    · rw [i.at?_set_of_ne _ _ _ j same] at found
      exact fits.values j w found

theorem Item.get_congr {entries' : Entries} {s' : Settings} (ordered : entries.Ordered)
    (tabular : Tabular entries) (ordered' : entries'.Ordered) (tabular' : Tabular entries')
    (loaded : ofEntries entries = .ok s) (loaded' : ofEntries entries' = .ok s') (i : Item part)
    (same : i.at? entries' = i.at? entries) : i.get s' = i.get s := by
  cases found : i.at? entries with
  | none =>
    have standard' := i.standard_of_at? ordered' tabular' loaded' (same.trans found)
    exact standard'.trans (i.standard_of_at? ordered tabular loaded found).symm
  | some v =>
    have reads' := i.reads_of_at? ordered' loaded' (same.trans found)
    exact i.reads_unique reads' (i.reads_of_at? ordered loaded found)

/-- An option can as well be a key of the document. -/
theorem override_set {i : Item part} {origin : Origin} {v : Toml.Value}
    (ordered : entries.Ordered) (tabular : Tabular entries)
    (ordered' : (i.set origin v entries).Ordered) (loaded : ofEntries entries = .ok s)
    {o : Options} {x : i.Worth} (given : i.given o = some x) (reads : i.Reads v x) :
    ∃ s', ofEntries (i.set origin v entries) = .ok s' ∧
      (i.without o).override s' = o.override s := by
  have tabular' := tabular.set i origin v
  have fits := (loads_iff_fits ordered tabular).mp ⟨s, loaded⟩
  obtain ⟨s', loaded'⟩ := (loads_iff_fits ordered' tabular').mpr (fits.set origin reads)
  refine ⟨s', loaded', ext_items fun {other} j => ?_⟩
  rw [j.get_override, j.get_override]
  by_cases same : (⟨other, j⟩ : Sigma Item) = ⟨part, i⟩
  · cases same
    rw [i.given_without, given]
    exact i.reads_unique (i.reads_of_at? ordered' loaded' (i.at?_set _ _ _)) reads
  · have kept : j.get s' = j.get s :=
      j.get_congr ordered tabular ordered' tabular' loaded loaded' (i.at?_set_of_ne _ _ _ j same)
    rw [i.given_without_of_ne o j same, kept]

/-! ### Files -/

theorem ofFile_of_holds {file : Bytes} (holds : Toml.Holds file entries) :
    ofFile (.ok file) = (ofEntries entries).mapError .document := by
  obtain ⟨text, decoded, read⟩ := holds
  unfold ofFile
  dsimp only
  rw [decoded]
  dsimp only
  rw [ofText, read]

/-- How a file, the command line and the standard settings make up the settings. -/
structure Layered (file : Bytes) (entries : Entries) : Prop where
  loads_iff : (∃ s, ofFile (.ok file) = .ok s) ↔ Fits entries
  refused : ¬ Fits entries → ∃ misfit, ofFile (.ok file) = .error (.document misfit)
  settled : ∀ s, ofFile (.ok file) = .ok s → ∀ {part : Part} (i : Item part) (o : Options),
    i.Settled o entries (o.override s)
  again : ∀ (o : Options) (s : Settings), o.override (o.override s) = o.override s
  empty : entries = [] → ∀ {World : Type} (node : Daemon.Node World) (o : Options) (w : World),
    o.config = none → ofFile (.ok file) = (Daemon.load node o w).1
  unsaid : ∀ (part : Part) other entries', Toml.Holds other entries' → Tabular entries' →
    part.SaysNothing entries → part.SaysNothing entries' → part.rest entries' = part.rest entries →
    ofFile (.ok other) = ofFile (.ok file)
  /-- Passing an option is the same as setting the key, before anything is checked. -/
  passed : ∀ s, ofFile (.ok file) = .ok s → ∀ {part : Part} (i : Item part) (o : Options) x v origin
    other, i.given o = some x → i.Reads v x → Toml.Holds other (i.set origin v entries) →
    ∃ s', ofFile (.ok other) = .ok s' ∧ (i.without o).override s' = o.override s

theorem mapError_eq_ok_iff {result : Except Misfit Settings} :
    result.mapError Failure.document = .ok s ↔ result = .ok s := by
  cases result with
  | error misfit => exact iff_of_false nofun nofun
  | ok t => exact ⟨fun same => congrArg _ (Except.ok.inj same), fun same => congrArg _ same⟩

end Settings

open Settings

/-- Settings come in layers. Of any document whose sections are tables: it loads exactly if no key
is unknown and every value is of its item's type and range, and is refused as a document
otherwise. Every item has the value of the command line, else of the document, else the standard
one, whatever the others have; so neither a section that says nothing new, nor the command line
applied again, nor an option instead of a key makes a difference. -/
theorem settings_layered {file : Bytes} {entries : Entries} (holds : Toml.Holds file entries)
    (tabular : Tabular entries) : Layered file entries := by
  have ordered := holds.ordered
  have read := ofFile_of_holds holds
  have loads : (∃ s, ofFile (.ok file) = .ok s) ↔ Fits entries := by
    rw [read, ← loads_iff_fits ordered tabular]
    exact exists_congr fun s => mapError_eq_ok_iff
  constructor
  case loads_iff => exact loads
  case refused =>
    intro unfit
    cases loaded : ofEntries entries with
    | error misfit =>
      rw [read, loaded]
      exact ⟨misfit, rfl⟩
    | ok s =>
      rw [read, loaded] at loads
      exact absurd (loads.mp ⟨s, rfl⟩) unfit
  case settled =>
    intro s loaded part i o
    rw [read] at loaded
    exact i.settled ordered tabular (mapError_eq_ok_iff.mp loaded) o
  case again => exact override_again
  case empty =>
    rintro rfl World node o w unnamed
    rw [read, Daemon.load, unnamed]
    rfl
  case unsaid =>
    intro part other entries' holds' tabular' nothing nothing' same
    rw [read, ofFile_of_holds holds', ← ofEntries_rest ordered tabular nothing,
      ← ofEntries_rest holds'.ordered tabular' nothing', same]
  case passed =>
    intro s loaded part i o x v origin other given reads holds'
    rw [read] at loaded
    obtain ⟨s', loaded', same⟩ :=
      override_set ordered tabular holds'.ordered (mapError_eq_ok_iff.mp loaded) given reads
    rw [ofFile_of_holds holds', loaded']
    exact ⟨s', rfl, same⟩

/-- A file that sets the interval, one that spells out a standard name too, and one that has the
interval of the command line. Everything else is as where nothing is said. -/
theorem settings_layered_of_interval :
    let file := Bytes.ofText "[watch]\ninterval_ms = 500\n"
    let longer := Bytes.ofText
      "[service]\nname = \"linstor-controller\"\n[watch]\ninterval_ms = 500\n"
    let changed := Bytes.ofText "[watch]\ninterval_ms = 750\n"
    let watch : String × Toml.Value := ("watch", .table .header [("interval_ms", .integer 500)])
    let o := { Options.empty with interval := some 750 }
    Toml.Holds file [watch] ∧ Tabular [watch] ∧ ofFile (.ok longer) = ofFile (.ok file) ∧
      ∃ s s', ofFile (.ok file) = .ok s ∧
        s = ⟨⟨.ofText "/etc/xensource/pool.conf", 500, "master", 512, true⟩,
          ⟨"linstor-controller", "systemctl", ["--now"]⟩, ⟨.inotify, 1000⟩⟩ ∧
        (o.override s).watch.interval = 750 ∧ ofFile (.ok changed) = .ok s' ∧
        s' = o.override s := by
  intro file longer changed watch o
  let service : String × Toml.Value :=
    ("service", .table .header [("name", .text "linstor-controller")])
  have holds : Toml.Holds file [watch] := ⟨_, rfl, rfl⟩
  have tabular : Tabular [watch] := by
    rintro (_ | _ | _) v ⟨⟩
    exact ⟨_, _, rfl⟩
  have layered := settings_layered holds tabular
  have longerHolds : Toml.Holds longer [service, watch] := ⟨_, rfl, rfl⟩
  have longerTabular : Tabular [service, watch] := by
    rintro (_ | _ | _) v ⟨⟩ <;> exact ⟨_, _, rfl⟩
  have nothing : Part.service.SaysNothing [service, watch] := by
    rintro inner ⟨⟩
    exact List.forall_mem_singleton.mpr ⟨.service, rfl, rfl⟩
  have same := layered.unsaid .service longer _ longerHolds longerTabular nofun nothing rfl
  have set : Toml.Holds changed (Item.interval.set .header (.integer 750) [watch]) := ⟨_, rfl, rfl⟩
  let s : Settings := ⟨⟨.ofText "/etc/xensource/pool.conf", 500, "master", 512, true⟩,
    ⟨"linstor-controller", "systemctl", ["--now"]⟩, ⟨.inotify, 1000⟩⟩
  have loaded : ofFile (.ok file) = .ok s := rfl
  obtain ⟨s', loaded', passed⟩ := layered.passed s loaded .interval o (750 : Nat) (.integer 750)
    .header changed rfl ⟨rfl, by decide⟩ set
  exact ⟨holds, tabular, same, s, s', loaded, rfl, layered.settled s loaded .interval o, loaded',
    passed⟩

end RoleWatch
