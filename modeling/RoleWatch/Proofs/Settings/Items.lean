import RoleWatch.Proofs.Settings.Schema

/-!
The single items of the settings: the section that each belongs to, its key there, and the values
that give it.
-/
namespace RoleWatch.Settings

inductive Part where
  | watch
  | service
  | listening

namespace Part

def Section : Part → Type
  | .watch => Watch
  | .service => Service
  | .listening => Listening

def name : Part → String
  | .watch => "watch"
  | .service => "service"
  | .listening => "backend"

def keys : (part : Part) → List (Key part.Section)
  | .watch => Watch.keys
  | .service => Service.keys
  | .listening => Listening.keys

def unsaid : (part : Part) → part.Section
  | .watch => Watch.unsaid
  | .service => Service.unsaid
  | .listening => Listening.unsaid

def standard : (part : Part) → part.Section
  | .watch => Watch.standard
  | .service => Service.standard
  | .listening => Listening.standard

def read : (part : Part) → Toml.Value → Except Misfit part.Section
  | .watch, v => readSection "WatchSection" Watch.keys .unsaid v
  | .service, v => readSection "ServiceSection" Service.keys .unsaid v
  | .listening, v => readSection "BackendSection" Listening.keys .unsaid v

def get : (part : Part) → Settings → part.Section
  | .watch, s => s.watch
  | .service, s => s.service
  | .listening, s => s.listening

def put : (part : Part) → Settings → part.Section → Settings
  | .watch, s, w => { s with watch := w }
  | .service, s, d => { s with service := d }
  | .listening, s, l => { s with listening := l }

end Part

inductive Item : Part → Type where
  | path : Item .watch
  | interval : Item .watch
  | marker : Item .watch
  | lineLimit : Item .watch
  | rechecks : Item .watch
  | service : Item .service
  | program : Item .service
  | arguments : Item .service
  | backend : Item .listening
  | pollInterval : Item .listening

def IsNumber (v : Toml.Value) (n : Nat) : Prop := v = .integer n ∧ n < Width.count 64

/-- A list of texts. Tables under one header are a list too, but never of texts. -/
def IsTexts (v : Toml.Value) (texts : List String) : Prop :=
  v = .list (texts.map .text) ∨ v = .tables (texts.map .text)

/-- The name of a way, or a table with nothing but an empty value under that name. -/
def Names (v : Toml.Value) (b : Backend) : Prop :=
  v = .text b.name ∨ ∃ origin held, isVoid held ∧ v = .table origin [(b.name, held)]

namespace Item

variable {part : Part}

def Worth : {part : Part} → Item part → Type
  | _, .path => Path
  | _, .interval | _, .lineLimit | _, .pollInterval => Nat
  | _, .marker | _, .service | _, .program => String
  | _, .rechecks => Bool
  | _, .arguments => List String
  | _, .backend => Backend

def key : {part : Part} → Item part → String
  | _, .path => "path"
  | _, .interval => "interval_ms"
  | _, .marker => "marker"
  | _, .lineLimit => "line_limit"
  | _, .rechecks => "periodic_reconcile"
  | _, .service => "name"
  | _, .program => "program"
  | _, .arguments => "args"
  | _, .backend => "kind"
  | _, .pollInterval => "poll_interval_ms"

/-- Whether a value gives an item: it is of the item's type and in its range. -/
def Reads : {part : Part} → (i : Item part) → Toml.Value → i.Worth → Prop
  | _, .path, v, p => ∃ text, v = .text text ∧ p = Path.ofText text
  | _, .interval, v, n | _, .lineLimit, v, n | _, .pollInterval, v, n => IsNumber v n
  | _, .marker, v, text | _, .service, v, text | _, .program, v, text => v = .text text
  | _, .rechecks, v, truth => v = .boolean truth
  | _, .arguments, v, texts => IsTexts v texts
  | _, .backend, v, b => Names v b

def read : {part : Part} → (i : Item part) → Toml.Value → Except Misfit i.Worth
  | _, .path, v => (textOf .path v).map Path.ofText
  | _, .interval, v | _, .pollInterval, v => numberOf .number v
  | _, .lineLimit, v => numberOf .size v
  | _, .marker, v | _, .service, v | _, .program, v => textOf .text v
  | _, .rechecks, v => truthOf v
  | _, .arguments, v => textsOf v
  | _, .backend, v => choiceOf v

def within : {part : Part} → (i : Item part) → part.Section → i.Worth
  | _, .path, w => Watch.path w
  | _, .interval, w => Watch.interval w
  | _, .marker, w => Watch.marker w
  | _, .lineLimit, w => Watch.lineLimit w
  | _, .rechecks, w => Watch.rechecks w
  | _, .service, s => Service.name s
  | _, .program, s => Service.program s
  | _, .arguments, s => Service.arguments s
  | _, .backend, l => Listening.backend l
  | _, .pollInterval, l => Listening.pollInterval l

def put : {part : Part} → (i : Item part) → part.Section → i.Worth → part.Section
  | _, .path, (w : Watch), p => ({ w with path := p } : Watch)
  | _, .interval, (w : Watch), n => ({ w with interval := n } : Watch)
  | _, .marker, (w : Watch), text => ({ w with marker := text } : Watch)
  | _, .lineLimit, (w : Watch), n => ({ w with lineLimit := n } : Watch)
  | _, .rechecks, (w : Watch), truth => ({ w with rechecks := truth } : Watch)
  | _, .service, (s : Service), text => ({ s with name := text } : Service)
  | _, .program, (s : Service), text => ({ s with program := text } : Service)
  | _, .arguments, (s : Service), texts => ({ s with arguments := texts } : Service)
  | _, .backend, (l : Listening), b => ({ l with backend := b } : Listening)
  | _, .pollInterval, (l : Listening), n => ({ l with pollInterval := n } : Listening)

end Item

/-! ### The values that are read -/

theorem mismatch_ne_ok {α : Type} {v : Toml.Value} {expected : Expected} {a : α} :
    mismatch v expected ≠ .ok a := by
  unfold mismatch
  cases Found.ofValue v <;> nofun

theorem textOf_eq_ok_iff {expected : Expected} {v : Toml.Value} {text : String} :
    textOf expected v = .ok text ↔ v = .text text := by
  cases v with
  | text content => simp [textOf]
  | _ => simp [textOf, mismatch_ne_ok]

theorem fitsUnsigned_iff {number : Int} :
    Width.fitsUnsigned 64 number = true ↔ ∃ n : Nat, number = n ∧ n < Width.count 64 := by
  unfold Width.fitsUnsigned
  rw [Bool.and_eq_true, decide_eq_true_iff, decide_eq_true_iff]
  constructor
  · intro ⟨least, most⟩
    exact ⟨number.toNat, by omega, by omega⟩
  · intro ⟨n, same, small⟩
    omega

theorem numberOf_eq_ok_iff {expected : Expected} {v : Toml.Value} {n : Nat} :
    numberOf expected v = .ok n ↔ IsNumber v n := by
  unfold IsNumber
  cases v with
  | integer number =>
    simp only [numberOf]
    split
    · rename_i fits
      obtain ⟨m, rfl, small⟩ := fitsUnsigned_iff.mp fits
      simp only [Except.ok.injEq, Toml.Value.integer.injEq, Int.toNat_natCast]
      omega
    · rename_i outside
      have never : ¬ (Toml.Value.integer number = .integer n ∧ n < Width.count 64) := by
        rintro ⟨same, small⟩
        cases same
        exact outside (fitsUnsigned_iff.mpr ⟨n, rfl, small⟩)
      split
      · exact iff_of_false nofun never
      · exact iff_of_false mismatch_ne_ok never
  | _ => simp [numberOf, mismatch_ne_ok]

theorem truthOf_eq_ok_iff {v : Toml.Value} {truth : Bool} :
    truthOf v = .ok truth ↔ v = .boolean truth := by
  cases v with
  | boolean value => simp [truthOf]
  | _ => simp [truthOf, mismatch_ne_ok]

theorem mapM_textOf_eq_ok_iff {items : List Toml.Value} {texts : List String} :
    items.mapM (textOf .text) = .ok texts ↔ items = texts.map .text := by
  induction items generalizing texts with
  | nil => cases texts <;> simp [pure, Except.pure]
  | cons v rest ih =>
    rw [List.mapM_cons]
    constructor
    · intro read
      cases first : textOf .text v with
      | error misfit =>
        rw [first] at read
        cases read
      | ok text =>
        cases others : rest.mapM (textOf .text) with
        | error misfit =>
          rw [first, others] at read
          cases read
        | ok more =>
          rw [first, others] at read
          cases read
          rw [textOf_eq_ok_iff.mp first, ih.mp others]
          rfl
    · intro same
      cases texts with
      | nil => cases same
      | cons text more =>
        obtain ⟨rfl, others⟩ := List.cons.inj same
        rw [textOf_eq_ok_iff.mpr rfl, ih.mpr others]
        rfl

theorem textsOf_eq_ok_iff {v : Toml.Value} {texts : List String} :
    textsOf v = .ok texts ↔ IsTexts v texts := by
  unfold IsTexts
  cases v with
  | list items => simp [textsOf, mapM_textOf_eq_ok_iff]
  | tables items => simp [textsOf, mapM_textOf_eq_ok_iff]
  | _ => simp [textsOf, mismatch_ne_ok]

theorem choose_eq_ok_iff {name : String} {b : Backend} : choose name = .ok b ↔ name = b.name := by
  unfold choose
  constructor
  · intro chosen
    cases found : Backend.ofName? name with
    | none =>
      rw [found] at chosen
      cases chosen
    | some other =>
      rw [found] at chosen
      cases chosen
      have hit := List.find?_some found
      exact (of_decide_eq_true hit).symm
  · intro same
    rw [same, Backend.ofName?_name]

theorem choiceOf_eq_ok_iff {v : Toml.Value} {b : Backend} : choiceOf v = .ok b ↔ Names v b := by
  unfold Names
  cases v with
  | text name => simp [choiceOf, choose_eq_ok_iff]
  | table origin entries =>
    rcases entries with _ | ⟨⟨name, held⟩, _ | ⟨second, rest⟩⟩
    · simp [choiceOf]
    · constructor
      · intro chosen
        cases read : choose name with
        | error misfit =>
          rw [choiceOf, read] at chosen
          cases chosen
        | ok other =>
          rw [choiceOf, read] at chosen
          change (if isVoid held then Except.ok other else .error Misfit.noChoice) = .ok b at chosen
          split at chosen
          · rename_i void
            cases chosen
            exact .inr ⟨origin, held, void, by rw [choose_eq_ok_iff.mp read]⟩
          · cases chosen
      · intro named
        obtain named | ⟨_, _, void, same⟩ := named
        · cases named
        · cases same
          rw [choiceOf, choose_eq_ok_iff.mpr rfl]
          exact if_pos void
    · simp [choiceOf]
  | _ => simp [choiceOf]

theorem Item.read_eq_ok_iff {part : Part} (i : Item part) {v : Toml.Value} {x : i.Worth} :
    i.read v = .ok x ↔ i.Reads v x := by
  cases i with
  | path =>
    show (textOf .path v).map Path.ofText = .ok x ↔ ∃ text, v = .text text ∧ x = Path.ofText text
    cases red : textOf .path v with
    | error misfit =>
      constructor
      · nofun
      · rintro ⟨text, rfl, -⟩
        cases red
    | ok text =>
      cases textOf_eq_ok_iff.mp red
      constructor
      · rintro ⟨⟩
        exact ⟨text, rfl, rfl⟩
      · rintro ⟨_, ⟨⟩, rfl⟩
        rfl
  | interval => exact numberOf_eq_ok_iff
  | lineLimit => exact numberOf_eq_ok_iff
  | pollInterval => exact numberOf_eq_ok_iff
  | marker => exact textOf_eq_ok_iff
  | service => exact textOf_eq_ok_iff
  | program => exact textOf_eq_ok_iff
  | rechecks => exact truthOf_eq_ok_iff
  | arguments => exact textsOf_eq_ok_iff
  | backend => exact choiceOf_eq_ok_iff

/-! ### The sections and their items -/

theorem Key.set_of {α β : Type} (name : String) (read : Toml.Value → Except Misfit β)
    (put : α → β → α) (s : α) (v : Toml.Value) :
    (Key.of name read put).set s v = (read v).map (put s) := by
  unfold Key.of
  dsimp only
  cases read v <;> rfl

namespace Item

variable {part : Part}

theorem key_injective (i j : Item part) (same : i.key = j.key) : i = j := by
  cases i <;> cases j <;> first | rfl | exact absurd same (by decide)

theorem known (part : Part) : ∀ key ∈ part.keys, ∃ i : Item part, i.key = key.name := by
  cases part with
  | watch =>
    exact List.forall_mem_cons.mpr ⟨⟨.path, rfl⟩, List.forall_mem_cons.mpr ⟨⟨.interval, rfl⟩,
      List.forall_mem_cons.mpr ⟨⟨.marker, rfl⟩, List.forall_mem_cons.mpr ⟨⟨.lineLimit, rfl⟩,
      List.forall_mem_singleton.mpr ⟨.rechecks, rfl⟩⟩⟩⟩⟩
  | service =>
    exact List.forall_mem_cons.mpr ⟨⟨.service, rfl⟩, List.forall_mem_cons.mpr ⟨⟨.program, rfl⟩,
      List.forall_mem_singleton.mpr ⟨.arguments, rfl⟩⟩⟩
  | listening =>
    exact List.forall_mem_cons.mpr ⟨⟨.backend, rfl⟩,
      List.forall_mem_singleton.mpr ⟨.pollInterval, rfl⟩⟩

theorem setEntry_key (i : Item part) (s : part.Section) (v : Toml.Value) :
    setEntry part.keys s (i.key, v) = (i.read v).map (i.put s) := by
  cases i with
  | path =>
    refine (Key.set_of "path" (textOf .path) _ s v).trans ?_
    show _ = ((textOf .path v).map Path.ofText).map _
    cases textOf .path v <;> rfl
  | _ => exact Key.set_of _ _ _ s v

theorem within_put (i : Item part) (s : part.Section) (x : i.Worth) :
    i.within (i.put s x) = x := by
  cases i <;> rfl

theorem within_put_of_ne (i j : Item part) (s : part.Section) (x : j.Worth) (differs : i ≠ j) :
    i.within (j.put s x) = i.within s := by
  cases i <;> cases j <;> first | rfl | exact absurd rfl differs

theorem ext_within (s t : part.Section) (same : ∀ i : Item part, i.within s = i.within t) :
    s = t := by
  cases part with
  | watch =>
    obtain ⟨path, interval, marker, lineLimit, rechecks⟩ := s
    cases show path = _ from same .path
    cases show interval = _ from same .interval
    cases show marker = _ from same .marker
    cases show lineLimit = _ from same .lineLimit
    cases show rechecks = _ from same .rechecks
    rfl
  | service =>
    obtain ⟨name, program, arguments⟩ := s
    cases show name = _ from same .service
    cases show program = _ from same .program
    cases show arguments = _ from same .arguments
    rfl
  | listening =>
    obtain ⟨backend, pollInterval⟩ := s
    cases show backend = _ from same .backend
    cases show pollInterval = _ from same .pollInterval
    rfl

end Item

def Part.schema (part : Part) : Schema part.Section where
  keys := part.keys
  Item := Item part
  name := Item.key
  Worth := Item.Worth
  read := Item.read
  get := Item.within
  put := Item.put
  name_injective := Item.key_injective
  get_put := Item.within_put
  get_put_of_ne := Item.within_put_of_ne
  ext := Item.ext_within
  known := Item.known part
  setEntry_name := Item.setEntry_key

def Schema.document : Schema Settings where
  keys := sections
  Item := Part
  name := Part.name
  Worth := Part.Section
  read := Part.read
  get := Part.get
  put := Part.put
  name_injective i j same := by cases i <;> cases j <;> first | rfl | exact absurd same (by decide)
  get_put i _ _ := by cases i <;> rfl
  get_put_of_ne i j _ _ differs := by
    cases i <;> cases j <;> first | rfl | exact absurd rfl differs
  ext s t same := by
    obtain ⟨watch, service, listening⟩ := s
    cases show watch = _ from same .watch
    cases show service = _ from same .service
    cases show listening = _ from same .listening
    rfl
  known := List.forall_mem_cons.mpr ⟨⟨.watch, rfl⟩, List.forall_mem_cons.mpr ⟨⟨.service, rfl⟩,
    List.forall_mem_singleton.mpr ⟨.listening, rfl⟩⟩⟩
  setEntry_name i s v := by cases i <;> exact Key.set_of _ _ _ s v

theorem Part.read_table (part : Part) (origin : Toml.Origin) (inner : Toml.Entries) :
    part.read (.table origin inner) = part.schema.load part.unsaid inner := by
  cases part <;> rfl

/-- A section that leaves out every key is the same as none. -/
theorem Part.unsaid_eq_standard (part : Part) : part.unsaid = part.standard := by
  cases part <;> rfl

end RoleWatch.Settings
