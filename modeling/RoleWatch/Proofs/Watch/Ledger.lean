import RoleWatch.Proofs.Watch.Likeness
import RoleWatch.Proofs.Watch.Tending

/-!
A ledger of the calls about registrations. The watch keeps it orderly: at each moment it asks only
for a registration that is missing and ends only one that is outstanding, so in the end every
handle it was issued has been ended as often as it was issued.
-/
namespace RoleWatch

/-- One call about registrations and what came of it. -/
inductive Dealing where
  | asked (path : Path) (interest : Mask) (answer : Option Handle)
  | ended (handle : Handle)
  deriving DecidableEq

namespace Dealing

def settle (there : List Registration) : Dealing → List Registration
  | .asked path interest (some handle) => there ++ [⟨handle, path, interest⟩]
  | .asked _ _ none => there
  | .ended handle => there.eraseP (·.handle = handle)

def Proper (t : Target) (there : List Registration) : Dealing → Prop
  | .asked path interest _ => t.Wants there path interest
  | .ended handle => ∃ r ∈ there, r.handle = handle

def issued? : Dealing → Option Handle
  | .asked _ _ answer => answer
  | .ended _ => none

def ended? : Dealing → Option Handle
  | .asked _ _ _ => none
  | .ended handle => some handle

end Dealing

abbrev Ledger := List Dealing

namespace Ledger

def outstanding (l : Ledger) : List Registration := l.foldl Dealing.settle []

def issued (l : Ledger) : List Handle := l.filterMap Dealing.issued?

def ended (l : Ledger) : List Handle := l.filterMap Dealing.ended?

/-- Every call was in order when it was made. -/
inductive Orderly (t : Target) : Ledger → Prop where
  | nil : Orderly t []
  | concat {l : Ledger} {d : Dealing} (before : Orderly t l) (proper : d.Proper t l.outstanding) :
      Orderly t (l ++ [d])

@[simp] theorem outstanding_concat (l : Ledger) (d : Dealing) :
    outstanding (l ++ [d]) = d.settle l.outstanding := by
  simp [outstanding]

@[simp] theorem issued_concat (l : Ledger) (d : Dealing) :
    issued (l ++ [d]) = l.issued ++ d.issued?.toList := by
  cases found : d.issued? <;> simp [issued, found]

@[simp] theorem ended_concat (l : Ledger) (d : Dealing) :
    ended (l ++ [d]) = l.ended ++ d.ended?.toList := by
  cases found : d.ended? <;> simp [ended, found]

namespace Orderly

variable {t : Target} {l : Ledger}

theorem of_prefix {before : Ledger} (orderly : Orderly t l) (front : before <+: l) :
    Orderly t before := by
  induction orderly with
  | nil =>
    rw [List.prefix_nil.1 front]
    exact .nil
  | concat orderly proper ih =>
    rcases List.prefix_concat_iff.1 front with rfl | shorter
    · exact .concat orderly proper
    · exact ih shorter

theorem proper_of_prefix {before : Ledger} {d : Dealing} (orderly : Orderly t l)
    (front : before ++ [d] <+: l) : d.Proper t before.outstanding := by
  generalize whole : before ++ [d] = l' at front
  cases orderly.of_prefix front with
  | nil => simp at whole
  | concat _ proper =>
    obtain ⟨rfl, same⟩ := List.append_inj' whole rfl
    obtain rfl := List.singleton_inj.1 same
    exact proper

theorem interests_nodup (orderly : Orderly t l) :
    (l.outstanding.map Registration.interest).Nodup := by
  induction orderly with
  | nil => exact List.nodup_nil
  | @concat l d before proper ih =>
    rw [outstanding_concat]
    match d, proper with
    | .asked path interest none, _ => exact ih
    | .asked path interest (some handle), wanted =>
      have missing := wanted.missing
      simp only [Dealing.settle, List.map_append, List.map_cons, List.map_nil, List.nodup_append]
      refine ⟨ih, by simp, ?_⟩
      rintro other there _ (_ | ⟨_, ⟨⟩⟩)
      obtain ⟨r, held, rfl⟩ := List.mem_map.1 there
      exact missing r held
    | .ended handle, _ => exact List.Nodup.sublist (List.eraseP_sublist.map _) ih

theorem length_le_two (orderly : Orderly t l) : l.outstanding.length ≤ 2 := by
  induction orderly with
  | nil => exact Nat.zero_le 2
  | @concat l d before proper ih =>
    rw [outstanding_concat]
    match d, proper with
    | .asked path interest none, _ => exact ih
    | .asked path interest (some handle), wanted =>
      have room := wanted.room
      simp only [Dealing.settle, List.length_append, List.length_singleton]
      omega
    | .ended handle, _ => exact Nat.le_trans List.eraseP_sublist.length_le ih

theorem countP_le_one (orderly : Orderly t l) {p : Registration → Bool} {interest : Mask}
    (asks : ∀ r, p r = true → r.interest = interest) : l.outstanding.countP p ≤ 1 := by
  calc l.outstanding.countP p
      ≤ l.outstanding.countP fun r => r.interest == interest :=
        List.countP_mono_left fun r _ holds => by simpa using asks r holds
    _ = (l.outstanding.map Registration.interest).count interest := by
        rw [List.count_eq_countP, List.countP_map]
        rfl
    _ ≤ 1 := List.nodup_iff_count.1 orderly.interests_nodup interest

/-- Nothing is lost: what was issued is outstanding or was ended. -/
theorem issued_perm (orderly : Orderly t l) :
    l.issued.Perm (l.ended ++ l.outstanding.map Registration.handle) := by
  induction orderly with
  | nil => exact .nil
  | @concat l d before proper ih =>
    rw [outstanding_concat, issued_concat, ended_concat]
    match d, proper with
    | .asked path interest none, _ =>
      simpa [Dealing.settle, Dealing.issued?, Dealing.ended?] using ih
    | .asked path interest (some handle), _ =>
      simpa [Dealing.settle, Dealing.issued?, Dealing.ended?] using ih.append_right [handle]
    | .ended handle, found =>
      obtain ⟨r, there, same⟩ := found
      obtain ⟨gone, front, back, _, here, split, erased⟩ :=
        List.exists_of_eraseP (p := (·.handle = handle)) there (by simpa using same)
      have named : gone.handle = handle := by simpa using here
      rw [split] at ih
      simp only [Dealing.settle, Dealing.issued?, Dealing.ended?, erased, Option.toList_none,
        List.append_nil]
      refine ih.trans ?_
      simp only [Option.toList_some, List.map_append, List.map_cons, named, List.append_assoc,
        List.singleton_append]
      exact List.perm_middle.append_left _

theorem ended_perm (orderly : Orderly t l) (closed : l.outstanding = []) :
    l.ended.Perm l.issued := by
  have all := orderly.issued_perm
  rw [closed, List.map_nil, List.append_nil] at all
  exact all.symm

theorem names_of_mem {path : Path} {interest : Mask} {answer : Option Handle}
    (orderly : Orderly t l) (asked : .asked path interest answer ∈ l) : t.Names path interest := by
  obtain ⟨front, back, rfl⟩ := List.append_of_mem asked
  have here : front ++ [.asked path interest answer] <+:
      front ++ .asked path interest answer :: back := ⟨back, by simp⟩
  exact Target.Wants.names (orderly.proper_of_prefix here)

end Orderly

end Ledger

namespace Host

variable {World : Type}

/-- The same surroundings, with a ledger of the calls about registrations beside the world. -/
def audited (host : Host World) : Host (World × Ledger) where
  openFile path := fun (w, l) => ((host.openFile path w).1, (host.openFile path w).2, l)
  addWatch path interest := fun (w, l) =>
    let (answer, w') := host.addWatch path interest w
    (answer, w', l ++ [.asked path interest answer.toOption])
  removeWatch handle := fun (w, l) =>
    let (answer, w') := host.removeWatch handle w
    (answer, w', l ++ [.ended handle])
  perform verb service := fun (w, l) =>
    ((host.perform verb service w).1, (host.perform verb service w).2, l)
  note entry := fun (w, l) => ((host.note entry w).1, (host.note entry w).2, l)

structure Accounts (t : Target) (there : List Registration) (state : World × Ledger) : Prop where
  orderly : state.2.Orderly t
  outstanding : state.2.outstanding = there

theorem audited_keeps (host : Host World) (t : Target) : host.audited.Keeps t (Accounts t) where
  openFile _ now := ⟨now.orderly, now.outstanding⟩
  addWatch {there state path interest} wanted now := by
    obtain ⟨w, l⟩ := state
    obtain ⟨orderly, rfl⟩ := now
    refine ⟨.concat orderly wanted, ?_⟩
    change Ledger.outstanding (l ++ [_]) = _
    rw [Ledger.outstanding_concat]
    change Dealing.settle _ (.asked path interest (host.addWatch path interest w).1.toOption) =
      _ ++ Registration.granted path interest (host.addWatch path interest w).1
    cases (host.addWatch path interest w).1 with
    | ok handle => rfl
    | error cause => simp [Registration.granted, Dealing.settle, Except.toOption]
  removeWatch {there state handle} found now := by
    obtain ⟨w, l⟩ := state
    obtain ⟨orderly, rfl⟩ := now
    exact ⟨.concat orderly found, Ledger.outstanding_concat l (.ended handle)⟩
  perform _ _ now := ⟨now.orderly, now.outstanding⟩
  note _ now := ⟨now.orderly, now.outstanding⟩

/-- Keeping the ledger changes nothing. -/
theorem audited_alike (host : Host World) (job : Assignment) :
    host.audited.Alike (fun (state : World × Ledger) w => state.1 = w) host job where
  enforce := by
    refine job.enforce_alike (fun path => ?_) (fun verb service => ?_) (fun entry => ?_)
    · rintro state _ rfl
      exact ⟨rfl, rfl⟩
    · rintro state _ rfl
      exact ⟨rfl, rfl⟩
    · rintro state _ rfl
      exact ⟨rfl, rfl⟩
  addWatch path interest := by
    rintro state _ rfl
    exact ⟨rfl, rfl⟩
  removeWatch handle := by
    rintro state _ rfl
    exact ⟨rfl, rfl⟩
  note entry := by
    rintro state _ rfl
    exact ⟨rfl, rfl⟩

end Host

inductive Sentry.Call (World : Type) where
  | attend (batch : List Event)
  | recheck
  | meanwhile (change : World → World)

namespace Sentry

variable {World : Type}

/-- Makes a call, whether it succeeds or not. -/
def Call.make (host : Host World) (job : Assignment) (s : Sentry) :
    Call World → StateM World Sentry
  | .attend batch => do
    let (_, s) ← s.attend host job batch
    return s
  | .recheck => do
    let (_, s) ← s.recheck host job
    return s
  | .meanwhile change => fun w => (s, change w)

def Call.audited : Call World → Call (World × Ledger)
  | .attend batch => .attend batch
  | .recheck => .recheck
  | .meanwhile change => .meanwhile fun (w, l) => (change w, l)

def serve (host : Host World) (job : Assignment) : List (Call World) → Sentry → StateM World Sentry
  | [], s => return s
  | call :: rest, s => do
    let s ← call.make host job s
    serve host job rest s

/-- A watch from its beginning to its release, with any calls between, whether they succeed or
not. -/
def stint (host : Host World) (job : Assignment) (t : Target) (calls : List (Call World)) :
    StateM World Sentry := do
  let (_, s) ← (ofTarget t).start host job
  let s ← serve host job calls s
  s.release host

variable {host : Host World} {job : Assignment} {t : Target}

theorem Call.make_tidy {s : Sentry} {state : World × Ledger}
    (tidy : s.Tidy (Host.Accounts s.target) state) (call : Call World) :
    After (call.audited.make host.audited job s) state fun s' state' =>
      s'.target = s.target ∧ s'.Tidy (Host.Accounts s.target) state' := by
  have keeps := host.audited_keeps s.target
  cases call with
  | attend batch =>
    exact After.bind (attend_done keeps tidy batch) fun _ _ done =>
      After.pure ⟨done.target, done.tidy⟩
  | recheck =>
    exact After.bind (recheck_done keeps tidy) fun _ _ done => After.pure ⟨done.target, done.tidy⟩
  | meanwhile change => exact ⟨rfl, ⟨⟨tidy.kept.orderly, tidy.kept.outstanding⟩, tidy.fitting⟩⟩

theorem serve_tidy (calls : List (Call World)) {s : Sentry} {state : World × Ledger}
    (same : s.target = t) (tidy : s.Tidy (Host.Accounts t) state) :
    After (serve host.audited job (calls.map Call.audited) s) state fun s' state' =>
      s'.target = t ∧ s'.Tidy (Host.Accounts t) state' := by
  induction calls generalizing s state with
  | nil => exact After.pure ⟨same, tidy⟩
  | cons call rest ih =>
    subst same
    apply After.bind (Call.make_tidy tidy call)
    rintro s' state' ⟨same', tidy'⟩
    exact ih same' tidy'

/-- When the watch is released everything is ended, and the ledger is in order. -/
theorem stint_accounts (host : Host World) (job : Assignment) (t : Target)
    (calls : List (Call World)) (w : World) :
    After (stint host.audited job t (calls.map Call.audited)) (w, []) fun s state =>
      Host.Accounts t [] state ∧ s.held.file = none ∧ s.held.dir = none := by
  have keeps := host.audited_keeps t
  apply After.bind (start_done keeps ⟨.nil, rfl⟩)
  intro began state₁ done
  apply After.bind (serve_tidy calls done.target done.tidy)
  rintro s state₂ ⟨rfl, tidy⟩
  apply After.mono (release_done keeps tidy)
  rintro _ state₃ ⟨accounts, rfl⟩
  exact ⟨accounts, rfl, rfl⟩

theorem stint_alike (host : Host World) (job : Assignment) (t : Target)
    (calls : List (Call World)) :
    Alike (fun (state : World × Ledger) w => state.1 = w)
      (stint host.audited job t (calls.map Call.audited)) (stint host job t calls) := by
  have alike := host.audited_alike job
  have served (s : Sentry) : Alike (fun (state : World × Ledger) w => state.1 = w)
      (serve host.audited job (calls.map Call.audited) s) (serve host job calls s) := by
    induction calls generalizing s with
    | nil => exact .pure s
    | cons call rest ih =>
      refine Alike.bind ?_ ih
      cases call with
      | attend batch => exact (attend_alike alike s batch).bind fun _ => .pure _
      | recheck => exact (recheck_alike alike s).bind fun _ => .pure _
      | meanwhile change =>
        rintro state _ rfl
        exact ⟨rfl, rfl⟩
  exact (start_alike alike _).bind fun _ => (served _).bind fun _ => release_alike alike _

theorem release_again {s : Sentry} (state : World × Ledger) (noFile : s.held.file = none)
    (noDir : s.held.dir = none) : (s.release host.audited state).2.2 = state.2 := by
  unfold release
  rw [noFile, noDir]
  rfl

end Sentry

end RoleWatch
