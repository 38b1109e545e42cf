import RoleWatch.Daemon.Run
import RoleWatch.Proofs.Bench.Trial
import RoleWatch.Proofs.Duty.Line
import RoleWatch.Proofs.Settings.Acceptance

/-!
Which role a file declares, by its content. Reading stops at the limit and at the newline, and
accepted settings leave room for the marker and what ends it, so neither cut is noticed.
-/
namespace RoleWatch

/-- Under accepted settings an openable file declares a role by its content alone. -/
theorem Assignment.readRole_of_checked {World : Type} {s : Settings} {c : Settings.Checked}
    (accepted : s.check = .ok c) (host : Host World) {w : World} {source : Source}
    (opened : (host.openFile (Daemon.assignment c).path w).1 = .ok source)
    (whole : source.failure? = none) :
    ((Daemon.assignment c).readRole host w).1 =
      if source.content = [] then .error (.unreadable (Daemon.assignment c).path FirstLine.nothing)
      else .ok (c.marker.roleOf source.content) := by
  obtain ⟨rfl, text, room⟩ := Settings.of_check accepted
  rw [← text] at room
  have positive : 0 < (Daemon.assignment c).lineLimit := Nat.lt_of_le_of_lt (Nat.zero_le _) room
  have looked : ((Daemon.assignment c).readRole host w).1 =
      (Daemon.assignment c).roleOf (.ok source) := congrArg (Daemon.assignment c).roleOf opened
  rw [looked]
  unfold roleOf
  simp only [Except.bind, FirstLine.read_eq whole positive]
  split
  · rename_i line read
    split at read
    · simp at read
    · rename_i something
      obtain rfl := Except.ok.inj read
      rw [if_neg something]
      exact congrArg Except.ok (Marker.roleOf_line room)
  · rename_i cause read
    split at read
    · rename_i blank
      obtain rfl := Except.error.inj read
      rw [if_pos blank]
      rfl
    · simp at read

/-- Which role is read under accepted settings: a file that holds nothing gives a failure to read,
one that declares the marker the master, any other the standby. The limit on the line makes no
difference, and neither does what comes after the byte behind the marker. -/
theorem declared_role {World : Type} {s : Settings} {c : Settings.Checked}
    (accepted : s.check = .ok c) (host : Host World) {w : World} {source : Source}
    (opened : (host.openFile (Daemon.assignment c).path w).1 = .ok source)
    (whole : source.failure? = none) :
    ((∃ failure, ((Daemon.assignment c).readRole host w).1 = .error failure ∧
        failure.weight = .io) ↔ source.content = []) ∧
    (((Daemon.assignment c).readRole host w).1 = .ok .master ↔
      Declares (Bytes.ofText s.watch.marker) source.content) ∧
    (((Daemon.assignment c).readRole host w).1 = .ok .standby ↔
      source.content ≠ [] ∧ ¬ Declares (Bytes.ofText s.watch.marker) source.content) ∧
    (source.content ≠ [] → ((Daemon.assignment c).readRole host w).1 =
      .ok (c.marker.roleOf source.content)) ∧
    ∀ {w' : World} {source' : Source},
      (host.openFile (Daemon.assignment c).path w').1 = .ok source' → source'.failure? = none →
      source'.content.take ((Bytes.ofText s.watch.marker).length + 1) =
        source.content.take ((Bytes.ofText s.watch.marker).length + 1) →
      ((Daemon.assignment c).readRole host w').1 = ((Daemon.assignment c).readRole host w).1 := by
  obtain ⟨-, text, -⟩ := Settings.of_check accepted
  have read := Assignment.readRole_of_checked accepted host opened whole
  have master := @Marker.roleOf_eq_master_iff c.marker source.content
  rw [text] at master
  refine ⟨?_, ?_, ?_, ?_, ?_⟩
  · rw [read]
    by_cases blank : source.content = [] <;> simp [blank, Failure.weight]
  · rw [read, ← master]
    by_cases blank : source.content = [] <;> simp [blank, Marker.roleOf_nil]
  · rw [read, ← master]
    by_cases blank : source.content = []
    · simp [blank]
    · cases role : c.marker.roleOf source.content <;> simp [blank]
  · intro something
    rw [read, if_neg something]
  · intro w' source' opened' whole' agree
    have role : c.marker.roleOf source'.content = c.marker.roleOf source.content := by
      rw [← text] at agree
      rw [← Marker.roleOf_take (Nat.lt_succ_self _), agree,
        Marker.roleOf_take (Nat.lt_succ_self _)]
    have blank : source'.content = [] ↔ source.content = [] := by
      have cut := congrArg (· = []) agree
      simpa using cut
    rw [read, Assignment.readRole_of_checked accepted host opened' whole', role]
    simp only [blank]

open Bench Bench.Example in
/-- The file holds the marker, a vertical tab and more than the limit takes in. -/
theorem declared_role_of_marked_file : ∃ (s : Settings) (c : Settings.Checked) (scene : Scene)
    (source : Source), s.check = .ok c ∧
      (Scene.host.openFile (Daemon.assignment c).path scene).1 = .ok source ∧
      source.failure? = none ∧ s.watch.lineLimit < source.content.length ∧
      ((Daemon.assignment c).readRole Scene.host scene).1 = .ok .master := by
  let s : Settings :=
    ⟨⟨target.file, 1, "m", 2, true⟩, ⟨"s", "p", []⟩, ⟨.inotify, 1⟩⟩
  let c : Settings.Checked := ⟨s, target, job.marker⟩
  let scene : Scene := .ofTree ⟨[([.root], .directory), (target.dir.parts, .directory),
    (target.file.parts, .file [0x6d, 0x0b, 0x6d])]⟩ false []
  have accepted : s.check = .ok c := by
    refine Settings.check_of_met (fun r => ?_) rfl (dif_pos (by decide))
    cases r with
    | absolute => rfl
    | splits => exact Target.exists_ofPath_iff.1 ⟨target, rfl⟩
    | interval => exact Nat.le_refl 1
    | lineLimit =>
      have size : (Bytes.ofText "m").length < 2 := by decide
      exact size
    | service => exact ⟨'s', by decide, by decide⟩
    | program => exact ⟨'p', by decide, by decide⟩
    | pollInterval => exact Nat.le_refl 1
    | marker => exact Settings.proper_iff_met.1 ⟨by decide, by decide⟩
  have opened : (Scene.host.openFile (Daemon.assignment c).path scene).1 =
      .ok [.data [0x6d, 0x0b, 0x6d]] := rfl
  have declares : Declares (Bytes.ofText s.watch.marker) [0x6d, 0x0b, 0x6d] :=
    ⟨[0x0b, 0x6d], by decide, .inr ⟨0x0b, [0x6d], rfl, by decide⟩⟩
  exact ⟨s, c, scene, _, accepted, opened, rfl, by decide,
    (declared_role accepted Scene.host opened rfl).2.1.2 declares⟩

end RoleWatch
