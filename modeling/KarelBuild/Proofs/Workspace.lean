import KarelBuild.Workspace
import KarelBuild.Proofs.Host
import KarelBuild.Proofs.Path

/-!
# Fresh workspaces

A workspace is made by one `makeDir` at an absolute path (`create_ok`). The path ends in a letter, so
that the file that a workspace has for a source is one name below it.
-/

namespace KarelBuild

namespace Workspace

/-- A path that goes on where the workspace's own path ends. -/
def Contains (w : Workspace) (p : Path) : Prop := (w.path ++ ['/']) <+: p

/-- A path that names can be put below with a slash. -/
structure Extensible (w : Workspace) : Prop where
  nonempty : w.path ≠ []
  open_end : Path.endsInSlash w.path = false

theorem nameOf_getLast? (serial : Nat) : (nameOf serial).getLast? = some 'd' := by
  have hend : "-buildd".toList.getLast? = some 'd' := by decide
  unfold nameOf
  rw [List.getLast?_append, hend]
  exact Option.some_or

theorem createIn_ok {base : Path} {tries : Nat} {h h' : Host} {w : Workspace}
    (hw : createIn base tries h = .ok (w, h')) :
    ∃ serial, w.path = Path.join base (nameOf serial) ∧
      h.tree.makeDir h.workDir w.path = .ok h'.tree := by
  induction tries generalizing h with
  | zero => simp [createIn] at hw
  | succ tries ih =>
    simp only [createIn] at hw
    split at hw
    next t ht =>
      obtain ⟨rfl, rfl⟩ := Prod.ext_iff.mp (Except.ok.inj hw)
      exact ⟨h.serial, rfl, ht⟩
    next =>
      obtain ⟨serial, hpath, hmade⟩ := ih hw
      exact ⟨serial, hpath, hmade⟩
    next => simp at hw

theorem create_ok {parent : Path} {h h' : Host} {w : Workspace}
    (hw : create parent h = .ok (w, h')) :
    ∃ base serial, baseOf h parent = .ok base ∧ w.path = Path.join base (nameOf serial) ∧
      h.tree.makeDir h.workDir w.path = .ok h'.tree := by
  unfold create at hw
  cases hb : baseOf h parent with
  | error e => simp [hb, Except.mapError] at hw
  | ok base =>
    cases hc : createIn base (h.tree.entries.length + 1) h with
    | error f => simp [hb, hc, Except.mapError] at hw
    | ok made =>
      obtain rfl : made = (w, h') := by simpa [hb, hc, Except.mapError] using hw
      obtain ⟨serial, hpath, hmade⟩ := createIn_ok hc
      exact ⟨base, serial, rfl, hpath, hmade⟩

theorem baseOf_isAbsolute {parent base : Path} {h : Host} (hbase : baseOf h parent = .ok base) :
    Path.isAbsolute base = true := by
  unfold baseOf at hbase
  split at hbase
  next hparent =>
    obtain rfl := Except.ok.inj hbase
    exact hparent
  next =>
    cases hdir : h.workPath with
    | error e => simp [hdir, Except.map] at hbase
    | ok dir =>
      obtain rfl : Path.join dir parent = base := by simpa [hdir, Except.map] using hbase
      exact Path.isAbsolute_join (Host.workPath_isAbsolute hdir) parent

theorem create_isAbsolute {parent : Path} {h h' : Host} {w : Workspace}
    (hw : create parent h = .ok (w, h')) : Path.isAbsolute w.path = true := by
  obtain ⟨base, serial, hbase, hpath, -⟩ := create_ok hw
  rw [hpath]
  exact Path.isAbsolute_join (baseOf_isAbsolute hbase) _

theorem create_extensible {parent : Path} {h h' : Host} {w : Workspace}
    (hw : create parent h = .ok (w, h')) : w.Extensible := by
  obtain ⟨base, serial, -, hpath, -⟩ := create_ok hw
  have hname : nameOf serial ≠ [] := by
    intro h
    simpa [h] using nameOf_getLast? serial
  have hlast : w.path.getLast? = some 'd' := by
    rw [hpath, Path.join_getLast? hname, nameOf_getLast?]
  refine ⟨?_, ?_⟩
  · intro h
    simp [h] at hlast
  · simp [Path.endsInSlash, hlast]

/-- The file of the same name is one name below the workspace. -/
theorem Extensible.filePath_eq {w : Workspace} (hw : w.Extensible) {file : Path} {name : Text}
    (hname : Path.fileName? file = some name) (hslash : '/' ∉ name) :
    w.filePath file = w.path ++ '/' :: name := by
  simp only [filePath, hname]
  exact Path.join_of_dir hw.nonempty hw.open_end hslash

theorem contains_below (w : Workspace) (name : Text) : w.Contains (w.path ++ '/' :: name) :=
  ⟨name, by simp⟩

end Workspace

end KarelBuild
