import KarelBuild.Host
import KarelBuild.Proofs.FileTree.Files
import KarelBuild.Proofs.Path

/-!
# Writing a text file on a host

A text that was written is in the one place where its path leads. Everywhere else the tree keeps
what it had, and gets no more than directories (`writeText_ok`).
-/

namespace KarelBuild

namespace Host

/-- The working directory, less the names that it has lost, is in the tree. -/
structure Settled (h : Host) : Prop where
  lost_le : h.workDir.lost ≤ h.workDir.place.length
  held : h.workDir.isHeldBut h.tree h.workDir.lost = true

/-- What a host is like when a text was written. -/
structure Wrote (p : Path) (text : Text) (h h' : Host) (place : Place) (e : Entry) : Prop where
  entry : h'.tree.entry? place = some e
  taken : FileTree.Taken (Utf8.encode text) e
  before : ∀ {x}, h.tree.entry? place = some x → x.IsLeaf
  stat : h.Settled → h'.tree.stat h'.workDir p = .ok (place, e)
  keeps : ∀ {q x}, q ≠ place → h.tree.entry? q = some x → h'.tree.entry? q = some x
  adds : ∀ {q x}, q ≠ place → h'.tree.entry? q = some x → h.tree.entry? q = some x ∨ x = .dir
  serial : h'.serial = h.serial
  env : h'.env = h.env

variable {h h' : Host} {p : Path} {text : Text}

/-- A working directory stays as long as the directories of the tree do. -/
theorem Settled.after {t : FileTree} (hs : h.Settled)
    (hdirs : ∀ {q}, h.tree.entry? q = some .dir → t.entry? q = some .dir) :
    h.workDir.after t = h.workDir := by
  have hheld : h.workDir.isHeldBut t h.workDir.lost = true := by
    have hheld := hs.held
    simp only [WorkDir.isHeldBut, beq_iff_eq] at hheld ⊢
    exact hdirs hheld
  have hfind : ((List.range (h.workDir.place.length + 1)).find? fun n =>
      h.workDir.lost ≤ n && h.workDir.isHeldBut t n) = some h.workDir.lost := by
    rw [List.find?_range_eq_some]
    refine ⟨by simp [hheld], by simpa using Nat.lt_succ_of_le hs.lost_le, ?_⟩
    intro n hn
    simp [Nat.not_le_of_lt hn]
  simp only [WorkDir.after, hfind, Option.getD_some]

theorem setTree_settled {t : FileTree} (hs : h.Settled)
    (hdirs : ∀ {q}, h.tree.entry? q = some .dir → t.entry? q = some .dir) :
    (h.setTree t).workDir = h.workDir ∧ (h.setTree t).Settled := by
  have hafter : (h.setTree t).workDir = h.workDir := hs.after hdirs
  refine ⟨hafter, ⟨hafter ▸ hs.lost_le, ?_⟩⟩
  have hheld := hs.held
  rw [hafter]
  simp only [WorkDir.isHeldBut, beq_iff_eq] at hheld ⊢
  exact hdirs hheld

theorem write_wrote (hw : writeText.write p text h = (.ok (), h')) :
    ∃ place e, Wrote p text h h' place e := by
  unfold writeText.write at hw
  split at hw
  next => simp at hw
  next t ht =>
    obtain rfl : h.setTree t = h' := congrArg Prod.snd hw
    obtain ⟨place, e, hwrote⟩ := FileTree.write_ok ht
    refine ⟨place, e, hwrote.entry, hwrote.taken, hwrote.before, ?_, ?_, ?_, rfl, rfl⟩
    · intro hs
      rw [(setTree_settled hs hwrote.dir).1]
      exact hwrote.stat
    · intro q x hq hx
      exact (hwrote.same hq).trans hx
    · intro q x hq hx
      exact .inl ((hwrote.same hq).symm.trans hx)

/-- Directories that were made before do not count. -/
theorem Wrote.of_grown {t : FileTree} {place : Place} {e : Entry}
    (hg : FileTree.Grown h.tree t) (hw : Wrote p text (h.setTree t) h' place e) :
    Wrote p text h h' place e where
  entry := hw.entry
  taken := hw.taken
  before hx := hw.before (hg.keeps hx)
  stat hs := hw.stat (setTree_settled hs hg.keeps).2
  keeps hq hx := hw.keeps hq (hg.keeps hx)
  adds hq hx := by
    rcases hw.adds hq hx with hx | rfl
    · exact hg.adds hx
    · exact .inr rfl
  serial := hw.serial
  env := hw.env

theorem writeText_ok (hw : h.writeText p text = (.ok (), h')) :
    ∃ place e, Wrote p text h h' place e := by
  unfold writeText at hw
  split at hw
  next => exact write_wrote hw
  next parent hparent =>
    have hg := FileTree.makeDirAll_grown h.tree h.workDir parent
    split at hw
    next => simp at hw
    next t ht =>
      rw [ht] at hg
      obtain ⟨place, e, hwrote⟩ := write_wrote hw
      exact ⟨place, e, hwrote.of_grown hg⟩

/-- Every text can be written to this file. -/
def Writable (h : Host) (p : Path) : Prop := ∀ t, (h.writeText p t).1 = .ok ()

/-- A file can be written where its directory is there and nothing but a file is in its place. -/
theorem writable_of_place {place : Place} (hparent : h.missingParent? p = none)
    (hplace : h.tree.writable h.workDir p = .ok place)
    (hfree : ∀ e, h.tree.entry? place = some e →
      ∃ contents executable, e = .file contents executable) :
    h.Writable p := by
  intro t
  have hwrite : ∃ t', h.tree.write h.workDir p (Utf8.encode t) = .ok t' := by
    unfold FileTree.write
    simp only [hplace, Except.bind]
    cases he : h.tree.entry? place with
    | none => exact ⟨_, rfl⟩
    | some e =>
      obtain ⟨contents, executable, rfl⟩ := hfree e he
      exact ⟨_, rfl⟩
  obtain ⟨t', ht'⟩ := hwrite
  simp only [writeText, hparent, writeText.write, ht']

/-- Whatever becomes of the text, no workspace is made. -/
theorem writeText_serial (h : Host) (p : Path) (text : Text) :
    (h.writeText p text).2.serial = h.serial := by
  have write_serial (h : Host) : (writeText.write p text h).2.serial = h.serial := by
    unfold writeText.write
    split <;> rfl
  unfold writeText
  split
  next => exact write_serial h
  next parent _ =>
    split
    next => rfl
    next => exact write_serial _

/-- A host with the same working directory, on which nothing was taken away. -/
structure Keeps (h h' : Host) : Prop where
  tree : h.tree.Extends h'.tree
  workDir : h'.workDir = h.workDir

theorem setTree_keeps {t : FileTree} (hs : h.Settled) (hx : h.tree.Extends t) :
    h.Keeps (h.setTree t) :=
  ⟨hx, (setTree_settled hs fun hq => hx.others hq (by simp [Entry.IsFile])).1⟩

theorem write_keeps (hs : h.Settled) (p : Path) (text : Text) :
    h.Keeps (writeText.write p text h).2 := by
  unfold writeText.write
  split
  next => exact ⟨.refl _, rfl⟩
  next t ht => exact setTree_keeps hs (FileTree.write_extends ht)

/-- Whatever becomes of the text, nothing is taken away. -/
theorem writeText_keeps (hs : h.Settled) (p : Path) (text : Text) :
    h.Keeps (h.writeText p text).2 := by
  unfold writeText
  split
  next => exact write_keeps hs p text
  next parent _ =>
    have hg := FileTree.makeDirAll_grown h.tree h.workDir parent
    split
    next e t ht =>
      rw [ht] at hg
      exact setTree_keeps hs hg.extends
    next t ht =>
      rw [ht] at hg
      obtain ⟨hdir, hs'⟩ := setTree_settled hs hg.keeps
      have hw := write_keeps hs' p text
      exact ⟨hg.extends.trans hw.tree, hw.workDir.trans hdir⟩

/-! ## Absolute paths -/

theorem workPath_isAbsolute {dir : Path} (hdir : h.workPath = .ok dir) :
    Path.isAbsolute dir = true := by
  unfold workPath at hdir
  split at hdir
  next =>
    obtain rfl := Except.ok.inj hdir
    rfl
  next => simp at hdir

theorem absolutePath_isAbsolute {q : Path} (hq : absolutePath h.workPath p = .ok q) :
    Path.isAbsolute q = true := by
  unfold absolutePath at hq
  split at hq
  next => simp at hq
  next =>
    split at hq
    next hp =>
      obtain rfl := Except.ok.inj hq
      exact Path.isAbsolute_absoluteFrom (.inl hp)
    next =>
      split at hq
      next dir hdir =>
        obtain rfl := Except.ok.inj hq
        exact Path.isAbsolute_absoluteFrom (.inr (workPath_isAbsolute hdir))
      next => simp at hq

end Host

end KarelBuild
