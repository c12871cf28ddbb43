import KarelBuild.FileTree.Files
import KarelBuild.Proofs.FileTree.Lookup

/-!
# Making directories and writing files

What a path leads to is still there as long as nothing is taken away (`stat_grown`,
`isFile_extends`). Making directories only grows a tree, along the paths that led nowhere
(`makeDirs_along`). What is written at a path is found there afterwards, and nothing is changed at
any other place (`write_ok`).
-/

namespace KarelBuild

namespace FileTree

variable {t t' : FileTree} {workDir : WorkDir} {p : Path} {place : Place} {e : Entry}
  {contents : Bytes}

/-! ## Trees with more entries -/

/-- Everything is still there, though files may have other contents. -/
structure Extends (t t' : FileTree) : Prop where
  files : ∀ {q e}, t.entry? q = some e → e.IsFile → ∃ e', t'.entry? q = some e' ∧ e'.IsFile
  others : ∀ {q e}, t.entry? q = some e → ¬ e.IsFile → t'.entry? q = some e

theorem Extends.refl (t : FileTree) : Extends t t := ⟨fun h hf => ⟨_, h, hf⟩, fun h _ => h⟩

theorem Extends.trans {t t' t'' : FileTree} (h : Extends t t') (h' : Extends t' t'') :
    Extends t t'' where
  files he hf := by
    obtain ⟨e', he', hf'⟩ := h.files he hf
    exact h'.files he' hf'
  others he hf := h'.others (h.others he hf) hf

theorem Grown.extends (h : Grown t t') : Extends t t' :=
  ⟨fun he hf => ⟨_, h.keeps he, hf⟩, fun he _ => h.keeps he⟩

/-- Names that lead to an entry lead there still. -/
theorem Leads.extends {made : Bool} {links : Nat} {here : Place} {names : List Name}
    (h : Leads t made links here names place) (hx : Extends t t') (he : t.entry? place = some e) :
    Leads t' made links here names place := by
  have dir {q : Place} (hq : t.entry? q = some .dir) : t'.entry? q = some .dir :=
    hx.others hq (by simp [Entry.IsFile])
  induction h with
  | done => exact .done
  | stay hdir hn _ ih => exact .stay (dir hdir) hn (ih he)
  | up hdir _ ih => exact .up (dir hdir) (ih he)
  | link hdir hn hlink _ ih =>
    exact .link (dir hdir) hn (hx.others hlink (by simp [Entry.IsFile])) (ih he)
  | @enter _ _ _ _ entered _ hdir hn hentered hl _ ih =>
    by_cases hf : entered.IsFile
    · obtain ⟨e', he', contents, executable, rfl⟩ := hx.files hentered hf
      exact .enter (dir hdir) hn he' rfl (ih he)
    · exact .enter (dir hdir) hn (hx.others hentered hf) hl (ih he)
  | missing _ _ hnone => simp [hnone] at he

theorem stat_eq_ok_iff : t.stat workDir p = .ok (place, e) ↔
    lostDir? workDir p = some place ∧ e = .dir ∨
      lostDir? workDir p = none ∧ t.locate workDir p = .ok place ∧ t.entry? place = some e := by
  unfold stat
  cases lostDir? workDir p with
  | some lost => simp [eq_comm]
  | none =>
    cases t.locate workDir p with
    | error err => simp [Except.bind]
    | ok found =>
      cases he : t.entry? found with
      | none =>
        simp only [Except.bind, he, reduceCtorEq, false_and, true_and, Except.ok.injEq, false_or,
          false_iff, not_and]
        rintro rfl
        simp [he]
      | some x =>
        simp only [Except.bind, he, Except.ok.injEq, Prod.mk.injEq, reduceCtorEq, false_and,
          true_and, false_or]
        constructor
        · rintro ⟨rfl, rfl⟩
          exact ⟨rfl, he⟩
        · rintro ⟨rfl, h⟩
          exact ⟨rfl, Option.some.inj (he.symm.trans h)⟩

/-- The place that a path leads to stays where it is. -/
theorem locate_extends (hx : Extends t t') (h : t.locate workDir p = .ok place)
    (he : t.entry? place = some e) : t'.locate workDir p = .ok place := by
  unfold locate at h ⊢
  split at h
  next => simp at h
  next =>
    obtain ⟨start, rest, hleave, hleads⟩ := followFrom_eq_ok_iff.mp h
    exact followFrom_eq_ok_iff.mpr ⟨start, rest, hleave, hleads.extends hx he⟩

/-- A path leads to the same entry still, or to a file if there was one. -/
theorem stat_extends (hx : Extends t t') (h : t.stat workDir p = .ok (place, e)) :
    ∃ e', t'.stat workDir p = .ok (place, e') ∧ (e.IsFile ∧ e'.IsFile ∨ e' = e) := by
  obtain ⟨hlost, rfl⟩ | ⟨hheld, hloc, he⟩ := stat_eq_ok_iff.mp h
  · exact ⟨.dir, stat_eq_ok_iff.mpr (.inl ⟨hlost, rfl⟩), .inr rfl⟩
  · have hloc' := locate_extends hx hloc he
    by_cases hf : e.IsFile
    · obtain ⟨e', he', hf'⟩ := hx.files he hf
      exact ⟨e', stat_eq_ok_iff.mpr (.inr ⟨hheld, hloc', he'⟩), .inl ⟨hf, hf'⟩⟩
    · exact ⟨e, stat_eq_ok_iff.mpr (.inr ⟨hheld, hloc', hx.others he hf⟩), .inr rfl⟩

theorem stat_dir_extends (hx : Extends t t') (h : t.stat workDir p = .ok (place, .dir)) :
    t'.stat workDir p = .ok (place, .dir) := by
  obtain ⟨e', hstat, ⟨hf, -⟩ | rfl⟩ := stat_extends hx h
  · simp [Entry.IsFile] at hf
  · exact hstat

theorem stat_grown (hg : Grown t t') (h : t.stat workDir p = .ok (place, e)) :
    t'.stat workDir p = .ok (place, e) := by
  obtain hlost | ⟨hheld, hloc, he⟩ := stat_eq_ok_iff.mp h
  · exact stat_eq_ok_iff.mpr (.inl hlost)
  · exact stat_eq_ok_iff.mpr (.inr ⟨hheld, locate_extends hg.extends hloc he, hg.keeps he⟩)

theorem pathExists_iff : t.pathExists workDir p = true ↔
    ∃ place e, t.stat workDir p = .ok (place, e) := by
  unfold pathExists
  rcases t.stat workDir p with _ | ⟨place, e⟩ <;> simp [Except.isOk, Except.toBool]

/-- A path that leads nowhere has led nowhere when there was less. -/
theorem pathExists_grown (hg : Grown t t') (h : t'.pathExists workDir p = false) :
    t.pathExists workDir p = false := by
  rw [← Bool.not_eq_true, pathExists_iff] at h ⊢
  rintro ⟨place, e, hstat⟩
  exact h ⟨place, e, stat_grown hg hstat⟩

theorem isFile_iff : t.isFile workDir p = true ↔
    ∃ place e, t.stat workDir p = .ok (place, e) ∧ e.IsFile := by
  unfold isFile
  split
  next place contents executable h =>
    simp only [true_iff]
    exact ⟨place, _, h, contents, executable, rfl⟩
  next h =>
    simp only [Bool.false_eq_true, false_iff, not_exists, not_and]
    rintro place e hstat ⟨contents, executable, rfl⟩
    exact h place contents executable hstat

/-- A path of a file is the path of a file still. -/
theorem isFile_extends (hx : Extends t t') (h : t.isFile workDir p = true) :
    t'.isFile workDir p = true := by
  obtain ⟨place, e, hstat, hf⟩ := isFile_iff.mp h
  obtain ⟨e', hstat', ⟨-, hf'⟩ | rfl⟩ := stat_extends hx hstat
  · exact isFile_iff.mpr ⟨place, e', hstat', hf'⟩
  · exact isFile_iff.mpr ⟨place, e', hstat', hf⟩

/-! ## Making directories -/

/-- A directory is made in a place where nothing was. -/
theorem makeDir_ok (h : t.makeDir workDir p = .ok t') :
    ∃ dir name, t.locateIn workDir p = .ok (dir, some name) ∧ t.entry? (dir ++ [name]) = none ∧
      t' = t.put (dir ++ [name]) .dir := by
  unfold makeDir at h
  rcases hl : t.locateIn workDir p with _ | ⟨dir, _ | name⟩ <;>
    simp only [hl, Except.bind, reduceCtorEq] at h
  split at h
  next => simp at h
  next hnone =>
    split at h
    next => simp at h
    next => exact ⟨dir, name, rfl, hnone, (Except.ok.inj h).symm⟩

/-- A name that is not in a directory is the place itself when it comes last. -/
theorem Leads.of_missing {made : Bool} {links : Nat} {here q : Place} {n : Name} {rest : List Name}
    (hn : IsProper n) (hnone : t.entry? (here ++ [n]) = none)
    (h : Leads t made links here (n :: rest) q) : q = here ++ [n] := by
  cases h with
  | stay _ hdot => exact absurd hdot (not_or.mpr ⟨hn.nonempty, hn.notDot⟩)
  | up => exact absurd rfl hn.notUp
  | link _ _ he => simp [hnone] at he
  | enter _ _ he => simp [hnone] at he
  | missing => rfl

/-- The names of a path end in its last piece, and perhaps in a slash. -/
theorem steps_of_pieces {init : List Name} {n : Name} (h : Path.pieces p = init ++ [n]) :
    ∃ slash, Path.steps p = init ++ n :: slash ∧ (slash = [] ∨ slash = [[]]) := by
  unfold Path.steps
  split
  · exact ⟨[[]], by simp [h], .inr rfl⟩
  · exact ⟨[], h, .inl rfl⟩

section

variable {dir : Place} {name : Name} (hloc : t.locateIn workDir p = .ok (dir, some name))

include hloc

/-- A path leads nowhere if its last name is not in the directory that the others lead to. -/
theorem pathExists_of_missing (hnone : t.entry? (dir ++ [name]) = none) :
    t.pathExists workDir p = false := by
  obtain ⟨haccepted, hheld, ⟨init, hinit, hfollow⟩, -, hname⟩ := locateIn_some_iff.mp hloc
  obtain ⟨slash, hsteps, -⟩ := steps_of_pieces hinit
  rw [← Bool.not_eq_true, pathExists_iff]
  rintro ⟨place, e, hstat⟩
  obtain ⟨hlost, -⟩ | ⟨-, hplace, he⟩ := stat_eq_ok_iff.mp hstat
  · simp [hheld] at hlost
  · -- The names before the last lead to the same directory, and it does not have the last.
    simp only [locate, haccepted, hsteps] at hplace
    obtain ⟨mid, k, -, hmid, hlast⟩ :=
      followFrom_split (by simp) (staysLost_proper hname.proper slash) hplace
    obtain rfl : mid = dir := Except.ok.inj (hmid.symm.trans hfollow)
    obtain rfl := hlast.of_missing hname.proper hnone
    simp [hnone] at he

theorem stat_of_made (hg : Grown t t') (hmade : t'.entry? (dir ++ [name]) = some .dir) :
    t'.stat workDir p = .ok (dir ++ [name], .dir) := by
  obtain ⟨haccepted, hheld, ⟨init, hinit, hfollow⟩, hdir, hname⟩ := locateIn_some_iff.mp hloc
  obtain ⟨slash, hsteps, hslash⟩ := steps_of_pieces hinit
  have hend (k : Nat) : Leads t' false k (dir ++ [name]) slash (dir ++ [name]) := by
    obtain rfl | rfl := hslash
    · exact .done
    · exact .stay hmade (.inl rfl) .done
  refine stat_eq_ok_iff.mpr (.inr ⟨hheld, ?_, hmade⟩)
  simp only [locate, haccepted, hsteps]
  refine followFrom_append (followFrom_kept hfollow hdir fun he _ => hg.keeps he)
    (hg.keeps hdir) fun k => ?_
  exact .enter (hg.keeps hdir) { hname with notMade := by simp } hmade rfl (hend k)

end

/-- A tree has grown by directories alone, each at one of these paths, which led nowhere. -/
structure GrownAlong (workDir : WorkDir) (ps : List Path) (t t' : FileTree) : Prop where
  keeps : ∀ {q e}, t.entry? q = some e → t'.entry? q = some e
  adds : ∀ {q e}, t'.entry? q = some e → t.entry? q = some e ∨
    e = .dir ∧ ∃ p ∈ ps, t.pathExists workDir p = false ∧ t'.stat workDir p = .ok (q, .dir)

namespace GrownAlong

variable {t'' : FileTree} {ps : List Path}

theorem refl (workDir : WorkDir) (ps : List Path) (t : FileTree) : GrownAlong workDir ps t t :=
  ⟨id, .inl⟩

theorem grown (h : GrownAlong workDir ps t t') : Grown t t' :=
  ⟨h.keeps, fun he => (h.adds he).imp_right And.left⟩

theorem trans (h : GrownAlong workDir ps t t') (h' : GrownAlong workDir ps t' t'') :
    GrownAlong workDir ps t t'' where
  keeps he := h'.keeps (h.keeps he)
  adds he := by
    obtain he | ⟨rfl, p, hp, hmissing, hstat⟩ := h'.adds he
    · obtain he | ⟨rfl, p, hp, hmissing, hstat⟩ := h.adds he
      · exact .inl he
      · exact .inr ⟨rfl, p, hp, hmissing, stat_grown h'.grown hstat⟩
    · exact .inr ⟨rfl, p, hp, pathExists_grown h.grown hmissing, hstat⟩

theorem cons (h : GrownAlong workDir ps t t') (p : Path) : GrownAlong workDir (p :: ps) t t' where
  keeps := h.keeps
  adds he := by
    obtain he | ⟨rfl, p', hp, hnew⟩ := h.adds he
    · exact .inl he
    · exact .inr ⟨rfl, p', List.mem_cons_of_mem _ hp, hnew⟩

end GrownAlong

/-- The path of a directory that is made led nowhere before, and leads to the directory now. -/
theorem makeDir_along (h : t.makeDir workDir p = .ok t') (ps : List Path) :
    GrownAlong workDir (p :: ps) t t' := by
  obtain ⟨dir, name, hloc, hnone, rfl⟩ := makeDir_ok h
  have hne : dir ++ [name] ≠ [] := by simp
  have hg : Grown t (t.put (dir ++ [name]) .dir) := grown_put_dir hne hnone
  refine ⟨hg.keeps, fun {q e} he => ?_⟩
  have hplace := he
  rw [put_entry t hne] at hplace
  split at hplace
  next hq =>
    subst hq
    obtain rfl := Option.some.inj hplace
    exact .inr ⟨rfl, p, List.mem_cons_self .., pathExists_of_missing hloc hnone,
      stat_of_made hloc hg he⟩
  next => exact .inl hplace

theorem makeDirs_along (workDir : WorkDir) (ps : List Path) (t : FileTree) :
    GrownAlong workDir ps t (makeDirs workDir ps t).2 := by
  induction ps generalizing t with
  | nil => exact .refl workDir [] t
  | cons p ps ih =>
    unfold makeDirs
    split
    next t' h => exact makeDir_along h ps
    next =>
      -- The directories above are made first, and stay if this one is refused after all.
      have hps := (ih t).cons p
      split
      next e t' hr => simpa [hr] using hps
      next t' hr =>
        rw [hr] at hps
        split
        next t'' h => exact hps.trans (makeDir_along h ps)
        next => exact hps
    next => exact .refl workDir (p :: ps) t

/-- The directories that are made for a path are the path itself and those above it. -/
theorem mem_ancestors {n : Nat} {a : Path} (h : a ∈ ancestors n p) : a = p ∨ Path.Above a p := by
  induction n generalizing p with
  | zero => simp [ancestors] at h
  | succ n ih =>
    unfold ancestors at h
    split at h
    next => simp at h
    next =>
      obtain rfl | h := List.mem_cons.mp h
      · exact .inl rfl
      · cases hparent : Path.parent? p with
        | none => simp [hparent] at h
        | some b =>
          obtain rfl | habove := ih (by simpa [hparent] using h)
          · exact .inr (.parent hparent)
          · exact .inr (.further hparent habove)

theorem makeDirAll_along (t : FileTree) (workDir : WorkDir) (p : Path) :
    GrownAlong workDir (ancestors (p.length + 1) p) t (t.makeDirAll workDir p).2 :=
  makeDirs_along workDir _ t

theorem makeDirAll_grown (t : FileTree) (workDir : WorkDir) (p : Path) :
    Grown t (t.makeDirAll workDir p).2 := (t.makeDirAll_along workDir p).grown

/-! ## Writing -/

theorem writable_ok (h : t.writable workDir p = .ok place) :
    lostDir? workDir p = none ∧ t.locateNew workDir p = .ok place ∧ t.entry? place ≠ some .dir := by
  unfold writable at h
  split at h
  next => simp at h
  next hl =>
    refine ⟨hl, ?_⟩
    rcases hloc : t.locateNew workDir p with _ | q <;>
      simp only [hloc, Except.bind, reduceCtorEq] at h
    split at h
    next => simp at h
    next e hne he =>
      obtain rfl := Except.ok.inj h
      exact ⟨rfl, by simpa [he] using hne⟩
    next he =>
      split at h
      next => simp at h
      next =>
        obtain rfl := Except.ok.inj h
        exact ⟨rfl, by simp [he]⟩

/-- The path of a file that is made leads to what was written there. -/
theorem stat_written (hl : lostDir? workDir p = none) (hloc : t.locateNew workDir p = .ok place)
    (hw : Written place t t') (he : t'.entry? place = some e) :
    t'.stat workDir p = .ok (place, e) := by
  have hfound : t'.locate workDir p = .ok place := by
    unfold locateNew at hloc
    unfold locate
    split at hloc
    next => simp at hloc
    next => exact followFrom_written hw hloc
  simp [stat, hl, hfound, Except.bind, he]

/-- A path leads to a file with these contents, or to a device that has taken them. -/
def Taken (contents : Bytes) (e : Entry) : Prop :=
  (∃ d, e = .device d) ∨ ∃ executable, e = .file contents executable

/-- What was written is where the path leads, and other places are as they were. -/
structure Wrote (workDir : WorkDir) (p : Path) (contents : Bytes) (t t' : FileTree) (place : Place)
    (e : Entry) : Prop where
  stat : t'.stat workDir p = .ok (place, e)
  entry : t'.entry? place = some e
  taken : Taken contents e
  before : ∀ {x}, t.entry? place = some x → x.IsLeaf
  same : ∀ {q}, q ≠ place → t'.entry? q = t.entry? q

theorem Wrote.dir {q : Place} (hw : Wrote workDir p contents t t' place e)
    (h : t.entry? q = some .dir) : t'.entry? q = some .dir := by
  by_cases hq : q = place
  · subst hq
    simpa [Entry.isDir] using (hw.before h).1
  · rw [hw.same hq, h]

theorem wrote_put (hp : t.writable workDir p = .ok place) (executable : Bool)
    (hleaf : ∀ {e}, t.entry? place = some e → e.IsLeaf) :
    Wrote workDir p contents t (t.put place (.file contents executable)) place
      (.file contents executable) := by
  obtain ⟨hl, hloc, hdir⟩ := writable_ok hp
  have hne : place ≠ [] := by
    rintro rfl
    exact hdir rfl
  have hput : entry? (t.put place (.file contents executable)) place =
      some (.file contents executable) := by simp [put_entry t hne]
  have hsame {q : Place} (hq : q ≠ place) :
      entry? (t.put place (.file contents executable)) q = t.entry? q := by
    simp [put_entry t hne, hq]
  exact ⟨stat_written hl hloc ⟨hsame, hleaf, _, hput, rfl, rfl⟩ hput, hput,
    .inr ⟨executable, rfl⟩, hleaf, hsame⟩

theorem feed_ok {d : Device} (h : t.feed d contents = .ok t') : t' = t := by
  unfold feed at h
  split at h
  next =>
    split at h
    · exact (Except.ok.inj h).symm
    · simp at h
  next => simp at h
  next => exact (Except.ok.inj h).symm

theorem wrote_device {d : Device} (hp : t.writable workDir p = .ok place)
    (he : t.entry? place = some (.device d)) :
    Wrote workDir p contents t t place (.device d) := by
  obtain ⟨hl, hloc, -⟩ := writable_ok hp
  have hleaf {e : Entry} (h : t.entry? place = some e) : e.IsLeaf := by
    obtain rfl := Option.some.inj (he.symm.trans h)
    exact ⟨rfl, rfl⟩
  exact ⟨stat_written hl hloc ⟨fun _ => rfl, hleaf, _, he, rfl, rfl⟩ he, he, .inl ⟨d, rfl⟩,
    hleaf, fun _ => rfl⟩

/-- Bytes are written to a device, which changes nothing, or they are the contents of a file that is
new or was one before. -/
theorem write_cases (h : t.write workDir p contents = .ok t') :
    ∃ place, t.writable workDir p = .ok place ∧
      ((∃ d, t.entry? place = some (.device d) ∧ t' = t) ∨
        ∃ executable,
          (∀ e, t.entry? place = some e → ∃ old, e = .file old executable) ∧
          t' = t.put place (.file contents executable)) := by
  unfold write at h
  rcases hp : t.writable workDir p with _ | place <;> simp only [hp, Except.bind, reduceCtorEq] at h
  refine ⟨place, rfl, ?_⟩
  split at h
  next => simp at h
  next old executable he =>
    refine .inr ⟨executable, ?_, (Except.ok.inj h).symm⟩
    rintro e h
    exact ⟨old, Option.some.inj (h.symm.trans he)⟩
  next => simp at h
  next d he => exact .inl ⟨d, he, feed_ok h⟩
  next he => exact .inr ⟨false, by simp [he], (Except.ok.inj h).symm⟩

theorem write_ok (h : t.write workDir p contents = .ok t') :
    ∃ place e, Wrote workDir p contents t t' place e := by
  obtain ⟨place, hp, ⟨d, he, rfl⟩ | ⟨executable, hold, rfl⟩⟩ := write_cases h
  · exact ⟨place, _, wrote_device hp he⟩
  · refine ⟨place, _, wrote_put hp executable fun {e} he => ?_⟩
    obtain ⟨old, rfl⟩ := hold e he
    exact ⟨rfl, rfl⟩

theorem extends_put_file (hne : place ≠ []) (executable : Bool)
    (hold : ∀ {e}, t.entry? place = some e → e.IsFile) :
    Extends t (t.put place (.file contents executable)) where
  files {q e} he hf := by
    by_cases hq : q = place
    · exact ⟨.file contents executable, by simp [put_entry t hne, hq], contents, executable, rfl⟩
    · exact ⟨e, by simp [put_entry t hne, hq, he], hf⟩
  others {q e} he hf := by
    have hq : q ≠ place := by
      rintro rfl
      exact hf (hold he)
    simp [put_entry t hne, hq, he]

theorem write_extends (h : t.write workDir p contents = .ok t') : Extends t t' := by
  obtain ⟨place, hp, ⟨d, he, rfl⟩ | ⟨executable, hold, rfl⟩⟩ := write_cases h
  · exact .refl t'
  · have hne : place ≠ [] := by
      rintro rfl
      exact (writable_ok hp).2.2 rfl
    refine extends_put_file hne executable fun {e} he => ?_
    obtain ⟨old, rfl⟩ := hold e he
    exact ⟨old, executable, rfl⟩

end FileTree

end KarelBuild
