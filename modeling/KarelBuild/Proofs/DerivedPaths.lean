import KarelBuild.Proofs.Dependencies
import KarelBuild.Proofs.FileTree.Lookup
import KarelBuild.Proofs.Path.Normal
import KarelBuild.Proofs.Request
import KarelBuild.Proofs.Workspace

/-!
# Paths that come from the source

The intermediate file and the target of the rule are named after the source. However an argument is
written, a source that is made of it is absolute, and its last name is one that a file can have: it is
not `.` or `..`, though it may begin with dots. So the intermediate file is in the workspace itself
(`Extensible.holds`), and a target that nobody asked for is a name (`MadeOf.derives`).
-/

namespace KarelBuild

namespace FileTree

variable {t : FileTree} {workDir : WorkDir} {p : Path} {dir : Place} {n? : Option Name}

/-- A path with a proper name in it does not lead to what is gone. -/
theorem lostDir?_of_proper {n : Name} (hn : IsProper n) (hmem : n ∈ Path.pieces p) :
    lostDir? workDir p = none := by
  have hstep : n ∈ Path.steps p := by
    unfold Path.steps
    split <;> simp [hmem]
  unfold lostDir?
  split
  next k hleave => exact absurd hleave (leave_ne_lost hn hstep _ k)
  next => rfl

/-- A path whose last name is a proper one is located at that name. -/
theorem locateIn_proper {init : List Name} {n : Name} (hpieces : Path.pieces p = init ++ [n])
    (hn : IsProper n) (h : t.locateIn workDir p = .ok (dir, n?)) : n? = some n := by
  cases n? with
  | some m =>
    obtain ⟨-, -, ⟨init', hinit, -⟩, -⟩ := locateIn_some_iff.mp h
    obtain ⟨-, hlast⟩ := List.append_inj' (hpieces.symm.trans hinit) rfl
    exact congrArg some (List.singleton_inj.mp hlast).symm
  | none =>
    unfold locateIn at h
    simp only [lostDir?_of_proper hn (by simp [hpieces] : n ∈ Path.pieces p), hpieces,
      List.dropLast_concat, List.getLastD_concat] at h
    split at h
    next => simp at h
    next =>
      cases hf : t.followFrom false (startOf workDir p) init with
      | error e => simp [hf, Except.bind] at h
      | ok place =>
        simp only [hf, Except.bind, hn.notDot, hn.notUp, or_self, ↓reduceIte] at h
        split at h
        next => simp at h
        next => split at h <;> simp at h
        next => simp at h

theorem refusePath_of_append {more : Path} (hne : p ≠ []) (h : refusePath (p ++ more) = none) :
    refusePath p = none := by
  have hsize : Utf8.size (p ++ more) = Utf8.size p + Utf8.size more := by
    simp [Utf8.size, Utf8.encode]
  unfold refusePath at h ⊢
  split_ifs at h with hnul _ hlong
  rw [if_neg fun hmem => hnul (List.mem_append_left more hmem), if_neg hne, if_neg (by omega)]

theorem startOf_append {more : Path} (hne : p ≠ []) :
    startOf workDir (p ++ more) = startOf workDir p := by
  obtain ⟨c, r, rfl⟩ := List.exists_cons_of_ne_nil hne
  rfl

end FileTree

/-! ## Files of a workspace -/

namespace Workspace

/-- A path of one name below the workspace. Unless it is too long, it is located at this name in the
directory that the workspace's path leads to, and nowhere else. -/
structure Holds (w : Workspace) (p : Path) (name : Name) : Prop where
  eq : p = w.path ++ '/' :: name
  located : ∀ (t : FileTree) (workDir : WorkDir) (dir : Place) (n? : Option Name),
    t.locateIn workDir p = .ok (dir, n?) ↔
      FileTree.refusePath p = none ∧ Utf8.size name ≤ FileTree.maxNameSize ∧ n? = some name ∧
        t.locate workDir w.path = .ok dir ∧ t.entry? dir = some .dir

theorem Extensible.holds {w : Workspace} (hw : w.Extensible) {name : Name}
    (hn : FileTree.IsProper name) (hslash : '/' ∉ name) :
    w.Holds (w.path ++ '/' :: name) name := by
  refine ⟨rfl, fun t workDir dir n? => ?_⟩
  have hpieces := Path.pieces_append hn.nonempty hslash w.path
  have hlocate (haccepted : FileTree.refusePath (w.path ++ '/' :: name) = none) :
      t.locate workDir w.path = t.followFrom false
        (FileTree.startOf workDir (w.path ++ '/' :: name)) (Path.pieces w.path) := by
    have hsteps : Path.steps w.path = Path.pieces w.path := by simp [Path.steps, hw.open_end]
    rw [FileTree.locate, FileTree.refusePath_of_append hw.nonempty haccepted, hsteps,
      FileTree.startOf_append hw.nonempty]
  constructor
  · intro h
    obtain rfl := FileTree.locateIn_proper hpieces hn h
    obtain ⟨haccepted, -, ⟨init, hinit, hleads⟩, hdir, hplain⟩ := FileTree.locateIn_some_iff.mp h
    obtain ⟨rfl, -⟩ := List.append_inj' (hpieces.symm.trans hinit) rfl
    exact ⟨haccepted, Nat.le_of_not_lt hplain.size, rfl, (hlocate haccepted).trans hleads, hdir⟩
  · rintro ⟨haccepted, hsize, rfl, hleads, hdir⟩
    refine FileTree.locateIn_some_iff.mpr ⟨haccepted,
      FileTree.lostDir?_of_proper hn (by simp [hpieces]),
      ⟨_, hpieces, (hlocate haccepted).symm.trans hleads⟩, hdir, ?_⟩
    exact ⟨by simp [hn.nonempty, hn.notDot], hn.notUp, by simp, Nat.not_lt_of_le hsize⟩

end Workspace

/-! ## Sources -/

namespace Path

theorem mem_of_fileStem? {p : Path} {name stem : Text} (hname : fileName? p = some name)
    (hstem : fileStem? p = some stem) {c : Char} (hc : c ∈ stem) : c ∈ name := by
  unfold fileStem? at hstem
  rw [hname, Option.map_some, Option.some.injEq] at hstem
  split at hstem
  next front back hcut =>
    unfold Text.cutLast at hcut
    split at hcut
    next =>
      obtain ⟨rfl, -⟩ := Prod.mk.inj (Option.some.inj hcut)
      split at hstem
      · exact hstem ▸ hc
      · exact List.mem_of_mem_take (hstem ▸ hc)
    next => simp at hcut
  next => exact hstem ▸ hc

end Path

namespace Request

/-- The path of a source: absolute, with a last name that a file can have and that ends in `.kl`. -/
structure IsSourcePath (p : Path) : Prop where
  absolute : Path.isAbsolute p = true
  split : ∃ dir, p = dir ++ '/' :: Path.baseName p
  noSlash : '/' ∉ Path.baseName p
  proper : FileTree.IsProper (Path.baseName p)
  suffix : sourceSuffix <:+ Path.baseName p

variable {q : Request} {h : Host} {args : List Text} {source : Path}

theorem isProper_of_isSource {n : Name} (hn : isSource n = true) : FileTree.IsProper n := by
  constructor <;> rintro rfl <;> exact absurd hn (by decide)

theorem MadeOf.isSourcePath (hmade : q.MadeOf h.workPath args)
    (hsource : q.source? = some source) : IsSourcePath source := by
  obtain ⟨-, hbase⟩ := fileName?_of_isSource (hmade.isSource_source hsource)
  obtain ⟨arg, -, harg⟩ := hmade.exists_absolutePath hsource
  have habsolute := Host.absolutePath_isAbsolute harg
  constructor
  case absolute => exact habsolute
  case split =>
    obtain ⟨dir, n, rfl, hn⟩ :=
      Path.exists_last_slash (List.mem_of_head? (beq_iff_eq.mp habsolute))
    exact ⟨dir, by rw [Path.baseName_of_slash hn]⟩
  case noSlash => exact Path.slash_not_mem_baseName source
  case proper => exact isProper_of_isSource hbase
  case suffix => exact List.isSuffixOf_iff_suffix.mp hbase

namespace IsSourcePath

variable (hp : IsSourcePath source)

include hp

theorem fileName? : Path.fileName? source = some (Path.baseName source) := by
  obtain ⟨dir, hdir⟩ := hp.split
  have hsource : isSource source = true := by
    rw [hdir, List.append_cons]
    exact isSource_append (List.isSuffixOf_iff_suffix.mpr hp.suffix) _
  exact (fileName?_of_isSource hsource).1

theorem exists_parent : ∃ dir, Path.parent? source = some dir := by
  obtain ⟨dir, hdir⟩ := hp.split
  obtain ⟨r, hr⟩ := hp.suffix
  have hlast : (Path.baseName source).getLast? = some 'l' := by
    rw [← hr]
    simp [sourceSuffix, List.getLast?_append]
  rw [hdir]
  exact ⟨_, Path.parent?_of_last hp.noSlash hlast (by decide)⟩

/-- The target that nobody asked for. -/
theorem target (hsource : q.source? = some source) (hnone : q.explicitTarget = none) :
    ∃ t, q.target? = some t ∧ t ≠ [] ∧ '/' ∉ t ∧ codeSuffix <:+ t := by
  obtain ⟨stem, hstem⟩ : ∃ stem, Path.fileStem? source = some stem := by
    simp [Path.fileStem?, hp.fileName?]
  have hslash : '/' ∉ stem := fun hc => hp.noSlash (Path.mem_of_fileStem? hp.fileName? hstem hc)
  refine ⟨stem ++ codeSuffix, ?_, ?_, ?_, List.suffix_append ..⟩
  · simp [target?, hnone, hsource, hstem]
  · simp [codeSuffix]
  · simpa [hslash] using show '/' ∉ codeSuffix by decide

theorem target?_getD_eq_nil_iff (hsource : q.source? = some source) :
    q.target?.getD [] = [] ↔ q.explicitTarget = some [] := by
  cases htarget : q.explicitTarget with
  | some t => simp [target?, htarget]
  | none =>
    obtain ⟨t, ht, hne, -⟩ := hp.target hsource htarget
    simp [ht, hne]

end IsSourcePath

end Request

/-! ## Faults of a dependency run -/

theorem Sink.write_ne_emptyTarget (k : Sink) (t : Text) : (k.write t).1 ≠ .error .emptyTarget := by
  unfold Sink.write
  split
  next => split <;> simp
  next => simp

namespace Host

theorem readText_ne_emptyTarget (h : Host) (p : Path) : h.readText p ≠ .error .emptyTarget := by
  unfold readText refusedDuring
  cases h.tree.read h.workDir p <;> simp [Except.mapError, Except.map]

theorem writeText_ne_emptyTarget (h : Host) (p : Path) (t : Text) :
    (h.writeText p t).1 ≠ .error .emptyTarget := by
  have write_ne_emptyTarget (h : Host) : (writeText.write p t h).1 ≠ .error .emptyTarget := by
    unfold writeText.write
    split <;> simp
  unfold writeText
  split
  next => exact write_ne_emptyTarget h
  next =>
    split
    next => simp
    next => exact write_ne_emptyTarget _

end Host

theorem Session.send_ne_emptyTarget {σ : Type} (s : Session σ) (o : Outlet) (t : Text) :
    (s.send o t).1 ≠ .error .emptyTarget := by
  cases o with
  | output => exact s.out.write_ne_emptyTarget t
  | errors => exact s.err.write_ne_emptyTarget t
  | file p => exact s.host.writeText_ne_emptyTarget p t

namespace Build

open BuildM

variable {σ : Type} (b : Build σ)

theorem writeRule_ne_emptyTarget (r : Rule) (s : Session σ) :
    (BuildM.run (b.writeRule r) s).1 ≠ .error .emptyTarget := by
  rw [run_writeRule]
  split
  next p _ => exact s.send_ne_emptyTarget _ _
  next =>
    dsimp only
    cases (s.out.write r.render).1.bind fun _ => (s.out.write r.render).2.flush <;>
      simp [Except.mapError]

/-- A search is concluded with the fault of an empty target when there is one and nothing is
missing. -/
theorem conclude_emptyTarget_iff (collected : Except MissingHeader (List Dependency))
    (s : Session σ) : (BuildM.run (b.conclude collected) s).1 = .error .emptyTarget ↔
      b.request.target?.getD [] = [] ∧ ∃ deps, collected = .ok deps := by
  cases collected with
  | error m =>
    have hwrite := s.err.write_ne_emptyTarget (m.message ++ ['\n'])
    rw [run_conclude_missing]
    rcases hw : s.err.write (m.message ++ ['\n']) with ⟨f | _, err⟩ <;> rw [hw] at hwrite
    · simpa using hwrite
    · simp
  | ok deps =>
    cases hr : Rule.ofDependencies? (b.request.target?.getD []) deps with
    | none =>
      refine iff_of_true ?_ ⟨(Rule.ofPaths?_eq_none_iff _ _).mp hr, deps, rfl⟩
      simp [conclude, hr]
    | some r =>
      obtain ⟨-, htarget, -⟩ := Rule.ofPaths?_spec hr
      have hwrite := b.writeRule_ne_emptyTarget (r.withPhony b.request.phonyTargets) s
      rw [run_conclude_found b hr]
      rcases hw : BuildM.run (b.writeRule (r.withPhony b.request.phonyTargets)) s with
        ⟨f | _, t⟩ <;> rw [hw] at hwrite
      · simpa [htarget] using hwrite
      · simp [htarget]

theorem writeDependencies_emptyTarget_iff (source : Path) (s : Session σ) :
    (BuildM.run (b.writeDependencies source) s).1 = .error .emptyTarget ↔
      b.request.target?.getD [] = [] ∧ ∃ text, s.host.readText source = .ok text ∧
        ∀ name, ¬ b.request.StopsAt b.headers s.host.files (includes text) name := by
  cases hread : s.host.readText source with
  | error f =>
    have hfault := s.host.readText_ne_emptyTarget source
    rw [hread] at hfault
    have hincludes : s.host.includesOf source = .error f := by
      simp [Host.includesOf, hread, Except.map]
    simpa [writeDependencies, run_bind, hincludes] using hfault
  | ok text =>
    rw [b.run_writeDependencies (includesOf_ok hread), conclude_emptyTarget_iff, found_ok_iff]
    simp

end Build

/-! ## Requests with a source -/

namespace Request

/-- What comes from the source of a request: the intermediate file, in any workspace, and the target
of the rule. There always is a name, a directory and a target, and a rule has no target only where it
was asked for so. -/
structure Derives (q : Request) (source : Path) : Prop where
  wellFormed : IsSourcePath source
  intermediate : ∀ w : Workspace, w.Extensible →
    w.Holds (w.filePath source) (Path.baseName source)
  hasName : Path.fileName? source = some (Path.baseName source)
  hasParent : ∃ dir, Path.parent? source = some dir
  hasTarget : ∃ t, q.target? = some t
  target : q.explicitTarget = none →
    ∃ t, q.target? = some t ∧ t ≠ [] ∧ '/' ∉ t ∧ codeSuffix <:+ t
  emptyTarget : ∀ {σ : Type} (b : Build σ) (s : Session σ), b.request = q →
    q.mode = .dependencyOnly →
    ((BuildM.run b.run s).1 = .error .emptyTarget ↔ q.explicitTarget = some [] ∧
      ∃ text, s.host.readText source = .ok text ∧
        ∀ name, ¬ q.StopsAt b.headers s.host.files (includes text) name)

variable {q : Request} {h : Host} {args : List Text} {source : Path}

/-- **Derived paths are well-formed.** However its arguments are written, the source of a request is
absolute and its last name is one of a file. So the intermediate file is in the workspace and not
anywhere else, a target that was not asked for is a name that ends in `.pc`, and an empty target is
refused exactly when it was asked for and all headers were found. -/
theorem MadeOf.derives (hmade : q.MadeOf h.workPath args) (hsource : q.source? = some source) :
    q.Derives source := by
  have hp := hmade.isSourcePath hsource
  constructor
  case wellFormed => exact hp
  case intermediate =>
    intro w hw
    rw [hw.filePath_eq hp.fileName? hp.noSlash]
    exact hw.holds hp.proper hp.noSlash
  case hasName => exact hp.fileName?
  case hasParent => exact hp.exists_parent
  case hasTarget =>
    cases htarget : q.explicitTarget with
    | some t => exact ⟨t, by simp [target?, htarget]⟩
    | none =>
      obtain ⟨t, ht, -⟩ := hp.target hsource htarget
      exact ⟨t, ht⟩
  case target => exact hp.target hsource
  case emptyTarget =>
    rintro σ b s rfl hmode
    rw [b.run_dependencyOnly hsource hmode, b.writeDependencies_emptyTarget_iff,
      hp.target?_getD_eq_nil_iff hsource]

/-! A source whose name begins with two dots, and an empty target. -/

def hiddenArgs : List Text := ["/config".toList, "s/.//..kl".toList]

def hiddenSource : Path := "/s/..kl".toList

def hiddenSession : Session Unit where
  host := {
    tree := ⟨[(["s".toList], .dir), (["s".toList, "..kl".toList], .file [] false)]⟩
    workDir := .root
    env := []
    serial := 0 }
  tools := ()
  out := {}
  err := {}
  state := .idle
  notes := []

def hiddenRequest (explicitTarget : Option Text) : Request where
  translatorArgs := ["/config".toList, hiddenSource]
  source? := some hiddenSource
  searchPath := ⟨[]⟩
  mode := .dependencyOnly
  explicitTarget

theorem hidden_derives :
    (hiddenRequest none).Derives hiddenSource ∧ (hiddenRequest none).target? = some "..pc".toList ∧
      ∀ b : Build Unit, b.request = hiddenRequest (some []) →
        (BuildM.run b.run hiddenSession).1 = .error .emptyTarget := by
  have hargs : ofArgs hiddenSession.host.workPath hiddenArgs ⟨[]⟩ =
      .ok { hiddenRequest none with mode := .compile } := ok_of_toOption (by decide +kernel)
  have hmade (explicitTarget : Option Text) :
      (hiddenRequest explicitTarget).MadeOf hiddenSession.host.workPath hiddenArgs :=
    ⟨_, hargs, rfl, rfl⟩
  refine ⟨(hmade none).derives rfl, by decide +kernel, fun b hb => ?_⟩
  have hread : hiddenSession.host.readText hiddenSource = .ok [] :=
    ok_of_toOption (by decide +kernel)
  have hderives : (hiddenRequest (some [])).Derives hiddenSource := (hmade (some [])).derives rfl
  refine (hderives.emptyTarget b hiddenSession hb rfl).mpr ⟨rfl, [], hread, ?_⟩
  rw [← hb]
  exact (b.found_ok_iff _ _).mp ⟨[], rfl⟩

end Request

end KarelBuild
