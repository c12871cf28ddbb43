import KarelBuild.Proofs.DryRun
import KarelBuild.Proofs.FileTree.Removal
import KarelBuild.Proofs.Pipeline

/-!
# The lifetime of a workspace

A compile makes a workspace, calls its tools and removes the workspace, whatever came of the tools
and of what was written. That there is one pass of removal, after the last call, shows when the pass
is exchanged for another one (`runWith`): the run differs in what this other pass does to the host, and
in nothing else.
-/

namespace KarelBuild

namespace FileTree

/-- Outside a place all directories and links are kept, and the place itself holds no link. -/
structure Spares (place : Place) (t t' : FileTree) : Prop where
  wellFormed : t'.WellFormed
  keeps : ∀ {q e}, ¬ place <+: q → t.entry? q = some e → ¬ e.IsLeaf → t'.entry? q = some e
  noLink : ∀ target, t'.entry? place ≠ some (.link target)

/-- Nothing is left at or below a place, and everything else is as it was. -/
structure Without (place : Place) (t t' : FileTree) : Prop where
  gone : ∀ {q}, place <+: q → t'.entry? q = none
  kept : ∀ {q}, ¬ place <+: q → t'.entry? q = t.entry? q

/-- A path that leads to a place whatever is there, and under which all entries have paths. -/
structure Pinned (t : FileTree) (root : Path) (place : Place) : Prop where
  absolute : Path.isAbsolute root = true
  openEnd : Path.endsInSlash root = false
  designates : ∃ dir name, place = dir ++ [name] ∧
    ∀ {t' : FileTree}, (∀ q, ¬ place <+: q → t'.entry? q = t.entry? q) →
      t'.Designates root dir name
  addressable : t.Addressable root place

section Pinned

variable {t : FileTree} {workDir : WorkDir} {root : Path} {place : Place}
  (hpinned : t.Pinned root place)

include hpinned

theorem Pinned.names : t.Names workDir root place := by
  obtain ⟨dir, name, rfl, hroot⟩ := hpinned.designates
  exact ⟨dir, name, rfl, (locateIn_eq_ok_iff workDir hpinned.absolute).mpr (hroot fun _ _ => rfl)⟩

theorem Pinned.reaches (hdir : t.entry? place = some .dir) : t.Reaches workDir root place where
  nonempty := by
    rintro rfl
    exact absurd hpinned.absolute (by decide)
  isDir := hdir
  leads := by
    obtain ⟨dir, name, rfl, hroot⟩ := hpinned.designates
    have hd := hroot fun q hq => sameBut_bare t fun hbelow => hq (below_iff.mp hbelow).1
    have hnames : (t.bare (dir ++ [name])).Names workDir root (dir ++ [name]) :=
      ⟨dir, name, rfl, (locateIn_eq_ok_iff workDir hpinned.absolute).mpr hd⟩
    exact hnames.follow ((sameBut_bare t (not_below_self _)).trans hdir) rfl

theorem Pinned.statLink : t.statLink workDir root = match t.entry? place with
    | some e => .ok (place, e)
    | none => .error .noEntry :=
  hpinned.names.statLink hpinned.openEnd

/-- The system refuses nothing at or below the place. -/
theorem Pinned.not_stuck (hwf : t.WellFormed) {q : Place} (hq : place <+: q) :
    ¬ Stuck Remover.system workDir root place t q := by
  rintro ⟨more, e, he, hrefused⟩
  refine hrefused.elim (fun h => h rfl) fun hnot => hnot ?_
  exact names_of_addressable hwf hpinned.names (fun hdir => hpinned.reaches hdir)
    hpinned.addressable (hq.trans (List.prefix_append ..)) he

/-- The system's own pass leaves nothing at a place that is no link. -/
theorem Pinned.removeTree_without (hwf : t.WellFormed)
    (hlink : ∀ target, t.entry? place ≠ some (.link target)) :
    Without place t (removeTree Remover.system workDir root t).1 := by
  have without {t' : FileTree} (h : Cleared Remover.system workDir root place t t') :
      Without place t t' :=
    ⟨fun hq => h.gone hq (hpinned.not_stuck hwf hq), fun hq => h.kept (.inl hq)⟩
  unfold removeTree
  rw [hpinned.statLink]
  cases he : t.entry? place with
  | none =>
    refine ⟨?_, fun _ => rfl⟩
    rintro q ⟨names, rfl⟩
    by_cases hne : names = []
    · simpa [hne] using he
    · exact hwf.nothing_below (by simp [he]) hne
  | some e =>
    cases e with
    | link target => exact absurd he (hlink target)
    | dir => exact without (removeDirTree_spec Remover.system_firm hwf (hpinned.reaches he)).2
    | file | device =>
      -- Below what is not a directory there is nothing to try.
      have htried : Tried Remover.system workDir root place t .empty t := by
        refine ⟨?_, fun _ => rfl⟩
        rintro q ⟨names, hne, rfl⟩ - -
        exact hwf.nothing_below (by simp [he]) hne
      exact without (htried.cleared Remover.system_firm hwf he (fun _ => hpinned.openEnd)
        (fun h => h) (fun h => absurd hpinned.names h)).2

end Pinned

end FileTree

/-! ## Removing a workspace -/

namespace Workspace

/-- A workspace was made in a place where nothing was. -/
structure MadeAt (w : Workspace) (h h' : Host) (place : Place) : Prop where
  designates : ∃ dir name, place = dir ++ [name] ∧ h.tree.Designates w.path dir name
  unused : h.tree.entry? place = none
  tree : h'.tree = h.tree.put place .dir

variable {parent : Path} {h h' : Host} {w : Workspace} {place : Place} {t : FileTree}

theorem create_madeAt (hw : create parent h = .ok (w, h')) : ∃ place, w.MadeAt h h' place := by
  obtain ⟨base, serial, -, -, hmade⟩ := create_ok hw
  obtain ⟨dir, name, hlocate, hnone, htree⟩ := FileTree.makeDir_ok hmade
  have hd := (FileTree.locateIn_eq_ok_iff h.workDir (create_isAbsolute hw)).mp hlocate
  exact ⟨dir ++ [name], ⟨dir, name, rfl, hd⟩, hnone, htree⟩

/-- The path of a workspace leads to its place as long as what is outside is spared. -/
theorem MadeAt.reaches (hmade : w.MadeAt h h' place) (hw : create parent h = .ok (w, h'))
    (hwf : h.tree.WellFormed) (hspares : FileTree.Spares place h'.tree t)
    (haddressable : t.Addressable w.path place) : t.Pinned w.path place where
  absolute := create_isAbsolute hw
  openEnd := (create_extensible hw).open_end
  addressable := haddressable
  designates := by
    obtain ⟨dir, name, rfl, hd⟩ := hmade.designates
    refine ⟨dir, name, rfl, fun {t'} hsame => hd.kept ?_⟩
    intro q e he hleaf
    -- Before the workspace was made there was nothing at its place or below.
    have houtside : ¬ dir ++ [name] <+: q := by
      rintro ⟨names, rfl⟩
      by_cases hne : names = []
      · simp [hne, hmade.unused] at he
      · rw [hwf.nothing_below (by rw [hmade.unused]; simp) hne] at he
        simp at he
    have hmadeq : h'.tree.entry? q = some e := by
      rw [hmade.tree, FileTree.put_entry _ (by simp), if_neg, he]
      rintro rfl
      exact houtside (List.prefix_refl _)
    rw [hsame q houtside, hspares.keeps houtside hmadeq hleaf]

/-- The pass that ends a workspace leaves nothing of it and keeps everything else. -/
theorem cleanup_without {left : Host} (hpinned : left.tree.Pinned w.path place)
    (hwf : left.tree.WellFormed) (hlink : ∀ target, left.tree.entry? place ≠ some (.link target)) :
    FileTree.Without place left.tree (w.cleanup Remover.system left).1.tree :=
  hpinned.removeTree_without hwf hlink

end Workspace

namespace Build

open BuildM

variable {σ : Type} (b : Build σ)

/-! ## Another pass -/

/-- What is done to a workspace at the end. -/
abbrev Cleanup := Workspace → Host → Host × List RemovalStep

def releaseWith (cleanup : Cleanup) (w : Workspace) (s : Session σ) : Session σ :=
  let (h, steps) := cleanup w s.host
  { s with host := h, notes := s.notes ++ w.cleanupNotes steps }

def compileInWith (cleanup : Cleanup) (source : Path) (w : Workspace) : BuildM σ Outcome := fun s =>
  let (outcome, s') := (compile b source w).run s
  (outcome, releaseWith cleanup w s')

/-- The source that is compiled when it is compiled. -/
def compiled? : Option Path :=
  match b.request.mode with
  | .dependencyOnly => none
  | .compile => if b.request.dryRun then none else b.request.source?

/-- The same build with another pass over its workspace. -/
def runWith (cleanup : Cleanup) : BuildM σ Outcome :=
  match b.compiled? with
  | none => b.run
  | some source => do
    note .buildNeeded
    let w ← acquire (b.workspaceParent (← host))
    compileInWith b cleanup source w

theorem compiled?_eq_some_iff {source : Path} : b.compiled? = some source ↔
    b.request.source? = some source ∧ b.request.mode = .compile ∧ b.request.dryRun = false := by
  unfold compiled?
  cases b.request.mode <;> cases b.request.dryRun <;> simp

theorem runWith_system : b.runWith (fun w h => w.cleanup Remover.system h) = b.run := by
  unfold runWith
  split
  next => rfl
  next source hsource =>
    obtain ⟨hsource, hmode, hdry⟩ := b.compiled?_eq_some_iff.mp hsource
    simp only [Build.run, hsource, hmode, hdry, Bool.false_eq_true, ↓reduceIte]
    rfl

theorem run_runWith (cleanup : Cleanup) {source : Path} (hsource : b.compiled? = some source)
    (s : Session σ) :
    BuildM.run (b.runWith cleanup) s =
      match Workspace.create (b.workspaceParent s.host) s.host with
      | .error f => (.error f, { s with notes := s.notes ++ [.buildNeeded] })
      | .ok (w, h) => ((BuildM.run (b.compile source w) (started w h s)).1,
        releaseWith cleanup w (BuildM.run (b.compile source w) (started w h s)).2) := by
  simp only [runWith, hsource, run_bind, run_note, run_host, run_acquire]
  rcases Workspace.create (b.workspaceParent s.host) s.host with f | ⟨w, h⟩ <;> rfl

/-! ## Whole runs -/

/-- The calls of a compile in a workspace, of which the second may be left out. -/
def compileCalls (source : Path) (w : Workspace) : List Call :=
  [b.preprocessCall source (w.filePath source), b.translateCall source (w.filePath source)]

/-- What becomes of a workspace that a run has made on the host `h`. The session `left` is the one
that the last tool call and the report leave, with the workspace still there. -/
structure Lifetime (source : Path) (w : Workspace) (h : Host) (s : Session σ)
    (result : Except Fault Outcome) (left : Session σ) : Prop where
  calls : ∃ calls, calls ≠ [] ∧
    calls <+: b.compileCalls source w ∧
    (left.tools, left.host) = b.runner.after calls (s.tools, h)
  released : BuildM.run b.run s = (result, release w left)
  cleanup : ∀ cleanup : Cleanup, ∃ s', BuildM.run (b.runWith cleanup) s = (result, s') ∧
    s'.host = (cleanup w left.host).1 ∧ s'.tools = left.tools ∧ s'.out = left.out ∧
    s'.err = left.err
  removed : ∃ place, w.MadeAt s.host h place ∧
    (s.host.tree.WellFormed → h.tree.Spares place left.host.tree →
      left.host.tree.Addressable w.path place →
      left.host.tree.Without place (release w left).host.tree)

/-- A run that compiles nothing changes the host by at most one call of a tool. -/
theorem run_uncompiled (hmode : b.request.mode = .compile) (hnone : b.compiled? = none)
    (s : Session σ) : ∃ calls, calls.length ≤ 1 ∧
      ((BuildM.run b.run s).2.tools, (BuildM.run b.run s).2.host) =
        b.runner.after calls (s.tools, s.host) := by
  cases hsource : b.request.source? with
  | none =>
    obtain ⟨calls, hafter, hcalls⟩ :=
      b.passThrough_after { s with notes := s.notes ++ [.noBuildNeeded] }
    refine ⟨calls, ?_, ?_⟩
    · rcases hcalls with rfl | ⟨rfl, -⟩ <;> simp
    · simpa only [Build.run, hsource, run_bind, run_note] using hafter
  | some source =>
    cases hdry : b.request.dryRun with
    | false => simp [compiled?, hmode, hdry, hsource] at hnone
    | true =>
      refine ⟨[], by simp, ?_⟩
      simp [Build.run, hsource, hmode, hdry, run_bind]

theorem compile_calls_after (source : Path) (w : Workspace) (s : Session σ) : ∃ calls, calls ≠ [] ∧
    calls <+: b.compileCalls source w ∧
    ((BuildM.run (b.compile source w) s).2.tools, (BuildM.run (b.compile source w) s).2.host) =
      b.runner.after calls (s.tools, s.host) := by
  obtain ⟨-, -, -, hafter⟩ | ⟨-, hafter⟩ := b.compile_after source w s
  · exact ⟨b.compileCalls source w, by simp [compileCalls], List.prefix_refl _, hafter⟩
  · exact ⟨_, by simp, by simp [compileCalls], hafter⟩

/-! A preprocessor that leaves a directory, a file and a link in the workspace and a file beside the
source, and a translator that removes the link and fails with a report that cannot be written. -/

def messyPlace : Place := ["tmp".toList, "ktransw-000000-buildd".toList]

def messyTree (t : FileTree) : FileTree :=
  [(["d".toList], Entry.dir), (["d".toList, "f".toList], .file [] true),
    (["l".toList], .link "/s".toList)].foldl (fun t a => t.add (messyPlace ++ a.1) a.2)
    (t.add ["s".toList, "m.pc".toList] (.file [] false))

def tidied (t : FileTree) : FileTree := t.erase (messyPlace ++ ["l".toList])

def messyRunner : Runner Unit where
  run call tools h :=
    match call.manner with
    | .captureMerged => (.ok ⟨3, "m.kl: error".toList, []⟩, tools, h.setTree (tidied h.tree))
    | _ => (.ok ⟨0, [], []⟩, tools, h.setTree (messyTree h.tree))

def messyBuild : Build Unit := { twiceBuild with runner := messyRunner }

def messySession : Session Unit :=
  { twiceSession with tools := (), out := { writeFailure := some "full".toList } }

/-- The host with the workspace. -/
def messyStart : Host :=
  { messySession.host with tree := messySession.host.tree.put messyPlace .dir, serial := 1 }

/-- The host that the tools leave. -/
def messyLeft : Host := { messyStart with tree := tidied (messyTree messyStart.tree) }

theorem messy_spares : messyStart.tree.Spares messyPlace messyLeft.tree where
  wellFormed := FileTree.wellFormed_of_stacked (by decide +kernel)
  keeps := by
    have hall : ∀ a ∈ messyStart.tree.entries, ¬ messyPlace <+: a.1 →
        messyLeft.tree.entry? a.1 = some a.2 := by decide +kernel
    intro q e hq he _
    by_cases hroot : q = []
    · subst hroot
      exact he
    · exact hall _ (FileTree.mem_of_entry hroot he) hq
  noLink := by
    have hdir : messyLeft.tree.entry? messyPlace = some .dir := by decide +kernel
    simp [hdir]

theorem messy_addressable : messyLeft.tree.Addressable twiceWorkspace.path messyPlace := by
  have hall : ∀ a ∈ messyLeft.tree.entries,
      FileTree.refusePath (FileTree.pathBelow twiceWorkspace.path messyPlace a.1) = none := by
    decide +kernel
  rintro q e ⟨names, hne, rfl⟩ he
  exact hall _ (FileTree.mem_of_entry (by simp [hne]) he)

end Build

end KarelBuild
