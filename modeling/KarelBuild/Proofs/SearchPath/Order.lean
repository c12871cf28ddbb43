import KarelBuild.Proofs.Host
import KarelBuild.Proofs.SearchPath

/-!
# What the order of a search path decides

A relative name is resolved by the first directory that holds it (`resolve_eq_some_iff`). So a search
path may be put together of parts (`resolve_append`), directories that do not hold the name can come
and go (`resolve_insert`), and a name that is found is found still when there are more files
(`resolve_extends`).
-/

namespace KarelBuild

namespace SearchPath

variable (headers : SystemHeaders) (files : Files) {name : Text}

theorem resolve_absolute (s : SearchPath) (h : Path.isAbsolute name = true) :
    s.resolve headers files name = (some (.found name name (headers.contains name)), []) := by
  simp [resolve, h]

section

variable (hrel : Path.isAbsolute name = false)

include hrel

theorem resolve_relative (s : SearchPath) :
    s.resolve headers files name = match s.holder? files name with
      | some dir =>
        (some (.found name (Path.join dir name) (headers.contains name)), [.found name dir])
      | none => (none, []) := by
  unfold resolve
  cases s.holder? files name <;> simp [hrel]

/-- A search path that consists of two is searched one after the other. -/
theorem resolve_append (dirs more : List Path) :
    resolve ⟨dirs ++ more⟩ headers files name =
      if (resolve ⟨dirs⟩ headers files name).1.isSome then resolve ⟨dirs⟩ headers files name
      else resolve ⟨more⟩ headers files name := by
  have happend : holder? ⟨dirs ++ more⟩ files name =
      (holder? ⟨dirs⟩ files name).or (holder? ⟨more⟩ files name) := List.find?_append
  simp only [resolve_relative headers files hrel, happend]
  cases holder? ⟨dirs⟩ files name <;> simp

theorem resolve_eq_some_iff (s : SearchPath) (d : Dependency) :
    (s.resolve headers files name).1 = some d ↔
      ∃ before dir after, s.dirs = before ++ dir :: after ∧
        d = .found name (Path.join dir name) (headers.contains name) ∧ Holds files dir name ∧
        ∀ e ∈ before, ¬ Holds files e name := by
  rw [resolve_relative headers files hrel]
  constructor
  · intro h
    split at h
    next dir hdir =>
      obtain ⟨before, after, heq, hbefore, hholds⟩ := s.holder?_eq_some files hdir
      exact ⟨before, dir, after, heq, (Option.some.inj h).symm, hholds, hbefore⟩
    next => simp at h
  · rintro ⟨before, dir, after, heq, rfl, hholds, hbefore⟩
    rw [s.holder?_of_first files heq hbefore hholds]

theorem resolve_of_none {s : SearchPath} (h : ∀ dir ∈ s.dirs, ¬ Holds files dir name) :
    s.resolve headers files name = (none, []) := by
  have hnone : s.holder? files name = none := List.find?_eq_none.mpr h
  rw [resolve_relative headers files hrel, hnone]

/-- Directories that do not hold a name may stand anywhere. -/
theorem resolve_insert {dirs more : List Path} (h : ∀ dir ∈ more, ¬ Holds files dir name)
    (after : List Path) :
    resolve ⟨dirs ++ more ++ after⟩ headers files name =
      resolve ⟨dirs ++ after⟩ headers files name := by
  have hnone : resolve ⟨more⟩ headers files name = (none, []) :=
    resolve_of_none headers files hrel h
  rw [List.append_assoc]
  simp only [resolve_append headers files hrel, hnone, Option.isSome_none, Bool.false_eq_true,
    ↓reduceIte]

/-- Any directories may stand behind one that holds the name. -/
theorem resolve_behind {dirs : List Path} (h : (resolve ⟨dirs⟩ headers files name).1.isSome)
    (more : List Path) :
    resolve ⟨dirs ++ more⟩ headers files name = resolve ⟨dirs⟩ headers files name := by
  rw [resolve_append headers files hrel, if_pos h]

theorem resolve_isSome_iff (s : SearchPath) :
    (s.resolve headers files name).1.isSome ↔ ∃ dir ∈ s.dirs, Holds files dir name := by
  rw [resolve_relative headers files hrel]
  have hsome : (s.holder? files name).isSome ↔ ∃ dir ∈ s.dirs, Holds files dir name :=
    List.find?_isSome
  rw [← hsome]
  cases s.holder? files name <;> rfl

/-- What is found is found where nothing was taken away. -/
theorem resolve_extends (files' : Files) (hdir : files'.workDir = files.workDir)
    (htree : files.tree.Extends files'.tree) {s : SearchPath}
    (h : (s.resolve headers files name).1.isSome) :
    (s.resolve headers files' name).1.isSome := by
  rw [resolve_isSome_iff headers files hrel] at h
  rw [resolve_isSome_iff headers files' hrel]
  obtain ⟨dir, hmem, hholds⟩ := h
  refine ⟨dir, hmem, ?_⟩
  unfold Holds at hholds ⊢
  rw [hdir]
  exact FileTree.isFile_extends htree hholds

end

/-- **The order of a search.** An absolute name stands for itself. A relative one is found in the
first part of a search path that finds it. What is found is the file of that name in a directory
before which no other one holds it. Without the directories that hold it the name is not found,
directories that do not hold it and those behind the one that does make no difference, and more
files, made anyhow or by writing a text, never make it missing. -/
theorem resolve_order (name : Text) :
    (Path.isAbsolute name = true → ∀ s : SearchPath,
      s.resolve headers files name = (some (.found name name (headers.contains name)), [])) ∧
    (Path.isAbsolute name = false →
      (∀ dirs more : List Path, resolve ⟨dirs ++ more⟩ headers files name =
        if (resolve ⟨dirs⟩ headers files name).1.isSome then resolve ⟨dirs⟩ headers files name
        else resolve ⟨more⟩ headers files name) ∧
      (∀ (s : SearchPath) d, (s.resolve headers files name).1 = some d ↔
        ∃ before dir after, s.dirs = before ++ dir :: after ∧
          d = .found name (Path.join dir name) (headers.contains name) ∧ Holds files dir name ∧
          ∀ e ∈ before, ¬ Holds files e name) ∧
      (∀ dirs : List Path, resolve ⟨dirs.filter fun dir =>
          !files.tree.isFile files.workDir (Path.join dir name)⟩ headers files name = (none, [])) ∧
      (∀ dirs more after : List Path, (∀ dir ∈ more, ¬ Holds files dir name) →
        resolve ⟨dirs ++ more ++ after⟩ headers files name =
          resolve ⟨dirs ++ after⟩ headers files name) ∧
      (∀ dirs more after : List Path, (resolve ⟨dirs⟩ headers files name).1.isSome →
        resolve ⟨dirs ++ more ++ after⟩ headers files name =
          resolve ⟨dirs ++ after⟩ headers files name) ∧
      (∀ (s : SearchPath) (files' : Files), files'.workDir = files.workDir →
        files.tree.Extends files'.tree → (s.resolve headers files name).1.isSome →
        (s.resolve headers files' name).1.isSome) ∧
      ∀ (s : SearchPath) (h : Host) (p : Path) (text : Text), h.Settled → h.files = files →
        (s.resolve headers files name).1.isSome →
        (s.resolve headers (h.writeText p text).2.files name).1.isSome) := by
  refine ⟨fun habs s => resolve_absolute headers files s habs, fun hrel =>
    ⟨resolve_append headers files hrel, resolve_eq_some_iff headers files hrel, ?removed,
      fun dirs more after hmore => resolve_insert headers files hrel hmore after, ?behind,
      fun s files' hdir htree => resolve_extends headers files hrel files' hdir htree, ?written⟩⟩
  case removed =>
    intro dirs
    refine resolve_of_none headers files hrel ?_
    intro dir hdir
    simpa [Holds] using (List.mem_filter.mp hdir).2
  case behind =>
    intro dirs more after hfound
    rw [List.append_assoc, resolve_behind headers files hrel hfound,
      resolve_behind headers files hrel hfound]
  case written =>
    rintro s h p text hs rfl hfound
    have hkeeps := h.writeText_keeps hs p text
    exact resolve_extends headers h.files hrel (h.writeText p text).2.files hkeeps.workDir
      hkeeps.tree hfound

/-! Four directories: `f` is a directory in the first, a link that leads nowhere in the second, a file
in the third and a link to that file in the fourth. -/

def crowdedHost : Host where
  tree := ⟨[(["a".toList], .dir), (["a".toList, "f".toList], .dir), (["b".toList], .dir),
    (["b".toList, "f".toList], .link "gone".toList), (["c".toList], .dir),
    (["c".toList, "f".toList], .file [] false), (["d".toList], .dir),
    (["d".toList, "f".toList], .link "../c/f".toList)]⟩
  workDir := .root
  env := []
  serial := 0

def crowdedHeaders : SystemHeaders := .ofNames [] []

theorem crowded_order :
    (resolve ⟨["/a".toList, "/b".toList] ++ ["/c".toList, "/d".toList]⟩ crowdedHeaders
      crowdedHost.files "f".toList).1 = some (.found "f".toList "/c/f".toList false) ∧
    (resolve ⟨["/a".toList, "/b".toList] ++ ["/d".toList]⟩ crowdedHeaders
      crowdedHost.files "f".toList).1 = some (.found "f".toList "/d/f".toList false) ∧
    (resolve ⟨["/a".toList, "/d".toList]⟩ crowdedHeaders
      (crowdedHost.writeText "/a/new/g".toList []).2.files "f".toList).1.isSome := by
  obtain ⟨happend, hfound, -, hinsert, -, -, hwritten⟩ :=
    (resolve_order crowdedHeaders crowdedHost.files "f".toList).2 rfl
  have hempty : ∀ dir ∈ ["/a".toList, "/b".toList], ¬ Holds crowdedHost.files dir "f".toList := by
    unfold Holds
    decide +kernel
  refine ⟨?_, ?_, ?_⟩
  · rw [happend, if_neg (by decide +kernel)]
    exact (hfound _ _).mpr ⟨[], "/c".toList, ["/d".toList], rfl, rfl, by unfold Holds; decide +kernel,
      by simp⟩
  · have hskip := hinsert [] ["/a".toList, "/b".toList] ["/d".toList] hempty
    rw [List.nil_append, List.nil_append] at hskip
    rw [hskip]
    exact (hfound _ _).mpr ⟨[], "/d".toList, [], rfl, rfl, by unfold Holds; decide +kernel, by simp⟩
  · exact hwritten _ crowdedHost _ _ ⟨by decide, by decide +kernel⟩ rfl (by decide +kernel)

end SearchPath

end KarelBuild
