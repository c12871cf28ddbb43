import KarelBuild.Proofs.Lifetime

/-!
# One pass and what it reports

A pass tries every entry at and below a directory once, and a directory after everything below it.
Where entries are refused it leaves them and the directories above them, and its count of failures is
the number of entries that are left (`Pass`). The owner of a workspace makes one pass, however the
workspace is given up (`cleanup_spec`).
-/

namespace KarelBuild

namespace FileTree

/-! ## The order of the attempts -/

variable {t : FileTree} {place : Place}

theorem mem_inside (h : t.WellFormed) {q : Place} :
    q ∈ t.inside place ↔ Below place q ∧ t.entry? q ≠ none := by
  induction h with
  | empty =>
    simp only [inside, contentsFirst, FileTree.below, FileTree.empty, List.filterMap_nil,
      List.reverse_nil, List.map_nil, List.not_mem_nil, false_iff]
    rintro ⟨⟨names, hne, rfl⟩, hsome⟩
    exact hsome (by simp [ entry?, hne])
  | @add t dir n e _ _ _ hnew ih =>
    rw [inside_add, add_entry (by simp) hnew]
    by_cases hbelow : Below place (dir ++ [n])
    · rw [if_pos hbelow, List.mem_cons, ih]
      by_cases hq : q = dir ++ [n] <;> simp [hq, hbelow]
    · rw [if_neg hbelow, ih]
      by_cases hq : q = dir ++ [n]
      · subst hq
        simp [hbelow]
      · simp [hq]

theorem inside_nodup (h : t.WellFormed) : (t.inside place).Nodup := by
  induction h with
  | empty => exact List.nodup_nil
  | @add t dir n e h _ _ hnew ih =>
    rw [inside_add]
    split
    next =>
      refine List.nodup_cons.mpr ⟨fun hmem => ?_, ih⟩
      exact ((mem_inside h).mp hmem).2 hnew
    next => exact ih

/-- What was added later is never above what was there before. -/
theorem inside_pairwise (h : t.WellFormed) :
    (t.inside place).Pairwise fun p q => ¬ Below p q := by
  induction h with
  | empty => exact .nil
  | @add t dir n e h _ _ hnew ih =>
    rw [inside_add]
    split
    next =>
      refine List.pairwise_cons.mpr ⟨fun q hmem hbelow => ?_, ih⟩
      obtain ⟨names, hne, rfl⟩ := hbelow
      exact ((mem_inside h).mp hmem).2 (h.nothing_below (by rw [hnew]; simp) hne)
    next => exact ih

/-- Everything at and below a directory stands in this order once, contents first. -/
structure ContentsFirst (t : FileTree) (place : Place) (order : List Place) : Prop where
  once : order.Nodup
  all : ∀ {q}, q ∈ order ↔ place <+: q ∧ t.entry? q ≠ none
  contentsFirst : order.Pairwise fun p q => ¬ Below p q
  rootLast : order.getLast? = some place

theorem prefix_iff {p q : Place} : p <+: q ↔ Below p q ∨ q = p := by
  rw [below_iff]
  by_cases hq : q = p
  · simp [hq]
  · simp [hq]

theorem contentsFirst_inside (h : t.WellFormed) (hplace : t.entry? place = some .dir) :
    ContentsFirst t place (t.inside place ++ [place]) where
  once := by
    refine List.nodup_append.mpr ⟨inside_nodup h, by simp, ?_⟩
    intro p hp q hq heq
    obtain rfl := List.mem_singleton.mp hq
    exact not_below_self q (heq ▸ ((mem_inside h).mp hp).1)
  all {q} := by
    rw [List.mem_append, List.mem_singleton, mem_inside h, prefix_iff]
    by_cases hq : q = place
    · simp [hq, hplace]
    · simp [hq]
  contentsFirst := by
    refine List.pairwise_append.mpr ⟨inside_pairwise h, List.pairwise_singleton .., ?_⟩
    intro p hp q hq hbelow
    obtain rfl := List.mem_singleton.mp hq
    obtain ⟨hunder, hne⟩ := below_iff.mp ((mem_inside h).mp hp).1
    exact hne (hunder.eq_of_length_le (below_iff.mp hbelow).1.length_le).symm
  rootLast := by simp

/-! ## What is left -/

variable {r : Remover} {workDir : WorkDir} {root : Path} {full : FileTree}

theorem Attempted.isFailure_iff {q : Place} {step : RemovalStep}
    (h : Attempted r workDir root place full q step) :
    step.isFailure = true ↔ Stuck r workDir root place full q := by
  cases h with
  | removed _ hfree => simp [RemovalStep.isFailure, hfree]
  | failed _ hstuck => simp [RemovalStep.isFailure, hstuck]

open Classical in
theorem failureCount_attempted {order : List Place} {steps : List RemovalStep}
    (h : List.Forall₂ (Attempted r workDir root place full) order steps) :
    failureCount steps = (order.filter (Stuck r workDir root place full ·)).length := by
  rw [← List.countP_eq_length_filter]
  induction h with
  | nil => rfl
  | @cons q step _ _ hstep _ ih =>
    unfold failureCount at ih ⊢
    rw [List.countP_cons, List.countP_cons, ih]
    simp only [hstep.isFailure_iff, decide_eq_true_eq]

/-- What keeps an entry is an entry, so everything above it is one too. -/
theorem Stuck.entry (hfull : full.WellFormed) {q : Place}
    (h : Stuck r workDir root place full q) : full.entry? q ≠ none := by
  obtain ⟨names, e, he, -⟩ := h
  by_cases hne : names = []
  · simp_all
  · simp [hfull.above hne he]

theorem Cleared.left_iff (hfull : full.WellFormed) (h : Cleared r workDir root place full t)
    {q : Place} (hq : place <+: q) :
    Stuck r workDir root place full q ↔ t.entry? q ≠ none := by
  constructor
  · intro hstuck
    rw [h.kept (.inr hstuck)]
    exact hstuck.entry hfull
  · intro hleft
    by_contra hfree
    exact hleft (h.gone hq hfree)

/-- A pass over a directory of a full tree, with the tree that it leaves and the steps it takes. -/
structure Pass (r : Remover) (workDir : WorkDir) (root : Path) (place : Place) (full t : FileTree)
    (steps : List RemovalStep) : Prop where
  attempts : ∃ order, ContentsFirst full place order ∧
    List.Forall₂ (Attempted r workDir root place full) order steps
  left : ∀ {q}, place <+: q → (Stuck r workDir root place full q ↔ t.entry? q ≠ none)
  kept : ∀ {q}, ¬ place <+: q ∨ Stuck r workDir root place full q → t.entry? q = full.entry? q
  count : ∃ remaining : List Place, remaining.Nodup ∧
    (∀ {q}, q ∈ remaining ↔ place <+: q ∧ t.entry? q ≠ none) ∧
    failureCount steps = remaining.length
  complete : failureCount steps = 0 ↔ t.entry? place = none
  refusals : full.Names workDir root place → full.Addressable root place →
    ∀ {q}, place <+: q → (Refused r workDir root place full q ↔
      ∃ e, full.entry? q = some e ∧ r e.kind (pathBelow root place q) ≠ .permit)

theorem refused_iff (hfull : full.WellFormed) (hreach : full.Reaches workDir root place)
    (hroot : full.Names workDir root place) (haddressable : full.Addressable root place)
    {q : Place} (hq : place <+: q) : Refused r workDir root place full q ↔
      ∃ e, full.entry? q = some e ∧ r e.kind (pathBelow root place q) ≠ .permit := by
  constructor
  · rintro ⟨e, he, hrefused | hnot⟩
    · exact ⟨e, he, hrefused⟩
    · exact absurd (names_of_addressable hfull hroot (fun _ => hreach) haddressable hq he) hnot
  · rintro ⟨e, he, hrefused⟩
    exact ⟨e, he, .inl hrefused⟩

theorem removeDirTree_pass (hr : r.Firm) (hfull : full.WellFormed)
    (hreach : full.Reaches workDir root place) {steps : List RemovalStep}
    (hpass : removeDirTree r workDir root place full = (t, steps)) :
    Pass r workDir root place full t steps := by
  classical
  obtain ⟨hsteps, hcleared⟩ := removeDirTree_spec hr hfull hreach
  rw [hpass] at hsteps hcleared
  have horder := contentsFirst_inside hfull hreach.isDir
  have hcount := failureCount_attempted hsteps
  have hmem {q : Place} : q ∈ (full.inside place ++ [place]).filter
      (Stuck r workDir root place full ·) ↔ place <+: q ∧ t.entry? q ≠ none := by
    rw [List.mem_filter, horder.all, decide_eq_true_eq]
    constructor
    · rintro ⟨⟨hq, -⟩, hstuck⟩
      exact ⟨hq, (hcleared.left_iff hfull hq).mp hstuck⟩
    · rintro ⟨hq, hleft⟩
      have hstuck := (hcleared.left_iff hfull hq).mpr hleft
      exact ⟨⟨hq, hstuck.entry hfull⟩, hstuck⟩
  constructor
  case attempts => exact ⟨_, horder, hsteps⟩
  case left => exact fun hq => hcleared.left_iff hfull hq
  case kept => exact hcleared.kept
  case count => exact ⟨_, horder.once.filter _, hmem, hcount⟩
  case complete =>
    rw [hcount, List.length_eq_zero_iff]
    constructor
    · intro hnil
      by_contra hleft
      have hplace := hmem.mpr ⟨List.prefix_refl place, hleft⟩
      rw [hnil] at hplace
      exact List.not_mem_nil hplace
    · intro hgone
      refine List.eq_nil_iff_forall_not_mem.mpr fun q hq => ?_
      -- What is stuck keeps the directory.
      obtain ⟨⟨names, rfl⟩, hleft⟩ := hmem.mp hq
      have hstuck := (hcleared.left_iff hfull (List.prefix_append ..)).mpr hleft
      exact (hcleared.left_iff hfull (List.prefix_refl place)).mp hstuck.above hgone
  case refusals => exact fun hroot haddressable _ hq => refused_iff hfull hreach hroot haddressable hq

end FileTree

/-! ## Giving up a workspace -/

namespace Workspace

open FileTree

/-- An owner gets the pass whether it drops the workspace or releases it, and once released the
workspace is dropped without another one. -/
structure OnePass (w : Workspace) (r : Remover) (h : Host) (t : FileTree)
    (steps : List RemovalStep) : Prop where
  dropped : ({ workspace := w } : Owned).drop r h = (h.setTree t, steps)
  released : ({ workspace := w } : Owned).release r h = (h.setTree t, steps)
  afterRelease : ∀ h', (({ workspace := w } : Owned).cleanup r h).1.drop r h' = (h', [])

theorem onePass {w : Workspace} {r : Remover} {h : Host} {t : FileTree}
    {steps : List RemovalStep} (hpass : removeTree r h.workDir w.path h.tree = (t, steps)) :
    w.OnePass r h t steps := by
  have hcleanup : ({ workspace := w } : Owned).cleanup r h =
      ({ workspace := w, released := true }, h.setTree t, steps) := by
    simp [Owned.cleanup, cleanup, hpass]
  have hagain (h' : Host) :
      ({ workspace := w, released := true } : Owned).drop r h' = (h', []) := by
    simp [Owned.drop, Owned.cleanup]
  constructor
  case dropped => simp [Owned.drop, hcleanup]
  case released => simp [Owned.release, hcleanup, hagain]
  case afterRelease => simp [hcleanup, hagain]

/-- **Cleaning up under failures.** A pass over a real directory, with a remover that leaves what it
refuses, tries every entry once, a directory after everything below it and the root last. The
entries with a refused one at or below them are left, the others are removed, and the count is the
number of those left. A workspace gets one such pass, whether it is released or dropped. -/
theorem cleanup_spec {r : Remover} {workDir : WorkDir} {root : Path} {place : Place}
    {full t : FileTree} {steps : List RemovalStep} (hr : r.Firm) (hfull : full.WellFormed)
    (hreal : full.statLink workDir root = .ok (place, .dir))
    (hreach : full.Reaches workDir root place)
    (hpass : removeTree r workDir root full = (t, steps)) :
    Pass r workDir root place full t steps ∧
      ∀ (w : Workspace) (h : Host), w.path = root → h.workDir = workDir → h.tree = full →
        w.OnePass r h t steps := by
  constructor
  · refine removeDirTree_pass hr hfull hreach ?_
    simpa only [removeTree, hreal] using hpass
  · rintro w h rfl rfl rfl
    exact onePass hpass

/-! A workspace with a directory, a file that is locked and a link. -/

def lockedHost : Host := { Build.messyStart with tree := Build.messyTree Build.messyStart.tree }

def lockedRemover : Remover := fun _ p =>
  if Path.baseName p = ['f'] then .refuse "locked".toList else .permit

theorem locked_cleanup : ∃ t steps,
    Pass lockedRemover .root Build.twiceWorkspace.path Build.messyPlace lockedHost.tree t steps ∧
      Build.twiceWorkspace.OnePass lockedRemover lockedHost t steps ∧ failureCount steps = 3 := by
  have hfirm : lockedRemover.Firm := by
    intro kind p reason
    unfold lockedRemover
    split <;> simp
  have hwf : lockedHost.tree.WellFormed := wellFormed_of_stacked (by decide +kernel)
  have hreach : lockedHost.tree.Reaches .root Build.twiceWorkspace.path Build.messyPlace :=
    ⟨by decide, by decide +kernel, ok_of_toOption (by decide +kernel)⟩
  have hcount : failureCount
      (removeTree lockedRemover .root Build.twiceWorkspace.path lockedHost.tree).2 = 3 := by
    decide +kernel
  rcases hresult : removeTree lockedRemover .root Build.twiceWorkspace.path lockedHost.tree with
    ⟨t, steps⟩
  rw [hresult] at hcount
  obtain ⟨hpass, hone⟩ :=
    cleanup_spec hfirm hwf (ok_of_toOption (by decide +kernel)) hreach hresult
  exact ⟨t, steps, hpass, hone Build.twiceWorkspace lockedHost rfl rfl rfl, hcount⟩

end Workspace

end KarelBuild
