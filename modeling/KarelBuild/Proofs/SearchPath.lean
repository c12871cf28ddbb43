import KarelBuild.SearchPath
import Mathlib.Data.List.Forall2

/-!
# What a search over all names of a source finds

`StandsFor` says which path a name stands for, without a search being run, and `FirstMissing` which
name ends a search. `collect` gives the paths of all names that are not ignored, in their order
(`collect_ok`), or names the first missing one (`collect_error_iff`).
-/

namespace KarelBuild

/-- Whether names of system headers are left out, and this is one of them. -/
def Policy.ignores (p : Policy) (headers : SystemHeaders) (name : Text) : Bool :=
  p.ignoreSystem && headers.contains name

namespace SearchPath

variable (s : SearchPath) (headers : SystemHeaders) (files : Files) (policy : Policy)

/-- There is a regular file of this name in a directory, links followed. -/
def Holds (dir : Path) (name : Text) : Prop :=
  files.tree.isFile files.workDir (Path.join dir name) = true

/-- A name that can be resolved is absolute or held by a directory of the search path. -/
def Resolves (name : Text) : Prop :=
  Path.isAbsolute name = true ∨ ∃ dir ∈ s.dirs, Holds files dir name

/-- The path that a name stands for. -/
inductive StandsFor (name : Text) : Path → Prop
  | absolute : Path.isAbsolute name = true → StandsFor name name
  | found {before : List Path} {dir : Path} {after : List Path} :
      Path.isAbsolute name = false → s.dirs = before ++ dir :: after →
      (∀ d ∈ before, ¬ Holds files d name) → Holds files dir name →
      StandsFor name (Path.join dir name)
  | generated : Path.isAbsolute name = false → (∀ d ∈ s.dirs, ¬ Holds files d name) →
      policy.tolerateMissing = true → StandsFor name name

/-- The first of the names that is neither ignored nor resolved. -/
def FirstMissing (names : List Text) (name : Text) : Prop :=
  ∃ before after, names = before ++ name :: after ∧
    (∀ n ∈ before, policy.ignores headers n = true ∨ s.Resolves files n) ∧
    policy.ignores headers name = false ∧ ¬ s.Resolves files name

theorem firstMissing_nil (name : Text) : ¬ s.FirstMissing headers files policy [] name := by
  rintro ⟨before, after, h, -⟩
  simp at h

/-- A name that is ignored or resolved does not end a search. -/
theorem firstMissing_cons_of_passed {n : Text} (names : List Text) (name : Text)
    (h : policy.ignores headers n = true ∨ s.Resolves files n) :
    s.FirstMissing headers files policy (n :: names) name ↔
      s.FirstMissing headers files policy names name := by
  constructor
  · rintro ⟨before, after, heq, hbefore, hi, hr⟩
    cases before with
    | nil =>
      obtain ⟨rfl, -⟩ : n = name ∧ names = after := by simpa using heq
      rcases h with h | h
      · simp [h] at hi
      · exact absurd h hr
    | cons m before =>
      obtain ⟨rfl, rfl⟩ : n = m ∧ names = before ++ name :: after := by simpa using heq
      exact ⟨before, after, rfl, fun x hx => hbefore x (List.mem_cons_of_mem _ hx), hi, hr⟩
  · rintro ⟨before, after, rfl, hbefore, hname⟩
    refine ⟨n :: before, after, rfl, ?_, hname⟩
    intro x hx
    rcases List.mem_cons.mp hx with rfl | hx
    · exact h
    · exact hbefore x hx

theorem firstMissing_cons_of_missing {n : Text} (names : List Text) (name : Text)
    (hi : policy.ignores headers n = false) (hr : ¬ s.Resolves files n) :
    s.FirstMissing headers files policy (n :: names) name ↔ n = name := by
  constructor
  · rintro ⟨before, after, heq, hbefore, -⟩
    cases before with
    | nil => exact (by simpa using heq : n = name ∧ names = after).1
    | cons m before =>
      obtain ⟨rfl, -⟩ : n = m ∧ names = before ++ name :: after := by simpa using heq
      rcases hbefore n (List.mem_cons_self ..) with h | h
      · simp [h] at hi
      · exact absurd h hr
  · rintro rfl
    exact ⟨[], names, rfl, by simp, hi, hr⟩

/-! ## One name -/

theorem holder?_eq_some {name : Text} {dir : Path} (h : s.holder? files name = some dir) :
    ∃ before after, s.dirs = before ++ dir :: after ∧
      (∀ d ∈ before, ¬ Holds files d name) ∧ Holds files dir name := by
  obtain ⟨hdir, before, after, heq, hbefore⟩ := List.find?_eq_some_iff_append.mp h
  exact ⟨before, after, heq, fun d hd => by simpa [Holds] using hbefore d hd, hdir⟩

theorem holder?_of_first {name : Text} {before after : List Path} {dir : Path}
    (heq : s.dirs = before ++ dir :: after) (hbefore : ∀ d ∈ before, ¬ Holds files d name)
    (hholds : Holds files dir name) : s.holder? files name = some dir := by
  refine List.find?_eq_some_iff_append.mpr ⟨hholds, before, after, heq, ?_⟩
  intro d hd
  simpa [Holds] using hbefore d hd

theorem holder?_eq_none {name : Text} (h : s.holder? files name = none) :
    ∀ d ∈ s.dirs, ¬ Holds files d name := by
  simpa [holder?, Holds] using h

variable {s files policy} in
/-- A name stands for one path at most. -/
theorem StandsFor.unique {name : Text} {p q : Path} (hp : s.StandsFor files policy name p)
    (hq : s.StandsFor files policy name q) : p = q := by
  cases hp with
  | absolute habs =>
    cases hq with
    | absolute => rfl
    | found hrel => simp [habs] at hrel
    | generated => rfl
  | @found before dir after hrel heq hbefore hholds =>
    cases hq with
    | absolute habs => simp [hrel] at habs
    | @found before' dir' after' _ heq' hbefore' hholds' =>
      have hdir := s.holder?_of_first files heq hbefore hholds
      have hdir' := s.holder?_of_first files heq' hbefore' hholds'
      rw [Option.some.inj (hdir.symm.trans hdir')]
    | generated _ hnone => exact absurd hholds (hnone dir (by simp [heq]))
  | generated hrel hnone =>
    cases hq with
    | absolute => rfl
    | @found before dir after _ heq _ hholds => exact absurd hholds (hnone dir (by simp [heq]))
    | generated => rfl

theorem resolve_some {name : Text} {d : Dependency}
    (h : (s.resolve headers files name).1 = some d) :
    s.Resolves files name ∧ s.StandsFor files policy name d.path := by
  unfold resolve at h
  split at h
  next habs =>
    simp only [Option.some.injEq] at h
    subst h
    exact ⟨.inl habs, .absolute habs⟩
  next habs =>
    split at h
    next dir hdir =>
      simp only [Option.some.injEq] at h
      subst h
      obtain ⟨before, after, heq, hbefore, hholds⟩ := s.holder?_eq_some files hdir
      have hmem : dir ∈ s.dirs := by simp [heq]
      exact ⟨.inr ⟨dir, hmem, hholds⟩, .found (by simpa using habs) heq hbefore hholds⟩
    next => simp at h

theorem resolve_none {name : Text} (h : (s.resolve headers files name).1 = none) :
    Path.isAbsolute name = false ∧ ∀ d ∈ s.dirs, ¬ Holds files d name := by
  unfold resolve at h
  split at h
  next => simp at h
  next habs =>
    split at h
    next => simp at h
    next hdir => exact ⟨by simpa using habs, s.holder?_eq_none files hdir⟩

theorem not_resolves {name : Text} (h : (s.resolve headers files name).1 = none) :
    ¬ s.Resolves files name := by
  obtain ⟨habs, hdirs⟩ := s.resolve_none headers files h
  rintro (h | ⟨dir, hmem, hholds⟩)
  · simp [habs] at h
  · exact hdirs dir hmem hholds

/-! ## All names -/

theorem collect_ignored {n : Text} (names : List Text) (h : policy.ignores headers n = true) :
    (s.collect headers files policy (n :: names)).1 = (s.collect headers files policy names).1 := by
  simp only [Policy.ignores] at h
  simp [collect, h]

theorem collect_found {n : Text} {d : Dependency} (names : List Text)
    (h : policy.ignores headers n = false) (hd : (s.resolve headers files n).1 = some d) :
    (s.collect headers files policy (n :: names)).1 =
      (s.collect headers files policy names).1.map (d :: ·) := by
  simp only [Policy.ignores] at h
  rcases hr : s.resolve headers files n with ⟨_ | d', notes⟩
  · simp [hr] at hd
  · obtain rfl : d' = d := by simpa [hr] using hd
    simp [collect, h, hr]

theorem collect_missing {n : Text} (names : List Text) (h : policy.ignores headers n = false)
    (hn : (s.resolve headers files n).1 = none) :
    (s.collect headers files policy (n :: names)).1 =
      if policy.tolerateMissing = true then
        (s.collect headers files policy names).1.map (.generated n (headers.contains n) :: ·)
      else .error ⟨n⟩ := by
  simp only [Policy.ignores] at h
  rcases hr : s.resolve headers files n with ⟨_ | d, notes⟩
  · simp only [collect, h, hr, Bool.false_eq_true, ↓reduceIte]
    split <;> rfl
  · simp [hr] at hn

/-- Every name that is not ignored has its path in the result, at its turn. -/
theorem collect_ok {names : List Text} {deps : List Dependency}
    (h : (s.collect headers files policy names).1 = .ok deps) :
    List.Forall₂ (s.StandsFor files policy)
      (names.filter fun n => !policy.ignores headers n) (deps.map (·.path)) := by
  induction names generalizing deps with
  | nil =>
    obtain rfl : [] = deps := by simpa [collect] using h
    exact .nil
  | cons n names ih =>
    have step {f : Dependency} (hstands : s.StandsFor files policy n f.path)
        (hmap : (s.collect headers files policy names).1.map (f :: ·) = .ok deps) :
        List.Forall₂ (s.StandsFor files policy)
          (n :: names.filter fun n => !policy.ignores headers n) (deps.map (·.path)) := by
      rcases hc : (s.collect headers files policy names).1 with _ | rest
      · simp [hc, Except.map] at hmap
      · obtain rfl : f :: rest = deps := by simpa [hc, Except.map] using hmap
        exact .cons hstands (ih hc)
    cases hi : policy.ignores headers n with
    | true =>
      rw [s.collect_ignored headers files policy names hi] at h
      simpa [hi] using ih h
    | false =>
      simp only [hi, List.filter_cons, Bool.not_false, ↓reduceIte]
      cases hr : (s.resolve headers files n).1 with
      | some d =>
        rw [s.collect_found headers files policy names hi hr] at h
        exact step (s.resolve_some headers files policy hr).2 h
      | none =>
        rw [s.collect_missing headers files policy names hi hr] at h
        obtain ⟨habs, hdirs⟩ := s.resolve_none headers files hr
        split at h
        next ht => exact step (.generated habs hdirs ht) h
        next => simp at h

/-- A search fails on the first missing name, unless missing names are tolerated. -/
theorem collect_error_iff (names : List Text) (m : MissingHeader) :
    (s.collect headers files policy names).1 = .error m ↔
      policy.tolerateMissing = false ∧ s.FirstMissing headers files policy names m.name := by
  induction names with
  | nil => simp [collect, firstMissing_nil]
  | cons n names ih =>
    have map_error (f : Dependency) :
        (s.collect headers files policy names).1.map (f :: ·) = .error m ↔
          (s.collect headers files policy names).1 = .error m := by
      cases (s.collect headers files policy names).1 <;> simp [Except.map]
    cases hi : policy.ignores headers n with
    | true =>
      rw [s.collect_ignored headers files policy names hi, ih,
        s.firstMissing_cons_of_passed headers files policy names m.name (.inl hi)]
    | false =>
      cases hr : (s.resolve headers files n).1 with
      | some d =>
        have hres := (s.resolve_some headers files policy hr).1
        rw [s.collect_found headers files policy names hi hr, map_error, ih,
          s.firstMissing_cons_of_passed headers files policy names m.name (.inr hres)]
      | none =>
        have hres := s.not_resolves headers files hr
        rw [s.collect_missing headers files policy names hi hr,
          s.firstMissing_cons_of_missing headers files policy names m.name hi hres]
        cases ht : policy.tolerateMissing with
        | true => simp [map_error, ih, ht]
        | false =>
          obtain ⟨name⟩ := m
          simp

end SearchPath

end KarelBuild
