import KarelBuild.Proofs.Answers
import KarelBuild.Proofs.Host
import KarelBuild.Proofs.SearchPath

/-!
# One search under four policies

A search looks up the names that are not ignored, one after another (`collect_eq_mapM`). So the
four policies find the same things: tolerance only decides what becomes of a name that nothing
holds, and to ignore system headers is to leave them out of the result (`policies_agree`).
-/

namespace KarelBuild

namespace SearchPath

variable (s : SearchPath) (headers : SystemHeaders) (files : Files)

/-! ## One name -/

/-- The answer to a name that is not ignored. -/
def lookUp (tolerateMissing : Bool) (name : Text) : Except MissingHeader Dependency :=
  match (s.resolve headers files name).1 with
  | some d => .ok d
  | none =>
    if tolerateMissing then .ok (.generated name (headers.contains name)) else .error ⟨name⟩

/-- What a found dependency says about its name. -/
theorem resolve_found {name : Text} {d : Dependency}
    (h : (s.resolve headers files name).1 = some d) :
    d.reference = name ∧ d.isSystem = headers.contains name ∧ d.assumedGenerated = false := by
  unfold resolve at h
  split at h
  next =>
    obtain rfl := Option.some.inj h
    exact ⟨rfl, rfl, rfl⟩
  next =>
    split at h
    next =>
      obtain rfl := Option.some.inj h
      exact ⟨rfl, rfl, rfl⟩
    next => simp at h

theorem lookUp_reference {tolerateMissing : Bool} {name : Text} {d : Dependency}
    (h : s.lookUp headers files tolerateMissing name = .ok d) :
    d.reference = name ∧ d.isSystem = headers.contains name := by
  unfold lookUp at h
  split at h
  next d' hd =>
    obtain rfl := Except.ok.inj h
    obtain ⟨hname, hsystem, -⟩ := s.resolve_found headers files hd
    exact ⟨hname, hsystem⟩
  next =>
    split at h
    next =>
      obtain rfl := Except.ok.inj h
      exact ⟨rfl, rfl⟩
    next => simp at h

/-- With tolerance there is an answer to every name, and without it there is the same one, unless
the name is only assumed to be generated. -/
theorem lookUp_tolerant (name : Text) : ∃ d, s.lookUp headers files true name = .ok d ∧
    s.lookUp headers files false name =
      if d.assumedGenerated = true then .error ⟨name⟩ else .ok d := by
  cases hr : (s.resolve headers files name).1 with
  | none => exact ⟨.generated name (headers.contains name), by simp [lookUp, hr],
      by simp [lookUp, hr, Dependency.generated]⟩
  | some d =>
    obtain ⟨-, -, hfound⟩ := s.resolve_found headers files hr
    exact ⟨d, by simp [lookUp, hr], by simp [lookUp, hr, hfound]⟩

/-! ## All names -/

theorem collect_eq_mapM (policy : Policy) (names : List Text) :
    (s.collect headers files policy names).1 =
      (names.filter fun n => !policy.ignores headers n).mapM
        (s.lookUp headers files policy.tolerateMissing) := by
  induction names with
  | nil => rfl
  | cons n names ih =>
    cases hi : policy.ignores headers n with
    | true =>
      rw [s.collect_ignored headers files policy names hi, ih]
      simp [hi]
    | false =>
      rw [List.filter_cons_of_pos (by simp [hi])]
      cases hr : (s.resolve headers files n).1 with
      | some d =>
        have hd : s.lookUp headers files policy.tolerateMissing n = .ok d := by simp [lookUp, hr]
        rw [s.collect_found headers files policy names hi hr, ih, mapM_cons_ok hd]
      | none =>
        rw [s.collect_missing headers files policy names hi hr, ih]
        cases ht : policy.tolerateMissing with
        | true =>
          have hd : s.lookUp headers files true n =
              .ok (.generated n (headers.contains n)) := by simp [lookUp, hr]
          rw [mapM_cons_ok hd]
          rfl
        | false =>
          have hd : s.lookUp headers files false n = .error ⟨n⟩ := by simp [lookUp, hr]
          rw [mapM_cons_error hd]
          rfl

/-- Without tolerance a search gives what it gives with tolerance, or names the first header that
was assumed to be generated. -/
theorem mapM_lookUp_tolerant (names : List Text) : ∃ deps,
    names.mapM (s.lookUp headers files true) = .ok deps ∧
      names.mapM (s.lookUp headers files false) =
        match deps.find? (·.assumedGenerated) with
        | none => .ok deps
        | some d => .error ⟨d.reference⟩ := by
  induction names with
  | nil => exact ⟨[], rfl, rfl⟩
  | cons n names ih =>
    obtain ⟨deps, htolerant, hstrict⟩ := ih
    obtain ⟨d, hd, hd'⟩ := s.lookUp_tolerant headers files n
    refine ⟨d :: deps, by rw [mapM_cons_ok hd, htolerant]; rfl, ?_⟩
    cases hg : d.assumedGenerated with
    | true =>
      rw [hg, if_pos rfl] at hd'
      rw [mapM_cons_error hd', List.find?_cons_of_pos hg]
      simp only [(s.lookUp_reference headers files hd).1]
    | false =>
      rw [hg, if_neg Bool.false_ne_true] at hd'
      rw [mapM_cons_ok hd', hstrict, List.find?_cons_of_neg (by simp [hg])]
      cases deps.find? (·.assumedGenerated) <;> rfl

/-! ## Absolute search paths -/

/-- A search path made on a host has absolute directories. -/
theorem ofDirs_absolute {h : Host} {dirs : List Path} {s : SearchPath}
    (hs : ofDirs h.workPath dirs = .ok s) {dir : Path} (hdir : dir ∈ s.dirs) :
    Path.isAbsolute dir = true := by
  unfold ofDirs at hs
  cases hm : dirs.mapM (absolutePath h.workPath) with
  | error e => simp [hm, Except.map] at hs
  | ok made =>
    rw [hm] at hs
    obtain rfl := Except.ok.inj hs
    obtain ⟨p, -, hp⟩ := mem_of_mapM hm hdir
    exact h.absolutePath_isAbsolute hp

/-- What is found in absolute directories has an absolute path. -/
theorem StandsFor.isAbsolute {s : SearchPath} {files : Files} {policy : Policy} {name : Text}
    {p : Path} (h : s.StandsFor files policy name p) (hpolicy : policy.tolerateMissing = false)
    (hs : ∀ dir ∈ s.dirs, Path.isAbsolute dir = true) : Path.isAbsolute p = true := by
  cases h with
  | absolute habs => exact habs
  | found _ hdirs => exact Path.isAbsolute_join (hs _ (by simp [hdirs])) name
  | generated _ _ ht => simp [hpolicy] at ht

/-- In a search path of absolute directories what is found has an absolute path, and what is
assumed to be generated a relative one. -/
theorem lookUp_isAbsolute {s : SearchPath}
    (hs : ∀ dir ∈ s.dirs, Path.isAbsolute dir = true) {tolerateMissing : Bool} {name : Text}
    {d : Dependency} (hd : s.lookUp headers files tolerateMissing name = .ok d) :
    Path.isAbsolute d.path = !d.assumedGenerated := by
  unfold lookUp at hd
  split at hd
  next d' hr =>
    obtain rfl := Except.ok.inj hd
    obtain ⟨-, -, hfound⟩ := s.resolve_found headers files hr
    obtain ⟨-, hstands⟩ := s.resolve_some headers files ⟨false, false⟩ hr
    rw [hfound, hstands.isAbsolute rfl hs]
    rfl
  next hr =>
    split at hd
    next =>
      obtain rfl := Except.ok.inj hd
      simpa [Dependency.generated] using (s.resolve_none headers files hr).1
    next => simp at hd

/-! ## Four policies -/

/-- **The policies agree.** With tolerance a search always succeeds; without it, it succeeds with the
same result if nothing in that is assumed to be generated, and else names the first that is. To
ignore system headers is to leave them out of the result. A result answers the names that are not
ignored, in their order, and in a search path made on a host its relative paths are those that are
assumed to be generated. -/
theorem policies_agree (names : List Text) :
    (∀ ignoreSystem, ∃ deps,
      (s.collect headers files ⟨ignoreSystem, true⟩ names).1 = .ok deps ∧
        (s.collect headers files ⟨ignoreSystem, false⟩ names).1 =
          match deps.find? (·.assumedGenerated) with
          | none => .ok deps
          | some d => .error ⟨d.reference⟩) ∧
    (∀ tolerateMissing deps,
      (s.collect headers files ⟨false, tolerateMissing⟩ names).1 = .ok deps →
        (s.collect headers files ⟨true, tolerateMissing⟩ names).1 =
          .ok (deps.filter fun d => !d.isSystem)) ∧
    (∀ policy deps, (s.collect headers files policy names).1 = .ok deps →
      deps.map (·.reference) =
        names.filter fun n => !(policy.ignoreSystem && headers.contains n)) ∧
    ∀ (h : Host) dirs policy deps, ofDirs h.workPath dirs = .ok s →
      (s.collect headers files policy names).1 = .ok deps →
      ∀ d ∈ deps, Path.isAbsolute d.path = false ↔ d.assumedGenerated = true := by
  refine ⟨?tolerance, ?ignoring, ?references, ?paths⟩
  case tolerance =>
    intro ignoreSystem
    simp only [collect_eq_mapM]
    exact s.mapM_lookUp_tolerant headers files _
  case ignoring =>
    intro tolerateMissing deps h
    rw [collect_eq_mapM] at h ⊢
    have hall : (names.filter fun n => !(Policy.mk false tolerateMissing).ignores headers n) =
        names := by simp [Policy.ignores]
    rw [hall] at h
    refine mapM_filter ?_ h
    intro n d hd
    rw [(s.lookUp_reference headers files hd).2]
    rfl
  case references =>
    intro policy deps h
    rw [collect_eq_mapM] at h
    exact map_of_mapM (fun hd => (s.lookUp_reference headers files hd).1) h
  case paths =>
    intro h dirs policy deps hdirs hdeps d hd
    rw [collect_eq_mapM] at hdeps
    obtain ⟨n, -, hn⟩ := mem_of_mapM hdeps hd
    rw [lookUp_isAbsolute headers files (fun _ => ofDirs_absolute hdirs) hn]
    simp

end SearchPath

end KarelBuild
