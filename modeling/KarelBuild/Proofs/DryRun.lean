import KarelBuild.Proofs.Dependencies

/-!
# Dry runs

A run is inert when it succeeds, calls no tool and leaves the host alone. A dry run of a compile is.
The other two kinds of build do not ask whether they are dry: without a source the translator is
called, and a dependency rule is written. `dryRun_inert_iff` says which dry runs are inert.
-/

namespace KarelBuild

namespace Build

open BuildM

variable {σ : Type} (b : Build σ)

/-- A run that ends with 0, calls no tool, makes no workspace and changes no file. -/
def Inert (s : Session (σ × List Call)) : Prop :=
  ∃ o s', BuildM.run b.recording.run s = (.ok o, s') ∧ o.exitCode = 0 ∧ s'.tools = s.tools ∧
    s'.host = s.host

/-! ## Compiling -/

theorem inert_compile {source : Path} (hsource : b.request.source? = some source)
    (hmode : b.request.mode = .compile) (hdry : b.request.dryRun = true)
    (s : Session (σ × List Call)) : b.Inert s := by
  let t : Session (σ × List Call) := { s with notes := s.notes ++ [.buildNeeded] ++ [.dryRun] }
  have hrun : BuildM.run b.recording.run s = (.ok ⟨.done, 0⟩, t.enter .done) := by
    simp [Build.run, recording, hsource, hmode, hdry, run_bind, t]
  exact ⟨_, _, hrun, rfl, rfl, rfl⟩

/-! ## No source -/

/-- What goes before the translator's own output. -/
def greet : BuildM σ Unit :=
  if b.request.verbosity ≠ .quiet then do
    writeOut banner
    flushOut
  else pure ()

theorem greet_keeps : Keeps (fun s : Session σ => (s.tools, s.host)) b.greet := by
  unfold greet
  split
  next => exact .bind (fun _ => rfl) fun _ _ => rfl
  next => exact keeps_pure ()

def passThroughCall : Call :=
  ⟨.passThrough, .passThrough b.toolchain.translator b.request.translatorArgs⟩

theorem run_passThrough (s : Session σ) : BuildM.run b.passThrough s =
    match BuildM.run b.greet (s.enter .noBuildNeeded) with
    | (.error f, t) => (.error f, t)
    | (.ok _, t) =>
      match BuildM.run (callTool b.runner .translator b.passThroughCall) t with
      | (.error f, u) => (.error f, u)
      | (.ok result, u) => (.ok ⟨translatorState result.code, result.code⟩,
        { u with out := u.out.relay result.stdout, err := u.err.relay result.stderr }.enter
          (translatorState result.code)) := by
  have heq : b.passThrough = (do
      transition .noBuildNeeded
      b.greet
      let result ← callTool b.runner .translator b.passThroughCall
      modify fun s => { s with out := s.out.relay result.stdout, err := s.err.relay result.stderr }
      finish (translatorState result.code) result.code) := by
    unfold passThrough greet passThroughCall
    split
    · simp
    · simp
  simp only [heq, run_bind, run_transition]
  rcases BuildM.run b.greet (s.enter .noBuildNeeded) with ⟨f | _, t⟩
  · rfl
  · dsimp only
    rcases BuildM.run (callTool b.runner .translator b.passThroughCall) t with ⟨f | result, u⟩ <;> rfl

/-- The translator is called at most once, before any answer is given, and nothing else changes the
host. -/
theorem passThrough_after (s : Session σ) : ∃ calls,
    ((BuildM.run b.passThrough s).2.tools, (BuildM.run b.passThrough s).2.host) =
        b.runner.after calls (s.tools, s.host) ∧
      (calls = [b.passThroughCall] ∨ calls = [] ∧ ∃ f, (BuildM.run b.passThrough s).1 = .error f) := by
  rw [run_passThrough]
  have hgreet := b.greet_keeps (s.enter .noBuildNeeded)
  rcases hg : BuildM.run b.greet (s.enter .noBuildNeeded) with ⟨f | _, t⟩ <;> rw [hg] at hgreet
  · exact ⟨[], hgreet, .inr ⟨rfl, f, rfl⟩⟩
  · obtain ⟨-, hcalled⟩ := callTool_after b.runner .translator b.passThroughCall t
    have hstart : (t.tools, t.host) = (s.tools, s.host) := hgreet
    refine ⟨[b.passThroughCall], ?_, .inl rfl⟩
    rw [← hstart, ← hcalled]
    dsimp only
    rcases BuildM.run (callTool b.runner .translator b.passThroughCall) t with
      ⟨f | result, u⟩ <;> rfl

/-- Arguments that are passed through and get an answer have reached the translator. -/
theorem passThrough_recorded {s s' : Session (σ × List Call)} {o : Outcome}
    (h : BuildM.run b.recording.passThrough s = (.ok o, s')) :
    s'.tools.2 = s.tools.2 ++ [b.passThroughCall] := by
  obtain ⟨calls, hafter, rfl | ⟨-, f, hfault⟩⟩ := b.recording.passThrough_after s
  · have hrecorded := hafter.trans (b.runner.after_recording _ s.tools s.host)
    rw [h] at hrecorded
    exact congrArg (fun p => p.1.2) hrecorded
  · simp [h] at hfault

theorem not_inert_passThrough (hsource : b.request.source? = none) (s : Session (σ × List Call)) :
    ¬ b.Inert s := by
  rintro ⟨o, s', hrun, -, htools, -⟩
  have hpass : BuildM.run b.recording.passThrough
      { s with notes := s.notes ++ [.noBuildNeeded] } = (.ok o, s') := by
    simpa [Build.run, recording, hsource, run_bind] using hrun
  have hcalled := b.passThrough_recorded hpass
  rw [htools] at hcalled
  simp at hcalled

/-! ## Dependency rules -/

/-- The rule of a source that can be read and of which no header is missing. -/
structure RuleOf (source : Path) (h : Host) (r : Rule) : Prop where
  found : ∃ text, h.readText source = .ok text ∧
    (∀ name, ¬ b.request.StopsAt b.headers h.files (includes text) name) ∧
    b.request.RuleFor b.headers h.files (includes text) r
  target : r.target ≠ []

/-- Such a rule is written, and that is all. -/
theorem run_writeDependencies_rule {source : Path} {s : Session σ} {r : Rule}
    (h : b.RuleOf source s.host r) : ∃ names,
    BuildM.run (b.writeDependencies source) s =
      match BuildM.run (b.writeRule r) (b.scanned source names s) with
      | (.ok _, t) => (.ok ⟨.done, 0⟩, t.enter .done)
      | (.error f, t) => (.error f, t) := by
  obtain ⟨⟨text, hread, hpasses, hrule⟩, htarget⟩ := h
  obtain ⟨deps, hfound⟩ := (b.found_ok_iff s.host.files (includes text)).mpr hpasses
  refine ⟨includes text, ?_⟩
  cases hr : Rule.ofDependencies? (b.request.target?.getD []) deps with
  | none =>
    rw [hrule.target, (Rule.ofPaths?_eq_none_iff _ _).mp hr] at htarget
    exact absurd rfl htarget
  | some r' =>
    obtain rfl := hrule.unique (b.ruleFor_found hfound hr)
    rw [b.run_writeDependencies (includesOf_ok hread), hfound]
    exact b.run_conclude_found hr (b.scanned source (includes text) s)

/-- Only with such a rule does a dependency run end with 0. -/
theorem ruleOf_writeDependencies {source : Path} {s s' : Session σ} {o : Outcome}
    (hrun : BuildM.run (b.writeDependencies source) s = (.ok o, s')) (hcode : o.exitCode = 0) :
    ∃ r, b.RuleOf source s.host r := by
  obtain ⟨text, hread⟩ := b.readText_of_writeDependencies hrun
  rw [b.run_writeDependencies (includesOf_ok hread)] at hrun
  obtain ⟨m, -, rfl⟩ | ⟨-, hfound, r, hr, hne, -⟩ := b.conclude_ok hrun
  · simp [MissingHeader.exitCode] at hcode
  · have hpasses := (b.found_ok_iff s.host.files (includes text)).mp hfound
    exact ⟨r, ⟨text, hread, hpasses, hr⟩, hne⟩

/-- To write the rule succeeds and leaves every file what it is. -/
def InPlace (r : Rule) (s : Session σ) : Prop :=
  (BuildM.run (b.writeRule r) s).1 = .ok () ∧ (BuildM.run (b.writeRule r) s).2.host = s.host

/-- What was noted before has no part in how a rule is written. -/
theorem inPlace_scanned (source : Path) (names : List Text) (r : Rule) (s : Session σ) :
    b.InPlace r (b.scanned source names s) ↔ b.InPlace r s := by
  simp only [InPlace, run_writeRule]
  cases b.request.dependencyFile with
  | none => exact .rfl
  | some p =>
    simp only [scanned_host]
    cases s.host.outletOf p <;> exact .rfl

theorem inert_dependencyOnly_iff {source : Path} (hsource : b.request.source? = some source)
    (hmode : b.request.mode = .dependencyOnly) (s : Session (σ × List Call)) :
    b.Inert s ↔ ∃ r, b.RuleOf source s.host r ∧ b.recording.InPlace r s := by
  unfold Inert
  rw [b.recording.run_dependencyOnly hsource hmode]
  constructor
  · rintro ⟨o, s', hrun, hcode, -, hhost⟩
    obtain ⟨r, hr⟩ := b.recording.ruleOf_writeDependencies hrun hcode
    obtain ⟨names, hwrite⟩ := b.recording.run_writeDependencies_rule hr
    rw [hwrite] at hrun
    refine ⟨r, ⟨hr.found, hr.target⟩, (b.recording.inPlace_scanned source names r s).mp ?_⟩
    split at hrun
    next u t ht =>
      obtain rfl : t.enter .done = s' := congrArg Prod.snd hrun
      exact ⟨by rw [ht], by rw [ht]; exact hhost⟩
    next => simp at hrun
  · rintro ⟨r, hr, hplace⟩
    have hr' : b.recording.RuleOf source s.host r := ⟨hr.found, hr.target⟩
    obtain ⟨names, hwrite⟩ := b.recording.run_writeDependencies_rule hr'
    obtain ⟨hanswer, hhost⟩ := (b.recording.inPlace_scanned source names r s).mpr hplace
    have hkeeps := b.recording.writeDependencies_keeps source s
    rcases ht : BuildM.run (b.recording.writeRule r) (b.recording.scanned source names s) with
      ⟨_ | u, t⟩
    · simp [ht] at hanswer
    · rw [ht] at hwrite hhost
      rw [hwrite] at hkeeps
      exact ⟨_, _, hwrite, rfl, congrArg Prod.fst hkeeps, hhost⟩

/-! ## All dry runs -/

def dryBuild (source? : Option Path) : Build Unit where
  request := {
    translatorArgs := [source?.getD "/ver".toList]
    source?
    searchPath := ⟨[]⟩
    dryRun := true }
  toolchain := ⟨"ktrans".toList, "gpp".toList⟩
  headers := .ofNames [] []
  runner := .idle

/-- A dry run without a source does call the translator. -/
theorem dry_ver_calls : ¬ ∀ (b : Build Unit) (s : Session (Unit × List Call)),
    b.request.dryRun = true → b.Inert s := by
  intro h
  obtain ⟨o, s', hrun, -, htools, -⟩ := h (dryBuild none) (sampleSession ((), [])) rfl
  have hcalls : (BuildM.run (dryBuild none).recording.run (sampleSession ((), []))).2.tools.2 =
      [⟨.passThrough, "ktrans".toList, ["/ver".toList]⟩] := by decide +kernel
  rw [hrun] at hcalls
  simp [htools, sampleSession] at hcalls

/-- **Which dry runs are inert.** Those of a compile, and those of a dependency request whose rule
can be written and is in its place already, or goes where there is no file. No other dry run is. -/
theorem dryRun_inert_iff (hdry : b.request.dryRun = true) (s : Session (σ × List Call)) :
    b.Inert s ↔ ∃ source, b.request.source? = some source ∧
      (b.request.mode = .compile ∨
        b.request.mode = .dependencyOnly ∧
          ∃ r, b.RuleOf source s.host r ∧ b.recording.InPlace r s) := by
  cases hsource : b.request.source? with
  | none => simp [b.not_inert_passThrough hsource s]
  | some source =>
    cases hmode : b.request.mode with
    | compile => simp [b.inert_compile hsource hmode hdry s]
    | dependencyOnly => simp [b.inert_dependencyOnly_iff hsource hmode s]

theorem dry_sample : (dryBuild (some sampleSource)).Inert (sampleSession ((), [])) ∧
    ¬ (dryBuild none).Inert (sampleSession ((), [])) := by
  constructor
  · exact ((dryBuild (some sampleSource)).dryRun_inert_iff rfl _).mpr ⟨sampleSource, rfl, .inl rfl⟩
  · intro h
    obtain ⟨source, hsource, -⟩ := ((dryBuild none).dryRun_inert_iff rfl _).mp h
    simp [dryBuild] at hsource

end Build

end KarelBuild
