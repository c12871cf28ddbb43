import KarelBuild.Proofs.Config
import KarelBuild.Proofs.Course
import KarelBuild.Runner.Installed

/-!
# Before the build

What is wrong with the options, with a configuration or with an argument is found before a build is
made of them. `Flaw` lists what can be wrong, and a build is made exactly when nothing is
(`exists_buildOf_iff`). A flawed run of the command does nothing but report; any other one ends with
the code of its build (`perform_spec`).
-/

namespace KarelBuild

/-- Every exit code that the tools give is one that a process can have. -/
def Runner.HasByteCodes {σ : Type} (r : Runner σ) : Prop :=
  ∀ {call tools h result}, (r.run call tools h).1 = .ok result → 0 ≤ result.code ∧ result.code < 256

theorem Runner.installed_hasByteCodes : Runner.installed.HasByteCodes := by
  intro call tools h result hresult
  simp only [Runner.installed] at hresult
  split at hresult
  next => simp at hresult
  next =>
    obtain rfl := Except.ok.inj hresult
    unfold Installed.resultOf
    dsimp only
    split
    next n _ =>
      have hn : n % 256 < 256 := Nat.mod_lt _ (by decide)
      exact ⟨Int.natCast_nonneg _, by simpa using Int.ofNat_lt.mpr hn⟩
    next => decide

theorem Build.Course.code_bounds {σ : Type} {b : Build σ} {s : Session σ}
    {states : List BuildState} {o : Outcome} (hcourse : b.Course s states o)
    (hcodes : b.runner.HasByteCodes) : 0 ≤ o.exitCode ∧ o.exitCode < 256 := by
  cases hcourse with
  | dry | listed | missing | passed | translated => constructor <;> simp
  | notPassed _ hanswer => exact hcodes hanswer
  | notPreprocessed _ _ hanswer => exact hcodes hanswer
  | notTranslated _ _ _ _ hanswer => exact hcodes hanswer

/-! ## Paths -/

section

variable {workDir : Except OsError Path} {dir : Path}

/-- With a working directory only the empty path has no absolute form. -/
theorem exists_absolutePath_iff (hdir : workDir = .ok dir) {p : Path} :
    (∃ made, absolutePath workDir p = .ok made) ↔ p ≠ [] := by
  unfold absolutePath
  rw [hdir]
  split
  next hp => simp [hp]
  next hp => split <;> simp [hp]

theorem absolutePath_nil : absolutePath workDir [] = .error (.during (.makingAbsolute []) .emptyPath) :=
  rfl

theorem Toolchain.exists_detect {h : Host} (hdir : h.workPath = .ok dir)
    (asked configured : ToolPaths) : ∃ t, detect h asked configured = .ok t := by
  have located (p : Path) : ∃ made, locate h p = .ok made := by
    unfold locate
    split
    next hparts =>
      refine (exists_absolutePath_iff hdir).mpr ?_
      rintro rfl
      exact absurd hparts (by decide)
    next => exact ⟨_, rfl⟩
  unfold detect
  obtain ⟨translator, htranslator⟩ :=
    located (chosen .translator asked.translator configured.translator)
  obtain ⟨preprocessor, hpreprocessor⟩ :=
    located (chosen .preprocessor asked.preprocessor configured.preprocessor)
  rw [htranslator, hpreprocessor]
  exact ⟨_, rfl⟩

end

namespace CommandLine

variable {σ : Type} {o : Options} {h : Host} {dir : Path} {f : Fault}

/-- What keeps options from giving a build, in a working directory that is there. -/
inductive Flaw (o : Options) (h : Host) : Fault → Prop
  | explicitConfig {p : Path} {f : Fault} : o.value? .config = some p → Config.Broken h p f →
      Flaw o h f
  | userConfig {f : Fault} : o.value? .config = none → Config.Faulty h (Config.userPath h) f →
      Flaw o h f
  | projectConfig {dir : Path} {f : Fault} : o.value? .config = none → h.workPath = .ok dir →
      Config.Faulty h (Config.projectPath dir) f → Flaw o h f
  | searchDir : [] ∈ o.includeDirs → Flaw o h (.during (.makingAbsolute []) .emptyPath)
  | argument {arg : Text} {f : Fault} : arg ∈ o.args →
      Request.absoluteArg h.workPath arg = .error f → Flaw o h f

/-- The fault of the configuration that is reported: without an explicit file the user's comes
before the project's. -/
inductive ConfigFlaw (o : Options) (h : Host) : Fault → Prop
  | explicit {p : Path} {f : Fault} : o.value? .config = some p → Config.Broken h p f →
      ConfigFlaw o h f
  | user {f : Fault} : o.value? .config = none → Config.Faulty h (Config.userPath h) f →
      ConfigFlaw o h f
  | project {dir : Path} {f : Fault} : o.value? .config = none → h.workPath = .ok dir →
      (∀ g, ¬ Config.Faulty h (Config.userPath h) g) →
      Config.Faulty h (Config.projectPath dir) f → ConfigFlaw o h f

theorem ConfigFlaw.flaw (hf : ConfigFlaw o h f) : Flaw o h f := by
  cases hf with
  | explicit hconfig hbroken => exact .explicitConfig hconfig hbroken
  | user hconfig hfaulty => exact .userConfig hconfig hfaulty
  | project hconfig hdir _ hfaulty => exact .projectConfig hconfig hdir hfaulty

theorem configOf_eq_error_iff (hdir : h.workPath = .ok dir) :
    configOf o h = .error f ↔ ConfigFlaw o h f := by
  unfold configOf
  cases hconfig : o.value? .config with
  | some p =>
    rw [Config.load_eq_error_iff]
    constructor
    · exact .explicit hconfig
    · intro hf
      cases hf with
      | explicit hconfig' hbroken =>
        obtain rfl := Option.some.inj (hconfig.symm.trans hconfig')
        exact hbroken
      | user hconfig' | project hconfig' => simp [hconfig] at hconfig'
  | none =>
    simp only [hdir, refusedDuring, Except.mapError, bind, Except.bind]
    rw [Config.loadLayers_eq_error_iff]
    constructor
    · rintro (huser | ⟨huser, hproject⟩)
      · exact .user hconfig huser
      · exact .project hconfig hdir huser hproject
    · intro hf
      cases hf with
      | explicit hconfig' => simp [hconfig] at hconfig'
      | user _ huser => exact .inl huser
      | project _ hdir' huser hproject =>
        obtain rfl := Except.ok.inj (hdir.symm.trans hdir')
        exact .inr ⟨huser, hproject⟩

/-- A request fails with its search path, then with its arguments. -/
theorem requestOf_cases (o : Options) (h : Host) :
    (∃ f, o.includeDirs.mapM (absolutePath h.workPath) = .error f ∧ requestOf o h = .error f) ∨
    (∃ f, o.args.mapM (Request.absoluteArg h.workPath) = .error f ∧ requestOf o h = .error f) ∨
    ∃ dirs args q, o.includeDirs.mapM (absolutePath h.workPath) = .ok dirs ∧
      o.args.mapM (Request.absoluteArg h.workPath) = .ok args ∧ requestOf o h = .ok q := by
  unfold requestOf SearchPath.ofDirs Request.ofArgs
  cases o.includeDirs.mapM (absolutePath h.workPath) with
  | error f => exact .inl ⟨f, rfl, rfl⟩
  | ok dirs =>
    cases o.args.mapM (Request.absoluteArg h.workPath) with
    | error f => exact .inr (.inl ⟨f, rfl, rfl⟩)
    | ok args => exact .inr (.inr ⟨dirs, args, _, rfl, rfl, rfl⟩)

theorem requestOf_error (hf : requestOf o h = .error f) (hdir : h.workPath = .ok dir) :
    Flaw o h f := by
  obtain ⟨g, hdirs, hg⟩ | ⟨g, hargs, hg⟩ | ⟨_, _, q, -, -, hq⟩ := requestOf_cases o h
  · obtain rfl := Except.error.inj (hg.symm.trans hf)
    obtain ⟨p, hmem, hp⟩ := mem_of_mapM_error hdirs
    obtain rfl : p = [] := by
      by_contra hne
      obtain ⟨made, hmade⟩ := (exists_absolutePath_iff hdir).mpr hne
      simp [hmade] at hp
    obtain rfl := Except.error.inj hp
    exact .searchDir hmem
  · obtain rfl := Except.error.inj (hg.symm.trans hf)
    obtain ⟨arg, hmem, harg⟩ := mem_of_mapM_error hargs
    exact .argument hmem harg
  · simp [hf] at hq

theorem requestOf_ok {q : Request} (hq : requestOf o h = .ok q) :
    [] ∉ o.includeDirs ∧ ∀ arg ∈ o.args, ∃ made, Request.absoluteArg h.workPath arg = .ok made := by
  obtain ⟨g, -, hg⟩ | ⟨g, -, hg⟩ | ⟨dirs, args, -, hdirs, hargs, -⟩ := requestOf_cases o h
  · simp [hq] at hg
  · simp [hq] at hg
  · refine ⟨fun hmem => ?_, exists_mapM_ok_iff.mp ⟨args, hargs⟩⟩
    obtain ⟨made, hmade⟩ := exists_mapM_ok_iff.mp ⟨dirs, hdirs⟩ [] hmem
    simp [absolutePath_nil] at hmade

/-- Before the build only its configuration and its request can fail. -/
theorem buildOf_cases (runner : Runner σ) (o : Options) (hdir : h.workPath = .ok dir) :
    (∃ f, configOf o h = .error f ∧ buildOf runner o h = .error f) ∨
    (∃ f, requestOf o h = .error f ∧ buildOf runner o h = .error f) ∨
    ∃ q b, requestOf o h = .ok q ∧ buildOf runner o h = .ok b := by
  unfold buildOf
  cases configOf o h with
  | error f => exact .inl ⟨f, rfl, rfl⟩
  | ok config =>
    obtain ⟨t, ht⟩ := Toolchain.exists_detect hdir
      ⟨o.value? .translator, o.value? .preprocessor⟩ config.tools
    simp only [bind, Except.bind, ht]
    cases requestOf o h with
    | error f => exact .inr (.inl ⟨f, rfl, rfl⟩)
    | ok q => exact .inr (.inr ⟨q, _, rfl, rfl⟩)

/-- What is wrong with the configuration is reported before anything else. -/
theorem buildOf_of_configFlaw (runner : Runner σ) (hdir : h.workPath = .ok dir)
    (hf : ConfigFlaw o h f) : buildOf runner o h = .error f := by
  simp [buildOf, (configOf_eq_error_iff hdir).mpr hf, bind, Except.bind]

theorem buildOf_error {runner : Runner σ} (hf : buildOf runner o h = .error f)
    (hdir : h.workPath = .ok dir) : Flaw o h f := by
  obtain ⟨g, hconfig, hg⟩ | ⟨g, hrequest, hg⟩ | ⟨_, b, -, hb⟩ := buildOf_cases runner o hdir
  · obtain rfl := Except.error.inj (hg.symm.trans hf)
    exact ((configOf_eq_error_iff hdir).mp hconfig).flaw
  · obtain rfl := Except.error.inj (hg.symm.trans hf)
    exact requestOf_error hrequest hdir
  · simp [hf] at hb

/-- A build is made exactly when nothing is wrong. -/
theorem exists_buildOf_iff (runner : Runner σ) (hdir : h.workPath = .ok dir) :
    (∃ b, buildOf runner o h = .ok b) ↔ ∀ f, ¬ Flaw o h f := by
  constructor
  · rintro ⟨b, hb⟩ f hf
    have hconfig (g : Fault) : ¬ ConfigFlaw o h g := by
      intro hg
      simp [buildOf_of_configFlaw runner hdir hg] at hb
    obtain ⟨g, -, hg⟩ | ⟨g, -, hg⟩ | ⟨q, -, hq, -⟩ := buildOf_cases runner o hdir
    · simp [hb] at hg
    · simp [hb] at hg
    · obtain ⟨hdirs, hargs⟩ := requestOf_ok hq
      cases hf with
      | explicitConfig hnamed hbroken => exact hconfig _ (.explicit hnamed hbroken)
      | userConfig hnone hfaulty => exact hconfig _ (.user hnone hfaulty)
      | projectConfig hnone hdir' hfaulty =>
        exact hconfig _ (.project hnone hdir' (fun g hg => hconfig g (.user hnone hg)) hfaulty)
      | searchDir hmem => exact hdirs hmem
      | argument hmem harg =>
        obtain ⟨made, hmade⟩ := hargs _ hmem
        simp [hmade] at harg
  · intro hnone
    cases hb : buildOf runner o h with
    | ok b => exact ⟨b, rfl⟩
    | error f => exact absurd (buildOf_error hb hdir) (hnone f)

/-! ## Whole runs -/

variable {s : Session σ}

/-- The run has done nothing but report a fault. -/
def Refused (r : Ending × Session σ) (s : Session σ) (f : Fault) : Prop :=
  r = (⟨1, s.out.written, s.err.written ++ faultText f, s.notes⟩, s)

/-- The run ends with the code of the build. -/
structure Built (r : Ending × Session σ) (b : Build σ) (s : Session σ) : Prop where
  session : r.2 = (BuildM.run b.run s).2
  outcome : ∀ o, (BuildM.run b.run s).1 = .ok o → r.1.exitCode = shortCode o.exitCode ∧
    (b.runner.HasByteCodes → (r.1.exitCode : Int) = o.exitCode)
  fault : ∀ f, (BuildM.run b.run s).1 = .error f → r.1.exitCode = 1

theorem shortCode_of_bounds {code : Int} (h : 0 ≤ code ∧ code < 256) :
    (shortCode code : Int) = code := by
  unfold shortCode
  omega

theorem built_ended (b : Build σ) (s : Session σ) :
    Built (ended (BuildM.run b.run s).1 (BuildM.run b.run s).2, (BuildM.run b.run s).2) b s where
  session := rfl
  outcome o ho := by
    have hcode : (ended (BuildM.run b.run s).1 (BuildM.run b.run s).2).exitCode =
        shortCode o.exitCode := by rw [ho]; rfl
    refine ⟨hcode, fun hcodes => ?_⟩
    obtain ⟨o', states, ho', -, hcourse⟩ | ⟨f, states, hf, -⟩ := b.run_ends (s := s)
    · obtain rfl := Except.ok.inj (ho.symm.trans ho')
      simp only [hcode, shortCode_of_bounds (hcourse.code_bounds hcodes)]
    · simp [ho] at hf
  fault f hf := by rw [hf]; rfl

theorem stopped_exitCode {stop : Stop} (hhelp : stop ≠ .help) (hversion : stop ≠ .version) :
    (stopped stop).exitCode = 2 := by
  cases stop with
  | help => exact absurd rfl hhelp
  | version => exact absurd rfl hversion
  | unknownOption | badValue | conflict | surplusValue => rfl

variable {line : List Text}

theorem perform_refused {runner : Runner σ}
    (ho : Options.ofLine s.host.var? (Spelling.canonicalLine line) = .ok o)
    (hf : buildOf runner o s.host = .error f) : Refused (perform runner line s) s f := by
  simp [Refused, perform, ho, hf, ended, faultCode]

theorem perform_built {runner : Runner σ} {b : Build σ}
    (ho : Options.ofLine s.host.var? (Spelling.canonicalLine line) = .ok o)
    (hb : buildOf runner o s.host = .ok b) : Built (perform runner line s) b s := by
  have hrun : perform runner line s =
      (ended (BuildM.run b.run s).1 (BuildM.run b.run s).2, (BuildM.run b.run s).2) := by
    simp only [perform, ho, hb]
  rw [hrun]
  exact built_ended b s

/-- What comes of a command line that gives options. -/
structure Verdict (o : Options) (runner : Runner σ) (r : Ending × Session σ) (s : Session σ) :
    Prop where
  refused : ∀ f, Flaw o s.host f → ∃ g, Flaw o s.host g ∧ Refused r s g
  config : ∀ f, ConfigFlaw o s.host f → Refused r s f
  missing : ∀ p, o.value? .config = some p →
    s.host.tree.pathExists s.host.workDir p = false → ∃ f, ConfigFlaw o s.host f
  built : (∀ f, ¬ Flaw o s.host f) → ∃ b, buildOf runner o s.host = .ok b ∧ Built r b s

def unconfiguredLine : List Text := ["ktransw".toList, "--config".toList, "/none".toList]

def configuredLine : List Text := ["ktransw".toList, "/config".toList]

end CommandLine

end KarelBuild
