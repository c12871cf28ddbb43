import KarelBuild.Proofs.Request
import KarelBuild.Proofs.Session
import KarelBuild.Proofs.Workspace

/-!
# The calls of a compile

A compile calls the preprocessor, and the translator when the preprocessor succeeded. Between them
goes one intermediate file: the first tool is told to write it, and the second is given it wherever
the user had named the source (`Handoff`).
-/

namespace KarelBuild

/-! ## Arguments -/

namespace Command

theorem substitute_length (source replacement : Text) (args : List Text) :
    (substitute source replacement args).length = args.length := List.length_map _

theorem substitute_getElem? (source replacement : Text) (args : List Text) (i : Nat) :
    (substitute source replacement args)[i]? =
      if args[i]? = some source then some replacement else args[i]? := by
  simp only [substitute, List.getElem?_map]
  cases args[i]? with
  | none => simp
  | some a =>
    by_cases ha : a = source <;> simp [ha]

theorem source_not_mem_substitute {source replacement : Text} (h : replacement ≠ source)
    (args : List Text) : source ∉ substitute source replacement args := by
  intro hmem
  obtain ⟨a, -, ha⟩ := List.mem_map.mp hmem
  split at ha
  next => exact h ha
  next hne => exact hne ha

/-- What is first among the arguments has its replacement first afterwards. -/
theorem find?_substitute {p : Text → Bool} {source replacement : Text} {args : List Text}
    (hsource : args.find? p = some source) (hp : p replacement = true) :
    (substitute source replacement args).find? p = some replacement := by
  obtain ⟨-, before, after, rfl, hbefore⟩ := List.find?_eq_some_iff_append.mp hsource
  refine List.find?_eq_some_iff_append.mpr
    ⟨hp, substitute source replacement before, substitute source replacement after, ?_, ?_⟩
  · simp [substitute]
  · intro a ha
    obtain ⟨a', ha', rfl⟩ := List.mem_map.mp ha
    have hother := hbefore a' ha'
    have hne : a' ≠ source := by
      rintro rfl
      simp [List.find?_some hsource] at hother
    simpa [hne] using hother

end Command

namespace Build

open BuildM

variable {σ : Type} (b : Build σ)

/-- How the source gets from the user to the translator. The intermediate file is one name below the
workspace; the second call has it in place of the source, and has no other difference. -/
structure Handoff (source : Path) (w : Workspace) (intermediate : Path) (first second : Call) :
    Prop where
  inside : ∃ name, '/' ∉ name ∧ intermediate = w.path ++ '/' :: name
  preprocesses : first = ⟨.capture, b.toolchain.preprocessor, Command.syntaxArgs ++
    b.request.searchPath.dirs.map ("-I".toList ++ ·) ++ ["-o".toList, intermediate, source]⟩
  manner : second.manner = .captureMerged
  translates : second.command.program = b.toolchain.translator
  length : second.command.args.length = b.request.translatorArgs.length
  differs : ∀ i : Nat, second.command.args[i]? ≠ b.request.translatorArgs[i]? ↔
    b.request.translatorArgs[i]? = some source
  replaced : ∀ i : Nat, b.request.translatorArgs[i]? = some source →
    second.command.args[i]? = some intermediate
  reads : second.command.args.find? Request.isSource = some intermediate
  hides : source ∉ second.command.args

def preprocessCall (source intermediate : Path) : Call :=
  ⟨.capture, .preprocess b.toolchain.preprocessor source intermediate b.request.searchPath.dirs⟩

def translateCall (source intermediate : Path) : Call :=
  ⟨.captureMerged, .translate b.toolchain.translator b.request.translatorArgs source intermediate⟩

/-- In a workspace that the source is not in, the two calls hand the source on. -/
theorem handoff {source : Path} {w : Workspace} (hw : w.Extensible)
    (hfind : b.request.translatorArgs.find? Request.isSource = some source)
    (houtside : ¬ w.Contains source) :
    b.Handoff source w (w.filePath source) (b.preprocessCall source (w.filePath source))
      (b.translateCall source (w.filePath source)) := by
  have hsuffix : Request.isSource source = true := List.find?_some hfind
  obtain ⟨hname, hbase⟩ := Request.fileName?_of_isSource hsuffix
  have hslash := Path.slash_not_mem_baseName source
  have hpath : w.filePath source = w.path ++ '/' :: Path.baseName source :=
    hw.filePath_eq hname hslash
  -- Both the suffix and the one name below the workspace come from the source's own last name.
  have hinter : Request.isSource (w.filePath source) = true := by
    rw [hpath, List.append_cons]
    exact Request.isSource_append hbase (w.path ++ ['/'])
  have hne : w.filePath source ≠ source := by
    intro h
    rw [hpath] at h
    exact houtside (h ▸ w.contains_below _)
  constructor
  case inside => exact ⟨_, hslash, hpath⟩
  case preprocesses => rfl
  case manner => rfl
  case translates => rfl
  case length => exact Command.substitute_length ..
  case differs =>
    intro i
    change (Command.substitute source _ b.request.translatorArgs)[i]? ≠ _ ↔ _
    rw [Command.substitute_getElem?]
    by_cases hi : b.request.translatorArgs[i]? = some source
    · simp [hi, hne]
    · simp [hi]
  case replaced =>
    intro i hi
    change (Command.substitute source _ b.request.translatorArgs)[i]? = _
    rw [Command.substitute_getElem?, if_pos hi]
  case reads => exact Command.find?_substitute hfind hinter
  case hides => exact Command.source_not_mem_substitute hne _

/-! ## Calls -/

theorem preprocess_after (source intermediate : Path) (s : Session σ) :
    let call := b.preprocessCall source intermediate
    let r := BuildM.run (b.preprocess source intermediate) s
    r.1 = (b.runner.run call s.tools s.host).1 ∧
      (r.2.tools, r.2.host) = b.runner.after [call] (s.tools, s.host) := by
  unfold preprocess
  rw [run_bind, run_transition]
  exact callTool_after b.runner .preprocessor _ (s.enter .preprocessing)

theorem translate_after (source intermediate : Path) (s : Session σ) :
    let call := b.translateCall source intermediate
    let r := BuildM.run (b.translate source intermediate) s
    r.1 = (b.runner.run call s.tools s.host).1 ∧
      (r.2.tools, r.2.host) = b.runner.after [call] (s.tools, s.host) := by
  unfold translate
  rw [run_bind, run_transition]
  exact callTool_after b.runner .translator _ (s.enter .translating)

/-! ## The steps of a compile -/

/-- What is left to do when the preprocessor failed. -/
def giveUp (preprocessed : ToolResult) : BuildM σ Outcome := do
  writeErr (preprocessed.stderr ++ "\nTranslation terminated\n".toList)
  flushErr
  finish (.failed (.preprocessor preprocessed.code)) preprocessed.code

/-- What is left to do when the translator has ended. -/
def deliver (source : Path) (w : Workspace) (translated : ToolResult) : BuildM σ Outcome := do
  let report := remap w.path ((Path.parent? source).getD []) translated.stdout
  if !translated.success || b.request.verbosity = .verbose then
    writeReport report
  finish (translatorState translated.code) translated.code

/-- The session in which the first tool is called. -/
def stored (source : Path) (w : Workspace) (s : Session σ) : Session σ :=
  { s with notes := s.notes ++ [.storing (w.filePath source)] }

@[simp] theorem stored_host (source : Path) (w : Workspace) (s : Session σ) :
    (stored source w s).host = s.host := rfl

@[simp] theorem stored_tools (source : Path) (w : Workspace) (s : Session σ) :
    (stored source w s).tools = s.tools := rfl

/-- The ways that a compile can go: a tool is not started, the preprocessor fails, or the translator
has ended, with whatever code. -/
inductive Goes (source : Path) (w : Workspace) (s : Session σ) :
    Except Fault Outcome × Session σ → Prop
  | notPreprocessed {f : Fault} {t : Session σ} :
      BuildM.run (b.preprocess source (w.filePath source)) (stored source w s) = (.error f, t) →
      Goes source w s (.error f, t)
  | gaveUp {result : ToolResult} {t : Session σ} :
      BuildM.run (b.preprocess source (w.filePath source)) (stored source w s) = (.ok result, t) →
      result.code ≠ 0 → Goes source w s (BuildM.run (giveUp result) t)
  | notTranslated {result : ToolResult} {f : Fault} {t u : Session σ} :
      BuildM.run (b.preprocess source (w.filePath source)) (stored source w s) = (.ok result, t) →
      result.code = 0 →
      BuildM.run (b.translate source (w.filePath source)) t = (.error f, u) →
      Goes source w s (.error f, u)
  | delivered {result result' : ToolResult} {t u : Session σ} :
      BuildM.run (b.preprocess source (w.filePath source)) (stored source w s) = (.ok result, t) →
      result.code = 0 →
      BuildM.run (b.translate source (w.filePath source)) t = (.ok result', u) →
      Goes source w s (BuildM.run (b.deliver source w result') u)

theorem compile_goes (source : Path) (w : Workspace) (s : Session σ) :
    b.Goes source w s (BuildM.run (b.compile source w) s) := by
  have hcompile : b.compile source w = (do
      note (.storing (w.filePath source))
      let preprocessed ← b.preprocess source (w.filePath source)
      if preprocessed.success then do
        let translated ← b.translate source (w.filePath source)
        b.deliver source w translated
      else giveUp preprocessed) := rfl
  rw [hcompile, run_bind, run_note]
  change b.Goes source w s
    (BuildM.run (b.preprocess source (w.filePath source) >>= _) (stored source w s))
  rw [run_bind]
  rcases hp : BuildM.run (b.preprocess source (w.filePath source)) (stored source w s) with
    ⟨f | result, t⟩
  · exact .notPreprocessed hp
  · dsimp only
    by_cases hcode : result.code = 0
    · rw [if_pos (by simpa [ToolResult.success] using hcode), run_bind]
      rcases ht : BuildM.run (b.translate source (w.filePath source)) t with ⟨f | result', u⟩
      · exact .notTranslated hp hcode ht
      · exact .delivered hp hcode ht
    · rw [if_neg (by simpa [ToolResult.success] using hcode)]
      exact .gaveUp hp hcode

theorem giveUp_keeps (preprocessed : ToolResult) :
    Keeps (fun s : Session σ => (s.tools, s.host)) (giveUp preprocessed) :=
  .bind (fun _ => rfl) fun _ => .bind (fun _ => rfl) fun _ _ => rfl

theorem writeReport_keeps (report : Text) :
    Keeps (fun s : Session σ => (s.tools, s.host)) (writeReport report) := by
  unfold writeReport
  refine .bind (fun _ => rfl) fun _ => ?_
  split
  next => exact .bind (fun _ => rfl) fun _ _ => rfl
  next => exact fun _ => rfl

theorem deliver_keeps (source : Path) (w : Workspace) (translated : ToolResult) :
    Keeps (fun s : Session σ => (s.tools, s.host)) (b.deliver source w translated) := by
  unfold deliver
  simp only
  split
  next => exact .bind (writeReport_keeps _) fun _ _ => rfl
  next => exact fun _ => rfl

/-- The second call is made exactly when the first succeeded, and nothing but the calls changes the
host. -/
theorem compile_after (source : Path) (w : Workspace) (s : Session σ) :
    let first := b.preprocessCall source (w.filePath source)
    let second := b.translateCall source (w.filePath source)
    let left := (BuildM.run (b.compile source w) s).2
    (∃ result, (b.runner.run first s.tools s.host).1 = .ok result ∧ result.code = 0 ∧
        (left.tools, left.host) = b.runner.after [first, second] (s.tools, s.host)) ∨
      ((∀ result, (b.runner.run first s.tools s.host).1 = .ok result → result.code ≠ 0) ∧
        (left.tools, left.host) = b.runner.after [first] (s.tools, s.host)) := by
  intro first second left
  -- What follows a call is dropped by `giveUp_keeps` and `deliver_keeps`.
  obtain ⟨hanswer, hcalled⟩ := b.preprocess_after source (w.filePath source) (stored source w s)
  have hboth {t u : Session σ}
      (hfirst : (t.tools, t.host) = b.runner.after [first] (s.tools, s.host))
      (hsecond : (u.tools, u.host) = b.runner.after [second] (t.tools, t.host)) :
      (u.tools, u.host) = b.runner.after [first, second] (s.tools, s.host) :=
    hsecond.trans ((congrArg _ hfirst).trans (b.runner.after_append [first] [second] _).symm)
  have hgoes := b.compile_goes source w s
  simp only [left]
  generalize BuildM.run (b.compile source w) s = r at hgoes ⊢
  cases hgoes with
  | notPreprocessed hp =>
    rw [hp] at hanswer hcalled
    exact .inr ⟨fun result hresult => absurd (hanswer.trans hresult) (by simp), hcalled⟩
  | @gaveUp result t hp hcode =>
    rw [hp] at hanswer hcalled
    refine .inr ⟨fun result' hresult' => ?_, (giveUp_keeps result t).trans hcalled⟩
    obtain rfl := Except.ok.inj (hanswer.trans hresult')
    exact hcode
  | @notTranslated result f t u hp hcode ht =>
    obtain ⟨-, htranslated⟩ := b.translate_after source (w.filePath source) t
    rw [hp] at hanswer hcalled
    rw [ht] at htranslated
    exact .inl ⟨result, hanswer.symm, hcode, hboth hcalled htranslated⟩
  | @delivered result result' t u hp hcode ht =>
    obtain ⟨-, htranslated⟩ := b.translate_after source (w.filePath source) t
    rw [hp] at hanswer hcalled
    rw [ht] at htranslated
    exact .inl ⟨result, hanswer.symm, hcode,
      (b.deliver_keeps source w result' u).trans (hboth hcalled htranslated)⟩

theorem compile_recorded (source : Path) (w : Workspace) (s : Session (σ × List Call)) :
    let first := b.preprocessCall source (w.filePath source)
    let second := b.translateCall source (w.filePath source)
    let calls := (BuildM.run (b.recording.compile source w) s).2.tools.2
    (∃ result, (b.runner.run first s.tools.1 s.host).1 = .ok result ∧ result.code = 0 ∧
        calls = s.tools.2 ++ [first, second]) ∨
      ((∀ result, (b.runner.run first s.tools.1 s.host).1 = .ok result → result.code ≠ 0) ∧
        calls = s.tools.2 ++ [first]) := by
  have recorded {calls : List Call} {left : Session (σ × List Call)}
      (h : (left.tools, left.host) = b.runner.recording.after calls (s.tools, s.host)) :
      left.tools.2 = s.tools.2 ++ calls := by
    rw [Runner.after_recording] at h
    exact congrArg (fun p => p.1.2) h
  exact (b.recording.compile_after source w s).imp
    (fun ⟨result, hresult, hcode, hleft⟩ => ⟨result, hresult, hcode, recorded hleft⟩)
    (fun ⟨hfailed, hleft⟩ => ⟨hfailed, recorded hleft⟩)

/-! ## Whole runs -/

theorem run_acquire (parent : Path) (s : Session σ) :
    BuildM.run (acquire parent) s = match Workspace.create parent s.host with
      | .error f => (.error f, s)
      | .ok (w, h) => (.ok w, { s with host := h, notes := s.notes ++ [.acquired w.path] }) := by
  simp only [acquire, run_bind, run_host, run_orFault]
  rcases Workspace.create parent s.host with f | ⟨w, h⟩ <;> rfl

theorem run_compileIn (source : Path) (w : Workspace) (s : Session σ) :
    BuildM.run (b.compileIn source w) s =
      ((BuildM.run (b.compile source w) s).1,
        release w (BuildM.run (b.compile source w) s).2) := rfl

@[simp] theorem release_tools (w : Workspace) (s : Session σ) :
    (release w s).tools = s.tools := rfl

/-- The session that a compile starts with, its workspace made. -/
def started (w : Workspace) (h : Host) (s : Session σ) : Session σ :=
  { s with host := h, notes := s.notes ++ [.buildNeeded] ++ [.acquired w.path] }

/-- A compile that is no dry run makes its workspace and then uses it. -/
theorem run_compiling {source : Path} (hsource : b.request.source? = some source)
    (hmode : b.request.mode = .compile) (hdry : b.request.dryRun = false) (s : Session σ) :
    BuildM.run b.run s = match Workspace.create (b.workspaceParent s.host) s.host with
      | .error f => (.error f, { s with notes := s.notes ++ [.buildNeeded] })
      | .ok (w, h) => BuildM.run (b.compileIn source w) (started w h s) := by
  simp only [Build.run, hsource, hmode, hdry, run_bind, run_note, run_host, run_acquire,
    Bool.false_eq_true, ↓reduceIte]
  rcases Workspace.create (b.workspaceParent s.host) s.host with f | ⟨w, h⟩ <;> rfl

/-- **The calls of a compile.** Without a workspace no tool is called. In a workspace that does not
hold the source the preprocessor is called, then the translator exactly when the preprocessor
returned 0, and nothing else. -/
theorem compile_calls {workDir : Except OsError Path} {args : List Text} {source : Path}
    (hmade : b.request.MadeOf workDir args) (hsource : b.request.source? = some source)
    (hmode : b.request.mode = .compile) (hdry : b.request.dryRun = false)
    (s : Session (σ × List Call)) :
    (∀ f, Workspace.create (b.workspaceParent s.host) s.host = .error f →
      (BuildM.run b.recording.run s).2.tools = s.tools) ∧
    ∀ w h, Workspace.create (b.workspaceParent s.host) s.host = .ok (w, h) →
      ¬ w.Contains source →
      ∃ intermediate first second, b.Handoff source w intermediate first second ∧
        ((∃ result, (b.runner.run first s.tools.1 h).1 = .ok result ∧ result.code = 0 ∧
            (BuildM.run b.recording.run s).2.tools.2 = s.tools.2 ++ [first, second]) ∨
          ((∀ result, (b.runner.run first s.tools.1 h).1 = .ok result → result.code ≠ 0) ∧
            (BuildM.run b.recording.run s).2.tools.2 = s.tools.2 ++ [first])) := by
  have hrun := b.recording.run_compiling hsource hmode hdry s
  have hparent : b.recording.workspaceParent s.host = b.workspaceParent s.host := rfl
  rw [hparent] at hrun
  constructor
  · intro f hf
    rw [hrun, hf]
  · intro w h hw houtside
    have hfind := hmade.source_eq.symm.trans hsource
    have hcalled : (BuildM.run b.recording.run s).2.tools.2 =
        (BuildM.run (b.recording.compile source w) (started w h s)).2.tools.2 := by
      rw [hrun, hw]
      simp only [run_compileIn, release_tools]
    refine ⟨w.filePath source, _, _, b.handoff (Workspace.create_extensible hw) hfind houtside, ?_⟩
    rw [hcalled]
    exact b.compile_recorded source w (started w h s)

/-! Two tools that succeed, with a source that is named twice, and another one behind it. -/

def twiceArgs : List Text := ["m.kl".toList, "/config".toList, "./m.kl".toList, "V9.kl".toList]

def twiceBuild : Build Unit where
  request := {
    translatorArgs := ["/s/m.kl".toList, "/config".toList, "/s/m.kl".toList, "/s/V9.kl".toList]
    source? := some "/s/m.kl".toList
    searchPath := ⟨["/i".toList]⟩ }
  toolchain := ⟨"ktrans".toList, "gpp".toList⟩
  headers := .ofNames [] []
  runner := .idle

def twiceSession : Session (Unit × List Call) where
  host := {
    tree := ⟨[(["s".toList], .dir), (["tmp".toList], .dir)]⟩
    workDir := .root
    env := []
    serial := 0 }
  tools := ((), [])
  out := {}
  err := {}
  state := .idle
  notes := []

def twiceWorkspace : Workspace := ⟨"/tmp/ktransw-000000-buildd".toList⟩

theorem twice_calls : ∃ intermediate first second,
    twiceBuild.Handoff "/s/m.kl".toList twiceWorkspace intermediate first second ∧
      (BuildM.run twiceBuild.recording.run twiceSession).2.tools.2 = [first, second] := by
  have hmade : twiceBuild.request.MadeOf (.ok "/s".toList) twiceArgs :=
    ⟨twiceBuild.request, ok_of_toOption (by decide +kernel), rfl, rfl⟩
  obtain ⟨⟨w, h⟩, hw, hpath⟩ : ∃ made,
      (Workspace.create (twiceBuild.workspaceParent twiceSession.host) twiceSession.host).toOption =
        some made ∧ made.1 = twiceWorkspace :=
    Option.map_eq_some_iff.mp (by decide +kernel)
  obtain rfl : w = twiceWorkspace := hpath
  have houtside : ¬ twiceWorkspace.Contains "/s/m.kl".toList := by
    unfold Workspace.Contains
    decide
  obtain ⟨intermediate, first, second, hhandoff, hcalls⟩ :=
    (twiceBuild.compile_calls hmade rfl rfl rfl twiceSession).2 _ h (ok_of_toOption hw) houtside
  refine ⟨intermediate, first, second, hhandoff, ?_⟩
  rcases hcalls with ⟨result, -, -, hcalls⟩ | ⟨hfailed, -⟩
  · exact hcalls
  · exact absurd rfl (hfailed ⟨0, [], []⟩ rfl)

end Build

end KarelBuild
