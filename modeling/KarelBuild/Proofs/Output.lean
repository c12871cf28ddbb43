import KarelBuild.Proofs.Course

/-!
# What a compile writes

Until the translator has ended nothing is written, unless the preprocessor failed: then its errors are
passed on and no translator is called. How a translation went is told where it failed, and where the
user wants to be told (`compile_output`).
-/

namespace KarelBuild

/-- The text with its last line ended. The empty text has no line. -/
def Text.closed (t : Text) : Text :=
  if t ≠ [] ∧ t.getLast? ≠ some '\n' then t ++ ['\n'] else t

namespace Sink

variable (k : Sink)

@[simp] theorem relay_nil : k.relay [] = k := by simp [relay]

theorem relay_relay (t u : Text) : (k.relay t).relay u = k.relay (t ++ u) := by simp [relay]

end Sink

namespace Session

variable {σ : Type}

/-- From one session to a later one these texts went to the two streams. -/
structure Adds (s s' : Session σ) (out err : Text) : Prop where
  out : s'.out = s.out.relay out
  err : s'.err = s.err.relay err

/-- What a step leaves alone that writes nothing. -/
def streams (s : Session σ) : Sink × Sink := (s.out, s.err)

variable {s s' t u : Session σ} {out err : Text}

theorem adds_nil_iff : s.Adds t [] [] ↔ t.streams = s.streams := by
  simp only [streams, Prod.mk.injEq]
  exact ⟨fun h => ⟨by simpa using h.out, by simpa using h.err⟩,
    fun ⟨hout, herr⟩ => ⟨by simpa using hout, by simpa using herr⟩⟩

/-- Steps that write nothing may come before and behind. -/
theorem Adds.between (h : t.Adds u out err) (ht : t.streams = s.streams)
    (hu : s'.streams = u.streams) : s.Adds s' out err := by
  obtain ⟨htout, hterr⟩ : t.out = s.out ∧ t.err = s.err := Prod.ext_iff.mp ht
  obtain ⟨huout, huerr⟩ : s'.out = u.out ∧ s'.err = u.err := Prod.ext_iff.mp hu
  exact ⟨by rw [huout, h.out, htout], by rw [huerr, h.err, hterr]⟩

end Session

namespace BuildM

variable {σ : Type} (r : Runner σ) (tool : Tool) (call : Call)

theorem callTool_streams : Keeps Session.streams (callTool r tool call) := by
  unfold callTool
  exact .bind (fun _ => rfl) fun _ => .bind (fun _ => rfl) fun _ => .bind (fun _ => rfl) fun _ =>
    keeps_pure _

/-- The end of a tool is the last thing noted of its call. -/
theorem callTool_ended {s t : Session σ} {result : ToolResult}
    (h : BuildM.run (callTool r tool call) s = (.ok result, t)) :
    t.notes.getLast? = some (.ended tool result.code) := by
  rw [run_callTool] at h
  split at h
  next result' tools host _ =>
    obtain ⟨hresult, rfl⟩ := Prod.ext_iff.mp h
    obtain rfl := Except.ok.inj hresult
    exact List.getLast?_concat ..
  next => simp at h

end BuildM

namespace Build

open BuildM

variable {σ : Type} (b : Build σ)

/-! ## Steps that write nothing -/

theorem preprocess_streams (source intermediate : Path) :
    Keeps Session.streams (b.preprocess source intermediate) :=
  .bind (fun _ => rfl) fun _ => callTool_streams _ _ _

theorem translate_streams (source intermediate : Path) :
    Keeps Session.streams (b.translate source intermediate) :=
  .bind (fun _ => rfl) fun _ => callTool_streams _ _ _

/-- A call that is made for a step is answered, and leaves the host, as the step says. -/
theorem preprocess_called {source intermediate : Path} {s t : Session σ}
    {answer : Except Fault ToolResult}
    (h : BuildM.run (b.preprocess source intermediate) s = (answer, t)) :
    let call := b.preprocessCall source intermediate
    b.runner.answer call (s.tools, s.host) = answer ∧
      b.runner.after [call] (s.tools, s.host) = (t.tools, t.host) ∧ t.streams = s.streams := by
  obtain ⟨hanswer, hafter⟩ := b.preprocess_after source intermediate s
  have hquiet := b.preprocess_streams source intermediate s
  rw [h] at hanswer hafter hquiet
  exact ⟨hanswer.symm, hafter.symm, hquiet⟩

theorem translate_called {source intermediate : Path} {s t : Session σ}
    {answer : Except Fault ToolResult}
    (h : BuildM.run (b.translate source intermediate) s = (answer, t)) :
    b.runner.answer (b.translateCall source intermediate) (s.tools, s.host) = answer ∧
      t.streams = s.streams := by
  obtain ⟨hanswer, -⟩ := b.translate_after source intermediate s
  have hquiet := b.translate_streams source intermediate s
  rw [h] at hanswer hquiet
  exact ⟨hanswer.symm, hquiet⟩

theorem translate_ended {source intermediate : Path} {s t : Session σ} {result : ToolResult}
    (h : BuildM.run (b.translate source intermediate) s = (.ok result, t)) :
    t.notes.getLast? = some (.ended .translator result.code) := by
  unfold translate at h
  rw [run_bind, run_transition] at h
  exact callTool_ended _ _ _ h

theorem release_streams (w : Workspace) (s : Session σ) : (release w s).streams = s.streams := rfl

/-! ## Steps that write -/

theorem giveUp_adds (preprocessed : ToolResult) {s : Session σ} (herr : s.err.Works) :
    s.Adds (BuildM.run (giveUp preprocessed) s).2 []
      (preprocessed.stderr ++ "\nTranslation terminated\n".toList) := by
  simp only [giveUp, run_bind, run_writeErr, herr.write, run_flushErr, (herr.relay _).flush,
    run_finish]
  exact ⟨s.out.relay_nil.symm, rfl⟩

theorem run_writeReport (report : Text) {s : Session σ} (hout : s.out.Works) :
    BuildM.run (writeReport report) s = (.ok (), { s with out := s.out.relay report.closed }) := by
  simp only [writeReport, run_bind, run_during, run_writeOut, hout.write, Except.mapError]
  unfold Text.closed
  split
  next =>
    simp only [run_bind, run_writeOut, (hout.relay _).write, run_flushOut, Sink.relay_relay,
      (hout.relay _).flush]
  next => simp only [run_flushOut, (hout.relay _).flush]

/-- The translator's report, as the user sees it. -/
def userReport (source : Path) (w : Workspace) (translated : ToolResult) : Text :=
  (remap w.path ((Path.parent? source).getD []) translated.stdout).closed

/-- Whether the user sees the report. -/
def Shows (translated : ToolResult) : Prop :=
  translated.code ≠ 0 ∨ b.request.verbosity = .verbose

theorem deliver_adds (source : Path) (w : Workspace) (translated : ToolResult) {s : Session σ}
    (hout : s.out.Works) :
    (b.Shows translated →
      s.Adds (BuildM.run (b.deliver source w translated) s).2 (userReport source w translated) []) ∧
    (¬ b.Shows translated →
      s.Adds (BuildM.run (b.deliver source w translated) s).2 [] []) := by
  have hshows : (!translated.success || decide (b.request.verbosity = .verbose)) = true ↔
      b.Shows translated := by
    simp [Shows, ToolResult.success]
  unfold deliver
  constructor
  · intro hshown
    simp only [if_pos (hshows.mpr hshown), run_bind, run_writeReport _ hout, run_finish]
    exact ⟨rfl, s.err.relay_nil.symm⟩
  · intro hhidden
    simp only [if_neg (mt hshows.mp hhidden), run_finish]
    exact Session.adds_nil_iff.mpr rfl

/-! ## Whole runs -/

/-- A run has written what the ended translator reported, or nothing; and nothing was written when
the translator ended. -/
structure Delivery (source : Path) (w : Workspace) (translated : ToolResult) (s s' : Session σ) :
    Prop where
  shown : b.Shows translated → s.Adds s' (userReport source w translated) []
  hidden : ¬ b.Shows translated → s.Adds s' [] []
  ended : ∃ t : Session σ, t.notes.getLast? = some (.ended .translator translated.code) ∧
    s.Adds t [] [] ∧ s' = release w (BuildM.run (b.deliver source w translated) t).2

/-- What a run has written whose two tools give these answers. The second one counts only where the
first is a code of 0. -/
structure Output (source : Path) (w : Workspace) (preprocessed translated : Except Fault ToolResult)
    (s s' : Session σ) : Prop where
  notStarted : ∀ f, preprocessed = .error f → s.Adds s' [] []
  terminated : ∀ result, preprocessed = .ok result → result.code ≠ 0 →
    s.Adds s' [] (result.stderr ++ "\nTranslation terminated\n".toList)
  notTranslated : ∀ result, preprocessed = .ok result → result.code = 0 →
    ∀ f, translated = .error f → s.Adds s' [] []
  delivered : ∀ result, preprocessed = .ok result → result.code = 0 →
    ∀ result', translated = .ok result' → b.Delivery source w result' s s'

theorem delivery_deliver {source : Path} {w : Workspace} {translated : ToolResult}
    {s t : Session σ} (hout : s.out.Works)
    (hended : t.notes.getLast? = some (.ended .translator translated.code))
    (hquiet : t.streams = s.streams) :
    b.Delivery source w translated s
      (release w (BuildM.run (b.deliver source w translated) t).2) := by
  obtain ⟨hsame, -⟩ : t.out = s.out ∧ t.err = s.err := Prod.ext_iff.mp hquiet
  obtain ⟨hshown, hhidden⟩ := b.deliver_adds source w translated (s := t) (hsame ▸ hout)
  have released {u : Session σ} {out err : Text} (h : t.Adds u out err) :
      s.Adds (release w u) out err := h.between hquiet (release_streams w u)
  exact ⟨fun h => released (hshown h), fun h => released (hhidden h),
    t, hended, Session.adds_nil_iff.mpr hquiet, rfl⟩

theorem output_compile (source : Path) (w : Workspace) (h : Host) {s : Session σ}
    (hout : s.out.Works) (herr : s.err.Works) :
    let first := b.preprocessCall source (w.filePath source)
    let second := b.translateCall source (w.filePath source)
    b.Output source w (b.runner.answer first (s.tools, h))
      (b.runner.answer second (b.runner.after [first] (s.tools, h))) s
      (release w (BuildM.run (b.compile source w) (started w h s)).2) := by
  intro first second
  have hgoes := b.compile_goes source w (started w h s)
  generalize BuildM.run (b.compile source w) (started w h s) = r at hgoes ⊢
  -- In each case the answers leave one field to prove.
  cases hgoes with
  | notPreprocessed hp =>
    obtain ⟨hfirst : b.runner.answer first (s.tools, h) = _, -, hquiet⟩ := b.preprocess_called hp
    rw [hfirst]
    constructor
    case notStarted => exact fun _ _ => Session.adds_nil_iff.mpr hquiet
    all_goals simp
  | @gaveUp result t hp hcode =>
    obtain ⟨hfirst : b.runner.answer first (s.tools, h) = _, -, hquiet⟩ := b.preprocess_called hp
    obtain ⟨-, hsame⟩ : t.out = s.out ∧ t.err = s.err := Prod.ext_iff.mp hquiet
    rw [hfirst]
    constructor
    case terminated =>
      rintro _ hresult -
      obtain rfl := Except.ok.inj hresult
      exact (giveUp_adds result (hsame ▸ herr)).between hquiet (release_streams w _)
    all_goals simp [hcode]
  | @notTranslated result f t u hp hcode ht =>
    obtain ⟨hfirst : b.runner.answer first (s.tools, h) = _,
      hafter : b.runner.after [first] (s.tools, h) = _, hquiet⟩ := b.preprocess_called hp
    obtain ⟨hsecond, hquiet'⟩ := b.translate_called ht
    rw [hfirst, hafter, hsecond]
    constructor
    case notTranslated => exact fun _ _ _ _ _ => Session.adds_nil_iff.mpr (hquiet'.trans hquiet)
    all_goals simp [hcode]
  | @delivered result result' t u hp hcode ht =>
    obtain ⟨hfirst : b.runner.answer first (s.tools, h) = _,
      hafter : b.runner.after [first] (s.tools, h) = _, hquiet⟩ := b.preprocess_called hp
    obtain ⟨hsecond, hquiet'⟩ := b.translate_called ht
    rw [hfirst, hafter, hsecond]
    constructor
    case delivered =>
      rintro _ - - _ hresult
      obtain rfl := Except.ok.inj hresult
      exact b.delivery_deliver hout (b.translate_ended ht) (hquiet'.trans hquiet)
    all_goals simp [hcode]

/-- **What a compile writes.** When the preprocessor fails, its errors are passed on with a line behind
them that says so, however quiet the user wants it to be. When it succeeds, the errors stay empty, and
the output is the translator's report if the translator failed or the user wants to be told, and
nothing otherwise. The report names the source's directory in place of the workspace, and its last
line is ended. -/
theorem compile_output {source : Path} (hcompiled : b.compiled? = some source) {s : Session σ}
    (hout : s.out.Works) (herr : s.err.Works) :
    (∀ f, Workspace.create (b.workspaceParent s.host) s.host = .error f →
      s.Adds (BuildM.run b.run s).2 [] []) ∧
    ∀ w h, Workspace.create (b.workspaceParent s.host) s.host = .ok (w, h) →
      let first := b.preprocessCall source (w.filePath source)
      let second := b.translateCall source (w.filePath source)
      b.Output source w (b.runner.answer first (s.tools, h))
        (b.runner.answer second (b.runner.after [first] (s.tools, h))) s (BuildM.run b.run s).2 := by
  obtain ⟨hsource, hmode, hdry⟩ := b.compiled?_eq_some_iff.mp hcompiled
  rw [b.run_compiling hsource hmode hdry]
  constructor
  · intro f hf
    rw [hf]
    exact Session.adds_nil_iff.mpr rfl
  · intro w h hw
    rw [hw]
    exact b.output_compile source w h hout herr

/-! A quiet build whose translator fails. -/

def failingRunner : Runner Unit where
  run call tools h :=
    match call.manner with
    | .captureMerged =>
      (.ok ⟨3, "/tmp/ktransw-000000-buildd/m.kl(3): error".toList, []⟩, tools, h)
    | _ => (.ok ⟨0, [], []⟩, tools, h)

def quietBuild : Build Unit where
  request := { twiceBuild.request with verbosity := .quiet }
  toolchain := twiceBuild.toolchain
  headers := twiceBuild.headers
  runner := failingRunner

def quietSession : Session Unit := { twiceSession with tools := () }

theorem quiet_failure_told :
    (BuildM.run quietBuild.run quietSession).2.out = { written := "/s/m.kl(3): error\n".toList } ∧
      (BuildM.run quietBuild.run quietSession).2.err = {} := by
  obtain ⟨⟨w, h⟩, hw, hpath⟩ : ∃ made,
      (Workspace.create (quietBuild.workspaceParent quietSession.host) quietSession.host).toOption =
        some made ∧ made.1 = twiceWorkspace :=
    Option.map_eq_some_iff.mp (by decide +kernel)
  obtain rfl : w = twiceWorkspace := hpath
  have houtput := (quietBuild.compile_output (s := quietSession) rfl ⟨rfl, rfl⟩ ⟨rfl, rfl⟩).2 _ h
    (ok_of_toOption hw)
  obtain ⟨hout, herr⟩ := (houtput.delivered _ rfl rfl _ rfl).shown (.inl (by decide))
  exact ⟨hout.trans (by decide +kernel), herr⟩

end Build

end KarelBuild
