import KarelBuild.Proofs.Lifetime

/-!
# The course of a run

A run enters one stage after another and notes each change. `Passes` says which stages lie between
two sessions; `Closes` is for the last steps of a build, which enter no stage but the last one. A run
that gives an outcome has taken one of eight courses to the end, and any other run has been broken
off on one of them (`run_course`).
-/

namespace KarelBuild

/-- Whether a build is over in this state. -/
def BuildState.isEnd : BuildState → Bool
  | .done => true
  | .failed _ => true
  | _ => false

/-- The changes of state that notes tell of. -/
def moves (notes : List Note) : List (BuildState × BuildState) :=
  notes.filterMap fun
    | .transition before after => some (before, after)
    | _ => none

/-- The changes when states are entered one after another. -/
def trail : BuildState → List BuildState → List (BuildState × BuildState)
  | _, [] => []
  | here, next :: rest => (here, next) :: trail next rest

theorem moves_append (notes more : List Note) : moves (notes ++ more) = moves notes ++ moves more :=
  List.filterMap_append

theorem trail_append (here : BuildState) (states more : List BuildState) :
    trail here (states ++ more) = trail here states ++ trail (states.getLastD here) more := by
  induction states generalizing here with
  | nil => rfl
  | cons next states ih => simp only [List.cons_append, trail, ih, List.getLastD_cons]

/-- The answer to a call. -/
def Runner.answer {σ : Type} (r : Runner σ) (call : Call) (start : σ × Host) :
    Except Fault ToolResult := (r.run call start.1 start.2).1

namespace Session

variable {σ : Type}

/-- From one session to a later one these states were entered, in this order, and no others. -/
structure Passes (s s' : Session σ) (states : List BuildState) : Prop where
  moves : moves s'.notes = moves s.notes ++ trail s.state states
  state : s'.state = states.getLastD s.state

variable {s t u : Session σ} {states more : List BuildState}

theorem Passes.trans (h : s.Passes t states) (h' : t.Passes u more) :
    s.Passes u (states ++ more) where
  moves := by rw [h'.moves, h.moves, h.state, trail_append, List.append_assoc]
  state := by
    rw [h'.state, h.state]
    cases more <;> simp [List.getLast?_append]

theorem passes_enter (s : Session σ) (next : BuildState) : s.Passes (s.enter next) [next] where
  moves := moves_append ..
  state := rfl

theorem Passes.enter (h : s.Passes t states) (next : BuildState) :
    s.Passes (t.enter next) (states ++ [next]) := h.trans (t.passes_enter next)

/-- What a step leaves alone that enters no state. -/
def stage (s : Session σ) : List (BuildState × BuildState) × BuildState :=
  (KarelBuild.moves s.notes, s.state)

theorem passes_nil_iff : s.Passes t [] ↔ t.stage = s.stage := by
  simp only [stage, Prod.mk.injEq]
  exact ⟨fun h => ⟨by simpa [trail] using h.moves, h.state⟩,
    fun ⟨hmoves, hstate⟩ => ⟨by simpa [trail] using hmoves, hstate⟩⟩

theorem Passes.quiet (h : s.Passes t states) (hu : u.stage = t.stage) : s.Passes u states := by
  simpa using h.trans (passes_nil_iff.mpr hu)

end Session

namespace BuildM

variable {σ α : Type} {s t : Session σ} {states : List BuildState}

theorem Keeps.passes {m : BuildM σ α} (hm : Keeps Session.stage m) (h : s.Passes t states) :
    s.Passes (BuildM.run m t).2 states := h.quiet (hm t)

/-! ## Steps that enter no state -/

theorem stage_notes (s : Session σ) {ns : List Note} (h : moves ns = []) :
    { s with notes := s.notes ++ ns }.stage = s.stage := by
  simp [Session.stage, moves_append, h]

theorem note_stage {n : Note} (h : moves [n] = []) :
    Keeps (Session.stage (σ := σ)) (note n) := fun s => stage_notes s h

theorem callTool_stage (r : Runner σ) (tool : Tool) (call : Call) :
    Keeps Session.stage (callTool r tool call) := by
  unfold callTool
  exact .bind (note_stage rfl) fun _ => .bind (fun _ => rfl) fun _ =>
    .bind (note_stage rfl) fun _ => keeps_pure _

/-! ## Last steps -/

/-- The program ends in the last state of one of these outcomes, or is broken off before. -/
def Closes (P : Outcome → Prop) (m : BuildM σ Outcome) : Prop :=
  ∀ s, (∃ o, P o ∧ (BuildM.run m s).1 = .ok o ∧ s.Passes (BuildM.run m s).2 [o.state]) ∨
    ∃ f, (BuildM.run m s).1 = .error f ∧ s.Passes (BuildM.run m s).2 []

variable {P : Outcome → Prop}

theorem closes_finish {state : BuildState} {code : Int} (h : P ⟨state, code⟩) :
    Closes (σ := σ) P (finish state code) :=
  fun s => .inl ⟨_, h, rfl, s.passes_enter state⟩

theorem closes_throw (f : Fault) : Closes (σ := σ) P (throw f) :=
  fun _ => .inr ⟨f, rfl, Session.passes_nil_iff.mpr rfl⟩

theorem Closes.after {m : BuildM σ α} {f : α → BuildM σ Outcome} (hm : Keeps Session.stage m)
    (hf : ∀ a, Closes P (f a)) : Closes P (m >>= f) := by
  intro s
  have hpass := Session.passes_nil_iff.mpr (hm s)
  rw [run_bind]
  rcases hr : BuildM.run m s with ⟨g | a, t⟩ <;> rw [hr] at hpass
  · exact .inr ⟨g, rfl, hpass⟩
  · obtain ⟨o, ho, hanswer, hstates⟩ | ⟨g, hanswer, hstates⟩ := hf a t
    · exact .inl ⟨o, ho, hanswer, hpass.trans hstates⟩
    · exact .inr ⟨g, hanswer, hpass.trans hstates⟩

end BuildM

namespace SearchPath

/-- A search enters no state. -/
theorem moves_collect (p : SearchPath) (headers : SystemHeaders) (files : Files) (policy : Policy)
    (names : List Text) : moves (p.collect headers files policy names).2 = [] := by
  have quiet (name : Text) : moves (p.resolve headers files name).2 = [] := by
    unfold resolve
    simp only
    split
    · rfl
    · split <;> rfl
  induction names with
  | nil => rfl
  | cons name names ih =>
    have hname := quiet name
    simp only [collect]
    split
    next => exact ih
    next =>
      split
      next hr =>
        rw [hr] at hname
        exact (moves_append ..).trans (by rw [hname]; exact ih)
      next hr =>
        rw [hr] at hname
        split
        next => exact (moves_append ..).trans (by rw [hname]; exact ih)
        next => exact hname

end SearchPath

namespace Build

open BuildM

variable {σ : Type} (b : Build σ)

/-! ## The ends of the four kinds of build -/

theorem greet_stage : Keeps Session.stage b.greet := by
  unfold greet
  split
  next => exact .bind (fun _ => rfl) fun _ _ => rfl
  next => exact keeps_pure ()

theorem giveUp_closes (preprocessed : ToolResult) :
    Closes (· = ⟨.failed (.preprocessor preprocessed.code), preprocessed.code⟩)
      (giveUp (σ := σ) preprocessed) :=
  .after (fun _ => rfl) fun _ => .after (fun _ => rfl) fun _ => closes_finish rfl

theorem writeReport_stage (report : Text) : Keeps (Session.stage (σ := σ)) (writeReport report) := by
  unfold writeReport
  refine .bind (fun _ => rfl) fun _ => ?_
  split
  next => exact .bind (fun _ => rfl) fun _ _ => rfl
  next => exact fun _ => rfl

theorem deliver_closes (source : Path) (w : Workspace) (translated : ToolResult) :
    Closes (· = ⟨translatorState translated.code, translated.code⟩)
      (b.deliver source w translated) := by
  unfold deliver
  simp only
  split
  next => exact .after (writeReport_stage _) fun _ => closes_finish rfl
  next => exact closes_finish rfl

theorem writeRule_stage (r : Rule) : Keeps Session.stage (b.writeRule r) := by
  intro s
  rw [run_writeRule]
  split
  next p _ => cases s.host.outletOf p <;> rfl
  next => rfl

/-- A search is concluded with a rule or with a missing header. -/
theorem conclude_closes (collected : Except MissingHeader (List Dependency)) :
    Closes (fun o => o = ⟨.done, 0⟩ ∨ ∃ name, o = ⟨.failed (.missingHeader name), 65⟩)
      (b.conclude collected) := by
  cases collected with
  | error m => exact .after (fun _ => rfl) fun _ => closes_finish (.inr ⟨m.name, rfl⟩)
  | ok deps =>
    simp only [conclude]
    split
    next => exact closes_throw _
    next => exact .after (b.writeRule_stage _) fun _ => closes_finish (.inl rfl)

theorem release_stage (w : Workspace) (s : Session σ) : (release w s).stage = s.stage := by
  have quiet (steps : List RemovalStep) : moves (w.cleanupNotes steps) = [] := by
    have hsteps : moves (steps.filterMap Workspace.noteOf) = [] := by
      induction steps with
      | nil => rfl
      | cons step steps ih => cases step <;> simpa [moves, Workspace.noteOf] using ih
    unfold Workspace.cleanupNotes
    rw [moves_append, hsteps]
    split <;> rfl
  exact stage_notes _ (quiet _)

/-! ## The stages of the four kinds of build -/

/-- Arguments are passed on, and the translator's code decides the last state. -/
theorem passThrough_course (s : Session σ) :
    let r := BuildM.run b.passThrough s
    (∃ result, b.runner.answer b.passThroughCall (s.tools, s.host) = .ok result ∧
        r.1 = .ok ⟨translatorState result.code, result.code⟩ ∧
        s.Passes r.2 [.noBuildNeeded, translatorState result.code]) ∨
      ∃ f, r.1 = .error f ∧ s.Passes r.2 [.noBuildNeeded] := by
  have hgreeted := b.greet_stage.passes (s.passes_enter .noBuildNeeded)
  have hsame := b.greet_keeps (s.enter .noBuildNeeded)
  rw [run_passThrough]
  rcases hg : BuildM.run b.greet (s.enter .noBuildNeeded) with ⟨f | _, t⟩ <;>
    rw [hg] at hgreeted hsame
  · exact .inr ⟨f, rfl, hgreeted⟩
  · obtain ⟨htools, hhost⟩ : t.tools = s.tools ∧ t.host = s.host := Prod.ext_iff.mp hsame
    obtain ⟨hanswer, -⟩ := callTool_after b.runner .translator b.passThroughCall t
    have hcalled := (callTool_stage b.runner .translator b.passThroughCall).passes hgreeted
    rw [htools, hhost] at hanswer
    dsimp only
    rcases hc : BuildM.run (callTool b.runner .translator b.passThroughCall) t with
      ⟨f | result, u⟩ <;> rw [hc] at hanswer hcalled
    · exact .inr ⟨f, rfl, hcalled⟩
    · have hrelayed : s.Passes { u with
          out := u.out.relay result.stdout, err := u.err.relay result.stderr } [.noBuildNeeded] :=
        hcalled.quiet rfl
      exact .inl ⟨result, hanswer.symm, rfl, hrelayed.enter _⟩

theorem writeDependencies_course (source : Path) (s : Session σ) :
    let r := BuildM.run (b.writeDependencies source) s
    (∃ o, (o = ⟨.done, 0⟩ ∨ ∃ name, o = ⟨.failed (.missingHeader name), 65⟩) ∧ r.1 = .ok o ∧
        s.Passes r.2 [.scanningDependencies, o.state]) ∨
      ∃ f, r.1 = .error f ∧ s.Passes r.2 [.scanningDependencies] := by
  have hentered := s.passes_enter .scanningDependencies
  cases hnames : s.host.includesOf source with
  | error f =>
    have hquiet := (note_stage (n := .scanningSource source) rfl).passes hentered
    refine .inr ⟨f, ?_, ?_⟩
    · simp [writeDependencies, run_bind, hnames]
    · simpa [writeDependencies, run_bind, hnames] using hquiet
  | ok names =>
    rw [b.run_writeDependencies hnames]
    have hscanned : s.Passes (b.scanned source names s) [.scanningDependencies] := by
      refine ⟨?_, rfl⟩
      simp only [scanned, moves_append, SearchPath.moves_collect, List.append_nil]
      exact (List.append_nil _).trans ((List.append_nil _).trans hentered.moves)
    obtain ⟨o, ho, hanswer, hstates⟩ | ⟨f, hanswer, hstates⟩ :=
      b.conclude_closes (b.found s.host.files names) (b.scanned source names s)
    · exact .inl ⟨o, ho, hanswer, hscanned.trans hstates⟩
    · exact .inr ⟨f, hanswer, hscanned.trans hstates⟩

/-- How far a compile gets is decided by the two answers and, when a tool has failed or has
something to show, by the sinks. -/
theorem compile_course (source : Path) (w : Workspace) (s : Session σ) :
    let first := b.preprocessCall source (w.filePath source)
    let second := b.translateCall source (w.filePath source)
    let r := BuildM.run (b.compile source w) s
    (∃ result, b.runner.answer first (s.tools, s.host) = .ok result ∧ result.code ≠ 0 ∧
        r.1 = .ok ⟨.failed (.preprocessor result.code), result.code⟩ ∧
        s.Passes r.2 [.preprocessing, .failed (.preprocessor result.code)]) ∨
      (∃ result result', b.runner.answer first (s.tools, s.host) = .ok result ∧ result.code = 0 ∧
        b.runner.answer second (b.runner.after [first] (s.tools, s.host)) = .ok result' ∧
        r.1 = .ok ⟨translatorState result'.code, result'.code⟩ ∧
        s.Passes r.2 [.preprocessing, .translating, translatorState result'.code]) ∨
      ∃ f, r.1 = .error f ∧
        (s.Passes r.2 [.preprocessing] ∨ s.Passes r.2 [.preprocessing, .translating]) := by
  intro first second r
  have hstart : s.Passes (stored source w s) [] :=
    Session.passes_nil_iff.mpr (stage_notes s rfl)
  obtain ⟨hanswer, hafter⟩ := b.preprocess_after source (w.filePath source) (stored source w s)
  have hpass : s.Passes
      (BuildM.run (b.preprocess source (w.filePath source)) (stored source w s)).2
      [.preprocessing] := by
    unfold preprocess
    rw [run_bind, run_transition]
    exact (callTool_stage b.runner .preprocessor _).passes (hstart.enter .preprocessing)
  have hpass' {t : Session σ} (h : s.Passes t [.preprocessing]) : s.Passes
      (BuildM.run (b.translate source (w.filePath source)) t).2 [.preprocessing, .translating] := by
    unfold translate
    rw [run_bind, run_transition]
    exact (callTool_stage b.runner .translator _).passes (h.enter .translating)
  have hgoes : b.Goes source w s r := b.compile_goes source w s
  generalize r = r at hgoes ⊢
  cases hgoes with
  | notPreprocessed hp =>
    rw [hp] at hpass
    exact .inr (.inr ⟨_, rfl, .inl hpass⟩)
  | @gaveUp result t hp hcode =>
    rw [hp] at hanswer hpass
    obtain ⟨o, rfl, hgave, hstates⟩ | ⟨f, hgave, hstates⟩ := giveUp_closes result t
    · exact .inl ⟨result, hanswer.symm, hcode, hgave, hpass.trans hstates⟩
    · exact .inr (.inr ⟨f, hgave, .inl (hpass.trans hstates)⟩)
  | @notTranslated result f t u hp hcode ht =>
    rw [hp] at hpass
    have hpassed := hpass' hpass
    rw [ht] at hpassed
    exact .inr (.inr ⟨f, rfl, .inr hpassed⟩)
  | @delivered result result' t u hp hcode ht =>
    obtain ⟨hanswer', -⟩ := b.translate_after source (w.filePath source) t
    rw [hp] at hanswer hafter hpass
    have hpassed := hpass' hpass
    rw [ht] at hanswer' hpassed
    have hsecond : b.runner.answer second (b.runner.after [first] (s.tools, s.host)) =
        .ok result' := by
      rw [← stored_tools source w s, ← stored_host source w s, ← hafter]
      exact hanswer'.symm
    obtain ⟨o, rfl, hgave, hstates⟩ | ⟨f, hgave, hstates⟩ := b.deliver_closes source w result' u
    · exact .inr (.inl ⟨result, result', hanswer.symm, hcode, hsecond, hgave,
        hpassed.trans hstates⟩)
    · exact .inr (.inr ⟨f, hgave, .inr (hpassed.trans hstates)⟩)

/-! ## Whole runs -/

/-- The states that a run enters when nothing breaks it off. -/
inductive Sequence : List BuildState → Prop
  | dry : Sequence [.done]
  | listed : Sequence [.scanningDependencies, .done]
  | missing (name : Text) : Sequence [.scanningDependencies, .failed (.missingHeader name)]
  | passed : Sequence [.noBuildNeeded, .done]
  | notPassed (code : Int) : code ≠ 0 → Sequence [.noBuildNeeded, .failed (.translator code)]
  | notPreprocessed (code : Int) : code ≠ 0 →
      Sequence [.preprocessing, .failed (.preprocessor code)]
  | translated : Sequence [.preprocessing, .translating, .done]
  | notTranslated (code : Int) : code ≠ 0 →
      Sequence [.preprocessing, .translating, .failed (.translator code)]

/-- Which course a build takes from a session, and its outcome. A tool's code comes from the tool's
own answer. -/
inductive Course (s : Session σ) : List BuildState → Outcome → Prop
  | dry {source : Path} : b.request.source? = some source → b.request.mode = .compile →
      b.request.dryRun = true → Course s [.done] ⟨.done, 0⟩
  | listed {source : Path} : b.request.source? = some source →
      b.request.mode = .dependencyOnly → Course s [.scanningDependencies, .done] ⟨.done, 0⟩
  | missing {source : Path} {name : Text} : b.request.source? = some source →
      b.request.mode = .dependencyOnly →
      Course s [.scanningDependencies, .failed (.missingHeader name)]
        ⟨.failed (.missingHeader name), 65⟩
  | passed {result : ToolResult} : b.request.source? = none →
      b.runner.answer b.passThroughCall (s.tools, s.host) = .ok result → result.code = 0 →
      Course s [.noBuildNeeded, .done] ⟨.done, 0⟩
  | notPassed {result : ToolResult} : b.request.source? = none →
      b.runner.answer b.passThroughCall (s.tools, s.host) = .ok result → result.code ≠ 0 →
      Course s [.noBuildNeeded, .failed (.translator result.code)]
        ⟨.failed (.translator result.code), result.code⟩
  | notPreprocessed {source : Path} {w : Workspace} {h : Host} {result : ToolResult} :
      b.compiled? = some source →
      Workspace.create (b.workspaceParent s.host) s.host = .ok (w, h) →
      b.runner.answer (b.preprocessCall source (w.filePath source)) (s.tools, h) = .ok result →
      result.code ≠ 0 →
      Course s [.preprocessing, .failed (.preprocessor result.code)]
        ⟨.failed (.preprocessor result.code), result.code⟩
  | translated {source : Path} {w : Workspace} {h : Host} {result result' : ToolResult} :
      b.compiled? = some source →
      Workspace.create (b.workspaceParent s.host) s.host = .ok (w, h) →
      b.runner.answer (b.preprocessCall source (w.filePath source)) (s.tools, h) = .ok result →
      result.code = 0 →
      b.runner.answer (b.translateCall source (w.filePath source))
        (b.runner.after [b.preprocessCall source (w.filePath source)] (s.tools, h)) = .ok result' →
      result'.code = 0 → Course s [.preprocessing, .translating, .done] ⟨.done, 0⟩
  | notTranslated {source : Path} {w : Workspace} {h : Host} {result result' : ToolResult} :
      b.compiled? = some source →
      Workspace.create (b.workspaceParent s.host) s.host = .ok (w, h) →
      b.runner.answer (b.preprocessCall source (w.filePath source)) (s.tools, h) = .ok result →
      result.code = 0 →
      b.runner.answer (b.translateCall source (w.filePath source))
        (b.runner.after [b.preprocessCall source (w.filePath source)] (s.tools, h)) = .ok result' →
      result'.code ≠ 0 →
      Course s [.preprocessing, .translating, .failed (.translator result'.code)]
        ⟨.failed (.translator result'.code), result'.code⟩

/-- What an outcome says of the states that were entered. -/
structure Told (states : List BuildState) (o : Outcome) : Prop where
  sequence : Sequence states
  last : states.getLast? = some o.state
  isEnd : o.state.isEnd = true
  success : o.exitCode = 0 ↔ o.state = .done
  preprocessor : ∀ code, o.state = .failed (.preprocessor code) → o.exitCode = code ∧ code ≠ 0
  translator : ∀ code, o.state = .failed (.translator code) → o.exitCode = code ∧ code ≠ 0
  missingHeader : ∀ name, o.state = .failed (.missingHeader name) → o.exitCode = 65

/-- What is entered by a run that a fault breaks off. -/
structure BrokenOff (s : Session σ) (states : List BuildState) : Prop where
  begins : ∃ full, Sequence full ∧ states <+: full
  unfinished : ∀ state ∈ states, state.isEnd = false
  unmade : ∀ source f, b.compiled? = some source →
    Workspace.create (b.workspaceParent s.host) s.host = .error f → states = []

variable {b} {s : Session σ} {states : List BuildState} {o : Outcome}

theorem Course.told (h : b.Course s states o) : Told states o := by
  cases h with
  | dry => exact ⟨.dry, rfl, rfl, by simp, by simp, by simp, by simp⟩
  | listed => exact ⟨.listed, rfl, rfl, by simp, by simp, by simp, by simp⟩
  | missing => exact ⟨.missing _, rfl, rfl, by simp, by simp, by simp, by simp⟩
  | passed => exact ⟨.passed, rfl, rfl, by simp, by simp, by simp, by simp⟩
  | notPassed _ _ hcode =>
    exact ⟨.notPassed _ hcode, rfl, rfl, by simpa using hcode, by simp, by simp [hcode], by simp⟩
  | notPreprocessed _ _ _ hcode =>
    exact ⟨.notPreprocessed _ hcode, rfl, rfl, by simpa using hcode, by simp [hcode], by simp,
      by simp⟩
  | translated => exact ⟨.translated, rfl, rfl, by simp, by simp, by simp, by simp⟩
  | notTranslated _ _ _ _ _ hcode =>
    exact ⟨.notTranslated _ hcode, rfl, rfl, by simpa using hcode, by simp, by simp [hcode],
      by simp⟩

variable (b) (s)

/-- A run has taken a course to its end, or it was broken off. -/
def Ends : Prop :=
  (∃ o states, (BuildM.run b.run s).1 = .ok o ∧ s.Passes (BuildM.run b.run s).2 states ∧
    b.Course s states o) ∨
  ∃ f states, (BuildM.run b.run s).1 = .error f ∧ s.Passes (BuildM.run b.run s).2 states ∧
    b.BrokenOff s states

variable {b} {s}

theorem ends_passThrough (hsource : b.request.source? = none) : b.Ends s := by
  have hnone (source : Path) : b.compiled? ≠ some source := by
    simp [compiled?_eq_some_iff, hsource]
  let start : Session σ := { s with notes := s.notes ++ [.noBuildNeeded] }
  have hstart : s.Passes start [] := Session.passes_nil_iff.mpr (stage_notes s rfl)
  have hrun : BuildM.run b.run s = BuildM.run b.passThrough start := by
    simp only [Build.run, hsource, run_bind, run_note, start]
  unfold Ends
  rw [hrun]
  obtain ⟨result, hanswer, hok, hstates⟩ | ⟨f, hfault, hstates⟩ := b.passThrough_course start
  · refine .inl ⟨_, _, hok, hstart.trans hstates, ?_⟩
    unfold translatorState
    split
    next hcode =>
      rw [hcode]
      exact .passed hsource hanswer hcode
    next hcode => exact .notPassed hsource hanswer hcode
  · exact .inr ⟨f, _, hfault, hstart.trans hstates, ⟨_, .passed, by simp⟩,
      by simp [BuildState.isEnd], fun source _ h => absurd h (hnone source)⟩

theorem ends_dependencyOnly {source : Path} (hsource : b.request.source? = some source)
    (hmode : b.request.mode = .dependencyOnly) : b.Ends s := by
  unfold Ends
  rw [b.run_dependencyOnly hsource hmode]
  obtain ⟨o, ho, hok, hstates⟩ | ⟨f, hfault, hstates⟩ := b.writeDependencies_course source s
  · refine .inl ⟨o, _, hok, hstates, ?_⟩
    rcases ho with rfl | ⟨name, rfl⟩
    · exact .listed hsource hmode
    · exact .missing hsource hmode
  · exact .inr ⟨f, _, hfault, hstates, ⟨_, .listed, by simp⟩, by simp [BuildState.isEnd],
      by simp [compiled?, hmode]⟩

theorem ends_dry {source : Path} (hsource : b.request.source? = some source)
    (hmode : b.request.mode = .compile) (hdry : b.request.dryRun = true) : b.Ends s := by
  let t : Session σ := { s with notes := s.notes ++ [.buildNeeded] ++ [.dryRun] }
  have ht : s.Passes t [] := Session.passes_nil_iff.mpr
    ((stage_notes { s with notes := s.notes ++ [.buildNeeded] } rfl).trans (stage_notes s rfl))
  have hrun : BuildM.run b.run s = (.ok ⟨.done, 0⟩, t.enter .done) := by
    simp [Build.run, hsource, hmode, hdry, run_bind, t]
  unfold Ends
  rw [hrun]
  exact .inl ⟨_, _, rfl, ht.enter .done, .dry hsource hmode hdry⟩

theorem ends_compiled {source : Path} (hcompiled : b.compiled? = some source) : b.Ends s := by
  obtain ⟨hsource, hmode, hdry⟩ := b.compiled?_eq_some_iff.mp hcompiled
  unfold Ends
  rw [b.run_compiling hsource hmode hdry]
  cases hw : Workspace.create (b.workspaceParent s.host) s.host with
  | error f =>
    exact .inr ⟨f, [], rfl, Session.passes_nil_iff.mpr (stage_notes s rfl), ⟨_, .dry, by simp⟩,
      by simp, fun _ _ _ _ => rfl⟩
  | ok made =>
    obtain ⟨w, h⟩ := made
    have hstart : s.Passes (started w h s) [] :=
      Session.passes_nil_iff.mpr ((stage_notes _ rfl).trans (stage_notes s rfl))
    have passes {t : Session σ} {states : List BuildState}
        (h : (started w h s).Passes t states) : s.Passes (release w t) states :=
      (hstart.trans h).quiet (release_stage w t)
    -- A fault that comes later is not one of making the workspace.
    have hmade {states : List BuildState} (hend : ∀ state ∈ states, state.isEnd = false)
        (hbegins : states <+: [.preprocessing, .translating, .done]) : b.BrokenOff s states :=
      ⟨⟨_, .translated, hbegins⟩, hend, fun _ f _ hf => by simp [hw] at hf⟩
    dsimp only
    rw [run_compileIn]
    obtain ⟨result, hanswer, hcode, hok, hstates⟩ |
      ⟨result, result', hanswer, hcode, hanswer', hok, hstates⟩ |
      ⟨f, hfault, hstates | hstates⟩ := b.compile_course source w (started w h s)
    · exact .inl ⟨_, _, hok, passes hstates, .notPreprocessed hcompiled hw hanswer hcode⟩
    · refine .inl ⟨_, _, hok, passes hstates, ?_⟩
      unfold translatorState
      split
      next hcode' =>
        rw [hcode']
        exact .translated hcompiled hw hanswer hcode hanswer' hcode'
      next hcode' => exact .notTranslated hcompiled hw hanswer hcode hanswer' hcode'
    · exact .inr ⟨f, _, hfault, passes hstates, hmade (by simp [BuildState.isEnd]) (by simp)⟩
    · exact .inr ⟨f, _, hfault, passes hstates, hmade (by simp [BuildState.isEnd]) (by simp)⟩

theorem run_ends : b.Ends s := by
  cases hsource : b.request.source? with
  | none => exact ends_passThrough hsource
  | some source =>
    cases hmode : b.request.mode with
    | dependencyOnly => exact ends_dependencyOnly hsource hmode
    | compile =>
      cases hdry : b.request.dryRun with
      | true => exact ends_dry hsource hmode hdry
      | false => exact ends_compiled (b.compiled?_eq_some_iff.mpr ⟨hsource, hmode, hdry⟩)

variable (b) (s)

/-- **The course of a run.** The states that a run enters are those of one of eight sequences, or,
when a fault breaks it off, those at the beginning of one. It has an outcome exactly when it enters
a last state, which is the state of the outcome; the exit code is 0 when that is `done`, and
otherwise the code of the tool that failed, or 65 for a missing header. -/
theorem run_course : ∃ states, s.Passes (BuildM.run b.run s).2 states ∧
    ((∃ o, (BuildM.run b.run s).1 = .ok o) ↔ ∃ state ∈ states, state.isEnd = true) ∧
    (∀ o, (BuildM.run b.run s).1 = .ok o → b.Course s states o ∧ Told states o) ∧
    ∀ f, (BuildM.run b.run s).1 = .error f → b.BrokenOff s states := by
  obtain ⟨o, states, hrun, hstates, hcourse⟩ | ⟨f, states, hrun, hstates, hbroken⟩ := run_ends
  · refine ⟨states, hstates, ?_, ?_, by simp [hrun]⟩
    · have htold := hcourse.told
      exact iff_of_true ⟨o, hrun⟩ ⟨o.state, List.mem_of_getLast? htold.last, htold.isEnd⟩
    · intro o' ho'
      obtain rfl := Except.ok.inj (hrun.symm.trans ho')
      exact ⟨hcourse, hcourse.told⟩
  · refine ⟨states, hstates, iff_of_false ?_ ?_, by simp [hrun], fun _ _ => hbroken⟩
    · simp [hrun]
    · rintro ⟨state, hmem, hend⟩
      simp [hbroken.unfinished state hmem] at hend

end Build

end KarelBuild
