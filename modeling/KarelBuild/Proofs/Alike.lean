import KarelBuild.Proofs.Session

/-!
# Two runs side by side

Two sessions that differ in their state and notes only, and whose runners answer alike, are led to the
same by the same build (`agree_run`): no step looks at the state, and none at the notes.
-/

namespace KarelBuild

/-- Runners whose states are related give the same answers, leave the same host and stay related. -/
structure Runner.Alike {σ τ : Type} (r : Runner σ) (r' : Runner τ) (rel : σ → τ → Prop) : Prop where
  answer : ∀ {s t}, rel s t → ∀ call h, (r.run call s h).1 = (r'.run call t h).1
  host : ∀ {s t}, rel s t → ∀ call h, (r.run call s h).2.2 = (r'.run call t h).2.2
  state : ∀ {s t}, rel s t → ∀ call h, rel (r.run call s h).2.1 (r'.run call t h).2.1

/-- The same calls were recorded, behind those that were there before. -/
def Recorded {σ τ : Type} (rel : σ → τ → Prop) (before before' : List Call)
    (s : σ × List Call) (t : τ × List Call) : Prop :=
  rel s.1 t.1 ∧ ∃ calls, s.2 = before ++ calls ∧ t.2 = before' ++ calls

/-- To record the calls makes no difference. -/
theorem Runner.Alike.recording {σ τ : Type} {r : Runner σ} {r' : Runner τ} {rel : σ → τ → Prop}
    (h : r.Alike r' rel) (before before' : List Call) :
    r.recording.Alike r'.recording (Recorded rel before before') where
  answer hst call host := h.answer hst.1 call host
  host hst call host := h.host hst.1 call host
  state hst call host := by
    obtain ⟨hrel, calls, hs, ht⟩ := hst
    exact ⟨h.state hrel call host, calls ++ [call], by simp [run_recording, hs],
      by simp [run_recording, ht]⟩

/-- Everything but the state and the notes is the same. -/
structure Session.Alike {σ τ : Type} (rel : σ → τ → Prop) (s : Session σ) (t : Session τ) :
    Prop where
  host : s.host = t.host
  tools : rel s.tools t.tools
  out : s.out = t.out
  err : s.err = t.err

namespace BuildM

variable {σ τ α β : Type} {rel : σ → τ → Prop}

/-- From sessions that are alike the programs give the same answer and come to sessions that are
alike. -/
def Agree (rel : σ → τ → Prop) (m : BuildM σ α) (m' : BuildM τ α) : Prop :=
  ∀ s t, Session.Alike rel s t →
    (BuildM.run m s).1 = (BuildM.run m' t).1 ∧
      Session.Alike rel (BuildM.run m s).2 (BuildM.run m' t).2

theorem Agree.bind {m : BuildM σ α} {m' : BuildM τ α} {f : α → BuildM σ β} {f' : α → BuildM τ β}
    (hm : Agree rel m m') (hf : ∀ a, Agree rel (f a) (f' a)) : Agree rel (m >>= f) (m' >>= f') := by
  intro s t hst
  obtain ⟨hanswer, hleft⟩ := hm s t hst
  rw [run_bind, run_bind]
  rcases hs : BuildM.run m s with ⟨_ | a, s'⟩ <;> rcases ht : BuildM.run m' t with ⟨_ | a', t'⟩ <;>
    rw [hs, ht] at hanswer hleft
  · exact ⟨congrArg _ (Except.error.inj hanswer), hleft⟩
  · simp at hanswer
  · simp at hanswer
  · obtain rfl := Except.ok.inj hanswer
    exact hf a s' t' hleft

theorem agree_pure (a : α) : Agree rel (pure a) (pure a) := fun _ _ h => ⟨rfl, h⟩

theorem agree_throw (f : Fault) : Agree rel (throw f : BuildM σ α) (throw f) := fun _ _ h => ⟨rfl, h⟩

theorem agree_orFault (r : Except Fault α) : Agree rel (orFault r) (orFault r) := fun _ _ h => ⟨rfl, h⟩

theorem agree_host : Agree rel host host := fun _ _ h => ⟨congrArg Except.ok h.host, h⟩

theorem agree_note (n : Note) : Agree rel (note n) (note n) := fun _ _ h => ⟨rfl, { h with }⟩

theorem agree_noteAll (ns : List Note) : Agree rel (noteAll ns) (noteAll ns) :=
  fun _ _ h => ⟨rfl, { h with }⟩

theorem agree_transition (next : BuildState) : Agree rel (transition next) (transition next) :=
  fun _ _ h => ⟨rfl, { h with }⟩

theorem agree_finish (state : BuildState) (code : Int) :
    Agree rel (finish state code) (finish state code) :=
  .bind (agree_transition state) fun _ => agree_pure _

theorem agree_writeOut (text : Text) : Agree rel (writeOut text) (writeOut text) := by
  intro s t h
  simp only [run_writeOut, h.out]
  exact ⟨trivial, { h with out := rfl }⟩

theorem agree_writeErr (text : Text) : Agree rel (writeErr text) (writeErr text) := by
  intro s t h
  simp only [run_writeErr, h.err]
  exact ⟨trivial, { h with err := rfl }⟩

theorem agree_flushOut : Agree rel flushOut flushOut := by
  intro s t h
  simp only [run_flushOut, h.out]
  exact ⟨trivial, h⟩

theorem agree_flushErr : Agree rel flushErr flushErr := by
  intro s t h
  simp only [run_flushErr, h.err]
  exact ⟨trivial, h⟩

theorem agree_during (activity : Activity) {m : BuildM σ α} {m' : BuildM τ α}
    (hm : Agree rel m m') : Agree rel (during activity m) (during activity m') := by
  intro s t h
  obtain ⟨hanswer, hleft⟩ := hm s t h
  exact ⟨congrArg (Except.mapError _) hanswer, hleft⟩

theorem agree_relay (result : ToolResult) :
    Agree rel
      (modify fun s => { s with out := s.out.relay result.stdout, err := s.err.relay result.stderr })
      (modify fun s =>
        { s with out := s.out.relay result.stdout, err := s.err.relay result.stderr }) := by
  intro s t h
  exact ⟨rfl, { h with out := congrArg (Sink.relay · _) h.out, err := congrArg (Sink.relay · _) h.err }⟩

theorem agree_ite {c : Prop} [Decidable c] {m n : BuildM σ α} {m' n' : BuildM τ α}
    (hm : c → Agree rel m m') (hn : ¬ c → Agree rel n n') :
    Agree rel (if c then m else n) (if c then m' else n') := by
  by_cases hc : c
  · rw [if_pos hc, if_pos hc]
    exact hm hc
  · rw [if_neg hc, if_neg hc]
    exact hn hc

theorem agree_writeHostFile (p : Path) (text : Text) :
    Agree rel (writeHostFile p text) (writeHostFile p text) := by
  intro s t h
  rw [run_writeHostFile, run_writeHostFile, h.host]
  cases t.host.outletOf p with
  | output => exact agree_writeOut text s t h
  | errors => exact agree_writeErr text s t h
  | file q =>
    simp only [Session.send, h.host]
    exact ⟨trivial, { h with host := rfl }⟩

theorem agree_callTool {r : Runner σ} {r' : Runner τ} (hr : r.Alike r' rel) (tool : Tool)
    (call : Call) : Agree rel (callTool r tool call) (callTool r' tool call) := by
  refine .bind (agree_note _) fun _ => .bind ?_ fun result => .bind (agree_note _) fun _ =>
    agree_pure _
  intro s t h
  simp only [run_modifyGet]
  rw [h.host]
  exact ⟨hr.answer h.tools call t.host,
    { h with tools := hr.state h.tools call t.host, host := hr.host h.tools call t.host }⟩

end BuildM

namespace Build

open BuildM

variable {σ τ : Type} {rel : σ → τ → Prop} (b : Build σ) {r : Runner τ}

/-- The same build with another runner. -/
def withRunner (r : Runner τ) : Build τ where
  request := b.request
  toolchain := b.toolchain
  headers := b.headers
  runner := r
  workspaceRoot := b.workspaceRoot

@[simp] theorem withRunner_request : (b.withRunner r).request = b.request := rfl

@[simp] theorem withRunner_toolchain : (b.withRunner r).toolchain = b.toolchain := rfl

@[simp] theorem withRunner_headers : (b.withRunner r).headers = b.headers := rfl

@[simp] theorem withRunner_runner : (b.withRunner r).runner = r := rfl

@[simp] theorem withRunner_workspaceParent (h : Host) :
    (b.withRunner r).workspaceParent h = b.workspaceParent h := rfl

theorem agree_passThrough (hr : b.runner.Alike r rel) :
    Agree rel b.passThrough (b.withRunner r).passThrough := by
  unfold passThrough
  simp only [withRunner_request, withRunner_toolchain, withRunner_runner]
  refine .bind (agree_transition _) fun _ => agree_ite (fun _ => ?greeted) fun _ => ?silent
  case greeted =>
    exact .bind (agree_writeOut _) fun _ => .bind agree_flushOut fun _ =>
      .bind (agree_callTool hr _ _) fun result => .bind (agree_relay result) fun _ =>
      agree_finish _ _
  case silent =>
    exact .bind (agree_callTool hr _ _) fun result => .bind (agree_relay result) fun _ =>
      agree_finish _ _

theorem agree_writeRule (rule : Rule) :
    Agree rel (b.writeRule rule) ((b.withRunner r).writeRule rule) := by
  unfold writeRule
  rw [withRunner_request]
  cases b.request.dependencyFile with
  | some p => exact agree_writeHostFile p _
  | none => exact agree_during _ (.bind (agree_writeOut _) fun _ => agree_flushOut)

theorem agree_writeDependencies (source : Path) :
    Agree rel (b.writeDependencies source) ((b.withRunner r).writeDependencies source) := by
  unfold writeDependencies
  simp only [withRunner_request, withRunner_headers]
  refine .bind (agree_transition _) fun _ => .bind (agree_note _) fun _ =>
    .bind agree_host fun h => .bind (agree_orFault _) fun names => .bind (agree_note _) fun _ =>
    .bind agree_host fun h' => .bind (agree_noteAll _) fun _ => ?_
  rcases (b.request.searchPath.collect b.headers h'.files b.request.policy names).1 with
    missing | deps
  · exact .bind (agree_writeErr _) fun _ => agree_finish _ _
  · dsimp only
    cases Rule.ofDependencies? (b.request.target?.getD []) deps with
    | none => exact agree_throw _
    | some rule => exact .bind (b.agree_writeRule _) fun _ => agree_finish _ _

theorem agree_writeReport (report : Text) :
    Agree rel (writeReport report) (writeReport report) := by
  refine .bind (agree_during _ (agree_writeOut _)) fun _ => agree_ite (fun _ => ?_) fun _ => ?_
  · exact .bind (agree_writeOut _) fun _ => agree_flushOut
  · exact agree_flushOut

theorem agree_compile (hr : b.runner.Alike r rel) (source : Path) (w : Workspace) :
    Agree rel (b.compile source w) ((b.withRunner r).compile source w) := by
  unfold compile
  simp only [withRunner_request]
  refine .bind (agree_note _) fun _ => .bind ?preprocessed fun preprocessed =>
    agree_ite (fun _ => .bind ?translated fun translated => agree_ite (fun _ => ?shown) fun _ => ?kept)
      fun _ => ?failed
  case preprocessed => exact .bind (agree_transition _) fun _ => agree_callTool hr _ _
  case translated => exact .bind (agree_transition _) fun _ => agree_callTool hr _ _
  case shown => exact .bind (agree_writeReport _) fun _ => agree_finish _ _
  case kept => exact agree_finish _ _
  case failed => exact .bind (agree_writeErr _) fun _ => .bind agree_flushErr fun _ => agree_finish _ _

theorem agree_acquire (parent : Path) : Agree rel (acquire parent) (acquire parent) := by
  refine .bind agree_host fun h => .bind (agree_orFault _) fun made => .bind ?_ fun _ =>
    .bind (agree_note _) fun _ => agree_pure _
  exact fun s t hst => ⟨rfl, { hst with host := rfl }⟩

theorem agree_compileIn (hr : b.runner.Alike r rel) (source : Path) (w : Workspace) :
    Agree rel (b.compileIn source w) ((b.withRunner r).compileIn source w) := by
  intro s t hst
  obtain ⟨hanswer, hleft⟩ := b.agree_compile hr source w s t hst
  exact ⟨hanswer, { hleft with host := congrArg (fun h => (w.cleanup Remover.system h).1) hleft.host }⟩

/-- No step of a run looks at the state or at the notes. -/
theorem agree_run (hr : b.runner.Alike r rel) : Agree rel b.run (b.withRunner r).run := by
  unfold run
  simp only [withRunner_request, withRunner_workspaceParent]
  cases b.request.source? with
  | none => exact .bind (agree_note _) fun _ => b.agree_passThrough hr
  | some source =>
    cases b.request.mode with
    | dependencyOnly => exact b.agree_writeDependencies source
    | compile =>
      refine .bind (agree_note _) fun _ => agree_ite (fun _ => ?dry) fun _ => ?built
      case dry => exact .bind (agree_note _) fun _ => agree_finish _ _
      case built =>
        exact .bind agree_host fun h => .bind (agree_acquire _) fun w =>
          b.agree_compileIn hr source w

end Build

end KarelBuild
