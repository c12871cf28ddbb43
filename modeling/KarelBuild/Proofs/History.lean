import KarelBuild.Proofs.Alike
import KarelBuild.Proofs.Course

/-!
# Runs of one build, one after another

Between two runs a build keeps the state that the first one left, a fault's included, and its notes
go on. `memoryAfter` is what it keeps of a whole history. No history can be seen from a later run
(`run_forgets`), except in the notes, where one chain of changes goes through all runs
(`memoryAfter_linked`).
-/

namespace KarelBuild

/-- What a run is given from outside. -/
structure Start (σ : Type) where
  host : Host
  tools : σ
  out : Sink := {}
  err : Sink := {}

/-- What a build keeps from one run to the next. -/
structure Memory where
  state : BuildState := .idle
  notes : List Note := []

/-- Each change begins in the state that the one before has led to. -/
def Chained : BuildState → List (BuildState × BuildState) → Prop
  | _, [] => True
  | here, (before, after) :: rest => before = here ∧ Chained after rest

theorem chained_trail (here : BuildState) (states : List BuildState) :
    Chained here (trail here states) := by
  induction states generalizing here with
  | nil => trivial
  | cons next states ih => exact ⟨rfl, ih next⟩

namespace Session

variable {σ : Type}

/-- A run starts with what the build has kept. -/
def resume (start : Start σ) (m : Memory) : Session σ where
  host := start.host
  tools := start.tools
  out := start.out
  err := start.err
  state := m.state
  notes := m.notes

def memory (s : Session σ) : Memory := ⟨s.state, s.notes⟩

/-- What is kept does not matter for what is alike. -/
theorem resume_alike {τ : Type} {rel : σ → τ → Prop} {start : Start σ} {start' : Start τ}
    (m m' : Memory) (hhost : start.host = start'.host) (htools : rel start.tools start'.tools)
    (hout : start.out = start'.out) (herr : start.err = start'.err) :
    Session.Alike rel (resume start m) (resume start' m') :=
  ⟨hhost, htools, hout, herr⟩

end Session

/-- The notes tell of one chain of changes, from idle to the present state. -/
def Memory.Linked (m : Memory) : Prop :=
  ∃ states, moves m.notes = trail .idle states ∧ m.state = states.getLastD .idle

theorem Memory.linked_new : ({} : Memory).Linked := ⟨[], rfl, rfl⟩

theorem Memory.Linked.chained {m : Memory} (h : m.Linked) : Chained .idle (moves m.notes) := by
  obtain ⟨states, hmoves, -⟩ := h
  rw [hmoves]
  exact chained_trail .idle states

/-- States that are passed one after another go on with the chain. -/
theorem Memory.Linked.passes {σ : Type} {s s' : Session σ} {states : List BuildState}
    (h : s.memory.Linked) (hpass : s.Passes s' states) : s'.memory.Linked := by
  obtain ⟨before, (hmoves : moves s.notes = trail .idle before),
    (hstate : s.state = before.getLastD .idle)⟩ := h
  refine ⟨before ++ states, hpass.moves.trans ?_, hpass.state.trans ?_⟩
  · rw [hmoves, hstate, trail_append]
  · rw [hstate]
    cases states <;> simp [List.getLast?_append]

namespace Build

variable {σ τ : Type} (b : Build σ)

/-- One more run of a build. -/
def runFrom (m : Memory) (start : Start σ) : Except Fault Outcome × Session σ :=
  BuildM.run b.run (.resume start m)

/-- What a build keeps of a history of runs. -/
def memoryAfter (history : List (Start σ)) : Memory :=
  history.foldl (fun m start => (b.runFrom m start).2.memory) {}

theorem memoryAfter_concat (history : List (Start σ)) (later : Start σ) :
    b.memoryAfter (history ++ [later]) = (b.runFrom (b.memoryAfter history) later).2.memory := by
  simp [memoryAfter]

/-- A run goes on with the chain, whether or not a fault ends it. -/
theorem runFrom_linked {m : Memory} (h : m.Linked) (start : Start σ) :
    (b.runFrom m start).2.memory.Linked := by
  have hresumed : (Session.resume start m).memory.Linked := h
  obtain ⟨_, states, -, hpass, -⟩ | ⟨_, states, -, hpass, -⟩ :=
    run_ends (b := b) (s := .resume start m)
  · exact hresumed.passes hpass
  · exact hresumed.passes hpass

theorem memoryAfter_linked (history : List (Start σ)) : (b.memoryAfter history).Linked := by
  induction history using List.reverseRecOn with
  | nil => exact Memory.linked_new
  | append_singleton history later ih =>
    rw [memoryAfter_concat]
    exact b.runFrom_linked ih later

/-- Runs from starts that are alike, whatever has been kept, give the same. -/
theorem runFrom_alike {rel : σ → τ → Prop} {r : Runner τ} (hr : b.runner.Alike r rel)
    {start : Start σ} {start' : Start τ} (m m' : Memory) (hhost : start.host = start'.host)
    (htools : rel start.tools start'.tools) (hout : start.out = start'.out)
    (herr : start.err = start'.err) :
    (b.runFrom m start).1 = ((b.withRunner r).runFrom m' start').1 ∧
      Session.Alike rel (b.runFrom m start).2 ((b.withRunner r).runFrom m' start').2 :=
  b.agree_run hr _ _ (Session.resume_alike m m' hhost htools hout herr)

/-- Two runs with recorded calls that cannot be told apart, but for what was recorded before. -/
structure SameRun (start : Start (σ × List Call)) (start' : Start (τ × List Call))
    (left : Except Fault Outcome × Session (σ × List Call))
    (left' : Except Fault Outcome × Session (τ × List Call)) : Prop where
  result : left.1 = left'.1
  out : left.2.out = left'.2.out
  err : left.2.err = left'.2.err
  host : left.2.host = left'.2.host
  calls : ∃ calls, left.2.tools.2 = start.tools.2 ++ calls ∧
    left'.2.tools.2 = start'.tools.2 ++ calls

/-- **A run does not depend on those before it.** After any history of runs, broken off or not, a
build does what a new one does from the same host with tools that answer alike. In the notes of all
runs together each change of state begins where the one before has ended, and the first in idle. -/
theorem run_forgets {rel : σ → τ → Prop} {r : Runner τ} (hr : b.runner.Alike r rel)
    (history : List (Start (σ × List Call))) (later : Start (σ × List Call))
    (fresh : Start (τ × List Call)) (hhost : later.host = fresh.host)
    (htools : rel later.tools.1 fresh.tools.1) (hout : later.out = fresh.out)
    (herr : later.err = fresh.err) :
    SameRun later fresh (b.recording.runFrom (b.recording.memoryAfter history) later)
        ((b.withRunner r).recording.runFrom {} fresh) ∧
      Chained .idle (moves (b.recording.memoryAfter (history ++ [later])).notes) := by
  refine ⟨?_, (b.recording.memoryAfter_linked _).chained⟩
  obtain ⟨hresult, halike⟩ := b.recording.runFrom_alike
    (hr.recording later.tools.2 fresh.tools.2) (b.recording.memoryAfter history) {} hhost
    ⟨htools, [], by simp, by simp⟩ hout herr
  exact ⟨hresult, halike.out, halike.err, halike.host, halike.tools.2⟩

/-! A translator that is missing at first, and does nothing when it is there. -/

def fitfulRunner : Runner Bool where
  run call missing h :=
    if missing = true ∧ call.manner = .captureMerged then
      (.error (.during (.startingTool call.command.program) (.system .noEntry)), missing, h)
    else (.ok ⟨0, [], []⟩, missing, h)

theorem fitful_alike : fitfulRunner.Alike .idle fun missing _ => missing = false where
  answer h _ _ := by simp [fitfulRunner, Runner.idle, h]
  host h _ _ := by simp [fitfulRunner, Runner.idle, h]
  state h _ _ := by simp [fitfulRunner, h]

def fitfulBuild : Build Bool := twiceBuild.withRunner fitfulRunner

def twiceStart {σ : Type} (tools : σ) : Start (σ × List Call) where
  host := twiceSession.host
  tools := (tools, [])

theorem fitful_forgets :
    (fitfulBuild.recording.memoryAfter [twiceStart true]).state = .translating ∧
      SameRun (twiceStart false) (twiceStart ())
        (fitfulBuild.recording.runFrom (fitfulBuild.recording.memoryAfter [twiceStart true])
          (twiceStart false))
        (twiceBuild.recording.runFrom {} (twiceStart ())) ∧
      Chained .idle
        (moves (fitfulBuild.recording.memoryAfter [twiceStart true, twiceStart false]).notes) :=
  ⟨by decide +kernel, fitfulBuild.run_forgets fitful_alike [twiceStart true] (twiceStart false)
    (twiceStart ()) rfl rfl rfl rfl⟩

end Build

end KarelBuild
