import KarelBuild.Build
import KarelBuild.Proofs.Answers

/-!
# Running the steps of a build

One equation for each step says what it answers and what it does to the session. `Keeps` is for
programs whose effect on one part of the session is nil, however they end, and `Runner.after` for
what calls leave, one after another.
-/

namespace KarelBuild

/-- Where a text can go that a build writes. -/
inductive Outlet where
  | output
  | errors
  | file (p : Path)
  deriving DecidableEq, Repr

/-- A path leads to a file, unless it is a name of one of the two streams. -/
def Host.outletOf (h : Host) (p : Path) : Outlet :=
  match h.device? p with
  | some (.descriptor 1) => .output
  | some (.descriptor 2) => .errors
  | _ => .file p

/-- Write a text to an outlet. -/
def Session.send {σ : Type} (s : Session σ) (o : Outlet) (t : Text) :
    Except Fault Unit × Session σ :=
  match o with
  | .output => ((s.out.write t).1, { s with out := (s.out.write t).2 })
  | .errors => ((s.err.write t).1, { s with err := (s.err.write t).2 })
  | .file p => ((s.host.writeText p t).1, { s with host := (s.host.writeText p t).2 })

/-- The session in its next stage. -/
def Session.enter {σ : Type} (s : Session σ) (next : BuildState) : Session σ :=
  { s with notes := s.notes ++ [.transition s.state next], state := next }

namespace Session

variable {σ : Type} (s : Session σ) (next : BuildState)

@[simp] theorem enter_host : (s.enter next).host = s.host := rfl

@[simp] theorem enter_tools : (s.enter next).tools = s.tools := rfl

@[simp] theorem enter_out : (s.enter next).out = s.out := rfl

@[simp] theorem enter_err : (s.enter next).err = s.err := rfl

@[simp] theorem enter_state : (s.enter next).state = next := rfl

end Session

/-- The same build, with a list kept of the calls to its tools. -/
def Build.recording {σ : Type} (b : Build σ) : Build (σ × List Call) where
  request := b.request
  toolchain := b.toolchain
  headers := b.headers
  runner := b.runner.recording
  workspaceRoot := b.workspaceRoot

/-- What calls made one after another leave of the runner's state and of the host. -/
def Runner.after {σ : Type} (r : Runner σ) (calls : List Call) (start : σ × Host) : σ × Host :=
  calls.foldl (fun left call => (r.run call left.1 left.2).2) start

namespace Runner

variable {σ : Type} (r : Runner σ)

@[simp] theorem after_nil (start : σ × Host) : r.after [] start = start := rfl

theorem after_cons (call : Call) (calls : List Call) (start : σ × Host) :
    r.after (call :: calls) start = r.after calls (r.run call start.1 start.2).2 := rfl

theorem after_append (calls more : List Call) (start : σ × Host) :
    r.after (calls ++ more) start = r.after more (r.after calls start) := List.foldl_append ..

theorem run_recording (call : Call) (tools : σ × List Call) (h : Host) :
    r.recording.run call tools h =
      ((r.run call tools.1 h).1, ((r.run call tools.1 h).2.1, tools.2 ++ [call]),
        (r.run call tools.1 h).2.2) := rfl

/-- Calls that are recorded stand behind those recorded before, whatever comes of them. -/
theorem after_recording (calls : List Call) (tools : σ × List Call) (h : Host) :
    r.recording.after calls (tools, h) =
      (((r.after calls (tools.1, h)).1, tools.2 ++ calls), (r.after calls (tools.1, h)).2) := by
  induction calls generalizing tools h with
  | nil => simp
  | cons call calls ih =>
    simp only [after_cons, run_recording, ih, List.append_assoc, List.singleton_append]

end Runner

/-- Tools that do nothing and succeed. -/
def Runner.idle : Runner Unit where
  run _ tools h := (.ok ⟨0, [], []⟩, tools, h)

namespace BuildM

variable {σ α β γ : Type}

theorem run_bind (m : BuildM σ α) (f : α → BuildM σ β) (s : Session σ) :
    BuildM.run (m >>= f) s = match BuildM.run m s with
      | (.ok a, s') => BuildM.run (f a) s'
      | (.error e, s') => (.error e, s') := by
  simp only [BuildM.run, bind, ExceptT.bind, ExceptT.mk, StateT.bind, ExceptT.bindCont]
  rcases m s with ⟨_ | a, s'⟩ <;> rfl

@[simp] theorem run_pure (a : α) (s : Session σ) :
    BuildM.run (pure a : BuildM σ α) s = (.ok a, s) := rfl

@[simp] theorem run_throw (f : Fault) (s : Session σ) :
    BuildM.run (throw f : BuildM σ α) s = (.error f, s) := rfl

@[simp] theorem run_modify (f : Session σ → Session σ) (s : Session σ) :
    BuildM.run (modify f : BuildM σ PUnit) s = (.ok ⟨⟩, f s) := rfl

@[simp] theorem run_modifyGet (f : Session σ → Except Fault α × Session σ) (s : Session σ) :
    BuildM.run (ExceptT.mk (modifyGet f) : BuildM σ α) s = f s := rfl

@[simp] theorem run_note (n : Note) (s : Session σ) :
    BuildM.run (note n) s = (.ok (), { s with notes := s.notes ++ [n] }) := rfl

@[simp] theorem run_noteAll (ns : List Note) (s : Session σ) :
    BuildM.run (noteAll ns) s = (.ok (), { s with notes := s.notes ++ ns }) := rfl

@[simp] theorem run_host (s : Session σ) :
    BuildM.run (host : BuildM σ Host) s = (.ok s.host, s) := rfl

@[simp] theorem run_orFault (r : Except Fault α) (s : Session σ) :
    BuildM.run (orFault r) s = (r, s) := rfl

@[simp] theorem run_transition (next : BuildState) (s : Session σ) :
    BuildM.run (transition next) s = (.ok (), s.enter next) := rfl

@[simp] theorem run_finish (state : BuildState) (code : Int) (s : Session σ) :
    BuildM.run (finish state code) s = (.ok ⟨state, code⟩, s.enter state) := rfl

@[simp] theorem run_during (activity : Activity) (m : BuildM σ α) (s : Session σ) :
    BuildM.run (during activity m) s =
      ((BuildM.run m s).1.mapError (.during activity), (BuildM.run m s).2) := rfl

@[simp] theorem run_writeOut (t : Text) (s : Session σ) :
    BuildM.run (writeOut t) s = ((s.out.write t).1, { s with out := (s.out.write t).2 }) := rfl

@[simp] theorem run_writeErr (t : Text) (s : Session σ) :
    BuildM.run (writeErr t) s = ((s.err.write t).1, { s with err := (s.err.write t).2 }) := rfl

@[simp] theorem run_flushOut (s : Session σ) :
    BuildM.run (flushOut : BuildM σ Unit) s = (s.out.flush, s) := rfl

@[simp] theorem run_flushErr (s : Session σ) :
    BuildM.run (flushErr : BuildM σ Unit) s = (s.err.flush, s) := rfl

@[simp] theorem run_writeHostFile (p : Path) (t : Text) (s : Session σ) :
    BuildM.run (writeHostFile p t) s = s.send (s.host.outletOf p) t := by
  simp only [writeHostFile, run_bind, run_host, Host.outletOf]
  generalize s.host.device? p = d
  rcases d with _ | d
  · rfl
  · cases d with
    | descriptor n => rcases n with _ | _ | _ | n <;> rfl
    | _ => rfl

/-- A tool is called once, between a note of its start and a note of its end. -/
theorem run_callTool (r : Runner σ) (tool : Tool) (call : Call) (s : Session σ) :
    BuildM.run (callTool r tool call) s = match r.run call s.tools s.host with
      | (.ok result, tools, host) =>
        (.ok result, { s with
          host, tools,
          notes := s.notes ++ [.starting tool call.command] ++ [.ended tool result.code] })
      | (.error f, tools, host) =>
        (.error f, { s with host, tools, notes := s.notes ++ [.starting tool call.command] }) := by
  simp only [callTool, run_bind, run_note, run_modifyGet, run_pure]
  rcases h : r.run call s.tools s.host with ⟨_ | result, tools, host⟩ <;> simp only [h]

/-- A tool that is called answers, and leaves the host, as the one call does. -/
theorem callTool_after (r : Runner σ) (tool : Tool) (call : Call) (s : Session σ) :
    (BuildM.run (callTool r tool call) s).1 = (r.run call s.tools s.host).1 ∧
      ((BuildM.run (callTool r tool call) s).2.tools, (BuildM.run (callTool r tool call) s).2.host) =
        r.after [call] (s.tools, s.host) := by
  rw [run_callTool, Runner.after_cons, Runner.after_nil]
  rcases r.run call s.tools s.host with ⟨_ | result, tools, host⟩ <;> exact ⟨rfl, rfl⟩

/-! ## Answers -/

/-- What a run answers is decided by running it; the session that it leaves need not be known. -/
theorem exists_run {m : BuildM σ α} {s : Session σ} {a : α}
    (h : (BuildM.run m s).1.toOption = some a) : ∃ s', BuildM.run m s = (.ok a, s') :=
  ⟨_, Prod.ext (ok_of_toOption h) rfl⟩

/-! ## Parts that a program keeps -/

/-- However the program ends, this part of the session is what it was. -/
def Keeps (part : Session σ → γ) (m : BuildM σ α) : Prop :=
  ∀ s, part (BuildM.run m s).2 = part s

variable {part : Session σ → γ}

theorem Keeps.bind {m : BuildM σ α} {f : α → BuildM σ β} (hm : Keeps part m)
    (hf : ∀ a, Keeps part (f a)) : Keeps part (m >>= f) := by
  intro s
  have h := hm s
  rw [run_bind]
  rcases hr : BuildM.run m s with ⟨_ | a, s'⟩ <;> rw [hr] at h
  · exact h
  · exact (hf a s').trans h

theorem keeps_pure (a : α) : Keeps part (pure a : BuildM σ α) := fun _ => rfl

theorem keeps_throw (f : Fault) : Keeps part (throw f : BuildM σ α) := fun _ => rfl

theorem keeps_orFault (r : Except Fault α) : Keeps part (orFault r) := fun _ => rfl

theorem keeps_host : Keeps part (host : BuildM σ Host) := fun _ => rfl

end BuildM

end KarelBuild
