import KarelBuild.BuildState
import KarelBuild.Runner
import KarelBuild.Sink

/-!
# Sessions

A session is what a build changes while it runs: the host, the runner's state, the two sinks, the
stage it is in and the notes made. A fault ends a build, but what was done until then stays done.
-/

namespace KarelBuild

structure Session (σ : Type) where
  host : Host
  tools : σ
  out : Sink
  err : Sink
  state : BuildState
  notes : List Note

abbrev BuildM (σ : Type) := ExceptT Fault (StateM (Session σ))

namespace BuildM

variable {σ : Type}

def run {α : Type} (m : BuildM σ α) (s : Session σ) : Except Fault α × Session σ := m s

def note (n : Note) : BuildM σ Unit := modify fun s => { s with notes := s.notes ++ [n] }

def noteAll (ns : List Note) : BuildM σ Unit := modify fun s => { s with notes := s.notes ++ ns }

def host : BuildM σ Host := return (← get).host

/-- Take over a result that may be a fault. -/
def orFault {α : Type} (r : Except Fault α) : BuildM σ α := ExceptT.mk (pure r)

/-- Say what a fault broke off. -/
def during {α : Type} (activity : Activity) (m : BuildM σ α) : BuildM σ α :=
  ExceptT.mk (do return (← ExceptT.run m).mapError (.during activity))

/-- Enter the next stage. -/
def transition (next : BuildState) : BuildM σ Unit :=
  modify fun s =>
    { s with notes := s.notes ++ [.transition s.state next], state := next }

/-- Enter the last stage. -/
def finish (state : BuildState) (exitCode : Int) : BuildM σ Outcome := do
  transition state
  return ⟨state, exitCode⟩

/-! ## Output -/

def writeOut (t : Text) : BuildM σ Unit :=
  ExceptT.mk (modifyGet fun s => ((s.out.write t).1, { s with out := (s.out.write t).2 }))

def flushOut : BuildM σ Unit := do orFault (← get).out.flush

def writeErr (t : Text) : BuildM σ Unit :=
  ExceptT.mk (modifyGet fun s => ((s.err.write t).1, { s with err := (s.err.write t).2 }))

def flushErr : BuildM σ Unit := do orFault (← get).err.flush

/-- Give a file new contents on the host; a device that stands for a stream hands the text on. -/
def writeHostFile (p : Path) (t : Text) : BuildM σ Unit := do
  match (← host).device? p with
  | some (.descriptor 1) => writeOut t
  | some (.descriptor 2) => writeErr t
  | _ =>
    ExceptT.mk (modifyGet fun s =>
      ((s.host.writeText p t).1, { s with host := (s.host.writeText p t).2 }))

/-! ## Tools -/

/-- Start a tool and wait for it, with a note before and a note after. -/
def callTool (r : Runner σ) (tool : Tool) (call : Call) : BuildM σ ToolResult := do
  note (.starting tool call.command)
  let result ← ExceptT.mk (modifyGet fun s =>
    let (result, tools, host) := r.run call s.tools s.host
    (result, { s with tools, host }))
  note (.ended tool result.code)
  return result

end BuildM

end KarelBuild
