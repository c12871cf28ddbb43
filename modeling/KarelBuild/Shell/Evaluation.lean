import KarelBuild.Shell.Schedule
import KarelBuild.Shell.Startup
import KarelBuild.Shell.Utility

/-!
# Running programs

Statements, texts and programs are carried out by each other, one level deeper each time. A program
that is run on a host ends with an exit code or by a signal, and leaves what it wrote and the files as
they are then.
-/

namespace KarelBuild.Shell

open ShellM

/-- Run a native program to its end. -/
def runNative (m : Machine) (l : Launch) : ShellM Unit := do
  match Startup.dialect? l.program with
  | some d => Startup.runShell m d l
  | none =>
    modifyShell fun p => { p with isShell := false, name := l.name, args := l.args, line := 1 }
    match Utility.find? l.program with
    | some u =>
      tryCatch (do setStatus (← u m l.args)) fun leave => do
        match leave with
        | .exit => pure ()
        | leave => throw leave
      Utility.flush
    | none => setStatus 127

/-- Carry out a task; what is nested in it is carried out by `m`. -/
def carryOut (m : Machine) : Task → ShellM Unit
  | .statement flags s => runStatement m flags s
  | .redirected redirections flags s => runRedirected m flags redirections s
  | .text flags source => evalText m flags source
  | .textAt flags line source => evalTextFrom m flags line source
  | .program l => runNative m l

/-- Carry out tasks that nest at most `depth` deep. -/
def eval : (depth : Nat) → Machine
  | 0, _ => throw .outOfSteps
  | n + 1, t => carryOut (eval n) t

/-! ## A program and its host -/

def maxNested : Nat := 20000

structure Finished where
  ending : Ending
  out : Octets
  err : Octets
  tree : FileTree

/-- A world in which descriptors 0 to 2 are open: nothing to read, and two streams to write to. Merged
output goes to one file. -/
def startWorld (merged : Bool) (t : FileTree) : World :=
  let writes (target : Target) : Opened := ⟨target, 0, false, merged, true⟩
  { tree := t
    streams := #[{ isOuter := true }, { isOuter := true }]
    opened := #[⟨.device .null, 0, false, true, false⟩, writes (if merged then .nameless 0 else .stream 0),
      writes (.stream 1)]
    processes := 2
    living := [{ number := 1, parent := 0, group := 1, held := [] }] }

/-- Whether all that matters has happened: the process is over, and either nobody is left who can write to
the streams, or the output is merged and nobody has to wait for the streams. -/
def isEnough (merged timePasses : Bool) (w : World) : Bool :=
  (w.living? 2).isNone && (if merged then timePasses else !w.isHeld true 0 && !w.isHeld true 1)

def maxSteps : Nat := 0x1000000000000

/-- Run a program on a host. -/
def runLaunch (merged : Bool) (h : Host) (l : Launch) : Finished :=
  let vars := h.environment.map fun (name, value) =>
    (name, { content := .text (Octets.ofText value), exported := true : Variable })
  let p : Process := {
    number := 2, root := 2, parent := 1, workDir := h.workDir, vars
    descriptors := [(0, 0), (1, 1), (2, if merged then 1 else 2)] }
  let w := (startWorld merged h.tree).start p (.program l)
  let w := Schedule.goOn (eval maxNested) (isEnough merged) maxSteps ⟨w, []⟩
  ⟨(w.ended.lookup 2).getD (.signal 9), (w.stream 0).text, (w.stream 1).text, w.tree⟩

end KarelBuild.Shell
