import KarelBuild.Runner
import KarelBuild.Shell.Evaluation

/-!
# Running what is installed

The tools are programs on the host. A tool that cannot be started is a fault; one that was killed
counts as failed with code 1. A merged capture needs a place for its file first.
-/

namespace KarelBuild

namespace Installed

/-- Whether a nameless file can be made in the directory for temporary files. -/
def captureFile (h : Host) : Except OsError Unit :=
  if h.tempDir = [] then h.workPath.map fun _ => ()
  else
    (h.tree.stat h.workDir h.tempDir).bind fun
      | (_, .dir) => .ok ()
      | _ => .error .notDirectory

def prepare (manner : Manner) (h : Host) : Except Fault Unit :=
  match manner with
  | .captureMerged => refusedDuring .creatingCapture (captureFile h)
  | _ => .ok ()

def programDirs (h : Host) : List Path :=
  ((h.var? "PATH").map (Text.split ':')).getD Launch.defaultDirs

def hasNul (c : Command) : Bool := (c.program :: c.args).any (·.contains '\x00')

def find (h : Host) (c : Command) : Except OsError Launch :=
  if hasNul c then .error .nulInArgument
  else
    let args := c.args.map Octets.ofText
    let settings := h.environment.map fun (name, value) => Octets.ofText (name ++ '=' :: value)
    Launch.limited (Octets.ofText c.program :: args ++ settings)
      (Launch.find h.tree h.workDir (programDirs h) c.program args)

def resultOf (f : Shell.Finished) : ToolResult :=
  let code := match f.ending with
    | .code n => (n % 256 : Nat)
    | .signal _ => 1
  ⟨Int.ofNat code, Octets.toText f.out, Octets.toText f.err⟩

end Installed

/-- Runs the programs that are installed on the host. -/
def Runner.installed : Runner Unit where
  run call _ h :=
    let launch := do
      Installed.prepare call.manner h
      refusedDuring (.startingTool call.command.program) (Installed.find h call.command)
    match launch with
    | .error f => (.error f, (), h)
    | .ok l =>
      let finished := Shell.runLaunch (call.manner == .captureMerged) h l
      (.ok (Installed.resultOf finished), (), h.setTree finished.tree)

end KarelBuild
