import KarelBuild.Build
import KarelBuild.Config
import KarelBuild.Options.Reading
import KarelBuild.Options.Spelling

/-!
# The command line

One run of the command: the options are read, the configuration is loaded, the tools are located and
the build is run. A run ends with an exit code and what it wrote to its two streams.
-/

namespace KarelBuild

/-- A run that ended. -/
structure Ending where
  exitCode : Nat
  out : Text
  err : Text
  notes : List Note
  deriving DecidableEq, Repr

namespace CommandLine

/-! ## From options to a build -/

/-- An explicit configuration file stands alone. -/
def configOf (o : Options) (h : Host) : Except Fault Config :=
  match o.value? .config with
  | some path => Config.load h path
  | none => do
    let dir ← refusedDuring .findingWorkDir h.workPath
    Config.loadLayers h (some (Config.userPath h)) (Config.projectPath dir)

def verbosityOf (o : Options) : Verbosity :=
  if o.isOn .verbose then .verbose else if o.isOn .quiet then .quiet else .normal

def requestOf (o : Options) (h : Host) : Except Fault Request := do
  let searchPath ← SearchPath.ofDirs h.workPath o.includeDirs
  let request ← Request.ofArgs h.workPath o.args searchPath
  return { request with
    mode := if o.wantsDependencies then .dependencyOnly else .compile
    policy := ⟨o.isOn .userDependencies, o.isOn .tolerateMissing⟩
    phonyTargets := o.isOn .phonyTargets
    explicitTarget := o.value? .target
    dependencyFile := o.value? .dependencyFile
    dryRun := o.isOn .dryRun
    verbosity := verbosityOf o }

def buildOf {σ : Type} (runner : Runner σ) (o : Options) (h : Host) :
    Except Fault (Build σ) := do
  let config ← configOf o h
  let asked : ToolPaths := ⟨o.value? .translator, o.value? .preprocessor⟩
  let toolchain ← Toolchain.detect h asked config.tools
  let request ← requestOf o h
  return { request, toolchain, headers := config.systemHeaders, runner }

/-! ## Endings -/

/-- What the system keeps of an exit code. -/
def shortCode (code : Int) : Nat := (code % 256).toNat

def faultText (f : Fault) : Text := "error: ".toList ++ f.message ++ ['\n']

def faultCode : Nat := 1

/-- A run that was stopped by a fault, with what was written until then. -/
def ended {σ : Type} (result : Except Fault Outcome) (s : Session σ) : Ending :=
  match result with
  | .ok outcome => ⟨shortCode outcome.exitCode, s.out.written, s.err.written, s.notes⟩
  | .error f => ⟨faultCode, s.out.written, s.err.written ++ faultText f, s.notes⟩

def versionText : Text := "ktransw ".toList ++ version ++ ['\n']

def helpText : Text :=
  "Usage: ktransw [OPTIONS] [ARG]...\n\nAll arguments in forward-slash notation except /I are passed on to ktrans.\n".toList

def stopText : Stop → Text
  | .help => helpText
  | .version => versionText
  | .unknownOption => "error: unexpected argument found\n".toList
  | .badValue => "error: a value is required\n".toList
  | .conflict => "error: an argument cannot be used with another\n".toList
  | .surplusValue => "error: unexpected value found\n".toList

/-- Help and version go to the output, all else that is wrong with a command line is an error. -/
def stopped (s : Stop) : Ending :=
  if s.exitCode = 0 then ⟨0, stopText s, [], []⟩
  else ⟨shortCode s.exitCode, [], stopText s, []⟩

/-! ## One run -/

/-- What a run of the command begins with. -/
def start {σ : Type} (tools : σ) (h : Host) : Session σ := ⟨h, tools, {}, {}, .idle, []⟩

/-- Run the command with a command line that begins with the program's name. What is wrong with the
options, a configuration or an argument is found before the build runs. -/
def perform {σ : Type} (runner : Runner σ) (line : List Text) (s : Session σ) :
    Ending × Session σ :=
  match Options.ofLine s.host.var? (Spelling.canonicalLine line) with
  | .error stop => (stopped stop, s)
  | .ok o =>
    match buildOf runner o s.host with
    | .error f => (ended (.error f) s, s)
    | .ok b =>
      let (result, s') := b.run.run s
      (ended result s', s')

/-- Run the command on a host. -/
def run {σ : Type} (runner : Runner σ) (tools : σ) (line : List Text) (h : Host) :
    Ending × Host :=
  let (ending, s) := perform runner line (start tools h)
  (ending, s.host)

end CommandLine

end KarelBuild
