import KarelBuild.OsError
import KarelBuild.Path
import KarelBuild.Text.Quoted

/-!
# Faults

A fault ends a build without an outcome. It is a cause together with the activities that it broke
off, and its message names them from the outermost to the cause.
-/

namespace KarelBuild

/-- What was being done when a fault came up. -/
inductive Activity where
  | makingAbsolute (path : Path)
  | makingArgumentAbsolute (argument : Text)
  | readingFile (path : Path)
  | creatingDirectory (path : Path)
  | writingFile (path : Path)
  | writingRule
  | writingOutput
  | creatingWorkspace (parent : Path)
  | startingTool (program : Path)
  | creatingCapture
  | findingWorkDir
  | readingConfig (path : Path)
  | parsingConfig (path : Path)
  deriving DecidableEq, Repr

namespace Activity

def message : Activity → Text
  | makingAbsolute p => "failed to make path absolute: ".toList ++ p
  | makingArgumentAbsolute a => "failed to make `".toList ++ a ++ "` absolute".toList
  | readingFile p => "failed to read file: ".toList ++ p
  | creatingDirectory p => "failed to create directory: ".toList ++ p
  | writingFile p => "failed to write file: ".toList ++ p
  | writingRule => "failed to write dependency rule".toList
  | writingOutput => "failed to write translator output".toList
  | creatingWorkspace p => "failed to create build directory in ".toList ++ p
  | startingTool p => "failed to execute `".toList ++ p ++ "`".toList
  | creatingCapture => "failed to create output capture file".toList
  | findingWorkDir => "failed to get current directory".toList
  | readingConfig p => "failed to read config file ".toList ++ p
  | parsingConfig p => "failed to parse config file ".toList ++ p

end Activity

inductive Fault where
  | system (e : OsError)
  | systemAt (e : OsError) (path : Path)
  | emptyPath
  | emptyTarget
  | notText
  | malformed
  | reported (message : Text)
  | during (activity : Activity) (cause : Fault)
  deriving DecidableEq, Repr

namespace Fault

def message : Fault → Text
  | system e => e.message
  | systemAt e p => e.message ++ " at path ".toList ++ Text.quoted p
  | emptyPath => "cannot make an empty path absolute".toList
  | emptyTarget => "dependency rule target must not be empty".toList
  | notText => "stream did not contain valid UTF-8".toList
  | malformed => "not a valid configuration".toList
  | reported m => m
  | during a cause => a.message ++ ": ".toList ++ cause.message

end Fault

/-- Say what a refusal of the system broke off. -/
def refusedDuring {α : Type} (activity : Activity) (r : Except OsError α) : Except Fault α :=
  r.mapError fun e => .during activity (.system e)

/-- The absolute form of a path, given the directory that relative paths count from if there is
one. -/
def absolutePath (workDir : Except OsError Path) (p : Path) : Except Fault Path :=
  if p = [] then .error (.during (.makingAbsolute p) .emptyPath)
  else if Path.isAbsolute p then .ok (Path.absoluteFrom [] p)
  else match workDir with
    | .ok dir => .ok (Path.absoluteFrom dir p)
    | .error e => .error (.during (.makingAbsolute p) (.system e))

end KarelBuild
