import KarelBuild.SearchPath

/-!
# Build requests

A request holds everything that one build was asked to do. Arguments that name files are kept in
their absolute form.
-/

namespace KarelBuild

inductive Mode where
  | compile
  | dependencyOnly
  deriving DecidableEq, Repr

inductive Verbosity where
  | quiet
  | normal
  | verbose
  deriving DecidableEq, Repr

structure Request where
  translatorArgs : List Text
  source? : Option Path
  searchPath : SearchPath
  mode : Mode := .compile
  policy : Policy := ⟨false, false⟩
  phonyTargets : Bool := false
  explicitTarget : Option Text := none
  dependencyFile : Option Path := none
  dryRun : Bool := false
  verbosity : Verbosity := .normal
  deriving DecidableEq, Repr

namespace Request

def sourceSuffix : Text := ".kl".toList

def codeSuffix : Text := ".pc".toList

def isSource (arg : Text) : Bool := sourceSuffix.isSuffixOf arg

/-- Options of the translator begin with `/` and core versions with a `V`; a source is a path
whatever it begins with. -/
def isPathArg (arg : Text) : Bool :=
  isSource arg ||
    match arg with
    | [] => false
    | c :: _ => c != '/' && c != 'V' && c != 'v'

def absoluteArg (workDir : Except OsError Path) (arg : Text) : Except Fault Text :=
  if isPathArg arg then
    (absolutePath workDir arg).mapError (.during (.makingArgumentAbsolute arg))
  else .ok arg

/-- A compile request; its source is the first argument, in absolute form, that is one. -/
def ofArgs (workDir : Except OsError Path) (args : List Text) (searchPath : SearchPath) :
    Except Fault Request :=
  (args.mapM (absoluteArg workDir)).map fun translatorArgs =>
    { translatorArgs, source? := translatorArgs.find? isSource, searchPath }

def needsBuild (r : Request) : Bool := r.source?.isSome

/-- The target asked for, or else the file that the translator makes of the source. -/
def target? (r : Request) : Option Text :=
  match r.explicitTarget with
  | some t => some t
  | none => (r.source?.bind Path.fileStem?).map (· ++ codeSuffix)

end Request

end KarelBuild
