import KarelBuild.Path

/-!
# Options

What a command line asks for: the switches that are on, the settings with their values, and the
arguments that belong to the translator.
-/

namespace KarelBuild

inductive Switch where
  | verbose
  | quiet
  | dryRun
  | dependencies
  | userDependencies
  | tolerateMissing
  | phonyTargets
  deriving DecidableEq, Repr

inductive Setting where
  | target
  | dependencyFile
  | translator
  | preprocessor
  | config
  | includeDir
  deriving DecidableEq, Repr

namespace Setting

/-- Only a target may be empty; every other setting is a path. -/
def isPath : Setting → Bool
  | target => false
  | _ => true

def isRepeatable : Setting → Bool
  | includeDir => true
  | _ => false

end Setting

structure Options where
  switches : List Switch := []
  values : List (Setting × Text) := []
  args : List Text := []
  deriving DecidableEq, Repr

namespace Options

def isOn (o : Options) (s : Switch) : Bool := o.switches.contains s

def value? (o : Options) (s : Setting) : Option Text := o.values.lookup s

def includeDirs (o : Options) : List Path :=
  (o.values.filter (·.1 == .includeDir)).map (·.2)

/-- Either of the two dependency switches turns a build into a dependency request. -/
def wantsDependencies (o : Options) : Bool := o.isOn .dependencies || o.isOn .userDependencies

end Options

end KarelBuild
