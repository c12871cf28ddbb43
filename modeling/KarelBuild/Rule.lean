import KarelBuild.Header

/-!
# Dependency rules

A rule tells Make that a target depends on files. It lists each file once and never the target
itself.
-/

namespace KarelBuild

structure Rule where
  target : Text
  dependencies : List Text
  phony : Bool
  deriving DecidableEq, Repr

namespace Rule

/-- No rule has an empty target. -/
def ofPaths? (target : Text) (paths : List Path) : Option Rule :=
  if target = [] then none
  else some ⟨target, Text.distinct (paths.filter (· != target)), false⟩

def ofDependencies? (target : Text) (deps : List Dependency) : Option Rule :=
  ofPaths? target (deps.map (·.path))

/-- With phony targets each dependency also gets an empty rule, so that Make goes on when the file
is gone. -/
def withPhony (r : Rule) (phony : Bool) : Rule := { r with phony }

/-- The end of a line that goes on in the next one. -/
def continuation : Text := " \\\n\t".toList

def phonyLine (dependency : Text) : Text := dependency ++ ":\n".toList

def render (r : Rule) : Text :=
  r.target ++ " : ".toList ++ Text.join continuation r.dependencies ++ ['\n'] ++
    (if r.phony then r.dependencies.flatMap phonyLine else [])

end Rule

end KarelBuild
