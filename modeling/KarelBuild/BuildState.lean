import KarelBuild.Text.Quoted

/-!
# States of a build

A build is idle, then passes through its stages, and ends done or failed for a reason.
-/

namespace KarelBuild

inductive FailureReason where
  | missingHeader (name : Text)
  | preprocessor (code : Int)
  | translator (code : Int)
  deriving DecidableEq, Repr

inductive BuildState where
  | idle
  | scanningDependencies
  | noBuildNeeded
  | preprocessing
  | translating
  | done
  | failed (reason : FailureReason)
  deriving DecidableEq, Repr

namespace FailureReason

def message : FailureReason → Text
  | missingHeader name => "MissingHeader(".toList ++ Text.quoted name ++ ")".toList
  | preprocessor code => "Preprocessor(".toList ++ Text.ofInt code ++ ")".toList
  | translator code => "Translator(".toList ++ Text.ofInt code ++ ")".toList

end FailureReason

namespace BuildState

def message : BuildState → Text
  | idle => "idle".toList
  | scanningDependencies => "scanning dependencies".toList
  | noBuildNeeded => "no build needed".toList
  | preprocessing => "preprocessing".toList
  | translating => "translating".toList
  | done => "done".toList
  | failed reason => "failed (".toList ++ reason.message ++ ")".toList

end BuildState

/-- How a build ended: its last state and the code to exit with. -/
structure Outcome where
  state : BuildState
  exitCode : Int
  deriving DecidableEq, Repr

namespace Outcome

def success (o : Outcome) : Bool := o.exitCode == 0

end Outcome

end KarelBuild
