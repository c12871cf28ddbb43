import KarelBuild.BuildState
import KarelBuild.Command
import KarelBuild.OsError

/-!
# Notes

What a build reports about its course, besides its output.
-/

namespace KarelBuild

inductive Tool where
  | preprocessor
  | translator
  deriving DecidableEq, Repr

/-- The name that a tool is looked for under when no other is given. -/
def Tool.name : Tool → Text
  | .preprocessor => "gpp".toList
  | .translator => "ktrans".toList

inductive Note where
  | transition (before after : BuildState)
  | found (reference : Text) (dir : Path)
  | adding (path : Path)
  | ignoring (reference : Text)
  | assuming (reference : Text)
  | scanningSource (source : Path)
  | foundIncludes (count : Nat)
  | noBuildNeeded
  | buildNeeded
  | dryRun
  | locating (tool : Tool) (path : Path)
  | acquired (workspace : Path)
  | storing (intermediate : Path)
  | starting (tool : Tool) (command : Command)
  | ended (tool : Tool) (code : Int)
  | skipping (path : Path) (e : OsError)
  | notRemoved (path : Path) (reason : Text)
  | leftBehind (count : Nat) (workspace : Path)
  deriving DecidableEq, Repr

namespace Note

def message : Note → Text
  | transition before after => before.message ++ " -> ".toList ++ after.message
  | found r dir => "found ".toList ++ r ++ " in '".toList ++ dir ++ "'".toList
  | adding p => "adding ".toList ++ p ++ " to dependencies".toList
  | ignoring r => "ignoring system header '".toList ++ r ++ "'".toList
  | assuming r => "assuming '".toList ++ r ++ "' is a generated header".toList
  | scanningSource p => "dependency output for ".toList ++ p
  | foundIncludes n => "found ".toList ++ Text.ofNat n ++ " includes".toList
  | noBuildNeeded => "doesn't need a build".toList
  | buildNeeded => "needs a build".toList
  | dryRun => "not calling ktrans or gpp: dry run requested".toList
  | locating tool p => "setting ".toList ++ tool.name ++ " path to: ".toList ++ p
  | acquired p => "acquired build directory ".toList ++ p
  | storing p => "storing preprocessed source at: ".toList ++ p
  | starting tool c => "starting ".toList ++ tool.name ++ " as: '".toList ++ c.display ++ "'".toList
  | ended tool code => "end of ".toList ++ tool.name ++ ", ret: ".toList ++ Text.ofInt code
  | skipping p e =>
    "skipping during cleanup: IO error for operation on ".toList ++ p ++ ": ".toList ++ e.message
  | notRemoved p reason => "failed to remove ".toList ++ p ++ ": ".toList ++ reason
  | leftBehind n p =>
    Text.ofNat n ++ (if n = 1 then " entry" else " entries").toList ++ " left behind in ".toList ++ p

end Note

end KarelBuild
