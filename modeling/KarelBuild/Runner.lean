import KarelBuild.Host

/-!
# Runners

A runner starts tools for a build and waits for them. A tool is started in one of three manners: its
two streams are captured one by one, or as one text in the order of writing, or they go where the
build's own output goes. A tool may change the host, and the runner may keep a state of its own.
-/

namespace KarelBuild

inductive Manner where
  | capture
  | captureMerged
  | passThrough
  deriving DecidableEq, Repr

structure Call where
  manner : Manner
  command : Command
  deriving DecidableEq, Repr

/-- The exit code of a tool and the text it wrote; a merged capture has all of it in `stdout`. -/
structure ToolResult where
  code : Int
  stdout : Text
  stderr : Text
  deriving DecidableEq, Repr

namespace ToolResult

def success (r : ToolResult) : Bool := r.code == 0

end ToolResult

structure Runner (σ : Type) where
  run : Call → σ → Host → Except Fault ToolResult × σ × Host

namespace Runner

/-- The same runner, keeping a list of the calls made to it. -/
def recording {σ : Type} (r : Runner σ) : Runner (σ × List Call) where
  run call state host :=
    let (result, s, h) := r.run call state.1 host
    (result, (s, state.2 ++ [call]), h)

end Runner

end KarelBuild
