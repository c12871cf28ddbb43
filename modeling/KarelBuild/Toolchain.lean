import KarelBuild.Host

/-!
# Toolchains

Where the two tools are. A path that was asked for wins over the configured one, and that over the
tool's usual name. A path of several parts is made absolute; a bare name is looked up among the
installed programs and stays as it is if none has it.
-/

namespace KarelBuild

structure Toolchain where
  translator : Path
  preprocessor : Path
  deriving DecidableEq, Repr

/-- The tool paths that a configuration sets. -/
structure ToolPaths where
  translator : Option Path := none
  preprocessor : Option Path := none
  deriving DecidableEq, Repr

namespace Toolchain

def locate (h : Host) (p : Path) : Except Fault Path :=
  if 1 < Path.partCount p then absolutePath h.workPath p
  else .ok ((h.findProgram? p).getD p)

def chosen (tool : Tool) (asked configured : Option Path) : Path :=
  (asked.or configured).getD tool.name

def detect (h : Host) (asked configured : ToolPaths) : Except Fault Toolchain := do
  let translator ← locate h (chosen .translator asked.translator configured.translator)
  let preprocessor ← locate h (chosen .preprocessor asked.preprocessor configured.preprocessor)
  return { translator, preprocessor }

def notes (t : Toolchain) : List Note :=
  [.locating .translator t.translator, .locating .preprocessor t.preprocessor]

end Toolchain

end KarelBuild
