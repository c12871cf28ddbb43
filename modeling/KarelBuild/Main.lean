import KarelBuild.CommandLine
import KarelBuild.Host.Description
import KarelBuild.Runner.Installed

/-!
# The command

The arguments are those of the command, and the input describes the host that it is run on. What the
run writes goes to the output and to the error output, and its exit code is passed on.
-/

namespace KarelBuild

/-- All lines of a stream, without their ends. -/
partial def readLines (input : IO.FS.Stream) : IO (List Text) := do
  let line ← input.getLine
  if line.isEmpty then return []
  else return line.toList.takeWhile (· != '\n') :: (← readLines input)

end KarelBuild

def main (args : List String) : IO UInt32 := do
  let host := KarelBuild.Host.ofDescription (← KarelBuild.readLines (← IO.getStdin))
  let line := "ktransw".toList :: args.map String.toList
  let (ending, _) := KarelBuild.CommandLine.run KarelBuild.Runner.installed () line host
  IO.print (String.ofList ending.out)
  IO.eprint (String.ofList ending.err)
  return UInt32.ofNat ending.exitCode
