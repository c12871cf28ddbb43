import KarelBuild.Path

/-!
# Tool commands

The preprocessor turns the source into an intermediate file. The translator is given the user's
arguments with the intermediate file in place of the source, or, when there is nothing to
preprocess, the arguments as they are.
-/

namespace KarelBuild

structure Command where
  program : Path
  args : List Text
  deriving DecidableEq, Repr

namespace Command

/-- The words of the command with a blank between each two. -/
def display (c : Command) : Text := Text.join [' '] (c.program :: c.args)

/-- The syntax that the preprocessor is set to: macros are used as in C, and directives are lines
that begin with `%`. The escapes are read by the preprocessor. -/
def syntaxArgs : List Text :=
  ["+z",
   "-U", "", "", "(", ",", ")", "(", ")", "#", "",
   "-M", "\\n%\\w", "\\n", " ", " ", "\\n", "", ""].map String.toList

def preprocess (preprocessor source dest : Path) (dirs : List Path) : Command :=
  ⟨preprocessor, syntaxArgs ++ dirs.map ("-I".toList ++ ·) ++ ["-o".toList, dest, source]⟩

/-- Every argument that names the source names the replacement instead. -/
def substitute (source replacement : Text) (args : List Text) : List Text :=
  args.map fun a => if a = source then replacement else a

def translate (translator : Path) (args : List Text) (source intermediate : Path) : Command :=
  ⟨translator, substitute source intermediate args⟩

def passThrough (translator : Path) (args : List Text) : Command := ⟨translator, args⟩

end Command

end KarelBuild
