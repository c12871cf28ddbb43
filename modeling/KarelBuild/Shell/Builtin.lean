import KarelBuild.Shell.Builtin.Alias
import KarelBuild.Shell.Builtin.Arguments
import KarelBuild.Shell.Builtin.Control
import KarelBuild.Shell.Builtin.Declaring
import KarelBuild.Shell.Builtin.Directory
import KarelBuild.Shell.Builtin.Lines
import KarelBuild.Shell.Builtin.Printing
import KarelBuild.Shell.Builtin.Testing

/-!
# The builtins by name

Those that run other commands in the shell itself (`eval`, `exec`, `command` and reading a file) are
no functions of their arguments alone and are not listed here.
-/

namespace KarelBuild.Shell.Builtin

def plain : List (String × Builtin) :=
  [("[", bracket), ("test", test), (":", succeed), ("true", succeed), ("false", fail_), ("alias", alias_),
    ("bg", noJob), ("fg", noJob), ("break", break_), ("continue", continue_), ("cd", cd), ("chdir", cd),
    ("echo", echo), ("printf", printf), ("exit", exit_), ("return", return_), ("export", export_),
    ("readonly", readonly), ("unset", unset), ("local", local_), ("set", set), ("shift", shift),
    ("getopts", getopts), ("hash", hash), ("jobs", jobs), ("kill", kill), ("pwd", pwd), ("read", read),
    ("times", times), ("trap", trap), ("type", type_), ("ulimit", ulimit), ("umask", umask),
    ("unalias", unalias), ("wait", wait)]

/-- Those of the rich dialect alone, or that are different there. -/
def rich : List (String × Builtin) :=
  [("local", localRich), ("declare", declare), ("typeset", declare), ("let", let_), ("mapfile", mapfile),
    ("readarray", mapfile), ("shopt", shopt), ("enable", enable), ("disown", disown), ("logout", logout),
    ("caller", caller), ("compgen", compgen), ("complete", succeed), ("compopt", succeed), ("bind", succeed),
    ("dirs", dirs), ("pushd", pushd), ("popd", popd), ("history", succeed), ("fc", succeed), ("help", help)]

def find? (isRich : Bool) (name : Text) : Option Builtin :=
  let named (builtins : List (String × Builtin)) := (builtins.find? (·.1.toList == name)).map (·.2)
  if isRich then (named rich).or (if name = "chdir".toList then none else named plain) else named plain

end KarelBuild.Shell.Builtin
