import KarelBuild.Shell.Machine

/-!
# What builtins have in common

A builtin runs in the shell itself. It takes its arguments and gives its exit code; what it cannot do
is a complaint, and a mistake ends it.
-/

namespace KarelBuild.Shell

open ShellM

abbrev Builtin := Machine → List Octets → ShellM Nat

namespace Builtin

/-- How the builtins of the rich dialect are used. -/
def usages : List (String × String) :=
  [("alias", "[-p] [name[=value] ... ]"), ("builtin", "[shell-builtin [arg ...]]"), ("caller", "[expr]"),
    ("cd", "[-L|[-P [-e]] [-@]] [dir]"), ("command", "[-pVv] command [arg ...]"),
    ("compgen", "[-abcdefgjksuv] [-o option] [-A action] [-G globpat] [-W wordlist] [-F function] [-C command] " ++
      "[-X filterpat] [-P prefix] [-S suffix] [word]"),
    ("declare", "[-aAfFgiIlnrtux] [name[=value] ...] or declare -p [-aAfFilnrtux] [name ...]"),
    ("dirs", "[-clpv] [+N] [-N]"), ("disown", "[-h] [-ar] [jobspec ... | pid ...]"),
    ("enable", "[-a] [-dnps] [-f filename] [name ...]"), ("eval", "[arg ...]"),
    ("exec", "[-cl] [-a name] [command [argument ...]] [redirection ...]"),
    ("export", "[-fn] [name[=value] ...] or export -p"), ("getopts", "optstring name [arg ...]"),
    ("hash", "[-lr] [-p pathname] [-dt] [name ...]"), ("help", "[-dms] [pattern ...]"),
    ("history", "[-c] [-d offset] [n] or history -anrw [filename] or history -ps arg [arg...]"),
    ("jobs", "[-lnprs] [jobspec ...] or jobs -x command [args]"),
    ("kill", "[-s sigspec | -n signum | -sigspec] pid | jobspec ... or kill -l [sigspec]"),
    ("local", "[option] name[=value] ..."),
    ("mapfile", "[-d delim] [-n count] [-O origin] [-s count] [-t] [-u fd] [-C callback] [-c quantum] [array]"),
    ("popd", "[-n] [+N | -N]"), ("printf", "[-v var] format [arguments]"), ("pushd", "[-n] [+N | -N | dir]"),
    ("pwd", "[-LP]"),
    ("read", "[-ers] [-a array] [-d delim] [-i text] [-n nchars] [-N nchars] [-p prompt] [-t timeout] " ++
      "[-u fd] [name ...]"),
    ("readarray", "[-d delim] [-n count] [-O origin] [-s count] [-t] [-u fd] [-C callback] [-c quantum] [array]"),
    ("readonly", "[-aAf] [name[=value] ...] or readonly -p"),
    ("set", "[-abefhkmnptuvxBCEHPT] [-o option-name] [--] [-] [arg ...]"),
    ("shopt", "[-pqsu] [-o] [optname ...]"), ("source", "filename [arguments]"), (".", "filename [arguments]"),
    ("trap", "[-lp] [[arg] signal_spec ...]"), ("type", "[-afptP] name [name ...]"),
    ("typeset", "[-aAfFgiIlnrtux] name[=value] ... or typeset -p [-aAfFilnrtux] [name ...]"),
    ("ulimit", "[-SHabcdefiklmnpqrstuvxPRT] [limit]"), ("umask", "[-p] [-S] [mode]"),
    (":", ""), ("bg", "[job_spec ...]"), ("break", "[n]"), ("continue", "[n]"), ("echo", "[-neE] [arg ...]"),
    ("exit", "[n]"), ("false", ""), ("fg", "[job_spec]"), ("let", "arg [arg ...]"), ("logout", "[n]"),
    ("return", "[n]"), ("shift", "[n]"), ("test", "[expr]"), ("[", "arg... ]"), ("times", ""), ("true", ""),
    ("time", "[-p] pipeline"), ("unalias", "[-a] name [name ...]"), ("unset", "[-f] [-v] [-n] [name ...]"), ("wait", "[-fn] [-p var] [id ...]")]

def usageOf? (name : Octets) : Option Octets :=
  (usages.find? (·.1.toList == name)).map fun (name, usage) =>
    if usage = "" then name.toList else name.toList ++ ' ' :: usage.toList

/-- Say how the builtin that is run is used. -/
def sayUsage : ShellM Unit := do
  let name := (← shell).builtin.getD []
  match usageOf? name with
  | some usage => say 2 (name ++ ": usage: ".toList ++ usage ++ ['\n'])
  | none => return

/-- Complain of an argument that the builtin cannot be used with. -/
def misused {α : Type} (message : Octets) : ShellM α := do
  complain message
  sayUsage
  failWith 2

/-- Options in front of the arguments: letters, of which some take a value. -/
def optionsFrom (known takesValue : List Char) : (steps : Nat) → List (Char × Octets) → List Octets →
    ShellM (List (Char × Octets) × List Octets)
  | 0, found, args => return (found, args)
  | _, found, [] => return (found, [])
  | n + 1, found, a :: rest => do
    match a with
    | '-' :: c :: r =>
      if a = ['-', '-'] then return (found, rest)
      else if takesValue.contains c then
        match r, rest with
        | [], [] =>
          if ← isRich then misused ('-' :: c :: ": option requires an argument".toList)
          else refuse ("No arg for -".toList ++ c :: " option".toList)
        | [], value :: rest => optionsFrom known takesValue n (found ++ [(c, value)]) rest
        | _, _ => optionsFrom known takesValue n (found ++ [(c, r)]) rest
      else if known.contains c then
        if r = [] then optionsFrom known takesValue n (found ++ [(c, [])]) rest
        else optionsFrom known takesValue n (found ++ [(c, [])]) (('-' :: r) :: rest)
      else if ← isRich then misused ('-' :: c :: ": invalid option".toList)
      else refuse ("Illegal option -".toList ++ [c])
    | _ => return (found, a :: rest)

def options (known takesValue : String) (args : List Octets) :
    ShellM (List (Char × Octets) × List Octets) :=
  optionsFrom known.toList takesValue.toList (sumOf (args.map (·.length)) + args.length + 1) [] args

/-- End the command line for more arguments than there may be. -/
def tooMany {α : Type} : ShellM α := do
  complain "too many arguments".toList
  setStatus 1
  throw .abandoned

/-- A number of the rich dialect. -/
def richNumber (a : Octets) : ShellM Int := do
  match Arithmetic.number? a with
  | some n => return n
  | none => refuse (a ++ ": numeric argument required".toList)

/-- A number that is not negative. -/
def number (t : Octets) : ShellM Nat := do
  if t ≠ [] ∧ t.all Char.isDigit then
    let n := Arithmetic.valueIn 10 t
    if n ≤ 0x7fffffff then return n else refuse ("Illegal number: ".toList ++ t)
  else if ← isRich then refuse (t ++ ": numeric argument required".toList)
  else refuse ("Illegal number: ".toList ++ t)

def print (o : Octets) : ShellM Nat := do
  match ← put 1 o with
  | .ok () => return 0
  | .error e =>
    if ← isRich then complain ("write error: ".toList ++ e.wording.toList)
    else complain (((← shell).builtin.getD []) ++ ": I/O error".toList)
    return 1

def printLine (o : Octets) : ShellM Nat := print (o ++ ['\n'])

/-- Text between single quotes; single quotes in it stand between double ones. -/
def singleQuotedFrom : (steps : Nat) → Octets → Octets
  | 0, _ => []
  | n + 1, t =>
    let run := t.takeWhile (· != '\'')
    let rest := t.drop run.length
    let quotes := rest.takeWhile (· == '\'')
    let rest := rest.drop quotes.length
    '\'' :: run ++ '\'' ::
      (if quotes = [] then []
      else '"' :: quotes ++ '"' :: (if rest = [] then [] else singleQuotedFrom n rest))

def singleQuoted (t : Octets) : Octets := singleQuotedFrom (t.length + 1) t

def requireName (t : Octets) : ShellM Unit := do
  if isName t then return
  else if ← isRich then refuse ('\x60' :: t ++ "': not a valid identifier".toList)
  else refuse (t ++ ": bad variable name".toList)

/-- An argument that may give a variable a value. -/
def cutValue (t : Octets) : Octets × Option Octets := Text.cut '=' t

end Builtin

end KarelBuild.Shell
