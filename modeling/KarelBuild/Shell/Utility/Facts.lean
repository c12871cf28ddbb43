import KarelBuild.Shell.Builtin.Printing
import KarelBuild.Shell.Utility.Paths
import KarelBuild.Shell.Utility.Permissions

/-!
# Small facts

Utilities that print their arguments, or tell who and where somebody is.
-/

namespace KarelBuild.Shell.Utility

open ShellM

/-! ## Printing -/

def echo : Utility := fun _ args => do
  let (escapes, lineEnd, args) := Builtin.echoOptions false true args
  emit (Builtin.echoText .program escapes lineEnd args)
  return 0

def printfFault : Format.Fault → Octets
  | .noNumber arg => quoted arg ++ ": expected a numeric value".toList
  | .junk arg => quoted arg ++ ": value not completely converted".toList
  | .range arg => quoted arg ++ ": Numerical result out of range".toList
  | .directive t => t ++ ": invalid conversion specification".toList
  | .noConversion => "%: invalid conversion specification".toList
  | .noTime _ => "%(: invalid conversion specification".toList
  | .noHexadecimal => "missing hexadecimal number in escape".toList

def printf : Utility := fun _ args => do
  let args := match args with
    | ['-', '-'] :: rest => rest
    | args => args
  match args with
  | [] => misuse 1 "missing operand".toList
  | format :: rest =>
    let g := Format.apply .program format rest
    g.faults.forM fun f => grumble (printfFault f)
    emit g.output
    match g.args with
    | a :: _ =>
      if g.faults = [] ∧ !g.ended then
        grumble ("warning: ignoring excess arguments, starting with ".toList ++ quoted a)
    | [] => pure ()
    return if g.faults = [] then 0 else 1

def nothing : Utility := fun _ _ => return 0

def failing : Utility := fun _ args => do
  match args with
  | [a] =>
    if a = "--help".toList then emit (usageLine (← programName))
    if a = "--version".toList then emit (versionLine (← programName))
  | _ => pure ()
  return 1

/-- A utility that introduces itself if that is all that it is called for. -/
def introducing (u : Utility) : Utility := fun m args => do
  introduceIfAsked args
  u m args

/-! ## Who and where -/

def noOperands (operands : List Octets) : ShellM Unit := do
  if let o :: _ := operands then misuse 1 ("extra operand ".toList ++ quoted o)

def whoami : Utility := fun _ args => do
  let g ← given [] args
  noOperands g.operands
  emitLine "root".toList
  return 0

/-- The numbers of an account: its own, and that of its group. -/
def accountOf? (name : Octets) : Option (Nat × Nat) :=
  (numberIn? Host.accountNumbers name).bind fun n =>
    if Host.accountNumbers.any (·.2 == n) then some (n, (accountGroups.lookup n).getD n) else none

/-- A number, with its name behind it in brackets. -/
def withName (n : Nat) (name : Octets) : Octets := Text.ofNat n ++ '(' :: name ++ [')']

/-- What `id` says of an account. -/
def accountLine (g : Given) (user group : Nat) : Octets :=
  let one (n : Nat) (name : Octets) : Octets := if g.has 'n' then name else Text.ofNat n
  if g.has 'u' then one user (accountName user)
  else if g.has 'g' || g.has 'G' then one group (groupName group)
  else "uid=".toList ++ withName user (accountName user) ++ " gid=".toList ++ withName group (groupName group) ++
    " groups=".toList ++ withName group (groupName group)

def accountNumbers : Utility := fun _ args => do
  let g ← given (forms [('u', "user"), ('g', "group"), ('G', "groups"), ('n', "name"), ('r', "real"),
    ('z', "zero"), ('a', ""), ('Z', "context")] []) args
  let choices := (if g.has 'u' then 1 else 0) + (if g.has 'g' then 1 else 0) + if g.has 'G' then 1 else 0
  if g.has 'Z' then stop 1 "--context (-Z) works only on an SELinux-enabled kernel".toList
  if 1 < choices then stop 1 "cannot print \"only\" of more than one choice".toList
  if choices = 0 ∧ (g.has 'n' ∨ g.has 'r') then
    stop 1 "cannot print only names or real IDs in default format".toList
  if choices = 0 ∧ g.has 'z' then stop 1 "option --zero not permitted in default format".toList
  let stop := if g.has 'z' then '\x00' else '\n'
  if g.operands = [] then
    emit (accountLine g 0 0 ++ [stop])
    return 0
  else forEach g.operands fun name => do
    match accountOf? name with
    | some (user, group) =>
      emit (accountLine g user group ++ [stop])
      if g.has 'z' ∧ g.has 'G' ∧ 1 < g.operands.length then emit [stop]
      return true
    | none =>
      grumble (quoted name ++ ": no such user".toList)
      return false

def groups_ : Utility := fun _ args => do
  let g ← given [] args
  if g.operands = [] then
    emitLine "root".toList
    return 0
  else forEach g.operands fun name => do
    match (Host.accountNumbers.lookup (Octets.toText name)).map fun n => (accountGroups.lookup n).getD n with
    | some group =>
      emitLine (name ++ " : ".toList ++ groupName group)
      return true
    | none =>
      grumble (quoted name ++ ": no such user".toList)
      return false

def uname : Utility := fun _ args => do
  let g ← given (forms [('a', "all"), ('s', "kernel-name"), ('n', "nodename"), ('r', "kernel-release"),
    ('v', "kernel-version"), ('m', "machine"), ('p', "processor"), ('i', "hardware-platform"),
    ('o', "operating-system")] []) args
  noOperands g.operands
  let wants (c : Char) : Bool := g.has 'a' || g.has c
  let parts := (if wants 's' || g.options = [] then ["Linux"] else []) ++
    (if wants 'n' then ["localhost"] else []) ++ (if wants 'r' then ["6.1.0"] else []) ++
    (if wants 'v' then ["#1 SMP"] else []) ++ (if wants 'm' then ["x86_64"] else []) ++
    (if g.has 'p' then ["x86_64"] else []) ++ (if g.has 'i' then ["x86_64"] else []) ++
    if wants 'o' then ["GNU/Linux"] else []
  emitLine (Text.join [' '] (parts.map String.toList))
  return 0

/-- A utility that says one thing and takes no operands. -/
def saying (text : String) : Utility := fun _ args => do
  let g ← given [] args
  noOperands g.operands
  emitLine text.toList
  return 0

/-- The name of the host. -/
def hostname : Utility := fun _ args => do
  introduceIfAsked args
  emitLine "localhost".toList
  return 0

/-- How many programs can run at once: one. -/
def nproc : Utility := fun _ args => do
  let g ← given (forms [('\x02', "all")] [('\x01', "ignore")]) args
  noOperands g.operands
  match g.value? '\x01' with
  | some value => if !isNumber value then stop 1 ("invalid number: ".toList ++ quoted value)
  | none => pure ()
  emitLine ['1']
  return 0

def tty : Utility := fun _ args => do
  let g ← readGiven (forms [('s', "silent"), ('s', "quiet")] []) 2 true args
  if let o :: _ := g.operands then misuse 2 ("extra operand ".toList ++ quoted o)
  if !g.has 's' then emitLine "not a tty".toList
  return 1

def logname : Utility := fun _ args => do
  let g ← given [] args
  noOperands g.operands
  stop 1 "no login name".toList

/-- Have files written to where they last; that is done already, so that they only have to be there. -/
def sync : Utility := fun _ args => do
  let g ← given (forms [('d', "data"), ('f', "file-system")] []) args
  if g.has 'd' ∧ g.has 'f' then stop 1 "cannot specify both --data and --file-system".toList
  if g.has 'd' ∧ g.operands = [] then stop 1 "--data needs at least one argument".toList
  forEach g.operands fun path => do
    match ← stat? path with
    | .ok _ => return true
    | .error e =>
      grumble ("error opening ".toList ++ quoted path ++ ": ".toList ++ e.wording.toList)
      return false

/-! ## Dates -/

/-- The time that a file was changed, or that words stand for; complains of words that are no date. -/
def wantedTime (g : Given) : ShellM Int := do
  let now := (← world).now
  match g.value? 'r', g.value? 'd' with
  | some path, _ =>
    match (← get).statusAt true (pathText path) with
    | .ok f => return f.time
    | .error e => stop 1 (path ++ ": ".toList ++ e.wording.toList)
  | none, some words =>
    match dateOf? now words with
    | some t => return t
    | none => stop 1 ("invalid date ".toList ++ quoted words)
  | none, none => return now

/-- The format that options ask for. -/
def usualFormat (g : Given) : String :=
  let precise (t : Octets) (gap : String) : String :=
    match String.ofList t with
    | "hours" => "%F" ++ gap ++ "%H%:z"
    | "minutes" => "%F" ++ gap ++ "%H:%M%:z"
    | "seconds" => "%F" ++ gap ++ "%T%:z"
    | "ns" => "%F" ++ gap ++ (if gap = " " then "%T.%N%:z" else "%T,%N%:z")
    | _ => "%F"
  match g.value? 'I', g.value? '\x01' with
  | some t, _ => precise t "T"
  | none, some t => precise t " "
  | none, none => if g.has 'R' then "%a, %d %b %Y %H:%M:%S %z" else "%a %b %e %H:%M:%S %Z %Y"

def date : Utility := fun _ args => do
  let g ← given (forms [('u', "utc"), ('R', "rfc-email"), ('\x02', "universal")] [('d', "date"),
    ('r', "reference"), ('f', "file"), ('s', "set"), ('\x01', "rfc-3339")] ++
    [⟨'I', "iso-8601", .maybe⟩]) args
  match g.operands with
  | [] =>
    emitLine (formatDate (← wantedTime g) (usualFormat g).toList)
    return 0
  | ['+' :: f] =>
    emitLine (formatDate (← wantedTime g) f)
    return 0
  | [o] => stop 1 ("invalid date ".toList ++ quoted o)
  | _ :: o :: _ => misuse 1 ("extra operand ".toList ++ quoted o)

end KarelBuild.Shell.Utility
