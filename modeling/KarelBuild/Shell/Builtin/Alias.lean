import KarelBuild.Shell.Builtin.Variable

/-!
# Aliases

Texts that stand for the first words of commands.
-/

namespace KarelBuild.Shell.Builtin

open ShellM

/-- An alias as it is shown. -/
def aliasLine (rich : Bool) (a : Text × Octets) : Octets :=
  if rich then "alias ".toList ++ a.1 ++ '=' :: Quoting.single a.2 else a.1 ++ '=' :: singleQuoted a.2

def notFound (what : String) (name : Octets) : ShellM Unit := do
  if ← isRich then complain (name ++ ": not found".toList)
  else say 2 (what.toList ++ ": ".toList ++ name ++ " not found\n".toList)

def showAliases : ShellM Nat := do
  let p ← shell
  let rich := p.dialect == .rich
  let isBefore (a b : Text × Octets) : Bool :=
    if rich then Text.le a.1 b.1 else Process.slotOf a.1 ≤ Process.slotOf b.1
  print ((p.aliases.mergeSort isBefore).flatMap fun a => aliasLine rich a ++ ['\n'])

def alias_ : Builtin := fun _ args => do
  let rich ← isRich
  let (_, args) ← if rich then options "p" "" args else pure ([], args)
  if args = [] then showAliases
  else
    let mut code := 0
    for a in args do
      match cutValue a with
      | (name, some o) =>
        modifyShell fun p => { p with aliases := p.aliases.filter (·.1 != name) ++ [(name, o)] }
      | (name, none) =>
        match (← shell).aliases.lookup name with
        | some o => let _ ← printLine (aliasLine rich (name, o))
        | none =>
          notFound "alias" name
          code := 1
    return code

def unalias : Builtin := fun _ args => do
  let (found, args) ← options "a" "" args
  if found ≠ [] then
    modifyShell fun p => { p with aliases := [] }
    return 0
  else
    let mut code := 0
    for a in args do
      if ((← shell).aliases.lookup a).isNone then
        notFound "unalias" a
        code := 1
      modifyShell fun p => { p with aliases := p.aliases.filter (·.1 != a) }
    return code

end KarelBuild.Shell.Builtin
