import KarelBuild.Shell.Builtin.Basic
import KarelBuild.Shell.Format

/-!
# Builtins that print

`echo` undoes escapes in its arguments; the rich one only if it is told to. `printf` follows a format.
-/

namespace KarelBuild.Shell.Builtin

open ShellM

/-- Arguments with blanks in between, escapes undone, and a line end unless it is not wanted. -/
def echoText (style : FormatStyle) (escapes lineEnd : Bool) (args : List Octets) : Octets :=
  let joined := Text.join [' '] args
  if escapes then
    let (o, ended) := unescape style joined
    if ended || !lineEnd then o else o ++ ['\n']
  else if lineEnd then joined ++ ['\n'] else joined

/-- Options of the rich `echo`: letters that say whether escapes are undone and the line is ended. -/
def echoOptions : (escapes lineEnd : Bool) → List Octets → Bool × Bool × List Octets
  | escapes, lineEnd, a :: rest =>
    match a with
    | '-' :: c :: r =>
      if (c :: r).all fun d => d == 'n' || d == 'e' || d == 'E' then
        let letters := (c :: r).filter (· != 'n')
        let escapes := match letters.getLast? with
          | some d => d == 'e'
          | none => escapes
        echoOptions escapes (lineEnd && !(c :: r).contains 'n') rest
      else (escapes, lineEnd, a :: rest)
    | _ => (escapes, lineEnd, a :: rest)
  | escapes, lineEnd, [] => (escapes, lineEnd, [])

def echo : Builtin := fun _ args => do
  if ← isRich then
    let (escapes, lineEnd, args) := echoOptions false true args
    print (echoText .rich escapes lineEnd args)
  else if args.head? = some ['-', 'n'] then print (echoText .plain true false (args.drop 1))
  else print (echoText .plain true true args)

/-- What is said about a fault in a format or in its arguments. -/
def faultText (rich : Bool) : Format.Fault → Octets
  | .noNumber arg =>
    arg ++ (if rich then ": invalid number" else ": expected numeric value").toList
  | .junk arg =>
    arg ++ (if rich then ": invalid number" else ": not completely converted").toList
  | .range arg =>
    (if rich then "warning: ".toList else []) ++ arg ++ ": Numerical result out of range".toList
  | .noHexadecimal => "missing hexadecimal digit for \\x".toList
  | .noTime c => "warning: \x60".toList ++ c :: "': invalid time format specification".toList
  | .directive t =>
    if rich then '\x60' :: t.drop (t.length - 1) ++ "': invalid format character".toList
    else t ++ ": invalid directive".toList
  | .noConversion =>
    if rich then "\x60%': missing format character".toList else "missing format character".toList

def isFatal : Format.Fault → Bool
  | .directive _ => true
  | .noConversion => true
  | _ => false

def formatText (style : FormatStyle) (format : Octets) (args : List Octets) : ShellM (Octets × Nat) := do
  let w ← world
  let g := Format.applyAt w.now (w.now - w.clock) style format args
  g.faults.forM fun f => complain (faultText (style == .rich) f)
  let code := if g.faults = [] then 0
    else if g.faults.any isFatal && style == .plain then 2 else 1
  return (g.output, code)

/-- Set a variable to the text. -/
def printfInto (name : Octets) (format : Octets) (args : List Octets) : ShellM Nat := do
  if !isName (Process.cutPlace name).1 then
    complain ('\x60' :: name ++ "': not a valid identifier".toList)
    return 2
  else
    let (o, code) ← formatText .rich format args
    assignNamed name o
    return code

def printfRich (args : List Octets) : ShellM Nat := do
  let (found, args) ← options "" "v" args
  match args, found.getLast? with
  | [], _ =>
    sayUsage
    return 2
  | format :: args, some (_, name) => printfInto name format args
  | format :: args, none =>
    let (o, code) ← formatText .rich format args
    return max code (← print o)

def printf : Builtin := fun _ args => do
  if ← isRich then printfRich args
  else
    let (_, args) ← options "" "" args
    match args with
    | [] => refuse "usage: printf format [arg ...]".toList
    | format :: args =>
      let (o, code) ← formatText .plain format args
      return max code (← print o)

end KarelBuild.Shell.Builtin
