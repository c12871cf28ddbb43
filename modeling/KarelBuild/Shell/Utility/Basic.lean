import KarelBuild.Shell.Machine
import KarelBuild.Shell.Utility.Names
import KarelBuild.Shell.Utility.Usages

/-!
# What utilities have in common

A utility is a program that runs as a process of its own, takes arguments and gives an exit code. It
complains under the name that it was started by. What it writes may be held back until it ends, while
complaints are written at once.
-/

namespace KarelBuild.Shell

open ShellM

abbrev Utility := Machine → List Octets → ShellM Nat

namespace Utility

/-! ## Output -/

def programName : ShellM Octets := do return (← shell).name

/-- What a program says when it cannot write, and its exit code. -/
def writeFault (program : String) (e : OsError) : List String × Nat :=
  let usual := "write error: " ++ e.wording
  let isFull := e == .noSpace
  if program = "cat" ∧ !isFull then (["standard output: " ++ e.wording], 1)
  else if ["egrep", "fgrep", "grep", "ls", "printenv"].contains program then ([usual], 2)
  else if program = "env" then ([usual], 125)
  else if program = "expr" then ([usual], 3)
  else if program = "awk" ∨ program = "mawk" then
    (["close failed on file \"/dev/stdout\" (" ++ e.wording ++ ")"], 2)
  else if program = "sed" then
    ([(if isFull then "couldn't flush stdout: " else "couldn't close stdout: ") ++ e.wording], 4)
  else if program = "sort" then (["fflush failed: 'standard output': " ++ e.wording, "write error"], 2)
  else if program = "diff" ∨ program = "cmp" then (["standard output: " ++ e.wording], 2)
  else if program = "yes" then (["standard output: " ++ e.wording], 1)
  else if program = "tee" then (["'standard output': " ++ e.wording], 1)
  else if program = "find" then
    (["'standard output': " ++ e.wording, if isFull then "write error" else usual], 1)
  else if isFull ∧ ["wc", "md5sum", "sha1sum", "sha256sum"].contains program then (["write error"], 1)
  else ([usual], 1)

/-- Write to a descriptor; a program that cannot write ends. -/
def emitTo (n : Nat) (o : Octets) : ShellM Unit := do
  match ← put n o with
  | .ok () => return
  | .error e =>
    let name := ((← programName).reverse.takeWhile (· != '/')).reverse
    let (messages, code) := writeFault (String.ofList name) e
    for message in messages do say 2 ((← programName) ++ ": ".toList ++ message.toList ++ ['\n'])
    exit code

/-- Write what has been held back. -/
def flush : ShellM Unit := do
  let p ← shell
  if p.unwritten ≠ [] then
    modifyShell fun p => { p with unwritten := [], unwrittenSize := 0 }
    emitTo 1 p.unwritten.reverse.flatten

/-- How much output is held back at most. -/
def heldBack : Nat := 0x1000

/-- Write, as soon as enough has come together. -/
def emit (o : Octets) : ShellM Unit := do
  if o ≠ [] then
    modifyShell fun p =>
      { p with unwritten := o :: p.unwritten, unwrittenSize := p.unwrittenSize + o.length }
    let p ← shell
    if heldBack ≤ p.unwrittenSize then
      let all := p.unwritten.reverse.flatten
      let ready := p.unwrittenSize / heldBack * heldBack
      let rest := all.drop ready
      modifyShell fun p => { p with
        unwritten := if rest = [] then [] else [rest], unwrittenSize := p.unwrittenSize - ready }
      emitTo 1 (if rest = [] then all else all.take ready)

/-- Write at once. -/
def emitNow (o : Octets) : ShellM Unit := do
  flush
  emitTo 1 o

def emitLine (o : Octets) : ShellM Unit := emit (o ++ ['\n'])

/-- Write a text again and again. -/
def emitForever (o : Octets) : (times : Nat) → ShellM Unit
  | 0 => throw (.killed 13)
  | n + 1 => do
    emitNow o
    takeStep
    emitForever o n

def forever : Nat := 0x1000000000

/-! ## Complaints -/

/-- Complain under the name of the program, behind what it has written. -/
def grumble (message : Octets) : ShellM Unit := do
  flush
  say 2 ((← programName) ++ ": ".toList ++ message ++ ['\n'])

def stop {α : Type} (code : Nat) (message : Octets) : ShellM α := do
  grumble message
  exit code

/-- Programs that name themselves where they point to their help. -/
def comparers : List String := ["cmp", "diff"]

def pointToHelp : ShellM Unit := do
  let name ← programName
  let lead := if comparers.any (·.toList == name) then name ++ ": ".toList else []
  let mark := if name = "gzip".toList then '\x60' else '\''
  let other := if name = "tar".toList then " or 'tar --usage'" else ""
  say 2 (lead ++ "Try ".toList ++ mark :: name ++ " --help'".toList ++ other.toList ++ " for more information.\n".toList)

/-- Complain of how the program was called; `usage` is how it should be. -/
def misuseWith {α : Type} (usage : String) (code : Nat) (message : Octets) : ShellM α := do
  grumble message
  if usage ≠ "" then say 2 ("Usage: ".toList ++ (← programName) ++ usage.toList ++ ['\n'])
  pointToHelp
  exit code

def misuse {α : Type} (code : Nat) (message : Octets) : ShellM α := misuseWith "" code message

def reason (name : Octets) (e : OsError) : Octets := named name ++ ": ".toList ++ e.wording.toList

/-! ## Input -/

/-- Open an operand for reading; a dash is the standard input. -/
def openOperand (name : Octets) : ShellM (Except OsError Nat) := do
  if name = ['-'] then
    match (← shell).opened? 0 with
    | some n => return .ok n
    | none => return .error .badDescriptor
  else openPath name .reads

/-- Whether operands ask for the standard input, which leads nowhere. -/
def lacksInput (operands : List Octets) : ShellM Bool := do
  return (operands = [] || operands.contains ['-']) && ((← shell).opened? 0).isNone

/-- All of an operand; endless ones are empty. -/
def readOperand (name : Octets) : ShellM (Except OsError Octets) := do
  match ← openOperand name with
  | .error e => return .error e
  | .ok n =>
    match ← takeAll n with
    | .ok (.text o) => return .ok o
    | .ok (.endless _) => return .ok []
    | .error e => return .error e

/-- Handle operands one after another, the standard input if there are none. What cannot be read is
complained of. -/
def forOperands (operands : List Octets) (f : Octets → Octets → ShellM Unit) : ShellM Nat := do
  let names := if operands = [] then [['-']] else operands
  let mut code := 0
  for name in names do
    match ← readOperand name with
    | .ok o => f name o
    | .error e =>
      grumble (reason name e)
      code := 1
  return code

/-- All operands one behind the other. -/
def readAll (operands : List Octets) : ShellM (Octets × Nat) := do
  let names := if operands = [] then [['-']] else operands
  let mut parts : List Octets := []
  let mut code := 0
  for name in names do
    match ← readOperand name with
    | .ok o => parts := o :: parts
    | .error e =>
      grumble (reason name e)
      code := 1
  return (parts.reverse.flatten, code)

/-! ## Portions -/

/-- What there is to read next, which is nothing at the end. -/
def takeBlock (n : Nat) : ShellM (Except OsError Octets) := do
  match ← takeSome n with
  | .ok (.text o) => return .ok o
  | .ok (.endless c) =>
    takeStep
    return .ok (List.replicate 0x2000 c)
  | .error e => return .error e

/-- Handle what is read portion by portion, up to the end or until `step` says that it is enough. -/
def eachBlock {σ : Type} (n : Nat) (step : σ → Octets → ShellM (σ × Bool)) : (tries : Nat) → σ →
    ShellM (Except OsError σ)
  | 0, s => return .ok s
  | k + 1, s => do
    match ← takeBlock n with
    | .error e => return .error e
    | .ok [] => return .ok s
    | .ok o =>
      let (s, isEnough) ← step s o
      if isEnough then return .ok s else eachBlock n step k s

/-- How many portions are read at most. -/
def maxBlocks : Nat := 0x1000000000

/-- Lines, each with whether it is ended, and what follows the last one that is. -/
def wholeLines (stop : Char) (o : Octets) : List (Octets × Bool) × Octets :=
  let (back, line) := o.foldl (fun (back, line) c =>
    if c = stop then ((line.reverse, true) :: back, []) else (back, c :: line))
    (([] : List (Octets × Bool)), ([] : Octets))
  (back.reverse, line.reverse)

/-- Go back by a number of bytes, where that can be done. -/
def unreadBytes (n count : Nat) : ShellM Unit := do
  match ← targetOf n with
  | some (.file _) => back
  | some (.nameless _) => back
  | _ => return
where
  back : ShellM Unit := modifyWorld fun w =>
    w.setOffset n (((w.opened[n]?).map (·.offset)).getD 0 - count)

/-- Handle lines as they come. The step tells how many of them it has left alone, if it is enough; these can
be read again. -/
def eachLines {σ : Type} (stop : Char) (n : Nat) (step : σ → List (Octets × Bool) → ShellM (σ × Option Nat))
    (start : σ) : ShellM (Except OsError σ) := do
  let handle (s : σ × Octets) (o : Octets) : ShellM ((σ × Octets) × Bool) := do
    let (lines, rest) := wholeLines stop (s.2 ++ o)
    if lines = [] then return ((s.1, rest), false)
    else
      let (t, left) ← step s.1 lines
      match left with
      | none => return ((t, rest), false)
      | some k =>
        let unused := (lines.drop (lines.length - k)).map fun (l, _) => l.length + 1
        unreadBytes n (sumOf unused + rest.length)
        return ((t, []), true)
  match ← eachBlock n handle maxBlocks (start, []) with
  | .error e => return .error e
  | .ok (s, []) => return .ok s
  | .ok (s, rest) => do
    let (t, _) ← step s [(rest, false)]
    return .ok t

/-- Handle the lines of operands one after another, of the standard input if there are none. What cannot be
read is complained of. -/
def forLines {σ : Type} (stop : Char) (operands : List Octets)
    (step : σ → List (Octets × Bool) → ShellM (σ × Option Nat)) (start : σ) : ShellM (σ × Nat) := do
  let names := if operands = [] then [['-']] else operands
  let mut s := start
  let mut code := 0
  for name in names do
    match ← openOperand name with
    | .error e =>
      grumble (reason name e)
      code := 1
    | .ok n =>
      match ← eachLines stop n step s with
      | .ok t => s := t
      | .error e =>
        grumble (reason name e)
        code := 1
  if ← lacksInput operands then grumble (reason ['-'] .badDescriptor)
  return (s, code)

/-- Write each line as `f` gives it. -/
def mapLines (stop : Char) (operands : List Octets) (f : Octets × Bool → Octets) : ShellM Nat := do
  let step (_ : Unit) (lines : List (Octets × Bool)) : ShellM (Unit × Option Nat) := do
    emit (lines.flatMap f)
    return ((), none)
  let (_, code) ← forLines stop operands step ()
  return code

/-- Lines without their ends, and whether the last one is ended. -/
def linesOf (o : Octets) : List Octets × Bool :=
  let pieces := (splitLines o [] []).reverse
  match pieces.getLast? with
  | some [] => (pieces.dropLast, true)
  | _ => (pieces, false)
where
  splitLines : Octets → (line : Octets) → (back : List Octets) → List Octets
    | [], line, back => line.reverse :: back
    | '\n' :: r, line, back => splitLines r [] (line.reverse :: back)
    | c :: r, line, back => splitLines r (c :: line) back

def unlines (lines : List Octets) : Octets := lines.flatMap (· ++ ['\n'])

/-! ## Options -/

inductive Takes where
  | nothing
  | value
  | maybe
  deriving DecidableEq, Repr

/-- An option by its letter and its long name. -/
structure OptionForm where
  letter : Char
  long : String
  takes : Takes

/-- Options that take nothing, and those that take a value, by their letters. -/
def forms (flags : List (Char × String)) (values : List (Char × String)) : List OptionForm :=
  flags.map (fun (c, s) => ⟨c, s, .nothing⟩) ++ values.map fun (c, s) => ⟨c, s, .value⟩

/-- Options that were given, in order; and operands, each with the number of options in front of it. -/
structure Given where
  options : List (Char × Octets) := []
  operands : List Octets := []
  places : List Nat := []

namespace Given

def has (g : Given) (c : Char) : Bool := g.options.any (·.1 == c)

def value? (g : Given) (c : Char) : Option Octets := (g.options.reverse.find? (·.1 == c)).map (·.2)

/-- The last of some options that exclude each other. -/
def last? (g : Given) (cs : String) : Option Char :=
  (g.options.reverse.find? fun o => cs.toList.contains o.1).map (·.1)

def withOperands (g : Given) (os : List Octets) : Given :=
  { g with operands := g.operands ++ os, places := g.places ++ os.map fun _ => g.options.length }

end Given

/-- Say something of the utility itself and end. -/
def introduce {α : Type} (o : Octets) : ShellM α := do
  emit o
  flush
  exit 0

/-- Options that every utility has. -/
def commonForms : List OptionForm := [⟨'\x00', "help", .nothing⟩, ⟨'\x00', "version", .nothing⟩]

/-- Introduce the utility if that is all that it is called for. -/
def introduceIfAsked (args : List Octets) : ShellM Unit := do
  let name ← programName
  match args with
  | [a] =>
    if a.length > 2 ∧ a.isPrefixOf "--help".toList then introduce (usageLine name)
    if a.length > 2 ∧ a.isPrefixOf "--version".toList then introduce (versionLine name)
  | _ => return

section

variable (usage : String) (fs : List OptionForm) (code : Nat)

def longForm (name : Octets) : ShellM OptionForm := do
  let fs := fs ++ commonForms.filter fun f => !fs.any (·.long == f.long)
  match fs.find? (·.long.toList == name) with
  | some f => return f
  | none =>
    match fs.filter (fun f => f.long ≠ "" && name.isPrefixOf f.long.toList) with
    | [f] => return f
    | [] => misuseWith usage code ("unrecognized option '--".toList ++ name ++ ['\''])
    | several =>
      let names := several.flatMap fun f => " '--".toList ++ f.long.toList ++ ['\'']
      misuseWith usage code ("option '--".toList ++ name ++ "' is ambiguous; possibilities:".toList ++ names)

/-- Read options; with `permutes`, operands may stand between them. -/
def readOptions (permutes : Bool) : (steps : Nat) → List Octets → Given → ShellM Given
  | 0, _, g => return g
  | _, [], g => return g
  | n + 1, a :: rest, g => do
    if a = ['-', '-'] then return g.withOperands rest
    else match a with
      | '-' :: '-' :: text =>
        let (name, value) := Text.cut '=' text
        let f ← longForm usage fs code name
        let name := f.long.toList
        if f.letter = '\x00' ∧ value.isNone then
          let program ← programName
          introduce (if f.long = "help" then usageLine program else versionLine program)
        match f.takes, value with
        | .nothing, some _ => misuseWith usage code ("option '--".toList ++ name ++ "' doesn't allow an argument".toList)
        | .value, none =>
          match rest with
          | v :: rest => readOptions permutes n rest { g with options := g.options ++ [(f.letter, v)] }
          | [] => misuseWith usage code ("option '--".toList ++ name ++ "' requires an argument".toList)
        | _, v => readOptions permutes n rest { g with options := g.options ++ [(f.letter, v.getD [])] }
      | '-' :: c :: cs =>
        match fs.find? (·.letter == c) with
        | none => misuseWith usage code ("invalid option -- '".toList ++ [c, '\''])
        | some f =>
          match f.takes with
          | .nothing =>
            let rest := if cs = [] then rest else ('-' :: cs) :: rest
            readOptions permutes n rest { g with options := g.options ++ [(c, [])] }
          | .maybe => readOptions permutes n rest { g with options := g.options ++ [(c, cs)] }
          | .value =>
            if cs ≠ [] then readOptions permutes n rest { g with options := g.options ++ [(c, cs)] }
            else match rest with
              | v :: rest => readOptions permutes n rest { g with options := g.options ++ [(c, v)] }
              | [] => misuseWith usage code ("option requires an argument -- '".toList ++ [c, '\''])
      | _ =>
        if permutes then readOptions permutes n rest (g.withOperands [a])
        else return g.withOperands (a :: rest)

def readGivenWith (permutes : Bool) (args : List Octets) : ShellM Given :=
  readOptions usage fs code permutes (sumOf (args.map (·.length)) + args.length + 1) args {}

end

def readGiven (fs : List OptionForm) (code : Nat) (permutes : Bool) (args : List Octets) : ShellM Given :=
  readGivenWith "" fs code permutes args

/-- Options of a utility whose misuse gives exit code 1. -/
def given (fs : List OptionForm) (args : List Octets) : ShellM Given := readGiven fs 1 true args

/-! ## Words -/

/-- The meaning of the word that an option takes; complains of one that has none. -/
def wordMeaning {α : Type} (code : Nat) (option : String) (table : List (String × α)) (word : Octets) :
    ShellM α := do
  match table.find? (·.1.toList == word) with
  | some (_, a) => return a
  | none =>
    match table.filter (fun (w, _) => word ≠ [] && word.isPrefixOf w.toList) with
    | [(_, a)] => return a
    | found =>
      grumble ((if found.isEmpty then "invalid" else "ambiguous").toList ++ " argument ".toList ++ quoted word ++ " for '--".toList ++ option.toList ++ ['\''])
      say 2 "Valid arguments are:\n".toList
      for (w, _) in table do say 2 ("  - '".toList ++ w.toList ++ "'\n".toList)
      say 2 ("Try '".toList ++ (← programName) ++ " --help' for more information.\n".toList)
      exit code

/-- The value of an option as the word that it stands for. -/
def optionWord {α : Type} (g : Given) (letter : Char) (option : String) (table : List (String × α)) :
    ShellM (Option α) := do
  match g.value? letter with
  | none => return none
  | some word => return some (← wordMeaning 2 option table word)

/-! ## Numbers -/

def digitsValue (ds : Octets) : Nat := ds.foldl (fun n c => n * 10 + (c.toNat - 48)) 0

def isNumber (t : Octets) : Bool := !t.isEmpty && t.all Char.isDigit

/-- The number that a text with or without a sign stands for. -/
def signedNumber? (o : Octets) : Option Int :=
  let digits := if o.head? = some '-' ∨ o.head? = some '+' then o.drop 1 else o
  if !isNumber digits then none
  else if o.head? = some '-' then some (-(digitsValue digits : Int))
  else some (digitsValue digits)

/-- A number with a letter for a multiple. -/
def sized? (t : Octets) : Option Nat :=
  let ds := t.takeWhile Char.isDigit
  let suffix := String.ofList (t.drop ds.length)
  let factor : Option Nat := match suffix with
    | "" => some 1
    | "b" => some 512
    | "c" => some 1
    | "w" => some 2
    | "K" => some 1024
    | "k" => some 1024
    | "KiB" => some 1024
    | "kB" => some 1000
    | "KB" => some 1000
    | "M" => some 1048576
    | "MiB" => some 1048576
    | "MB" => some 1000000
    | "G" => some 1073741824
    | "GB" => some 1000000000
    | _ => none
  if ds = [] then none else factor.map (· * digitsValue ds)

def padLeft (width : Nat) (o : Octets) : Octets := List.replicate (width - o.length) ' ' ++ o

def padRight (width : Nat) (o : Octets) : Octets := o ++ List.replicate (width - o.length) ' '

end Utility

end KarelBuild.Shell
