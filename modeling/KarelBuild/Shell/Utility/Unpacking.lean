import KarelBuild.Shell.Utility.Running

/-!
# Compressed files as if they were not

`zgrep` looks for patterns in files that may be compressed, `zcmp` and `zdiff` compare such files. Each has other
programs do the work.
-/

namespace KarelBuild.Shell.Utility

open ShellM

namespace Unpacking

/-- Run a program with texts on some of its descriptors. -/
def runOn (inputs : List (Nat × Octets)) (name : Octets) (args : List Octets) (quiet : Bool) : ShellM Nat := do
  match ← launchNamed name args with
  | .error e =>
    say 2 (name ++ ": ".toList ++ e.wording.toList ++ ['\n'])
    return notStarted e
  | .ok l =>
    flush
    let number ← newProcess
    let mut p := (← shell).forProgram number
    for (fd, o) in inputs do p := p.connect fd (← openText o)
    if quiet then
      match ← openPath "/dev/null".toList .writes with
      | .ok n => p := p.connect 1 n
      | .error _ => pure ()
    return (← runProcess p (.program l)).status

/-- What is in a file, which may be compressed, and the exit code of the program that finds it out. -/
def contentsOf (options : String) (file : Octets) : ShellM (Octets × Nat) := do
  match ← launchNamed "gzip".toList [options.toList, "--".toList, file] with
  | .error e => return ([], notStarted e)
  | .ok l =>
    flush
    let (_, reading, writing) ← openStream
    let number ← newProcess
    spawn (((← shell).forProgram number).connect 1 writing) (.program l)
    let o := match ← takeAll reading with
      | .ok (.text o) => o
      | _ => []
    return (o, (← awaitEnding number).status)

def scriptName : ShellM Octets := do return "/usr/bin/".toList ++ (← programName)

/-! ## Searching -/

/-- What the arguments of `zgrep` ask for. -/
structure Request where
  options : List Octets := []
  operands : List Octets := []
  hasPattern : Bool := false
  named : Bool := false
  unnamed : Bool := false
  listsMatching : Bool := false
  listsOthers : Bool := false

def valueLetters : Octets := "ABCDefm".toList

/-- Note an option that `zgrep` itself heeds; complains of those that it cannot give on. -/
def noteOption (r : Request) (a : Octets) (value : List Octets) : ShellM Request := do
  let begins (t : String) : Bool := t.toList.isPrefixOf a
  if (a.length = 2 ∧ "drRzZ".toList.contains (a.getLastD ' ')) ∨
      ["--di", "--exc", "--inc", "--rec", "--nu"].any begins then
    say 2 ((← scriptName) ++ ": ".toList ++ a ++ ": option not supported\n".toList)
    exit 2
  else if a = "-H".toList ∨ begins "--wi" then return { r with named := true }
  else
    let r := { r with options := r.options ++ a :: value }
    if begins "-e" ∨ begins "--reg" ∨ begins "-f" ∨ begins "--file=" ∨ a = "--file".toList then
      return { r with hasPattern := true }
    else if a = "-l".toList ∨ begins "--files-with-" then return { r with listsMatching := true }
    else if a = "-L".toList ∨ begins "--files-witho" then return { r with listsOthers := true }
    else if a = "-h".toList ∨ begins "--no-f" then return { r with unnamed := true }
    else return r

/-- A cluster of options, taken apart. -/
def clusterOf : (steps : Nat) → Octets → List Octets
  | 0, _ => []
  | _, [] => []
  | n + 1, c :: r =>
    if valueLetters.contains c ∧ r ≠ [] then [['-', c] ++ r] else ['-', c] :: clusterOf n r

def readRequest : (steps : Nat) → List Octets → Request → ShellM Request
  | 0, _, r => return r
  | _, [], r => return r
  | n + 1, a :: rest, r => do
    match a with
    | ['-', '-'] => return { r with operands := r.operands ++ rest }
    | '-' :: '-' :: _ =>
      if a.isPrefixOf "--help".toList ∧ 3 ≤ a.length then
        introduce ("Usage: ".toList ++ (← scriptName) ++ " [OPTION]... [-e] PATTERN [FILE]...\n".toList)
      else if a.isPrefixOf "--version".toList ∧ 3 ≤ a.length then introduce "zgrep (gzip) 1.12\n".toList
      else if a = "--file".toList ∨ a = "--regexp".toList then
        readRequest n (rest.drop 1) (← noteOption r a (rest.take 1))
      else readRequest n rest (← noteOption r a [])
    | '-' :: c :: cs =>
      if cs ≠ [] ∧ !valueLetters.contains c then
        readRequest n (clusterOf (cs.length + 2) (c :: cs) ++ rest) r
      else if cs = [] ∧ valueLetters.contains c then
        match rest with
        | v :: rest => readRequest n rest (← noteOption r a [v])
        | [] =>
          say 2 ((← scriptName) ++ ": 1: ".toList ++ a ++ " option requires an argument\n".toList)
          exit 2
      else if a = "-V".toList then introduce "zgrep (gzip) 1.12\n".toList
      else readRequest n rest (← noteOption r a [])
    | _ => readRequest n rest { r with operands := r.operands ++ [a] }

/-- The worse of two exit codes, where finding nothing is better than any mistake, but worse than finding. -/
def worse (code total : Nat) : Nat :=
  if code ≤ 1 ∧ total ≤ 1 then min code total else max code total

def zgrepWith (lead : List Octets) : Utility := fun _ args => do
  let r ← readRequest (sumOf (args.map (·.length)) + args.length + 1) args {}
  let (pattern, files) ← if r.hasPattern then pure ([], r.operands) else
    match r.operands with
    | p :: files => pure (["--".toList, p], files)
    | [] =>
      let name ← scriptName
      say 2 (name ++ ": 188: 1: missing pattern; try \x60".toList ++ name ++ " --help' for help\n".toList)
      exit 2
  let named := r.named || (1 < files.length && !r.unnamed)
  let options := lead ++ (if named then ["-H".toList] else [])
  let mut total := 1
  for file in if files = [] then [['-']] else files do
    let (o, packed) ← contentsOf "-cdfq" file
    let grep (more : List Octets) (quiet : Bool) : ShellM Nat :=
      runOn [(0, o)] "grep".toList (options ++ more ++ r.options ++ pattern) quiet
    let code ←
      if r.listsMatching then do
        let code ← grep [] true
        if code = 0 then emitNow (file ++ ['\n'])
        pure code
      else if r.listsOthers then do
        let code ← grep [] true
        if code = 1 then emitNow (file ++ ['\n'])
        pure (if code = 1 then 1 else code)
      else grep (if file = ['-'] then [] else ["--label".toList, file]) false
    let packed := if packed = 2 then 0 else if packed = 1 then 2 else packed
    total := worse (max code packed) total
  return total

/-! ## Comparing -/

def isPacked (file : Octets) : Bool :=
  let ends (t : String) : Bool := t.toList.isSuffixOf file
  file == ['-'] || [".gz", "-gz", ".z", "-z", ".Z", "-Z", ".tgz", ".taz"].any ends

/-- The name of a compressed file before it was compressed. -/
def unpackedName (file : Octets) : Octets :=
  let back := file.reverse.dropWhile fun c => "zZtga".toList.contains c
  (back.drop 1).reverse

def compareWith (program : String) : Utility := fun _ args => do
  let name := "/usr/bin/zdiff".toList
  let fail {α : Type} (message : Octets) : ShellM α := do
    say 2 (name ++ ": ".toList ++ message ++ ['\n'])
    exit 2
  let options := args.takeWhile (· != ['-', '-'])
  match options.find? fun a => "--h".toList.isPrefixOf a || "--v".toList.isPrefixOf a with
  | some a =>
    let shown := ['z'] ++ program.toList
    if "--v".toList.isPrefixOf a then introduce (shown ++ " (gzip) 1.12\n".toList)
    else introduce ("Usage: /usr/bin/".toList ++ shown ++ " [OPTION]... FILE1 [FILE2]\n".toList)
  | none => pure ()
  let isOption (a : Octets) : Bool := a.length > 1 && a.head? == some '-'
  let files := options.filter (!isOption ·) ++ args.drop (options.length + 1)
  let options := options.filter isOption ++ ["--".toList]
  let run (inputs : List (Nat × Octets)) (a b : Octets) : ShellM Nat :=
    runOn inputs program.toList (options ++ [a, b]) false
  let check (line : String) (file : Octets) : ShellM Unit := do
    if file ≠ ['-'] then
      match ← openPath file .reads with
      | .ok _ => return
      | .error e =>
        let what := if e = .noEntry then "No such file".toList else e.wording.toList
        fail (line.toList ++ ": cannot open ".toList ++ file ++ ": ".toList ++ what)
  let ended (codes : List Nat) (code : Nat) : ShellM Nat :=
    return if codes.any (· ≠ 0) then 2 else code
  match files with
  | [] => fail "missing operand".toList
  | [file] =>
    check "92" file
    if !isPacked file ∨ file = ['-'] then fail (file ++ ": unknown compressed file extension".toList)
    let (o, packed) ← contentsOf "-cd" file
    ended [packed] (← run [(0, o)] ['-'] (unpackedName file))
  | [a, b] =>
    check "92" a
    check "96" b
    match isPacked a, isPacked b with
    | false, false => run [] a b
    | true, false => do
      let (o, packed) ← contentsOf "-cdfq" a
      ended [packed] (← run [(0, o)] ['-'] b)
    | false, true => do
      let (o, packed) ← contentsOf "-cdfq" b
      ended [packed] (← run [(0, o)] a ['-'])
    | true, true => do
      let (o, first) ← contentsOf "-cdfq" a
      let (q, second) ← contentsOf "-cdfq" b
      ended [first, second] (← run [(5, o), (0, q)] "/dev/fd/5".toList ['-'])
  | _ :: _ :: extra :: _ => fail ("extra operand '".toList ++ extra ++ ['\''])

end Unpacking

end KarelBuild.Shell.Utility
