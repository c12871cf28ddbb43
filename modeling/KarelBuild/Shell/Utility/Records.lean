import KarelBuild.Shell.Utility.Records.Running

/-!
# Working on records

`awk` runs a program that is its first operand or in files. The operands behind it are the files to be read,
among which variables may be set.
-/

namespace KarelBuild.Shell.Records

open ShellM

/-- What was asked for in front of the operands. -/
structure RecordOptions where
  separator : Option Octets := none
  settings : List (Text × Octets) := []
  files : List Octets := []

def usage : List String :=
  ["Usage: mawk [Options] [Program] [file ...]", "", "Program:",
    "    The -f option value is the name of a file containing program text.",
    "    If no -f option is given, a \"--\" ends option processing; the following",
    "    parameters are the program text.", "", "Options:",
    "    -f program-file  Program  text is read from file instead of from the",
    "                     command-line.  Multiple -f options are accepted.",
    "    -F value         sets the field separator, FS, to value.",
    "    -v var=value     assigns value to program variable var.",
    "    --               unambiguous end of options.", "",
    "    Implementation-specific options are prefixed with \"-W\".  They can be", "    abbreviated:", "",
    "    -W version       show version information and exit.",
    "    -W dump          show assembler-like listing of program and exit.",
    "    -W help          show this message and exit.",
    "    -W interactive   set unbuffered output, line-buffered input.",
    "    -W exec file     use file as program as well as last option.",
    "    -W random=number set initial random seed.",
    "    -W sprintf=number adjust size of sprintf buffer.",
    "    -W posix_space   do not consider \"\\n\" a space.",
    "    -W usage         show this message and exit."]

def showUsage : ShellM Unit := say 2 (Utility.unlines (usage.map String.toList))

/-- Read options up to the first operand; gives what is left then. -/
def recordOptions : (steps : Nat) → List Octets → RecordOptions → ShellM (RecordOptions × List Octets)
  | 0, args, g => return (g, args)
  | _, [], g => return (g, [])
  | n + 1, a :: rest, g =>
    match a with
    | ['-'] => return (g, a :: rest)
    | ['-', '-'] => return (g, rest)
    | '-' :: 'W' :: _ => do
      Utility.emitLine "mawk 1.3.4 20200120".toList
      exit 0
    | '-' :: c :: value => do
      if a = "--version".toList then
        Utility.emitLine "mawk 1.3.4 20200120".toList
        exit 0
      else if a = "--help".toList ∨ a = "--usage".toList then
        showUsage
        exit 0
      else if c = 'F' ∨ c = 'v' ∨ c = 'f' then
        match value, rest with
        | [], [] => Utility.stop 2 ("option -".toList ++ c :: " lacks argument".toList)
        | [], v :: rest => recordOptions n rest (← put g c v)
        | v, rest => recordOptions n rest (← put g c v)
      else Utility.stop 2 ("not an option: ".toList ++ a)
    | _ => return (g, a :: rest)
where
  put (g : RecordOptions) (c : Char) (v : Octets) : ShellM RecordOptions := do
    if c = 'F' then return { g with separator := some (plainText v) }
    else if c = 'f' then return { g with files := g.files ++ [v] }
    else match assignment? v with
      | some (name, value) => return { g with settings := g.settings ++ [(name, plainText value)] }
      | none => Utility.stop 2 ("improper assignment: -v ".toList ++ v)

/-- A part of a program that is in a file. -/
def programFile (name : Octets) : ShellM (Option Octets × Octets) := do
  match ← Utility.readOperand name with
  | .ok o => return (some name, o)
  | .error e => Utility.stop 2 ("cannot open \"".toList ++ name ++ "\" (".toList ++ e.wording.toList ++ [')'])

/-- What a program begins with. -/
def firstMemory (p : Program) (environment : List (Text × Octets)) (args : List Octets) (g : RecordOptions) :
    Memory :=
  let texts : List (String × Octets) :=
    [("FS", g.separator.getD [' ']), ("OFS", [' ']), ("ORS", ['\n']), ("RS", ['\n']), ("FILENAME", []),
      ("SUBSEP", ['\x1c']), ("CONVFMT", "%.6g".toList), ("OFMT", "%.6g".toList)]
  let numbers : List (String × Int) :=
    [("NR", 0), ("FNR", 0), ("RSTART", 0), ("RLENGTH", -1), ("ARGC", args.length)]
  let argv : Table := args.zipIdx.map fun (a, i) => (Text.ofNat i, .input a)
  let environ : Table := environment.map fun (name, o) => (Octets.ofText name, .input o)
  { program := p
    tables := #[argv, environ]
    globals := texts.map (fun (name, o) => (name.toList, .cell (.text o))) ++
      numbers.map (fun (name, n) => (name.toList, .cell (ofInt n))) ++
      [("ARGV".toList, .table 0), ("ENVIRON".toList, .table 1)] }

def awk : Utility := fun _ args => do
  let (g, operands) ← recordOptions (args.length + 1) args {}
  let (parts, operands) ← if g.files ≠ [] then do pure (← g.files.mapM programFile, operands)
    else match operands with
      | program :: rest => pure ([(none, program)], rest)
      | [] =>
        showUsage
        exit 0
  match programOf? parts with
  | .error complaints =>
    complaints.forM Utility.grumble
    return 2
  | .ok p =>
    let s ← shell
    let memory := firstMemory p s.environment ((← Utility.programName) :: operands) g
    let set : RecordM Unit := g.settings.forM fun (name, o) => setValue name (.input o)
    let run : RecordM Unit := do
      set
      runProgram p
    let (_, m) ← (run.run.run memory)
    return m.code

end KarelBuild.Shell.Records
