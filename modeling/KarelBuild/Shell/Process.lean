import KarelBuild.FileTree.Lookup
import KarelBuild.Launch
import KarelBuild.Shell.Statement

/-!
# Processes

What belongs to one process: its descriptors, variables, functions, traps and options, and where it is in
its script. What a process can be asked to do is a task.
-/

namespace KarelBuild.Shell

/-! ## Variables -/

inductive Content where
  | unset
  | text (o : Octets)
  | list (members : List (Nat × Octets))
  | table (members : List (Octets × Octets))
  deriving DecidableEq, Repr

/-- What is done to the letters of a value when it is set. -/
inductive Casing where
  | kept
  | upper
  | lower
  | capital
  deriving DecidableEq, Repr

structure Variable where
  content : Content := .unset
  exported : Bool := false
  readOnly : Bool := false
  isNumber : Bool := false
  casing : Casing := .kept
  /-- Whether a list or a table has been declared and not been given any members. -/
  isBare : Bool := false
  /-- Whether the name stands for the variable that the value names. -/
  refers : Bool := false
  isTraced : Bool := false
  deriving DecidableEq, Repr

def Casing.apply (c : Casing) (o : Octets) : Octets :=
  match c with
  | kept => o
  | upper => o.map Char.toUpper
  | lower => o.map Char.toLower
  | capital =>
    match o with
    | c :: r => c.toUpper :: r.map Char.toLower
    | [] => []

namespace Content

def isTable : Content → Bool
  | .table _ => true
  | _ => false

/-- The value that the bare name stands for: of a list, its member 0. -/
def text? : Content → Option Octets
  | unset => none
  | text o => some o
  | list ms => ms.lookup 0
  | table ms => ms.lookup ['0']

/-- The member of a number or a key, as it is written. Negative numbers count from the end. -/
def at? (c : Content) (index : Octets) : Option Octets :=
  match c with
  | unset => none
  | text o => if index = ['0'] ∨ index = ['-', '1'] then some o else none
  | table ms => ms.lookup index
  | list ms =>
    match (String.ofList index).toInt? with
    | some n =>
      if 0 ≤ n then ms.lookup n.toNat
      else
        let size : Int := ((ms.getLast?.map (·.1 + 1)).getD 0 : Nat)
        if 0 ≤ size + n then ms.lookup (size + n).toNat else none
    | none => none

def members : Content → List Octets
  | unset => []
  | text o => [o]
  | list ms => ms.map (·.2)
  | table ms => ms.map (·.2)

def keys : Content → List Octets
  | unset => []
  | text _ => [['0']]
  | list ms => ms.map fun m => Text.ofNat m.1
  | table ms => ms.map (·.1)

/-- The slot of a table that a key is kept in: a number made of its bytes, of which each is mixed into what
the ones before have come to, times a prime. -/
def slotOf (key : Octets) : Nat :=
  (key.foldl (fun n c => ((n * 16777619) % 0x100000000) ^^^ c.toNat) 2166136261) % 1024

/-- A table with one more entry. Entries come in order of their slots, and in a slot the last one first. -/
def insertEntry (key o : Octets) (ms : List (Octets × Octets)) : List (Octets × Octets) :=
  if ms.any (·.1 == key) then ms.map fun e => if e.1 = key then (key, o) else e
  else
    let before := ms.takeWhile fun e => slotOf e.1 < slotOf key
    before ++ (key, o) :: ms.drop before.length

/-- The members with one more, in order of their numbers. -/
def insert (n : Nat) (o : Octets) : List (Nat × Octets) → List (Nat × Octets)
  | [] => [(n, o)]
  | (k, p) :: r =>
    if n < k then (n, o) :: (k, p) :: r
    else if n = k then (n, o) :: r
    else (k, p) :: insert n o r

end Content

/-! ## Processes -/

/-- A function that is being run, or a file that is being read: what it is called, in which line it was called
and where its commands come from. -/
structure Call where
  name : Text
  line : Nat := 0
  source : Octets := []
  isFile : Bool := false

structure Process where
  /-- Whether the process is a shell, or else some other program. -/
  isShell : Bool := false
  dialect : Dialect := .plain
  /-- The own number, that of the shell that it comes from, and that of who started it. -/
  number : Nat := 1
  root : Nat := 1
  parent : Nat := 0
  /-- The group in which it gets signals together with others. -/
  group : Nat := 1
  workDir : WorkDir
  /-- The working directory by the names that led to it. -/
  logicalDir : Octets := []
  descriptors : List (Nat × Nat) := []
  vars : List (Text × Variable) := []
  /-- For each call, the variables to be given back at its end. -/
  frames : List (List (Text × Option Variable)) := []
  functions : List (Text × Statement) := []
  /-- Functions that are given to programs, as they are written then. -/
  exportedFunctions : List (Text × Octets) := []
  aliases : List (Text × Octets) := []
  /-- What is run when a signal comes; the empty text ignores it. -/
  traps : List (Nat × Octets) := []
  /-- The traps of the shell that this one was split off from. -/
  formerTraps : List (Nat × Octets) := []
  options : List Char := []
  /-- Habits of the rich dialect that are on. -/
  habits : List Text := []
  /-- Builtins that are turned off. -/
  disabled : List Text := []
  name : Octets := []
  args : List Octets := []
  status : Nat := 0
  /-- The last background process. -/
  background : Option Nat := none
  lastArg : Octets := []
  line : Nat := 1
  calls : List Call := []
  sourced : Nat := 0
  /-- Where the commands come from that are run, if not from the command line; and for each function that
  does, where it comes from. -/
  source : Option Octets := none
  /-- What is named before the line when commands cannot be read. -/
  textTag : Octets := []
  sources : List (Text × Octets) := []
  loops : Nat := 0
  /-- The builtin that complains, when one is run. -/
  builtin : Option Octets := none
  /-- The exit code of the last command inside a word. -/
  substituted : Option Nat := none
  pipeStatus : List Nat := []
  /-- The argument to be read next for options, and how far the one before has been read. -/
  optionIndex : Nat := 1
  optionOffset : Option Nat := none
  /-- Programs that have been found before, and how often they were run since. -/
  found : List (Octets × Nat) := []
  /-- Directories to go back to, below the working directory. -/
  dirStack : List Octets := []
  /-- How many shells this one is inside of, and since when it runs. -/
  level : Nat := 0
  /-- How deep the text stands that is run inside other commands. -/
  depth : Nat := 0
  since : Nat := 0
  secondsAhead : Nat := 0
  /-- The last random number, and what the next one is made from. -/
  random : Nat := 0
  seed : Nat := 1
  /-- The text of the command that is run. -/
  command : Thunk Octets := Thunk.pure []
  /-- Descriptors that were opened for words of the command that is run. -/
  passing : List Nat := []
  /-- Events whose traps are being run. -/
  running : List Nat := []
  /-- Descriptors that programs are not given. -/
  ownDescriptors : List Nat := []
  umask : Nat := 18
  /-- What the process may use at most, by the letter of what is limited. -/
  limits : List (Char × Nat) := []
  /-- By how much the process steps back behind others. -/
  niceness : Int := 0
  /-- Signals with a trap that have come and have not been seen to. -/
  caught : List Nat := []
  /-- What descriptors led to that are to be given back. -/
  kept : List Nat := []
  /-- Output that has not been written yet, the last first, and its size. -/
  unwritten : List Octets := []
  unwrittenSize : Nat := 0

/-- How a process ended. -/
inductive Ending where
  | code (n : Nat)
  | signal (n : Nat)
  deriving DecidableEq, Repr

/-! ## Tasks -/

/-- Whether the status is tested, so that failing ends nothing, and whether the process ends with the
command. -/
structure Flags where
  tested : Bool := false
  exits : Bool := false

/-- A redirection whose words have been expanded. -/
inductive Ready where
  | allotted (name : Octets) (r : Ready)
  | file (fd : Nat) (d : Direction) (path : Octets)
  | copy (fd : Nat) (source : Option Nat)
  | copyNamed (fd : Nat) (reads : Bool) (name shown : Octets)
  | text (fd : Nat) (o : Octets)
  | outAndErrors (d : Direction) (path : Octets)
  | impossible (message : Octets)

inductive Task where
  | statement (flags : Flags) (s : Statement)
  /-- Run a statement behind redirections that last. -/
  | redirected (redirections : List Ready) (flags : Flags) (s : Statement)
  /-- Run text in the shell itself. -/
  | text (flags : Flags) (source : Text)
  /-- Run text in which all is said to be in one line. -/
  | textAt (flags : Flags) (line : Nat) (source : Text)
  /-- Become another program. -/
  | program (l : Launch)

/-- A background process of a shell. The shell keeps it in a slot of its table, which is free again when it is
over and somebody has waited for it. -/
structure Job where
  slot : Nat
  number : Nat
  /-- The command, where it is shown. -/
  text : Octets := []
  ending : Option Ending := none
  isOver : Bool := false
  isWaited : Bool := false
  deriving DecidableEq

namespace Process

/-- Where the commands come from that are run: those of functions and files, the last first, and the script. -/
def callSources (p : Process) : List Octets := p.calls.map (·.source) ++ p.source.toList

/-- The name under which a shell complains: in the rich dialect that of where the commands come from. -/
def complainer (p : Process) : Octets :=
  if p.isShell && p.dialect == .rich then p.callSources.headD p.name else p.name

/-- Whether the process was split off from a shell. -/
def isSubshell (p : Process) : Bool := p.number != p.root

def var? (p : Process) (name : Text) : Option Variable := p.vars.lookup name

def value? (p : Process) (name : Text) : Option Octets := (p.var? name).bind (·.content.text?)

/-- Plain shells keep names in a table by a number made of their letters. -/
def slotOf (name : Text) : Nat :=
  ((name.headD ' ').toNat * 16 + sumOf (name.map Char.toNat)) % 39

/-- The variables that a program is started with, in the order in which the process keeps them. -/
def environment (p : Process) : List (Text × Octets) :=
  let vars := p.vars.filterMap fun (name, v) =>
    if v.exported then match v.content with
      | .text o => some (name, o)
      | _ => none
    else none
  if !p.isShell then vars
  else match p.dialect with
    | .plain => vars.mergeSort fun a b => slotOf a.1 ≤ slotOf b.1
    | .rich =>
      let functions := p.exportedFunctions.map fun (name, o) => ("BASH_FUNC_".toList ++ name ++ "%%".toList, o)
      let (last, others) := vars.partition (·.1 == ['_'])
      (others.mergeSort fun a b => Content.slotOf a.1 ≤ Content.slotOf b.1) ++ functions ++ last

/-- The opened file behind a descriptor. -/
def opened? (p : Process) (fd : Nat) : Option Nat := p.descriptors.lookup fd

/-- The lowest descriptor that leads nowhere. -/
def lowestFree (p : Process) : Nat :=
  ((List.range (p.descriptors.length + 1)).find? fun fd => (p.opened? fd).isNone).getD p.descriptors.length

/-- The lowest descriptor from one on that leads nowhere. -/
def lowestFreeFrom (p : Process) (first : Nat) : Nat :=
  ((List.range (p.descriptors.length + 1)).find? fun i => (p.opened? (first + i)).isNone).elim first (first + ·)

/-- The highest descriptor up to one that leads nowhere. -/
def highestFree (p : Process) (last : Nat) : Nat :=
  ((List.range (last + 1)).find? fun i => (p.opened? (last - i)).isNone).elim last (last - ·)

/-- Whether a descriptor is beyond what the process may use. -/
def isBeyond (p : Process) (fd : Nat) : Bool := (p.limits.lookup 'n').any (· ≤ fd)

def connect (p : Process) (fd opened : Nat) : Process :=
  { p with descriptors := (fd, opened) :: p.descriptors.filter (·.1 != fd) }

def disconnect (p : Process) (fd : Nat) : Process :=
  { p with descriptors := p.descriptors.filter (·.1 != fd) }

end Process

end KarelBuild.Shell
