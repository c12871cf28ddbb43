import KarelBuild.Shell.Utility.Records.Reading
import KarelBuild.Shell.Utility.Records.Written
import KarelBuild.Shell.Utility.Running

/-!
# What a program for records works on

Variables and tables, the record with its fields, and what is read and written. The fields are cut out of the
record when they are asked for, and the record is put together from them when one has been changed.
-/

namespace KarelBuild.Shell.Records

open ShellM

/-- A table, the entry that was asked for last first. -/
abbrev Table := List (Octets × Cell)

namespace Table

/-- The slot in which an entry is kept, made of the bytes of its key. -/
def slotOf (slots : Nat) (key : Octets) : Nat :=
  (key.foldl (fun h c => ((h ^^^ c.toNat) * 16777619) % 0x100000000) 2166136261) % slots

def slotsFor : (tries size slots : Nat) → Nat
  | 0, _, slots => slots
  | n + 1, size, slots => if 2 * slots < size then slotsFor n size (2 * slots) else slots

/-- The keys in the order of their slots. -/
def keys (t : Table) : List Octets :=
  let slots := slotsFor 32 t.length 64
  ((t.map fun (k, _) => (slotOf slots k, k)).mergeSort fun a b => a.1 ≤ b.1).map Prod.snd

end Table

/-- What a name stands for. One that has not been used may still become a table, and if it was handed to a
function it is settled which. -/
inductive Held where
  | cell (c : Cell)
  | table (n : Nat)
  | free (n : Option Nat)

/-- Something that is read record by record. -/
structure Source where
  opened : Nat
  unread : Octets := []
  isOver : Bool := false

/-- Something that was opened by a name for reading, and the process that writes it. -/
structure Inlet where
  name : Octets
  source : Source
  process : Option Nat := none

/-- Something that was opened by a name for writing. -/
structure Outlet where
  name : Octets
  opened : Nat
  process : Option Nat := none
  back : List Octets := []
  size : Nat := 0

structure Memory where
  program : Program := {}
  globals : List (Text × Held) := []
  frame : List (Text × Held) := []
  tables : Array Table := #[]
  record : Octets := []
  /-- The field separator that was there when the record was taken. -/
  separator : Octets := [' ']
  fields : Option (Array Cell) := none
  /-- Whether the record has to be put together again. -/
  isStale : Bool := false
  source : Option Source := none
  operand : Nat := 1
  hasRead : Bool := false
  inlets : List Inlet := []
  outlets : List Outlet := []
  /-- Rules whose ranges have begun. -/
  active : List Nat := []
  code : Nat := 0
  /-- The last random numbers, the newest first, and what they were made from. -/
  random : List Nat := []
  seed : Cell := .number 0.0
  known : List (Octets × Regex) := []

/-- Why what follows is not carried out. -/
inductive Jump where
  | endLoop
  | nextRound
  | nextRecord
  | nextFile
  | quit
  | result (c : Cell)

abbrev RecordM := ExceptT Jump (StateT Memory ShellM)

def inShell {α : Type} (m : ShellM α) : RecordM α := liftM (liftM m : StateT Memory ShellM α)

/-! ## Variables -/

/-- What a name stands for, in the function that is run or outside. -/
def heldBy (s : Memory) (name : Text) : Option Held := (s.frame.lookup name).or (s.globals.lookup name)

def insertHeld (name : Text) (h : Held) (vs : List (Text × Held)) : List (Text × Held) :=
  if vs.any (·.1 == name) then vs.map fun v => if v.1 = name then (name, h) else v else vs ++ [(name, h)]

def hold (name : Text) (h : Held) : RecordM Unit := modify fun s =>
  if (s.frame.lookup name).isSome then { s with frame := insertHeld name h s.frame }
  else { s with globals := insertHeld name h s.globals }

def plainValue (name : String) : RecordM Cell := do
  match heldBy (← get) name.toList with
  | some (.cell c) => return c
  | _ => return .unset

/-- The text that a variable outside of functions holds. -/
def globalText (s : Memory) (name : String) : Octets :=
  match s.globals.lookup name.toList with
  | some (.cell c) => c.textBy "%.6g".toList
  | _ => []

def setGlobal (name : String) (c : Cell) : RecordM Unit := modify fun s =>
  { s with globals := insertHeld name.toList (.cell c) s.globals }

def textOf (c : Cell) : RecordM Octets := do
  match c with
  | .number x => return numberText (globalText (← get) "CONVFMT") x
  | c => return c.textBy []

/-- The number of the table that a name stands for. -/
def tableNumber (name : Text) : RecordM Nat := do
  let s ← get
  match heldBy s name with
  | some (.table n) => return n
  | some (.free (some n)) =>
    hold name (.table n)
    return n
  | _ =>
    set { s with tables := s.tables.push [] }
    hold name (.table s.tables.size)
    return s.tables.size

def tableAt (n : Nat) : RecordM Table := do return (← get).tables.getD n []

def setTable (n : Nat) (t : Table) : RecordM Unit :=
  modify fun s => { s with tables := s.tables.setIfInBounds n t }

/-- The value for a key; one that is not there is made. -/
def entry (name : Text) (key : Octets) : RecordM Cell := do
  let n ← tableNumber name
  let t ← tableAt n
  let c := (t.lookup key).getD .unset
  match t with
  | (k, _) :: _ => if k ≠ key then setTable n ((key, c) :: t.filter (·.1 != key))
  | [] => setTable n [(key, c)]
  return c

def setEntry (name : Text) (key : Octets) (c : Cell) : RecordM Unit := do
  let n ← tableNumber name
  let t ← tableAt n
  setTable n ((key, c) :: t.filter (·.1 != key))

/-! ## Complaints -/

/-- Write what has been held back for those who were opened by a name. Gives the first that cannot be written. -/
def writeOutlets : RecordM (Option (Octets × OsError)) := do
  let s ← get
  let emptied := s.outlets.map fun (o : Outlet) => { o with back := [], size := 0 }
  set { s with outlets := emptied }
  let results ← s.outlets.mapM fun o => inShell do
    match ← writeTo o.opened o.back.reverse.flatten with
    | .ok () => return none
    | .error e => return some (o.name, e)
  return results.findSome? fun r => r

/-- Close what was opened for a process and wait for it. -/
def finishProcess (opened number : Nat) : ShellM Ending := do
  modifyShell fun p => { p with kept := p.kept.erase opened }
  noteHeld none
  awaitEnding number

def closeFault (name : Octets) (e : OsError) : Octets :=
  "close failed on file \"".toList ++ name ++ "\" (".toList ++ e.wording.toList ++ [')']

/-- Close everything that was opened for writing, and wait for commands. -/
def closeAll : RecordM Unit := do
  let fault ← writeOutlets
  let s ← get
  s.outlets.forM fun o =>
    match o.process with
    | some number => inShell do
      let _ ← finishProcess o.opened number
    | none => return
  set { s with outlets := [] }
  match fault with
  | some (name, e) => inShell do
    say 2 ((← Utility.programName) ++ ": ".toList ++ closeFault name e ++ ['\n'])
    exit 2
  | none => return

/-- End with a complaint. -/
def giveUp {α : Type} (message : Octets) : RecordM α := do
  inShell (do say 2 ((← Utility.programName) ++ ": ".toList ++ message ++ ['\n']))
  closeAll
  inShell (exit 2)

def flushOutlets : RecordM Unit := do
  match ← writeOutlets with
  | some (name, e) => giveUp (closeFault name e)
  | none => return

/-- End with a complaint about what cannot be carried out. -/
def runTimeError {α : Type} (message : Octets) : RecordM α := do
  let s ← get
  giveUp ("run time error: ".toList ++ message ++ "\n\tFILENAME=\"".toList ++ globalText s "FILENAME" ++
    "\" FNR=".toList ++ globalText s "FNR" ++ " NR=".toList ++ globalText s "NR")

/-! ## Expressions -/

def regexOf (t : Octets) : RecordM Regex := do
  let s ← get
  match s.known.lookup t with
  | some r => return r
  | none =>
    match patternOf? t with
    | .ok r =>
      set { s with known := (t, r) :: s.known }
      return r
    | .error e => runTimeError ("regular expression compile failed (".toList ++ e.toList ++ ")\n".toList ++ t)

/-! ## Fields -/

/-- Pieces between matches. -/
def piecesBetween : (rest : Octets) → (position : Nat) → List Regex.Match → List Octets
  | rest, _, [] => [rest]
  | rest, position, m :: ms =>
    let front := m.start - position
    rest.take front :: piecesBetween (rest.drop (front + m.length)) (m.start + m.length) ms

def splitBy (r : Regex) (o : Octets) : List Octets :=
  if o = [] then [] else piecesBetween o 0 ((r.allMatches o).filter (·.length > 0))

/-- Words, between which are blanks, tabs and line ends. -/
def wordsIn (o : Octets) : List Octets :=
  let (back, word) := o.foldl (fun (back, word) c =>
    if isSpace c then (if word = [] then back else word.reverse :: back, []) else (back, c :: word))
    (([] : List Octets), ([] : Octets))
  (if word = [] then back else word.reverse :: back).reverse

/-- Pieces of a text by a separator: a blank is for words, another single character for itself, none for every
character, and any other text is an expression. -/
def fieldsIn (separator o : Octets) : RecordM (List Octets) := do
  match separator with
  | [' '] => return wordsIn o
  | [] => return o.map fun c => [c]
  | [c] => return if o = [] then [] else Text.split c o
  | t => return splitBy (← regexOf t) o

def cutFields : RecordM (Array Cell) := do
  let s ← get
  match s.fields with
  | some fs => return fs
  | none =>
    let ps ← fieldsIn s.separator s.record
    let fs := (ps.map Cell.input).toArray
    modify fun s => { s with fields := some fs }
    return fs

/-- The record, put together from its fields if one of them has been changed. -/
def wholeRecord : RecordM Octets := do
  let s ← get
  if s.isStale then
    let parts ← (s.fields.getD #[]).toList.mapM textOf
    let record := Text.join (globalText s "OFS") parts
    modify fun s => { s with record, isStale := false }
    return record
  else return s.record

def setRecord (o : Octets) : RecordM Unit := modify fun s =>
  { s with
    record := o, fields := none, isStale := false, separator := globalText s "FS" }

def fieldAt (n : Nat) : RecordM Cell := do
  if n = 0 then return .input (← wholeRecord)
  else return ((← cutFields)[n - 1]?).getD (.input [])

def maxFields : Nat := 0x100000

def setField (n : Nat) (c : Cell) : RecordM Unit := do
  if n = 0 then setRecord (← textOf c)
  else if maxFields < n then runTimeError "maximum number of fields exceeded".toList
  else
    let fs ← cutFields
    let fs := if fs.size < n then fs ++ (List.replicate (n - fs.size) (Cell.text [])).toArray else fs
    modify fun s => { s with fields := some (fs.setIfInBounds (n - 1) c), isStale := true }

def setFieldCount (n : Int) : RecordM Unit := do
  if n < 0 then runTimeError "negative value assigned to NF".toList
  else if (maxFields : Int) < n then runTimeError "maximum number of fields exceeded".toList
  else
    let fs ← cutFields
    let n := n.toNat
    let fs := if n ≤ fs.size then fs.extract 0 n else fs ++ (List.replicate (n - fs.size) (Cell.text [])).toArray
    modify fun s => { s with fields := some fs, isStale := true }

def valueOf (name : Text) : RecordM Cell := do
  if name = ['N', 'F'] then return ofNat (← cutFields).size
  else match heldBy (← get) name with
    | some (.cell c) => return c
    | _ => return .unset

def setValue (name : Text) (c : Cell) : RecordM Unit := do
  if name = ['N', 'F'] then setFieldCount (Real.ofFloat c.toNumber).truncated
  else hold name (.cell c)

/-! ## Reading records -/

/-- Read on, unless all has been read. -/
def readMore (s : Source) : RecordM Source := do
  if s.isOver then return s
  else match ← inShell (Utility.takeBlock s.opened) with
    | .ok [] => return { s with isOver := true }
    | .ok o => return { s with unread := s.unread ++ o }
    | .error e => giveUp ("read error (".toList ++ e.wording.toList ++ [')'])

/-- Read on until a text is as it should be, or all has been read. -/
def readUntil (isEnough : Octets → Bool) : (tries : Nat) → Source → RecordM Source
  | 0, s => return s
  | n + 1, s => do
    if s.isOver || isEnough s.unread then return s else readUntil isEnough n (← readMore s)

/-- Where a paragraph ends: its text, and what follows the empty line. -/
def paragraph : (back : Octets) → Octets → Octets × Octets
  | back, '\n' :: '\n' :: r => (back.reverse, r)
  | back, c :: r => paragraph (c :: back) r
  | back, [] => (back.reverse, [])

/-- The next record of a source, if there is one. -/
def takeRecord (s : Source) : RecordM (Option Octets × Source) := do
  let rest (s : Source) : Option Octets × Source :=
    if s.unread = [] then (none, s) else (some s.unread, { s with unread := [] })
  match globalText (← get) "RS" with
  | [] =>
    let s ← readUntil (fun o => o.any (· != '\n')) Utility.maxBlocks s
    let s := { s with unread := s.unread.dropWhile (· == '\n') }
    let hasEnd (o : Octets) : Bool := (o.zip (o.drop 1)).contains ('\n', '\n')
    let s ← readUntil hasEnd Utility.maxBlocks s
    if s.unread = [] then return (none, s)
    else
      let (o, more) := paragraph [] s.unread
      let o := if more = [] ∧ o.getLast? = some '\n' then o.dropLast else o
      return (some o, { s with unread := more })
  | [c] =>
    let s ← readUntil (·.contains c) Utility.maxBlocks s
    if s.unread.contains c then
      let o := s.unread.takeWhile (· != c)
      return (some o, { s with unread := s.unread.drop (o.length + 1) })
    else return rest s
  | t =>
    let s ← readUntil (fun _ => false) Utility.maxBlocks s
    let r ← regexOf t
    match r.search s.unread with
    | some m =>
      if m.length = 0 then return rest s
      else return (some (s.unread.take m.start), { s with unread := s.unread.drop (m.start + m.length) })
    | none => return rest s

/-- A name and a value, if an operand is an assignment. -/
def assignment? (o : Octets) : Option (Text × Octets) :=
  let name := o.takeWhile isNameChar
  match o.drop name.length with
  | '=' :: value => if name.head?.any isNameStart then some (name, value) else none
  | _ => none

def countRecord : RecordM Unit := do
  let up (name : String) : RecordM Unit := do
    setGlobal name (.number ((← plainValue name).toNumber + 1.0))
  up "NR"
  up "FNR"

def openSource (name : Octets) : RecordM Source := do
  setGlobal "FILENAME" (.text name)
  setGlobal "FNR" (.number 0.0)
  modify fun s => { s with hasRead := true }
  let found ← inShell (Utility.openOperand (if name = "/dev/stdin".toList then ['-'] else name))
  match found with
  | .ok n => return { opened := n }
  | .error .badDescriptor => giveUp "read error (Bad file descriptor)".toList
  | .error e => giveUp ("cannot open \"".toList ++ name ++ "\" (".toList ++ e.wording.toList ++ [')'])

/-- The next file of those that were named; assignments among them are carried out. -/
def nextSource? : (tries : Nat) → RecordM (Option Source)
  | 0 => return none
  | n + 1 => do
    let s ← get
    let count := (Real.ofFloat (← plainValue "ARGC").toNumber).truncated
    if (s.operand : Int) < count then
      set { s with operand := s.operand + 1 }
      let t ← tableAt (← tableNumber "ARGV".toList)
      let o := ((t.lookup (Text.ofNat s.operand)).getD .unset).textBy "%.6g".toList
      match o, assignment? o with
      | [], _ => nextSource? n
      | _, some (name, value) =>
        setValue name (.input (plainText value))
        nextSource? n
      | _, none => return some (← openSource o)
    else if s.hasRead then return none
    else return some (← openSource ['-'])

/-- The next record of the files that were named. -/
def nextRecord? : (tries : Nat) → RecordM (Option Octets)
  | 0 => return none
  | n + 1 => do
    match (← get).source with
    | some source =>
      let (o, source) ← takeRecord source
      match o with
      | some o =>
        modify fun s => { s with source := some source }
        countRecord
        return some o
      | none =>
        modify fun s => { s with source := none }
        nextRecord? n
    | none =>
      match ← nextSource? 0x10000 with
      | some source =>
        modify fun s => { s with source := some source }
        nextRecord? n
      | none => return none

def maxFiles : Nat := 0x10000

/-! ## Files and commands by name -/

/-- Start a command beside this program, with one of its descriptors at the end of a stream. -/
def startCommand (text : Octets) (stream : Option (Nat × Nat)) : ShellM Nat := do
  let number ← newProcess
  let p := (← shell).forProgram number
  match ← Utility.launchNamed "/bin/sh".toList ["-c".toList, text] with
  | .ok l => spawn (stream.elim p fun (fd, opened) => p.connect fd opened) (.program l)
  | .error _ => spawn p (.textAt {} 1 [])
  return number

def keepOpen (n : Nat) : ShellM Unit := modifyShell fun p => { p with kept := n :: p.kept }

/-- What a name is read from, opened if that has not been done. -/
def inletFor (isCommand : Bool) (name : Octets) : RecordM (Option Inlet) := do
  match (← get).inlets.find? (·.name == name) with
  | some i => return some i
  | none =>
    if isCommand then
      flushOutlets
      let i ← inShell do
        Utility.flush
        let (_, reading, writing) ← openStream
        keepOpen reading
        let number ← startCommand name (some (1, writing))
        return ({ name, source := { opened := reading }, process := some number } : Inlet)
      modify fun s => { s with inlets := i :: s.inlets }
      return some i
    else
      match ← inShell (Utility.openOperand (if name = "/dev/stdin".toList then ['-'] else name)) with
      | .ok n =>
        let i : Inlet := { name, source := { opened := n } }
        modify fun s => { s with inlets := i :: s.inlets }
        return some i
      | .error _ => return none

def setInlet (i : Inlet) : RecordM Unit := modify fun s =>
  { s with inlets := s.inlets.map fun j => if j.name == i.name then i else j }

/-- How much is held back for what was opened by a name. -/
def heldForOutlet : Nat := 0x1000

def putOutlet (o : Outlet) (text : Octets) : RecordM Unit := do
  let o := { o with back := text :: o.back, size := o.size + text.length }
  let o ← if o.size < heldForOutlet then pure o
    else inShell do
      let _ ← writeTo o.opened o.back.reverse.flatten
      return { o with back := [], size := 0 }
  modify fun s => { s with outlets := s.outlets.map fun p => if p.name == o.name then o else p }

/-- Write to what a name stands for, opened if that has not been done. -/
def putNamed (channel : Channel) (name text : Octets) : RecordM Unit := do
  if channel ≠ .command ∧ (name = "/dev/stdout".toList ∨ name = ['-']) then inShell (Utility.emit text)
  else if channel ≠ .command ∧ name = "/dev/stderr".toList then inShell (say 2 text)
  else match (← get).outlets.find? (·.name == name) with
    | some o => putOutlet o text
    | none =>
      let o ← match channel with
        | .command =>
          flushOutlets
          inShell do
            Utility.flush
            let (_, reading, writing) ← openStream
            let number ← startCommand name (some (0, reading))
            keepOpen writing
            return ({ name, opened := writing, process := some number } : Outlet)
        | channel =>
          match ← inShell (openPath name (if channel = .fileEnd then .appends else .writes)) with
          | .ok n => pure { name, opened := n }
          | .error e =>
            giveUp ("cannot open \"".toList ++ name ++ "\" for output (".toList ++ e.wording.toList ++ [')'])
      modify fun s => { s with outlets := s.outlets ++ [o] }
      putOutlet o text

/-- What comes of a process that has been waited for. -/
def codeOf : Ending → Nat
  | .code n => n
  | .signal n => 256 + n

/-- Close what was opened by a name. -/
def closeNamed (name : Octets) : RecordM Int := do
  let finish (opened : Nat) (process : Option Nat) : RecordM Int :=
    match process with
    | some number => do return codeOf (← inShell (finishProcess opened number))
    | none => return 0
  flushOutlets
  let s ← get
  set { s with
    outlets := s.outlets.filter (·.name != name), inlets := s.inlets.filter (·.name != name) }
  let written ← match s.outlets.find? (·.name == name) with
    | some o => do pure (some (← finish o.opened o.process))
    | none => pure none
  let read ← match s.inlets.find? (·.name == name) with
    | some i => do pure (some (← finish i.source.opened i.process))
    | none => pure none
  return (written.or read).getD (-1)

end KarelBuild.Shell.Records
