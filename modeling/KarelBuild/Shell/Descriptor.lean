import KarelBuild.Shell.Signal

/-!
# Descriptors

A descriptor leads to something that was opened. Writing and reading go on at its offset; opening a
path may make or empty a file. A complaint goes to descriptor 2. Whoever reads from a stream waits for what is
written, and whoever writes to one that is full waits until something was read.
-/

namespace KarelBuild.Shell

namespace ShellM

/-! ## Writing -/

/-- Write to a stream. Where nobody is left to read, the signal for that comes. -/
def writeStream (k : Nat) : (tries : Nat) → Octets → ShellM (Except OsError Unit)
  | 0, _ => throw .outOfSteps
  | n + 1, o => do
    let s ← get
    if s.world.isTaken k then
      modifyWorld fun w => w.modifyStream k (·.push o)
      return .ok ()
    else if !s.world.isHeldWith s.shell false k then
      takeIn 13
      return .error .brokenPipe
    else
      let room := (s.world.stream k).room
      modifyWorld fun w => w.modifyStream k (·.push (o.take room))
      match o.drop room with
      | [] => return .ok ()
      | rest =>
        await (.room k)
        writeStream k n rest

/-- Write to what was opened. -/
def writeTo (n : Nat) (o : Octets) : ShellM (Except OsError Unit) := do
  let w ← world
  match w.opened[n]? with
  | none => return .error .badDescriptor
  | some f =>
    if !f.writes then return .error .badDescriptor
    else if o = [] then return .ok ()
    else match f.target with
      | .stream k => writeStream k maxWaits o
      | .dir _ => return .error .isDirectory
      | .device .full => return .error .noSpace
      | .device _ => return .ok ()
      | target =>
        let offset := if f.appends then w.sizeOf target else f.offset
        let fitting := match (← shell).limits.lookup 'f' with
          | some most => if offset + o.length ≤ most then o else o.take (most - offset)
          | none => o
        if fitting ≠ [] then
          modifyWorld fun w => (w.writeAt target offset fitting).setOffset n (offset + fitting.length)
        if fitting.length = o.length then return .ok ()
        else
          takeIn 25
          return .error .tooLarge

def put (fd : Nat) (o : Octets) : ShellM (Except OsError Unit) := do
  match (← shell).opened? fd with
  | some n => writeTo n o
  | none => return .error .badDescriptor

/-- Write what need not arrive. -/
def say (fd : Nat) (o : Octets) : ShellM Unit := do
  let _ ← put fd o

/-- What stands in front of a complaint: the script, the line, and the builtin that complains. -/
def complaintPrefix : ShellM Octets := do
  let p ← shell
  let line := Text.ofNat p.line
  let place := if p.dialect = .rich then "line ".toList ++ line else line
  return Text.join ": ".toList ([p.complainer, place] ++ p.builtin.toList) ++ ": ".toList

def complain (message : Octets) : ShellM Unit := do
  say 2 ((← complaintPrefix) ++ message ++ ['\n'])

/-- Complain, and end what cannot go on. -/
def refuse {α : Type} (message : Octets) : ShellM α := do
  complain message
  failWith (if (← shell).dialect = .rich then 1 else 2)

/-- What an opened file leads to. -/
def targetOf (n : Nat) : ShellM (Option Target) := do return ((← world).opened[n]?).map Opened.target

/-! ## Reading -/

inductive Input where
  | text (o : Octets)
  | endless (c : Char)

/-- What there is to read, which stays there. From a stream there has to be enough, unless it ends. -/
def unreadWith (enough : Octets → Bool) (n : Nat) : (tries : Nat) → ShellM (Except OsError Input)
  | 0 => throw .outOfSteps
  | tries + 1 => do
    let w ← world
    match w.opened[n]? with
    | none => return .error .badDescriptor
    | some f =>
      if !f.reads then return .error .badDescriptor
      else match f.target with
        | .stream k =>
          let s := w.stream k
          let text := s.text
          modifyWorld fun w => w.modifyStream k fun s => { s with chunks := [text] }
          if s.size ≠ 0 && enough text then return .ok (.text text)
          else
            noteHeld none
            if !(← world).isHeld true k then return .ok (.text text)
            else
              await (.filled k s.size)
              unreadWith enough n tries
        | .dir _ => return .error .isDirectory
        | .device .null => return .ok (.text [])
        | .device _ => return .ok (.endless '\x00')
        | target => return .ok (.text (((w.contents? target).getD []).drop f.offset))

/-- What there is to read, which stays there. -/
def unread (n : Nat) : ShellM (Except OsError Input) := unreadWith (fun _ => true) n maxWaits

/-- Take a number of bytes off what is left to read. -/
def advance (n count : Nat) (rest : Octets) : ShellM Unit := do
  match (← world).opened[n]? with
  | none => return
  | some f =>
    match f.target with
    | .stream k => modifyWorld fun w => w.modifyStream k (·.leave count rest)
    | _ => modifyWorld fun w => w.setOffset n (f.offset + count)

/-- Take what there is to read, which is nothing at the end. -/
def takeSome (n : Nat) : ShellM (Except OsError Input) := do
  match ← unread n with
  | .ok (.text o) =>
    advance n o.length []
    return .ok (.text o)
  | r => return r

/-- Take at most so many bytes of what there is to read; none are left at the end. -/
def takeUpTo (n count : Nat) : ShellM (Except OsError Octets) := do
  match ← unread n with
  | .ok (.text o) =>
    let rest := o.drop count
    let block := if rest = [] then o else o.take count
    advance n block.length rest
    return .ok block
  | .ok (.endless c) => return .ok (List.replicate count c)
  | .error e => return .error e

/-- Take all that is left to read, up to the end. -/
def takeAll (n : Nat) : ShellM (Except OsError Input) := do
  match (← world).opened[n]? with
  | some f =>
    match f.reads, f.target with
    | true, .stream k => awaitEnd k
    | _, _ => pure ()
  | none => pure ()
  takeSome n

/-- Take what is left of a line, with its end. -/
def takeLine (n : Nat) : ShellM (Except OsError Octets) := do
  match ← unreadWith (·.contains '\n') n maxWaits with
  | .ok (.text o) =>
    let line := o.takeWhile (· != '\n')
    let rest := o.drop line.length
    let line := line ++ rest.take 1
    advance n line.length (rest.drop 1)
    return .ok line
  | .ok (.endless _) => return .ok []
  | .error e => return .error e

/-! ## Opening -/

def add (f : Opened) : ShellM Nat := modifyGet fun s =>
  let (n, world) := s.world.addOpened f
  (n, { s with world })

/-- Open again what a descriptor leads to. -/
def reopen (fd : Nat) (reads writes appends truncates : Bool) : ShellM (Except OsError Nat) := do
  match (← shell).opened? fd with
  | none => return .error .noEntry
  | some n =>
    match (← world).opened[n]? with
    | none => return .error .noEntry
    | some f =>
      if truncates then modifyWorld fun w => w.truncate f.target
      return .ok (← add { f with offset := 0, reads, writes, appends })

/-- Open a stream by its name, and wait until its other end is opened too. -/
def openNamed (k : Nat) (reads writes : Bool) : ShellM Nat := do
  let s := (← world).stream k
  modifyWorld fun w => w.modifyStream k fun s =>
    { s with readers := s.readers + if reads then 1 else 0, writers := s.writers + if writes then 1 else 0 }
  let n ← add { target := .stream k, reads, writes }
  if !(reads && writes) then
    modifyShell fun p => { p with kept := n :: p.kept }
    await (.opened reads k (if reads then s.writers else s.readers))
    modifyShell fun p => { p with kept := p.kept.erase n }
  return n

/-- Open a path; a file that is written to is made if it is missing. -/
def openPath (path : Octets) (d : Direction) : ShellM (Except OsError Nat) := do
  let reads := d = .reads ∨ d = .both
  let writes := d ≠ .reads
  let appends := d = .appends
  let truncates := d = .writes ∨ d = .replaces
  let p := Octets.toText path
  let s ← get
  let t := s.world.tree
  if s.shell.limits ≠ [] ∧ s.shell.isBeyond s.shell.lowestFree then return .error .tooManyFiles
  else match t.stat s.shell.workDir p with
  | .ok (_, .device (.descriptor fd)) => reopen fd reads writes appends truncates
  | .ok (_, .device (.pipe k)) => return .ok (← openNamed k reads writes)
  | .ok (_, .device .terminal) => return .error .noDevice
  | .ok (_, .device device) => return .ok (← add ⟨.device device, 0, appends, reads, writes⟩)
  | .ok (_, .link _) => return .error .tooManyLinks
  | .ok (place, .dir) =>
    if writes then return .error .isDirectory
    else return .ok (← add ⟨.dir place, 0, false, true, false⟩)
  | .ok (place, .file _ _) =>
    if d = .writes ∧ s.shell.options.contains 'C' then return .error .alreadyThere
    else
      if truncates then modifyWorld fun w => w.truncate (.file place)
      return .ok (← add ⟨.file place, 0, appends, reads, writes⟩)
  | .error e =>
    if !writes then return .error e
    else match t.writable s.shell.workDir p with
      | .error e => return .error e
      | .ok place =>
        setTree (t.put place (.file [] false))
        return .ok (← add ⟨.file place, 0, appends, reads, writes⟩)

/-- A file without a name that holds a text, opened for reading. -/
def openText (o : Octets) : ShellM Nat := do
  let (n, w) := (← world).addStream { chunks := [o], size := o.length }
  modifyWorld fun _ => w
  add { target := .nameless n, reads := true }

/-- A stream, opened at its two ends: one to read from and one to write to. -/
def openStream : ShellM (Nat × Nat × Nat) := do
  let (n, w) := (← world).addStream {}
  modifyWorld fun _ => w
  let reading ← add { target := .stream n, reads := true }
  let writing ← add { target := .stream n, writes := true }
  return (n, reading, writing)

end ShellM

end KarelBuild.Shell
