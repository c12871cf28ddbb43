import KarelBuild.Host
import KarelBuild.Shell.Metadata
import KarelBuild.Shell.Switch

/-!
# The state of a shell

Commands change the state of a process and the world in the monad `ShellM`. Leaving a command early carries
the reason and keeps all changes. A command can also wait: then the outcome is what it waits for and how it
goes on in the world as others leave it.
-/

namespace KarelBuild.Shell

structure State where
  world : World
  shell : Process
  jobs : List Job := []

/-- What is found out about a path, links followed or not. A descriptor is what it leads to. -/
def State.statusAt (s : State) (follows : Bool) (path : Path) : Except OsError Status :=
  let t := s.world.tree
  (if follows then t.stat s.shell.workDir path else t.statLink s.shell.workDir path).bind fun
    | (place, .device (.descriptor fd)) =>
      match s.world.statusOfDescriptor? s.shell fd with
      | some found => .ok (if follows then found else
          { s.world.statusOf place (.link []) with kind := .link, mode := 0o700, size := 64 })
      | none => .error .noEntry
    | (place, e) => .ok (s.world.statusOf place e)

/-- Why a command ends before what follows it. -/
inductive Leave where
  | exit
  | failed
  | killed (signal : Nat)
  | endLoops (count : Nat)
  | nextRound (count : Nat)
  | endCall
  /-- The command line is given up, with all that it is part of. -/
  | abandoned
  /-- The commands that follow cannot be read. -/
  | unreadable
  | outOfSteps
  deriving DecidableEq, Repr

/-! ## Waiting -/

/-- What can happen to those who wait. -/
inductive Event where
  /-- A stream holds more than a number of bytes, or nobody can write to it. -/
  | filled (stream size : Nat)
  /-- Nobody can write to a stream. -/
  | closed (stream : Nat)
  /-- There is room in a stream, or nobody can read from it. -/
  | room (stream : Nat)
  /-- One of some processes is over. -/
  | ended (numbers : List Nat)
  /-- The other end of a stream has been opened by its name since a number of times, or is open. -/
  | opened (writes : Bool) (stream times : Nat)
  deriving DecidableEq, Repr

def Event.hasCome (w : World) : Event → Bool
  | filled k size => size < (w.stream k).size || !w.isHeld true k
  | closed k => !w.isHeld true k
  | room k => (w.stream k).size < Stream.capacity || w.isTaken k || !w.isHeld false k
  | ended numbers => w.ended.any fun e => numbers.contains e.1
  | opened writes k times =>
    times < (if writes then (w.stream k).writers else (w.stream k).readers) || w.isHeld writes k

/-- An event or a time, whichever comes first. -/
structure Wait where
  event : Option Event := none
  time : Option Nat := none

def Wait.isOver (w : World) (a : Wait) : Bool :=
  a.event.any (·.hasCome w) || a.time.any (· ≤ w.clock)

/-! ## The monad -/

/-- What comes of a command. -/
inductive Outcome (α : Type) where
  | done (a : α) (s : State)
  | left (why : Leave) (s : State)
  | waiting (wait : Wait) (s : State) (resume : World → Outcome α)

namespace Outcome

def bind {α β : Type} (f : α → State → Outcome β) : Outcome α → Outcome β
  | done a s => f a s
  | left why s => left why s
  | waiting w s resume => waiting w s fun world => (resume world).bind f

def handle {α : Type} (f : Leave → State → Outcome α) : Outcome α → Outcome α
  | done a s => done a s
  | left why s => f why s
  | waiting w s resume => waiting w s fun world => (resume world).handle f

end Outcome

def ShellM (α : Type) : Type := State → Outcome α

namespace ShellM

@[always_inline, inline]
protected def pure {α : Type} (a : α) : ShellM α := fun s => .done a s

@[always_inline, inline]
protected def bind {α β : Type} (m : ShellM α) (f : α → ShellM β) : ShellM β := fun s =>
  match m s with
  | .done a s => f a s
  | .left why s => .left why s
  | .waiting w s resume => .waiting w s fun world => (resume world).bind f

instance : Monad ShellM where
  pure := ShellM.pure
  bind := ShellM.bind

instance : MonadStateOf State ShellM where
  get := fun s => .done s s
  set s := fun _ => .done () s
  modifyGet f := fun s => match f s with
    | (a, s) => .done a s

instance : MonadExceptOf Leave ShellM where
  throw why := fun s => .left why s
  tryCatch m f := fun s => (m s).handle f

/-- Wait, and go on in the world as it is then. -/
def pause (w : Wait) : ShellM Unit := fun s =>
  .waiting w s fun world =>
    .done () { s with world, shell := { s.shell with workDir := s.shell.workDir.after world.tree } }

end ShellM

namespace ShellM

def shell : ShellM Process := do return (← get).shell

def world : ShellM World := do return (← get).world

def modifyShell (f : Process → Process) : ShellM Unit :=
  modify fun s => { s with shell := f s.shell }

def modifyWorld (f : World → World) : ShellM Unit :=
  modify fun s => { s with world := f s.world }

def setStatus (n : Nat) : ShellM Unit := modifyShell fun p => { p with status := n }

def status : ShellM Nat := do return (← shell).status

/-- End the shell with an exit code. -/
def exit {α : Type} (code : Nat) : ShellM α := do
  setStatus code
  throw .exit

/-- End what cannot go on after a mistake. -/
def failWith {α : Type} (code : Nat) : ShellM α := do
  setStatus code
  throw .failed

/-- Give back what was changed, however the command ends. -/
def ensuring {α : Type} (m : ShellM α) (finish : ShellM Unit) : ShellM α := do
  let a ← tryCatch m fun leave => do
    finish
    throw leave
  finish
  return a

def hasOption (c : Char) : ShellM Bool := do return (← shell).options.contains c

def isRich : ShellM Bool := do return (← shell).dialect == .rich

/-- Take over a changed tree, with the mask of the process for what is new. -/
def setTree (t : FileTree) : ShellM Unit :=
  modify fun s =>
    { s with
      world := s.world.withTree s.shell.umask t
      shell := { s.shell with workDir := s.shell.workDir.after t } }

/-! ## Options of the shell -/

def setOption (on : Bool) (c : Char) : ShellM Unit :=
  modifyShell fun p =>
    let others := p.options.filter (· != c)
    { p with options := if on then c :: others else others }

end ShellM

end KarelBuild.Shell
