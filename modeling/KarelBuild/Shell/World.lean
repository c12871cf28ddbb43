import KarelBuild.FileTree.Files
import KarelBuild.Shell.Process

/-!
# What processes share

The files, the streams between processes, what descriptors were opened for, and the processes that there
are. A file that is opened several times has an offset for each; descriptors that were copied share one.
A stream can be read up to its end when nobody holds it open for writing, and who writes when nobody
holds it open for reading is killed.
-/

namespace KarelBuild.Shell

/-- Text that is written at one end and read at the other. What was written last comes first. -/
structure Stream where
  chunks : List Octets := []
  size : Nat := 0
  /-- Whether it leads outside, where everything is taken. -/
  isOuter : Bool := false
  /-- How often it has been opened for reading and for writing by its name. -/
  readers : Nat := 0
  writers : Nat := 0

namespace Stream

/-- How much can be written before something is read. -/
def capacity : Nat := 0x10000

def text (s : Stream) : Octets :=
  match s.chunks with
  | [o] => o
  | chunks => chunks.reverse.flatten

def push (s : Stream) (o : Octets) : Stream :=
  if o = [] then s else { s with chunks := o :: s.chunks, size := s.size + o.length }

/-- How much can be written now. -/
def room (s : Stream) : Nat := capacity - s.size

/-- The stream after a number of bytes was taken, and what is left then. -/
def leave (s : Stream) (count : Nat) (rest : Octets) : Stream :=
  { s with chunks := if rest = [] then [] else [rest], size := if rest = [] then 0 else s.size - count }

end Stream

/-- What a descriptor leads to: a stream, a file without a name, or an entry of the tree. -/
inductive Target where
  | stream (n : Nat)
  | nameless (n : Nat)
  | file (place : Place)
  | dir (place : Place)
  | device (d : Device)
  deriving DecidableEq, Repr

structure Opened where
  target : Target
  offset : Nat := 0
  appends : Bool := false
  reads : Bool := false
  writes : Bool := false

/-- A process that is not over. -/
structure Living where
  number : Nat
  parent : Nat
  group : Nat
  /-- What it holds open. -/
  held : List Nat
  /-- The stream whose end it waits for. -/
  awaited : Option Nat := none
  isStopped : Bool := false

/-- What is known of an entry besides what is in it: its permissions, when it was changed last, in
microseconds, the number that it shares with its other names, and whom it belongs to. -/
structure Metadata where
  mode : Nat
  time : Int
  node : Nat
  owner : Nat := 0
  group : Nat := 0
  deriving DecidableEq, Repr

structure World where
  tree : FileTree
  /-- What is known of entries that have been made or changed. -/
  metadata : List (Place × Metadata) := []
  nodes : Nat := 0x10000
  /-- Files that have more than one name. -/
  linked : List (List Place) := []
  streams : Array Stream := #[]
  opened : Array Opened := #[]
  /-- How many processes there have been. -/
  processes : Nat := 1
  living : List Living := []
  /-- Processes that have been split off and have not run yet. -/
  starting : List (Process × Task) := []
  /-- How processes ended, until somebody asks. -/
  ended : List (Nat × Ending) := []
  /-- Signals that have been sent and not yet been seen, with the process that each is for. -/
  signals : List (Nat × Nat) := []
  /-- How much time has passed, in microseconds, and how many steps have been taken since. -/
  clock : Nat := 0
  steps : Nat := 0
  documents : Array Word := #[]
  serial : Nat := 0

namespace World

def stream (w : World) (n : Nat) : Stream := w.streams.getD n {}

def modifyStream (w : World) (n : Nat) (f : Stream → Stream) : World :=
  { w with streams := w.streams.modify n f }

def addStream (w : World) (s : Stream) : Nat × World :=
  (w.streams.size, { w with streams := w.streams.push s })

def addOpened (w : World) (o : Opened) : Nat × World :=
  (w.opened.size, { w with opened := w.opened.push o })

def setOffset (w : World) (n offset : Nat) : World :=
  { w with opened := w.opened.modify n fun o => { o with offset } }

/-! ## Processes -/

def living? (w : World) (number : Nat) : Option Living := w.living.find? (·.number == number)

def modifyLiving (w : World) (number : Nat) (f : Living → Living) : World :=
  { w with living := w.living.map fun l => if l.number = number then f l else l }

/-- What a process holds open. -/
def heldBy (p : Process) : List Nat := p.descriptors.map (·.2) ++ p.kept

/-- Have a process start. -/
def start (w : World) (p : Process) (t : Task) : World :=
  { w with
    living := w.living ++ [{ number := p.number, parent := p.parent, group := p.group, held := heldBy p }]
    starting := w.starting ++ [(p, t)] }

/-- Note how a process ended, unless nobody is there to ask. -/
def finish (w : World) (number : Nat) (e : Ending) : World :=
  let parent := (w.living? number).elim 0 (·.parent)
  let others := w.living.filter (·.number != number)
  { w with
    living := others.map fun l => if l.parent = number then { l with parent := 0 } else l
    signals := w.signals.filter (·.1 != number)
    ended := if others.any (·.number == parent) then w.ended ++ [(number, e)] else w.ended }

/-- Whether something that was opened leads to the end of a stream. -/
def leadsTo (w : World) (writes : Bool) (stream n : Nat) : Bool :=
  match w.opened[n]? with
  | some o => o.target == .stream stream && (if writes then o.writes else o.reads)
  | none => false

/-- Whether everything that is written to a stream is taken, outside or by somebody who waits for its end. -/
def isTaken (w : World) (stream : Nat) : Bool :=
  (w.stream stream).isOuter || w.living.any (·.awaited == some stream)

/-- Whether somebody holds an end of a stream open. -/
def isHeld (w : World) (writes : Bool) (stream : Nat) : Bool :=
  w.living.any fun l => l.held.any (w.leadsTo writes stream)

/-- The same, with what a process that runs holds by now. -/
def isHeldWith (w : World) (p : Process) (writes : Bool) (stream : Nat) : Bool :=
  (heldBy p).any (w.leadsTo writes stream) ||
    w.living.any fun l => l.number != p.number && l.held.any (w.leadsTo writes stream)

/-! ## Contents -/

/-- The contents of a text after something was written at an offset; a gap is filled with zeros. -/
def overwrite (t : Octets) (offset : Nat) (o : Octets) : Octets :=
  let front := t.take offset
  let gap := List.replicate (offset - t.length) '\x00'
  front ++ gap ++ o ++ t.drop (offset + o.length)

/-- The contents of a file that can be read from any offset. -/
def contents? (w : World) : Target → Option Octets
  | .nameless n => some (w.stream n).text
  | .file place =>
    match w.tree.entry? place with
    | some (.file contents _) => some (Octets.ofBytes contents)
    | _ => none
  | _ => none

def sizeOf (w : World) : Target → Nat
  | .nameless n => (w.stream n).size
  | .file place =>
    match w.tree.entry? place with
    | some (.file contents _) => contents.length
    | _ => 0
  | _ => 0

end World

end KarelBuild.Shell
