import KarelBuild.Shell.State

/-!
# Signals

A signal ends a process unless it is ignored or has a trap. It is seen when the process waits, and between
commands; one with a trap is kept until the trap can be run.
-/

namespace KarelBuild.Shell

open ShellM

/-! ## Names -/

/-- What stands for a signal when the process of a shell was ended by it. -/
def signalTitles : List (Nat × String) :=
  [(1, "Hangup"), (2, "Interrupt"), (3, "Quit"), (4, "Illegal instruction"),
    (5, "Trace/breakpoint trap"), (6, "Aborted"), (7, "Bus error"), (8, "Floating point exception"),
    (9, "Killed"), (10, "User defined signal 1"), (11, "Segmentation fault"),
    (12, "User defined signal 2"), (13, "Broken pipe"), (14, "Alarm clock"), (15, "Terminated"),
    (16, "Stack fault"), (24, "CPU time limit exceeded"), (25, "File size limit exceeded"),
    (26, "Virtual timer expired"), (27, "Profiling timer expired"), (29, "I/O possible"),
    (30, "Power failure"), (31, "Bad system call")]

def maxSignal : Nat := 64

/-- What traps may be set for besides signals: each command, those that fail, and the end of a call. -/
def eachCommand : Nat := 65

def failure : Nat := 66

def callEnd : Nat := 67

def eventNames : List (Nat × String) := [(0, "EXIT"), (eachCommand, "DEBUG"), (failure, "ERR"), (callEnd, "RETURN")]

def signalNames : List (Nat × String) :=
  [(1, "HUP"), (2, "INT"), (3, "QUIT"), (4, "ILL"), (5, "TRAP"), (6, "ABRT"), (7, "BUS"), (8, "FPE"),
    (9, "KILL"), (10, "USR1"), (11, "SEGV"), (12, "USR2"), (13, "PIPE"), (14, "ALRM"), (15, "TERM"),
    (17, "CHLD"), (18, "CONT"), (19, "STOP"), (20, "TSTP"), (21, "TTIN"), (22, "TTOU"), (23, "URG"),
    (24, "XCPU"), (25, "XFSZ"), (26, "VTALRM"), (27, "PROF"), (28, "WINCH"), (29, "IO"), (30, "PWR"),
    (31, "SYS"), (34, "RTMIN"), (64, "RTMAX")]

/-- The name of a signal; one without a name is called by its number. Those for other purposes are
counted from both ends. -/
def signalName (rich : Bool) (n : Nat) : Text :=
  match signalNames.lookup n with
  | some name => name.toList
  | none =>
    if rich ∧ n = 16 then "STKFLT".toList
    else if 34 < n ∧ n < 50 then "RTMIN+".toList ++ Text.ofNat (n - 34)
    else if 50 ≤ n ∧ n < 64 then "RTMAX-".toList ++ Text.ofNat (64 - n)
    else Text.ofNat n

/-- A signal from a lowest one on, by its number or by its name. The rich dialect knows the names also
with `SIG` in front. -/
def signal? (rich : Bool) (least : Nat) (name : Text) : Option Nat :=
  if name ≠ [] ∧ name.all Char.isDigit then
    (String.ofList name).toNat?.bind fun n => if n ≤ maxSignal then some n else none
  else
    let upper := name.map Char.toUpper
    if least = 0 ∧ upper = "EXIT".toList then some 0
    else
      let bare := if rich && "SIG".toList.isPrefixOf upper then upper.drop 3 else upper
      if rich ∧ bare = "POLL".toList then some 29
      else ((List.range maxSignal).map (· + 1)).find? fun n => signalName rich n == bare

/-- Signals that do nothing unless a trap is set. -/
def isHarmless (signal : Nat) : Bool := [17, 18, 19, 20, 21, 22, 23, 28].contains signal

def Ending.status : Ending → Nat
  | code n => n
  | signal n => 128 + n

def signalTitle (n : Nat) : Octets :=
  ((signalTitles.lookup n).map String.toList).getD ("Unknown signal ".toList ++ Text.ofNat n)

/-! ## Receiving -/

def trapFor? (p : Process) (signal : Nat) : Option Octets := p.traps.lookup signal

def isIgnored (t : Nat × Octets) : Bool := t.2.isEmpty

/-- Take in a signal. One that is neither ignored nor has a trap ends the process. -/
def takeIn (signal : Nat) : ShellM Unit := do
  match trapFor? (← shell) signal with
  | some action =>
    if signal = 9 then throw (.killed signal)
    else if action ≠ [] then modifyShell fun p => { p with caught := p.caught ++ [signal] }
  | none => if !isHarmless signal then throw (.killed signal)

/-- Take in the signals that have come. -/
def receive : ShellM Unit := do
  let s ← get
  if s.world.signals = [] then return
  let number := s.shell.number
  modifyWorld fun w => { w with signals := w.signals.filter (·.1 != number) }
  (s.world.signals.filter (·.1 == number)).forM fun t => takeIn t.2

/-! ## Waiting -/

/-- Note what the process holds open, and the stream whose end it waits for. -/
def noteHeld (awaited : Option Nat) : ShellM Unit := modify fun s =>
  { s with world := s.world.modifyLiving s.shell.number fun l =>
      { l with held := World.heldBy s.shell, awaited } }

/-- How often a wait may be broken off. -/
def maxWaits : Nat := 0x10000000

/-- Wait for an event, whatever signals come meanwhile. -/
def awaitEvent (awaited : Option Nat) (e : Event) : (tries : Nat) → ShellM Unit
  | 0 => throw .outOfSteps
  | n + 1 => do
    noteHeld awaited
    if e.hasCome (← world) then return
    pause { event := some e }
    receive
    awaitEvent awaited e n

def await (e : Event) : ShellM Unit := awaitEvent none e maxWaits

/-- Wait until a stream has come to its end. All that is written is taken meanwhile. -/
def awaitEnd (stream : Nat) : ShellM Unit := do
  awaitEvent (some stream) (.closed stream) maxWaits
  noteHeld none

/-- Wait for an event or a time, until a signal is caught. -/
def awaitOrCatch (e : Option Event) (time : Option Nat) : (tries : Nat) → ShellM Unit
  | 0 => throw .outOfSteps
  | n + 1 => do
    noteHeld none
    let s ← get
    if e.any (·.hasCome s.world) || time.any (· ≤ s.world.clock) || s.shell.caught ≠ [] then return
    pause { event := e, time }
    receive
    awaitOrCatch e time n

/-- Let time pass; those who have a trap for a signal are woken by it. -/
def passTime (span : Nat) : ShellM Unit := do
  awaitOrCatch none (some ((← world).clock + span)) maxWaits

/-- How many steps are taken in a time, and that time in microseconds. -/
def stepsInSpan : Nat := 1000

def stepSpan : Nat := 1000

/-- Take a step. After many of them, time has passed and others go on. -/
def takeStep : ShellM Unit := do
  let w ← world
  if w.steps < stepsInSpan then modifyWorld fun w => { w with steps := w.steps + 1 }
  else
    modifyWorld fun w => { w with steps := 0 }
    if w.living.length ≤ 2 then modifyWorld fun w => { w with clock := w.clock + stepSpan }
    else
      noteHeld none
      pause { time := some (w.clock + stepSpan) }
      receive

end KarelBuild.Shell
