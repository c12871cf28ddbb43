import KarelBuild.Shell.Machine

/-!
# Processes side by side

One process runs at a time, until it is over or waits. Then the next one goes on that has been split off,
or whose wait is over. Time passes only when all wait.
-/

namespace KarelBuild.Shell

open ShellM

/-- A process that waits, and how it goes on. -/
structure Strand where
  number : Nat
  wait : Wait
  resume : World → Outcome Unit

structure Schedule where
  world : World
  strands : List Strand

namespace Schedule

/-- What has become of a process that has run. -/
def put (strands : List Strand) (number : Nat) : Outcome Unit → Schedule
  | .done _ s => ⟨s.world.finish number (.code (s.shell.status % 256)), strands⟩
  | .left (.killed n) s => ⟨s.world.finish number (.signal n), strands⟩
  | .left .outOfSteps s => ⟨s.world.finish number (.signal 11), strands⟩
  | .left _ s => ⟨s.world.finish number (.code (s.shell.status % 256)), strands⟩
  | .waiting wait s resume => ⟨s.world, strands ++ [⟨number, wait, resume⟩]⟩

/-- Run a process from its beginning. -/
def begin (run : Machine) (p : Process) (t : Task) (w : World) : Outcome Unit :=
  let body : ShellM Unit := do
    receive
    if p.isShell then conclude run (run t) else run t
  body { world := w, shell := { p with workDir := p.workDir.after w.tree } }

def isStopped (w : World) (s : Strand) : Bool := (w.living? s.number).any (·.isStopped)

/-- Whether a process can go on: what it waits for has come, or a signal. -/
def isReady (w : World) (s : Strand) : Bool :=
  (s.wait.isOver w || w.signals.any (·.1 == s.number)) && !isStopped w s

/-- The first process that can go on, and the others. -/
def takeReady (w : World) : List Strand → Option (Strand × List Strand)
  | [] => none
  | s :: rest =>
    if isReady w s then some (s, rest) else (takeReady w rest).map fun (t, others) => (t, s :: others)

/-- Let the next process run, if one can. -/
def progress? (run : Machine) (c : Schedule) : Option Schedule :=
  match c.world.starting with
  | (p, t) :: rest => some (put c.strands p.number (begin run p t { c.world with starting := rest }))
  | [] => (takeReady c.world c.strands).map fun (s, others) => put others s.number (s.resume c.world)

/-- Let time pass until the first process that waits for it can go on. -/
def passTime? (c : Schedule) : Option Schedule :=
  let times := c.strands.filterMap fun s => if isStopped c.world s then none else s.wait.time
  times.min?.map fun time => { c with world := { c.world with clock := max time c.world.clock } }

/-- Go on until a time when it is enough, as `isEnough` says of the world and of whether time has to pass
next, or until nothing can happen. -/
def goOn (run : Machine) (isEnough : (timePasses : Bool) → World → Bool) : (steps : Nat) → Schedule → World
  | 0, c => c.world
  | n + 1, c =>
    if isEnough false c.world then c.world
    else match c.progress? run with
      | some c => goOn run isEnough n c
      | none =>
        if isEnough true c.world then c.world
        else match c.passTime? with
          | some c => goOn run isEnough n c
          | none => c.world

end Schedule

end KarelBuild.Shell
