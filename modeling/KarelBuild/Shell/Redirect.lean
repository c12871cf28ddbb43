import KarelBuild.Shell.Expansion
import KarelBuild.Shell.Written

/-!
# Redirections

A redirection connects a descriptor to something that is opened for it, or to what another
descriptor leads to. Afterwards the descriptors are given back.
-/

namespace KarelBuild.Shell

open ShellM

def cannotOpen (path : Octets) (e : OsError) : Octets :=
  let reason := match e with
    | .noEntry => "No such file"
    | .notDirectory => "No such file"
    | e => e.wording
  "cannot open ".toList ++ path ++ ": ".toList ++ reason.toList

def cannotCreate (path : Octets) (e : OsError) : Octets :=
  let reason := match e with
    | .noEntry => "Directory nonexistent"
    | .notDirectory => "Directory nonexistent"
    | e => e.wording
  "cannot create ".toList ++ path ++ ": ".toList ++ reason.toList

/-- Why a path cannot be opened. -/
def openFailure (rich : Bool) (d : Direction) (path : Octets) (e : OsError) : Octets :=
  if rich then
    path ++ ": ".toList ++
      (if e = .alreadyThere then "cannot overwrite existing file" else e.wording).toList
  else if d = .reads then cannotOpen path e
  else cannotCreate path e

def connect (fd n : Nat) : ShellM Unit := modifyShell fun p => p.connect fd n

/-- Lead a descriptor to where another one leads, which is written in some way. -/
def copyDescriptor (fd source : Nat) (shown : Octets) : ShellM Unit := do
  let p ← shell
  match if p.isBeyond fd then none else p.opened? source with
  | some n => connect fd n
  | none => refuse (shown ++ ": ".toList ++ OsError.badDescriptor.wording.toList)

def openFor (fd : Nat) (d : Direction) (path : Octets) : ShellM Unit := do
  match ← openPath path d with
  | .ok n =>
    if !(← shell).isBeyond fd then connect fd n
    else if ← isRich then refuse (Text.ofNat fd ++ ": ".toList ++ OsError.badDescriptor.wording.toList)
  | .error e => refuse (openFailure (← isRich) d path e)

/-- The path that a word names. In the rich dialect it has to be one field. -/
def prepareFile (run : Commands) (make : Octets → Ready) (w : Word) : ShellM Ready := do
  if ← isRich then
    match ← expandFields run w with
    | [path] => return make path
    | _ => return .impossible (Written.word w ++ ": ambiguous redirect".toList)
  else return make (← expandText run w)

def prepare (run : Commands) : Redirection → ShellM Ready
  | .allotted name r => do return .allotted name (← prepare run r)
  | .file fd d name => prepareFile run (.file fd d) name
  | .copy fd source => return .copy fd source
  | .copyNamed fd reads name => do
    return .copyNamed fd reads (← expandText run name) (if ← isRich then Written.word name else [])
  | .document fd number => do return .text fd (← expandText run ((← world).documents.getD number []))
  | .text fd w => do return .text fd ((← expandText run w) ++ ['\n'])
  | .outAndErrors appends name => prepareFile run (.outAndErrors (if appends then .appends else .writes)) name

/-- Open a path for output and errors. -/
def openForBoth (d : Direction) (path : Octets) : ShellM Unit := do
  openFor 1 d path
  copyDescriptor 2 1 ['1']

def numberOf (o : Octets) : Nat := (String.ofList o).toNat?.getD 0

/-- Copy the descriptor that a text names, move it, or close one. -/
def copyNamed (fd : Nat) (reads : Bool) (name shown : Octets) : ShellM Unit := do
  let rich ← isRich
  let isNumber (o : Octets) : Bool := !o.isEmpty && o.all Char.isDigit
  if name = ['-'] then modifyShell fun p => p.disconnect fd
  else if isNumber name then copyDescriptor fd (numberOf name) (if rich then shown else name)
  else if rich ∧ name.getLast? = some '-' ∧ isNumber name.dropLast then
    let source := numberOf name.dropLast
    copyDescriptor fd source shown
    if source ≠ fd then modifyShell fun p => p.disconnect source
  else if rich then
    if !reads ∧ fd = 1 then openForBoth .writes name
    else refuse (shown ++ ": ambiguous redirect".toList)
  else refuse "Syntax error: Bad fd number".toList

namespace Ready

/-- The same redirection for another descriptor. -/
def withFd (fd : Nat) : Ready → Ready
  | file _ d path => file fd d path
  | copy _ source => copy fd source
  | copyNamed _ reads name shown => copyNamed fd reads name shown
  | text _ o => text fd o
  | r => r

/-- Whether a descriptor is closed. -/
def closes : Ready → Bool
  | copy _ source => source.isNone
  | copyNamed _ _ name _ => name == ['-']
  | _ => false

end Ready

/-- Descriptors for variables begin here. -/
def firstAllotted : Nat := 10

/-- Carry out a redirection for a descriptor that is known. -/
def redirectKnown : Ready → ShellM Unit
  | .allotted _ _ => return
  | .file fd d path => openFor fd d path
  | .copy fd none => modifyShell fun p => p.disconnect fd
  | .copy fd (some source) => copyDescriptor fd source (Text.ofNat source)
  | .copyNamed fd reads name shown => copyNamed fd reads name shown
  | .text fd o => do connect fd (← openText o)
  | .outAndErrors d path => openForBoth d path
  | .impossible message => refuse message

/-- The number that what a text names holds. -/
def heldNumber (name : Octets) : ShellM Nat := do
  let s ← get
  let held := match Process.cutPlace name with
    | (base, some index) => (s.var? base).bind (·.content.at? index)
    | (base, none) => s.parameter? base
  match held with
  | some o =>
    if o ≠ [] ∧ o.all Char.isDigit then return numberOf o
    else refuse (name ++ ": ambiguous redirect".toList)
  | none => refuse (name ++ ": ambiguous redirect".toList)

def redirect : Ready → ShellM Unit
  | .allotted name r => do
    if r.closes then
      let fd ← heldNumber name
      modifyShell fun p => p.disconnect fd
    else
      let fd := (← shell).lowestFreeFrom firstAllotted
      redirectKnown (r.withFd fd)
      assignNamed name (Text.ofNat fd)
  | r => redirectKnown r

namespace Ready

/-- The descriptors that a redirection changes. -/
def changes : Ready → List Nat
  | allotted _ _ => []
  | file fd _ _ => [fd]
  | copy fd _ => [fd]
  | copyNamed fd _ name _ =>
    if name.getLast? = some '-' then [fd, numberOf name.dropLast]
    else if fd = 1 then [1, 2] else [fd]
  | text fd _ => [fd]
  | outAndErrors _ _ => [1, 2]
  | impossible _ => []

end Ready

/-- Keep what descriptors lead to, to give it back. -/
def keep (fds : List Nat) : ShellM Unit :=
  modifyShell fun p => { p with kept := fds.filterMap p.opened? ++ p.kept }

/-- Give descriptors back what they led to. -/
def giveBack (before : Process) (fds : List Nat) : ShellM Unit :=
  modifyShell fun p =>
    fds.foldl (fun p fd =>
      match before.opened? fd with
      | some n => p.connect fd n
      | none => p.disconnect fd) { p with kept := before.kept }

/-- Carry out redirections; tells whether all of them could be. -/
def redirectAll (rs : List Ready) : ShellM Bool := do
  tryCatch (do rs.forM redirect; return true) fun leave =>
    match leave with
    | .failed => return false
    | leave => throw leave

end KarelBuild.Shell
