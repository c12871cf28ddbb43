import KarelBuild.Shell.Utility.Copying

/-!
# Removing

Utilities that remove entries. Before each step a user may be asked. That the user keeps something is no
failure; the directories above a directory that is kept stay too, without another question.
-/

namespace KarelBuild.Shell.Utility

open ShellM

/-- How a removal came out. A file that is passed over does not keep anybody from asking about its directory;
a directory that is kept does. -/
inductive Removal where
  | removed
  | passed
  | kept
  | failed
  deriving DecidableEq, Repr

/-- How entries are removed: whether each is asked about, and whether each is told of. -/
structure RemovalStyle where
  asks : Bool
  tells : Bool

/-- What an entry is called in questions. -/
def entryKind (f : Status) : String :=
  match f.kind with
  | .file => if f.size = 0 then "regular empty file" else "regular file"
  | .dir => "directory"
  | .link => "symbolic link"
  | .characters => "character special file"
  | .pipe => "fifo"

def isGoingTo (s : RemovalStyle) (what : String) (o : Octets) : ShellM Bool := do
  if s.asks then isConfirmed (what.toList ++ ' ' :: quoted o ++ "? ".toList) else return true

def cannotRemove (o : Octets) : Octets := "cannot remove ".toList ++ quoted o

def removeFileAt (s : RemovalStyle) (place : Place) (o : Octets) : ShellM Removal := do
  detachAll place
  let done ← attempt (cannotRemove o) fun t dir => t.removeFile dir (pathText o)
  if done && s.tells then emitLine ("removed ".toList ++ quoted o)
  return if done then .removed else .failed

def removeDirAt (s : RemovalStyle) (o : Octets) : ShellM Removal := do
  let done ← attempt (cannotRemove o) fun t dir => t.removeDir dir (pathText o)
  if done && s.tells then emitLine ("removed directory ".toList ++ quoted o)
  return if done then .removed else .failed

/-- Remove an entry and what is below it. -/
def removeTree (s : RemovalStyle) : (depth : Nat) → Octets → ShellM Removal
  | 0, _ => return .failed
  | n + 1, o => do
    let (t, dir) ← treeAndDir
    match t.statLink dir (pathText o) with
    | .ok (place, .dir) =>
      let children := t.children place
      if children = [] then
        if ← isGoingTo s "remove directory" o then removeDirAt s o else return .kept
      else if ← isGoingTo s "descend into directory" o then
        let mut result := Removal.removed
        for (name, _) in children do
          match ← removeTree s n (below o (Octets.ofText name)) with
          | .removed => pure ()
          | .passed => pure ()
          | .kept => if result = .removed then result := .kept
          | .failed => result := .failed
        if result ≠ .removed then return result
        else if ← isGoingTo s "remove directory" o then removeDirAt s o
        else return .kept
      else return .kept
    | .ok (place, _) =>
      let what := match ← status? false o with
        | .ok f => entryKind f
        | .error _ => "file"
      if ← isGoingTo s ("remove " ++ what) o then removeFileAt s place o else return .passed
    | .error e =>
      grumble (cannotRemove o ++ ": ".toList ++ e.wording.toList)
      return .failed

def isDots (o : Octets) : Bool :=
  let name := lastName o
  name == ['.'] || name == ['.', '.']

/-- When a user is asked: never, once, or about each entry. -/
inductive Asking where
  | never
  | once
  | each
  deriving DecidableEq, Repr

def askingOf (g : Given) : ShellM Asking := do
  match (g.options.reverse.find? fun o => "fiI\x10".toList.contains o.1) with
  | none => return .never
  | some ('f', _) => return .never
  | some ('i', _) => return .each
  | some ('I', _) => return .once
  | some (_, word) =>
    let word := String.ofList word
    if ["", "always", "yes"].contains word then return .each
    else if word = "once" then return .once
    else if ["never", "no", "none"].contains word then return .never
    else
      grumble ("invalid argument ".toList ++ quoted word.toList ++ " for '--interactive'".toList)
      say 2 ("Valid arguments are:\n  - 'never', 'no', 'none'\n  - 'once'\n  - 'always', 'yes'\n".toList)
      say 2 ("Try '".toList ++ (← programName) ++ " --help' for more information.\n".toList)
      exit 1

def rm : Utility := fun _ args => do
  let g ← given (forms [('d', "dir"), ('f', "force"), ('i', ""), ('I', ""), ('r', "recursive"), ('R', ""),
    ('v', "verbose"), ('\x01', "no-preserve-root"), ('\x03', "one-file-system")] [] ++
    [⟨'\x10', "interactive", .maybe⟩, ⟨'\x02', "preserve-root", .maybe⟩]) args
  let asking ← askingOf g
  let force := g.last? "fiI\x10" = some 'f' || (g.has 'f' && asking = .never)
  let recursive := g.has 'r' || g.has 'R'
  let s : RemovalStyle := ⟨asking = .each, g.has 'v'⟩
  if g.operands = [] then
    if force then return 0 else misuse 1 "missing operand".toList
  else
    let count := g.operands.length
    if asking = .once ∧ (recursive ∨ count > 3) then
      let question := "remove ".toList ++ Text.ofNat count ++ " argument".toList ++
        (if count = 1 then [] else ['s']) ++ (if recursive then " recursively".toList else []) ++ "? ".toList
      if !(← isConfirmed question) then exit 0
    forEach g.operands fun o => do
      match ← statLink? o with
      | .error e =>
        if force ∧ (e = .noEntry ∨ e = .notDirectory) then return true
        else
          grumble (cannotRemove o ++ ": ".toList ++ e.wording.toList)
          return false
      | .ok (place, .dir) =>
        if recursive ∧ isDots o then
          grumble ("refusing to remove '.' or '..' directory: skipping ".toList ++ quoted o)
          return false
        else if recursive ∧ place = [] ∧ g.last? "\x01\x02" ≠ some '\x01' then
          grumble "it is dangerous to operate recursively on '/'".toList
          grumble "use --no-preserve-root to override this failsafe".toList
          return false
        else if recursive then return (← removeTree s maxDepth o) ≠ .failed
        else if g.has 'd' then
          let isEmpty := ((← world).tree.children place).isEmpty
          let goes ← if isEmpty then isGoingTo s "remove directory" o else pure true
          if goes then return (← removeDirAt s o) ≠ .failed else return true
        else
          grumble (cannotRemove o ++ ": Is a directory".toList)
          return false
      | .ok _ => return (← removeTree s maxDepth o) ≠ .failed

def unlink : Utility := fun _ args => do
  let g ← given [] args
  match g.operands with
  | [] => misuse 1 "missing operand".toList
  | [o] =>
    if let .ok (place, .file _ _) ← statLink? o then detachAll place
    let done ← attempt ("cannot unlink ".toList ++ quoted o) fun t dir => t.removeFile dir (pathText o)
    return if done then 0 else 1
  | _ :: o :: _ => misuse 1 ("extra operand ".toList ++ quoted o)

end KarelBuild.Shell.Utility
