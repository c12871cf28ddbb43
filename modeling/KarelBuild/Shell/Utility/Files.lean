import KarelBuild.Shell.Mode
import KarelBuild.Shell.Utility.Dates

/-!
# Making files

Utilities that make directories, files and names for temporary files, and give files their times and sizes.
Each operand is handled on its own: what cannot be done is complained of, and the rest is done all the same.
-/

namespace KarelBuild.Shell.Utility

open ShellM

/-! ## Paths -/

def treeAndDir : ShellM (FileTree × WorkDir) := do
  let s ← get
  return (s.world.tree, s.shell.workDir)

def pathText (o : Octets) : Path := Octets.toText o

/-- How deep directories are gone into at most. -/
def maxDepth : Nat := 200

/-- A path without the slashes at its end. -/
def stripSlashes (o : Octets) : Octets :=
  let bare := (o.reverse.dropWhile (· == '/')).reverse
  if bare = [] ∧ o ≠ [] then ['/'] else bare

/-- The last name of a path. -/
def lastName (o : Octets) : Octets := ((stripSlashes o).reverse.takeWhile (· != '/')).reverse

def below (dir name : Octets) : Octets :=
  if dir.getLast? = some '/' then dir ++ name else dir ++ '/' :: name

def stat? (o : Octets) : ShellM (Except OsError (Place × Entry)) := do
  let (t, dir) ← treeAndDir
  return t.stat dir (pathText o)

def statLink? (o : Octets) : ShellM (Except OsError (Place × Entry)) := do
  let (t, dir) ← treeAndDir
  return t.statLink dir (pathText o)

def isDirectory (o : Octets) : ShellM Bool := do
  let (t, dir) ← treeAndDir
  return t.isDir dir (pathText o)

/-- Change the tree, or complain; tells whether it could be done. -/
def attempt (what : Octets) (change : FileTree → WorkDir → Except OsError FileTree) : ShellM Bool := do
  let (t, dir) ← treeAndDir
  match change t dir with
  | .ok t =>
    setTree t
    return true
  | .error e =>
    grumble (what ++ ": ".toList ++ e.wording.toList)
    return false

/-- Do something for each operand; one that fails makes the exit code 1. -/
def forEach (operands : List Octets) (f : Octets → ShellM Bool) : ShellM Nat := do
  let mut code := 0
  for o in operands do
    if !(← f o) then code := 1
  return code

def requireOperands (what : String) (operands : List Octets) : ShellM Unit := do
  if operands = [] then misuse 1 what.toList

/-- Forget the name of an entry; who has it open keeps what is in it. -/
def detachAll (place : Place) : ShellM Unit := modifyWorld (World.detach · place)

/-! ## Directories -/

/-- What is found out about a path. -/
def status? (follows : Bool) (o : Octets) : ShellM (Except OsError Status) := do
  return (← get).statusAt follows (pathText o)

/-- Change what is known of the entry at a path. -/
def modifyStatus (o : Octets) (f : Metadata → Metadata) : ShellM Unit := do
  match ← stat? o with
  | .ok (place, _) => modifyWorld fun w => w.modifyMetadata place f
  | .error _ => return

/-- Give the entry at a place permissions. A file can be run if anybody may run it. -/
def setModeAt (place : Place) (mode : Nat) : ShellM Unit := modifyWorld fun w =>
  let w := (w.namesOf place).foldl (fun w p =>
    match w.tree.entry? p with
    | some (.file b _) => { w with tree := w.tree.put p (.file b (mode &&& World.runBits != 0)) }
    | _ => w) w
  w.modifyMetadata place fun m => { m with mode }

def setMode (o : Octets) (mode : Nat) : ShellM Unit := do
  match ← stat? o with
  | .ok (place, _) => setModeAt place mode
  | .error _ => return

/-- The permissions that an option gives, starting from others; complains of what is no mode. -/
def modeGiven (isDir : Bool) (start : Nat) (mode : Octets) : ShellM Nat := do
  match Mode.ofText? mode with
  | some clauses => return Mode.applyAll isDir (← shell).umask clauses start
  | none => stop 1 ("invalid mode ".toList ++ quoted mode)

/-- Make a directory and those above it, telling of each that was missing. The last one gets the mode. -/
def makeParents (tells : Bool) (mode : Option Nat) : (done : Octets) → List Octets → ShellM Bool
  | _, [] => return true
  | done, n :: rest => do
    let path := if done = [] then n else below done n
    let makes (t : FileTree) : ShellM Unit := do
      setTree t
      if rest = [] then
        match mode with
        | some mode => setMode path mode
        | none => return
    let (t, dir) ← treeAndDir
    match t.stat dir (pathText path) with
    | .ok (_, .dir) => makeParents tells mode path rest
    | .ok _ =>
      let why := if rest = [] then "File exists" else "Not a directory"
      grumble ("cannot create directory ".toList ++ quoted path ++ ": ".toList ++ why.toList)
      return false
    | .error _ =>
      match t.makeDir dir (pathText path) with
      | .ok t =>
        makes t
        if tells then
          emitLine ((← programName) ++ ": created directory ".toList ++ quoted path)
        makeParents tells mode path rest
      | .error e =>
        grumble ("cannot create directory ".toList ++ quoted path ++ ": ".toList ++ e.wording.toList)
        return false

def mkdir : Utility := fun _ args => do
  let g ← given (forms [('p', "parents"), ('v', "verbose")] [('m', "mode")]) args
  requireOperands "missing operand" g.operands
  let mode ← match g.value? 'm' with
    | some m => do pure (some (← modeGiven true 0o777 m))
    | none => pure none
  forEach g.operands fun o => do
    if g.has 'p' then
      let root := if o.head? = some '/' then ['/'] else []
      if o = [] then
        grumble "cannot create directory '': No such file or directory".toList
        return false
      else makeParents (g.has 'v') mode root (Path.pieces o)
    else
      let done ← attempt ("cannot create directory ".toList ++ quoted o) fun t dir =>
        t.makeDir dir (pathText o)
      if done && g.has 'v' then
        emitLine ((← programName) ++ ": created directory ".toList ++ quoted o)
      match done, mode with
      | true, some mode => setMode o mode
      | _, _ => pure ()
      return done

/-- The directories above a path, the lowest first. -/
def parentsOf (o : Octets) : List Octets :=
  let names := Path.pieces o
  let root := if o.head? = some '/' then ['/'] else []
  ((List.range (names.length - 1)).map fun k =>
    root ++ Text.join ['/'] (names.take (names.length - 1 - k)))

def rmdir : Utility := fun _ args => do
  let g ← given (forms [('p', "parents"), ('v', "verbose"), ('\x01', "ignore-fail-on-non-empty")] []) args
  requireOperands "missing operand" g.operands
  let remove (what : String) (o : Octets) : ShellM Bool := do
    if g.has 'v' then emitLine ((← programName) ++ ": removing directory, ".toList ++ quoted o)
    attempt (what.toList ++ quoted o) fun t dir => t.removeDir dir (pathText o)
  forEach g.operands fun o => do
    if ← remove "failed to remove " o then
      if g.has 'p' then
        for parent in parentsOf o do
          if !(← remove "failed to remove directory " parent) then return false
        return true
      else return true
    else return false

/-! ## Making files -/

/-- A time in digits: month, day, hour and minute, with a year in front and seconds behind a point. -/
def stampTime? (now : Int) (t : Octets) : Option Int :=
  let (digits, seconds) := Text.cut '.' t
  let seconds := seconds.getD ['0']
  if !isNumber digits || !isNumber seconds || seconds.length > 2 then none
  else
    let here := (Calendar.of now).year
    let (year, rest) : Int × Octets :=
      if digits.length = 12 then (digitsValue (digits.take 4), digits.drop 4)
      else if digits.length = 10 then (fullYear (digits.take 2), digits.drop 2)
      else (here, digits)
    let part (i : Nat) : Nat := digitsValue ((rest.drop (2 * i)).take 2)
    if rest.length ≠ 8 ∨ part 0 < 1 ∨ part 0 > 12 ∨ part 1 < 1 ∨ part 1 > monthLength year (part 0) ∨
        part 2 > 23 ∨ part 3 > 59 ∨ digitsValue seconds > 60 then none
    else
      some (((dayNumber year (part 0) (part 1) * 24 + part 2) * 60 + part 3) * 60000000 +
        digitsValue seconds * 1000000)

/-- The time that options of `touch` give. -/
def touchTime (g : Given) : ShellM (Option Int) := do
  let now := (← world).now
  match g.value? 'r', g.value? 'd', g.value? 't' with
  | some path, words, _ =>
    match ← status? true path with
    | .error e => stop 1 ("failed to get attributes of ".toList ++ quoted path ++ ": ".toList ++ e.wording.toList)
    | .ok f =>
      match words with
      | none => return some f.time
      | some words =>
        match dateOf? f.time words with
        | some t => return some t
        | none => stop 1 ("invalid date format ".toList ++ quoted words)
  | none, some words, _ =>
    match dateOf? now words with
    | some t => return some t
    | none => stop 1 ("invalid date format ".toList ++ quoted words)
  | none, none, some t =>
    match stampTime? now t with
    | some t => return some t
    | none => stop 1 ("invalid date format ".toList ++ quoted t)
  | none, none, none => return none

def touch : Utility := fun _ args => do
  let g ← given (forms [('a', ""), ('c', "no-create"), ('h', "no-dereference"), ('f', ""), ('m', "")]
    [('d', "date"), ('r', "reference"), ('t', ""), ('\x01', "time")]) args
  let wanted ← touchTime g
  requireOperands "missing file operand" g.operands
  let changes := !g.has 'a' || g.has 'm'
  let setTime (o : Octets) : ShellM Unit := do
    if changes then
      let time := wanted.getD (← world).fileTime
      match ← (if g.has 'h' then statLink? o else stat? o) with
      | .ok (place, _) => modifyWorld fun w => w.modifyMetadata place fun m => { m with time }
      | .error _ => return
  forEach g.operands fun o => do
    match ← stat? o with
    | .ok _ =>
      setTime o
      return true
    | .error e =>
      if g.has 'c' && e = .noEntry then return true
      else
        let done ← attempt ("cannot touch ".toList ++ quoted o) fun t dir =>
          if Path.endsInSlash o then .error .noEntry
          else (t.writable dir (pathText o)).map fun place => t.put place (.file [] false)
        if done && wanted.isSome then setTime o
        return done

/-- How a size follows from the one before: as it is, more, less, at most, at least, or rounded. -/
def sizeAfter (mark : Option Char) (n before : Nat) : Nat :=
  match mark with
  | some '+' => before + n
  | some '-' => before - n
  | some '<' => min before n
  | some '>' => max before n
  | some '/' => if n = 0 then before else before / n * n
  | some '%' => if n = 0 then before else (before + n - 1) / n * n
  | _ => n

/-- Cut a file off, or fill it up with zeros. -/
def truncate : Utility := fun _ args => do
  let g ← given (forms [('c', "no-create"), ('o', "io-blocks")] [('s', "size"), ('r', "reference")]) args
  let reference ← match g.value? 'r' with
    | none => pure none
    | some path =>
      match ← status? true path with
      | .ok f => pure (some f.size)
      | .error e => stop 1 ("cannot stat ".toList ++ quoted path ++ ": ".toList ++ e.wording.toList)
  let (mark, n) ← match g.value? 's' with
    | none =>
      if reference.isNone then misuse 1 "you must specify either '--size' or '--reference'".toList
      else pure (none, 0)
    | some size =>
      let size := size.dropWhile (· == ' ')
      let mark := size.head?.filter "+-<>/%".toList.contains
      match sized? (if mark.isSome then size.drop 1 else size) with
      | none => stop 1 ("Invalid number: ".toList ++ quoted ((g.value? 's').getD []))
      | some n =>
        if n = 0 ∧ (mark = some '/' ∨ mark = some '%') then stop 1 "division by zero".toList
        pure (mark, n)
  requireOperands "missing file operand" g.operands
  forEach g.operands fun o => do
    if g.has 'c' && (← stat? o).toOption.isNone then return true
    else match ← openPath o .both with
      | .error e =>
        grumble ("cannot open ".toList ++ quoted o ++ " for writing: ".toList ++ e.wording.toList)
        return false
      | .ok opened =>
        match ← targetOf opened with
        | some target =>
          let w ← world
          match target with
          | .stream _ =>
            grumble ("failed to truncate ".toList ++ quoted o ++ " at ".toList ++ Text.ofNat n ++
              " bytes: Invalid argument".toList)
            return false
          | .device _ =>
            grumble ("failed to truncate ".toList ++ quoted o ++ " at ".toList ++ Text.ofNat n ++
              " bytes: Invalid argument".toList)
            return false
          | _ =>
            let before := reference.getD (w.sizeOf target)
            let size := if (g.value? 's').isSome then sizeAfter mark n before else before
            modifyWorld fun w => w.resize target size
            return true
        | none => return false

/-- Make pipes that have names. -/
def mkfifo : Utility := fun _ args => do
  let g ← given (forms [('Z', "context")] [('m', "mode")]) args
  requireOperands "missing operand" g.operands
  let mode ← match g.value? 'm' with
    | some m => do pure (some (← modeGiven false 0o666 m))
    | none => pure none
  forEach g.operands fun o => do
    let (n, w) := (← world).addStream {}
    modifyWorld fun _ => w
    let done ← attempt ("cannot create fifo ".toList ++ quoted o) fun t dir =>
      (t.locateIn dir (pathText o)).bind fun
        | (_, none) => .error .alreadyThere
        | (parent, some name) =>
          if (t.entry? (parent ++ [name])).isSome then .error .alreadyThere
          else if Path.endsInSlash o then .error .noEntry
          else .ok (t.put (parent ++ [name]) (.device (.pipe n)))
    match done, mode with
    | true, some mode => setMode o mode
    | _, _ => pure ()
    return done

/-! ## Temporary files -/

/-- A name that has not been used, made by replacing letters of a template. -/
def freshName (serial count : Nat) : Octets :=
  let letters := "abcdefghijklmnopqrstuvwxyzABCDEFGHIJKLMNOPQRSTUVWXYZ0123456789".toList
  (List.range count).map fun i =>
    letters.getD ((serial * 7919 + i * 104729 + serial / (i + 1)) % letters.length) 'a'

/-- The letters of a template up to those to be replaced, how many these are, and what comes behind. -/
def templateParts (template suffix : Octets) : Octets × Nat × Octets :=
  let behind := if suffix ≠ [] then [] else (template.reverse.takeWhile (· != 'X')).reverse
  let front := template.take (template.length - behind.length)
  let count := (front.reverse.takeWhile (· == 'X')).length
  (front.take (front.length - count), count, behind ++ suffix)

def mktemp : Utility := fun _ args => do
  let g ← given (forms [('d', "directory"), ('u', "dry-run"), ('q', "quiet"), ('t', ""), ('V', "")]
    [('p', ""), ('\x01', "suffix")] ++ [⟨'\x02', "tmpdir", .maybe⟩]) args
  let p ← shell
  let tempDir := ((p.value? "TMPDIR".toList).filter (· ≠ [])).getD "/tmp".toList
  let isNamed := g.operands ≠ []
  let template := g.operands.headD "tmp.XXXXXXXXXX".toList
  if let _ :: _ :: _ := g.operands then misuse 1 "too many templates".toList
  let given := (g.value? '\x01').getD []
  if given ≠ [] ∧ template.getLast? ≠ some 'X' then
    stop 1 ("with --suffix, template ".toList ++ quoted template ++ " must end in X".toList)
  let (front, count, suffix) := templateParts template given
  if suffix.contains '/' then
    stop 1 ("invalid suffix ".toList ++ quoted suffix ++ ", contains directory separator".toList)
  if count < 3 then stop 1 ("too few X's in template ".toList ++ quoted (template ++ given))
  let dir : Option Octets := match g.value? 'p', g.value? '\x02' with
    | some dir, _ => some (if dir = [] then tempDir else dir)
    | none, some dir => some (if dir = [] then tempDir else dir)
    | none, none => if isNamed ∧ !g.has 't' then none else some tempDir
  let isOption := (g.value? 'p').isSome || (g.value? '\x02').isSome
  if g.has 't' ∧ front.contains '/' then
    stop 1 ("invalid template, ".toList ++ quoted template ++ ", contains directory separator".toList)
  if isOption ∧ isNamed ∧ template.head? = some '/' then
    stop 1 ("invalid template, ".toList ++ quoted template ++
      "; with --tmpdir, it may not be absolute".toList)
  let placed (name : Octets) : Octets := (dir.map (below · name)).getD name
  let serial := (← world).serial
  modifyWorld fun w => { w with serial := serial + 1 }
  let o := placed (front ++ freshName (serial + 1) count ++ suffix)
  if g.has 'u' then
    emitLine o
    return 0
  else
    let what := if g.has 'd' then "failed to create directory via template " else
      "failed to create file via template "
    let (t, workDir) ← treeAndDir
    match (if g.has 'd' then t.makeDir workDir (pathText o)
      else (t.writable workDir (pathText o)).map fun place => t.put place (.file [] false)) with
    | .ok t =>
      setTree t
      setMode o (if g.has 'd' then 0o700 else 0o600)
      emitLine o
      return 0
    | .error e =>
      if !g.has 'q' then
        grumble (what.toList ++ quoted (placed (template ++ given)) ++ ": ".toList ++ e.wording.toList)
      return 1

end KarelBuild.Shell.Utility
