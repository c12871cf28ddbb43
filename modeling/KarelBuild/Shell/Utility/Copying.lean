import KarelBuild.Shell.Utility.Files

/-!
# Copying, moving and linking

Utilities that put files to other places or give them other names. What stands where something is to go is
overwritten, kept, or gets another name first.
-/

namespace KarelBuild.Shell.Utility

open ShellM

/-! ## What stands in the way -/

/-- What is done to a file that stands where another one is to go. -/
inductive Overwrite where
  | always
  | asked
  | never
  deriving DecidableEq, Repr

/-- How the names of backups are found: a suffix, a number, or a number where there are numbers. -/
inductive Backup where
  | simple
  | numbered
  | existing
  deriving DecidableEq, Repr

structure CopyStyle where
  recursive : Bool := false
  keepsLinks : Bool := false
  overwrite : Overwrite := .always
  force : Bool := false
  removes : Bool := false
  newer : Bool := false
  hardLinks : Bool := false
  softLinks : Bool := false
  keepsMode : Bool := false
  keepsTime : Bool := false
  backup : Option Backup := none
  suffix : Octets := ['~']
  tells : Bool := false
  /-- For those who install, the permissions of what is made. -/
  mode : Option Nat := none

/-- Ask a question; a line that begins with a `y` says yes. -/
def isConfirmed (question : Octets) : ShellM Bool := do
  say 2 ((← programName) ++ ": ".toList ++ question)
  match (← shell).opened? 0 with
  | none => return false
  | some n =>
    match ← takeLine n with
    | .ok line => return line.head?.any fun c => c == 'y' || c == 'Y'
    | .error _ => return false

def backupControl (g : Given) : ShellM (Option Backup) := do
  let control := (g.value? '\x10').filter (· ≠ [])
  let fallback := ((← shell).value? "VERSION_CONTROL".toList).getD "existing".toList
  if (g.value? '\x10').isNone && !g.has 'b' then return none
  else
    let word := control.getD fallback
    match String.ofList word with
    | "none" => return none
    | "off" => return none
    | "simple" => return some .simple
    | "never" => return some .simple
    | "numbered" => return some .numbered
    | "t" => return some .numbered
    | "existing" => return some .existing
    | "nil" => return some .existing
    | _ =>
      grumble ("invalid argument ".toList ++ quoted word ++ " for 'backup type'".toList)
      say 2 (unlines (["Valid arguments are:", "  - 'none', 'off'", "  - 'simple', 'never'",
        "  - 'existing', 'nil'", "  - 'numbered', 't'"].map String.toList))
      say 2 ("Try '".toList ++ (← programName) ++ " --help' for more information.\n".toList)
      exit 1

/-- The number of the last backup with a number. -/
def lastBackup (t : FileTree) (place : Place) : Nat :=
  let lead := Octets.ofText (place.getLastD []) ++ ".~".toList
  let numbers := (t.children place.dropLast).filterMap fun (n, _) =>
    (lead.isPrefixOf? (Octets.ofText n)).bind fun rest =>
      let ds := rest.dropLast
      if rest.getLast? = some '~' ∧ isNumber ds then some (digitsValue ds) else none
  numbers.foldl max 0

/-- Give what stands at a place the name of a backup; gives that name, as far as it goes behind `o`. -/
def makeBackup (kind : Backup) (suffix : Octets) (place : Place) (o : Octets) : ShellM Octets := do
  let t := (← world).tree
  let last := lastBackup t place
  let isNumbered := kind = .numbered ∨ (kind = .existing ∧ last > 0)
  let extra := if isNumbered then ".~".toList ++ Text.ofNat (last + 1) ++ ['~'] else suffix
  let name := Octets.toText (Octets.ofText (place.getLastD []) ++ extra)
  modifyWorld fun w => w.rename place (place.dropLast ++ [name])
  return o ++ extra

def toldCopy (s : CopyStyle) (source dest : Octets) (backup : Option Octets) : ShellM Unit := do
  if s.tells then
    let note := backup.elim [] fun b => " (backup: ".toList ++ quoted b ++ [')']
    emitLine (quoted source ++ " -> ".toList ++ quoted dest ++ note)

/-! ## Copying -/

/-- What a copy keeps of what is known of the source. -/
def finishCopy (s : CopyStyle) (isNew : Bool) (source : Status) (dest : Octets) : ShellM Unit := do
  let umask := (← shell).umask
  match s.mode with
  | some mode => setMode dest mode
  | none =>
    if s.keepsMode then setMode dest source.mode
    else if isNew && source.kind ≠ .pipe then setMode dest (Mode.without (source.mode &&& 0o777) umask)
  if s.keepsTime then modifyStatus dest fun m => { m with time := source.time }

/-- Copy the contents of a file. -/
def copyContents (s : CopyStyle) (source dest : Octets) (found : Status) : ShellM Bool := do
  match ← openPath source .reads with
  | .error e =>
    grumble ("cannot open ".toList ++ quoted source ++ " for reading: ".toList ++ e.wording.toList)
    return false
  | .ok input =>
    let cannotCreate (e : OsError) : ShellM Bool := do
      grumble ("cannot create regular file ".toList ++ quoted dest ++ ": ".toList ++ e.wording.toList)
      return false
    let (t, dir) ← treeAndDir
    let before := t.stat dir (pathText dest)
    match before with
    | .error .noEntry =>
      if Path.endsInSlash dest then return (← cannotCreate .notDirectory)
      else if (t.statLink dir (pathText dest)).isOk then
        grumble ("not writing through dangling symlink ".toList ++ quoted dest)
        return false
    | _ => pure ()
    modifyShell fun p => { p with kept := input :: p.kept }
    match ← openPath dest .writes with
    | .error e => cannotCreate e
    | .ok n =>
      match ← takeAll input with
      | .ok (.text o) =>
        let _ ← writeTo n o
        finishCopy s before.toOption.isNone found dest
        return true
      | .ok (.endless _) => return true
      | .error e =>
        grumble ("error reading ".toList ++ quoted source ++ ": ".toList ++ e.wording.toList)
        return false

def makeLinkTo (dest : Octets) (target : Path) : ShellM Bool := do
  let (t, dir) ← treeAndDir
  match t.makeLink dir (pathText dest) target with
  | .ok t =>
    setTree t
    return true
  | .error e =>
    grumble ("cannot create symbolic link ".toList ++ quoted dest ++ ": ".toList ++ e.wording.toList)
    return false

/-- Give the file at a place another name. -/
def giveName (place : Place) (dest : Octets) : ShellM (Except OsError Unit) := do
  let (t, dir) ← treeAndDir
  match t.locateIn dir (pathText dest) with
  | .error e => return .error e
  | .ok (_, none) => return .error .alreadyThere
  | .ok (parent, some name) =>
    if (t.entry? (parent ++ [name])).isSome then return .error .alreadyThere
    else if Path.endsInSlash dest then return .error .noEntry
    else
      modifyWorld fun w => (w.addName place (parent ++ [name])).touched parent
      return .ok ()

/-- Remove what is no directory at a place, without forgetting who has it open. -/
def dropAt (place : Place) : ShellM Unit := do
  detachAll place
  setTree ((← world).tree.erase place)

/-- Whether source and destination are one file, so that nothing can be copied. -/
def isSameFile (s : CopyStyle) (moves : Bool) (source dest : Octets) : ShellM Bool := do
  match ← statLink? dest, ← status? true source, ← status? true dest, ← statLink? source with
  | .ok (q, d), found, there, .ok (p, e) =>
    let isSame := match found, there with
      | .ok f, .ok g => f.node == g.node
      | _, _ => p == q
    if moves then return if d.isLink then p == q else isSame
    else return if s.keepsLinks && d.isLink && e.isLink then p == q else isSame
  | _, _, _, _ => return false

/-- What is to be done with what stands at the destination. -/
inductive Clearing where
  | refused
  | skipped
  | ready (backup : Option Octets)

/-- Ask, keep, back up or remove what stands at the destination. -/
def clearWay (s : CopyStyle) (moves : Bool) (found : Status) (source dest : Octets) : ShellM Clearing := do
  let target ← if moves then status? false dest else do
    match ← status? true dest with
    | .ok f => pure (.ok f)
    | .error .noEntry => status? false dest
    | .error e => pure (.error e)
  match target with
  | .error .noEntry => return .ready none
  | .error e =>
    if moves ∧ e = .notDirectory then return .ready none
    grumble ((if moves then "failed to access " else "cannot stat ").toList ++ quoted dest ++ ": ".toList ++
      e.wording.toList)
    return .refused
  | .ok f =>
    let isDir := found.kind = .dir
    if ← isSameFile s moves source dest then
      grumble (quoted source ++ " and ".toList ++ quoted dest ++ " are the same file".toList)
      return .refused
    else if s.newer ∧ !isDir ∧ found.time ≤ f.time then return .skipped
    else if s.overwrite = .never ∧ !(isDir && !moves) then return .skipped
    else if s.overwrite = .asked ∧ !(isDir && !moves) then
      if !(← isConfirmed ("overwrite ".toList ++ quoted dest ++ "? ".toList)) then return .skipped
      else clear f isDir
    else clear f isDir
where
  clear (f : Status) (isDir : Bool) : ShellM Clearing := do
    if f.kind ≠ .dir ∧ isDir then
      if moves && s.backup.isSome then return (← backUp)
      grumble ("cannot overwrite non-directory ".toList ++ quoted dest ++ " with directory ".toList ++
        quoted source)
      return .refused
    else if f.kind = .dir ∧ !isDir then
      if moves && s.backup.isSome then return (← backUp)
      grumble ("cannot overwrite directory ".toList ++ quoted dest ++ " with non-directory".toList)
      return .refused
    else if s.backup.isSome ∧ (moves ∨ f.kind ≠ .dir) then backUp
    else if s.removes ∧ !moves ∧ f.kind ≠ .dir then
      match ← statLink? dest with
      | .ok (place, _) =>
        dropAt place
        if s.tells then emitLine ("removed ".toList ++ quoted dest)
      | .error _ => pure ()
      return .ready none
    else return .ready none
  backUp : ShellM Clearing := do
    match s.backup, ← statLink? dest with
    | some kind, .ok (place, _) => return .ready (some (← makeBackup kind s.suffix place dest))
    | _, _ => return .ready none

/-- The directories that a copy has made, and what was named first. -/
structure CopyRoot where
  source : Octets
  dest : Octets
  made : List Place := []

/-- Copy an entry, with what is below it as far as `depth` allows. -/
def copyEntry (s : CopyStyle) (root : Option CopyRoot) : (depth : Nat) → Octets → Octets → ShellM Bool
  | 0, _, _ => return false
  | n + 1, source, dest => do
    let follows := !s.keepsLinks && (!s.recursive || (root.isNone && Path.endsInSlash source))
    match ← (if follows then stat? source else statLink? source), ← status? follows source with
    | .ok (place, entry), .ok found =>
      if entry.isDir && !s.recursive then
        grumble ((if s.mode.isSome then "omitting directory " else "-r not specified; omitting directory ").toList ++
          quoted source)
        return false
      else if root.any (·.made.contains place) then
        let (a, b) := (root.map fun r => (r.source, r.dest)).getD ([], [])
        grumble ("cannot copy a directory, ".toList ++ quoted a ++ ", into itself, ".toList ++ quoted b)
        return false
      else match ← clearWay s false found source dest with
        | .refused => return false
        | .skipped => return true
        | .ready backup =>
          match entry with
          | .dir => copyDir n place found source dest
          | .link t =>
            toldCopy s source dest backup
            match ← statLink? dest with
            | .ok (q, e) => if !e.isDir then dropAt q
            | .error _ => pure ()
            if s.hardLinks then hardLink place source dest else makeLinkTo dest t
          | .device (.pipe _) => copyFile place found source dest backup
          | _ => copyFile place found source dest backup
    | .error e, _ => missing source e
    | _, .error e => missing source e
where
  missing (source : Octets) (e : OsError) : ShellM Bool := do
    grumble ("cannot stat ".toList ++ quoted source ++ ": ".toList ++ e.wording.toList)
    return false
  hardLink (place : Place) (source dest : Octets) : ShellM Bool := do
    let again ← giveName place dest
    let again ← match again, s.force, ← statLink? dest with
      | .error .alreadyThere, true, .ok (q, e) =>
        if e.isDir then pure again
        else do
          dropAt q
          giveName place dest
      | _, _, _ => pure again
    match again with
    | .ok () => return true
    | .error e =>
      grumble ("cannot create hard link ".toList ++ quoted dest ++ " to ".toList ++ quoted source ++
        ": ".toList ++ e.wording.toList)
      return false
  copyFile (place : Place) (found : Status) (source dest : Octets) (backup : Option Octets) :
      ShellM Bool := do
    toldCopy s source dest backup
    if s.hardLinks then hardLink place source dest
    else if s.softLinks then
      if source.head? ≠ some '/' ∧ dest.contains '/' then
        grumble (named dest ++ ": can make relative symbolic links only in current directory".toList)
        return false
      else
        if s.force then
          match ← statLink? dest with
          | .ok (q, e) => if !e.isDir then dropAt q
          | .error _ => pure ()
        makeLinkTo dest (pathText source)
    else copyContents s source dest found
  copyDir (n : Nat) (place : Place) (found : Status) (source dest : Octets) : ShellM Bool := do
    let isThere := (← stat? dest).toOption.isSome
    if !isThere then
      let made ← attempt ("cannot create directory ".toList ++ quoted dest) fun t dir =>
        t.makeDir dir (pathText dest)
      if !made then return false
      toldCopy s source dest none
    let r : CopyRoot := root.getD { source, dest }
    let r : CopyRoot := match isThere, ← stat? dest with
      | false, .ok (q, _) => { r with made := q :: r.made }
      | _, _ => r
    let mut fine := true
    for (name, _) in (← world).tree.children place do
      let name := Octets.ofText name
      let inner : CopyStyle := { s with keepsLinks := s.keepsLinks }
      if !(← copyEntry inner (some r) n (below source name) (below dest name)) then fine := false
    finishCopy s (!isThere) found dest
    return fine

/-- The operands of a utility that takes sources and where they go. -/
inductive Destination where
  | path (o : Octets)
  | directory (o : Octets)

def destinationOf (g : Given) : ShellM (List Octets × Destination) := do
  match g.value? 't' with
  | some dir =>
    requireOperands "missing file operand" g.operands
    if ← isDirectory dir then return (g.operands, .directory dir)
    else
      let e := match ← stat? dir with
        | .error e => e
        | .ok _ => .notDirectory
      stop 1 ("target directory ".toList ++ quoted dir ++ ": ".toList ++ e.wording.toList)
  | none =>
    match g.operands with
    | [] => misuse 1 "missing file operand".toList
    | [a] => misuse 1 ("missing destination file operand after ".toList ++ quoted a)
    | operands =>
      let sources := operands.dropLast
      let dest := operands.getLastD []
      if g.has 'T' then
        match sources with
        | [_] => return (sources, .path dest)
        | _ => misuse 1 ("extra operand ".toList ++ quoted ((operands.drop 2).headD []))
      else if ← isDirectory dest then return (sources, .directory dest)
      else match sources with
        | [_] => return (sources, .path dest)
        | _ =>
          let e := match ← stat? dest with
            | .error e => e
            | .ok _ => .notDirectory
          stop 1 ("target ".toList ++ quoted dest ++ ": ".toList ++ e.wording.toList)

def destinationOfEach (d : Destination) (source : Octets) : Octets :=
  match d with
  | .path o => o
  | .directory o => below o (lastName source)

def backupForms : List OptionForm :=
  [⟨'b', "", .nothing⟩, ⟨'\x10', "backup", .maybe⟩, ⟨'S', "suffix", .value⟩]

def copyForms : List OptionForm :=
  forms [('a', "archive"), ('d', ""), ('f', "force"), ('i', "interactive"), ('H', ""), ('l', "link"),
    ('L', "dereference"), ('n', "no-clobber"), ('P', "no-dereference"), ('p', ""), ('r', "recursive"),
    ('R', ""), ('s', "symbolic-link"), ('T', "no-target-directory"), ('u', "update"), ('v', "verbose"),
    ('x', "one-file-system"), ('\x02', "remove-destination"), ('\x03', "parents"),
    ('\x04', "attributes-only"), ('\x05', "strip-trailing-slashes"), ('Z', ""), ('\x06', "copy-contents")]
    [('t', "target-directory"), ('\x07', "no-preserve"), ('\x08', "sparse")] ++ backupForms ++
    [⟨'\x01', "preserve", .maybe⟩, ⟨'\x09', "reflink", .maybe⟩]

/-- What is to be done with what stands in the way: the last of the options that say so. -/
def overwriteOf (g : Given) (letters : String) : Overwrite :=
  match g.last? letters with
  | some 'i' => .asked
  | some 'n' => .never
  | _ => .always

def backupSuffix (g : Given) : ShellM Octets := do
  let usual := ((← shell).value? "SIMPLE_BACKUP_SUFFIX".toList).filter (· ≠ [])
  return (g.value? 'S').getD (usual.getD ['~'])

/-- Whether something is kept in a copy: an option names it. -/
def keeps (g : Given) (what : String) : Bool :=
  g.options.foldl (fun kept (c, v) =>
    let words := Text.split ',' v
    let isNamed := words.contains what.toList || words.contains "all".toList
    if c = 'a' ∨ (c = 'p' ∧ (what = "mode" ∨ what = "timestamps")) then true
    else if c = '\x01' then
      if v = [] then kept || what = "mode" || what = "timestamps" else kept || isNamed
    else if c = '\x07' ∧ isNamed then false
    else kept) false

/-- Make the directories of a source below the destination. -/
def copyParents (s : CopyStyle) (dir : Octets) : (done : Octets) → List Octets → ShellM Unit
  | _, [] => return
  | done, n :: rest => do
    let source := if done = [] then n else below done n
    let dest := below dir source
    match ← stat? dest with
    | .ok _ => pure ()
    | .error _ =>
      let made ← attempt ("cannot make directory ".toList ++ quoted dest) fun t workDir =>
        t.makeDir workDir (pathText dest)
      if made && s.tells then emitLine (source ++ " -> ".toList ++ dest)
    copyParents s dir source rest

/-- Go through sources, of which none may come twice and none may replace what came before. -/
def eachSource (s : CopyStyle) (d : Destination) (one : Octets → Octets → ShellM Bool)
    (destOf : Octets → Octets) (sources : List Octets) : ShellM Nat := do
  let mut code := 0
  let mut seen : List (Octets × Place) := []
  let mut made : List Place := []
  let several := sources.length > 1
  for source in sources do
    let dest := destOf source
    let own := (← statLink? source).toOption
    let isDir := own.any (·.2.isDir)
    let there := (← stat? dest).toOption
    let isTwice := !isDir && s.backup.isNone && own.any fun (p, _) => seen.contains (lastName source, p)
    if isTwice then
      grumble ("warning: source file ".toList ++ quoted source ++ " specified more than once".toList)
    else if several && !isDir && own.isSome && s.backup ≠ some .numbered &&
        there.any fun (p, _) => made.contains p then
      grumble ("will not overwrite just-created ".toList ++ quoted dest ++ " with ".toList ++ quoted source)
      code := 1
    else
      match own with
      | some (p, _) => seen := (lastName source, p) :: seen
      | none => pure ()
      if ← one source dest then
        match d, ← stat? dest with
        | .directory _, .ok (p, e) => if !e.isDir then made := p :: made
        | _, _ => pure ()
      else code := 1
  return code

def cp : Utility := fun _ args => do
  let g ← given copyForms args
  let recursive := g.has 'r' || g.has 'R' || g.has 'a'
  let keepsLinks := match g.last? "adLPH" with
    | some 'L' => false
    | some 'H' => false
    | some _ => true
    | none => recursive
  let (sources, d) ← destinationOf g
  let s : CopyStyle := {
    recursive, keepsLinks := keepsLinks || g.has 's' && false, force := g.has 'f'
    removes := g.has '\x02', newer := g.has 'u', hardLinks := g.has 'l', softLinks := g.has 's'
    keepsMode := keeps g "mode", keepsTime := keeps g "timestamps", backup := ← backupControl g
    suffix := ← backupSuffix g, overwrite := overwriteOf g "in", tells := g.has 'v' }
  if g.has '\x03' then
    match d with
    | .directory dir =>
      eachSource s d (fun source dest => do
        if (← statLink? source).isOk then
          copyParents s dir (if source.head? = some '/' then ['/'] else []) (Path.pieces source).dropLast
        copyEntry s none maxDepth source dest) (below dir) sources
    | .path _ => misuse 1 "with --parents, the destination must be a directory".toList
  else eachSource s d (copyEntry s none maxDepth) (destinationOfEach d) sources

/-! ## Moving -/

def moveOne (s : CopyStyle) (source dest : Octets) : ShellM Bool := do
  let (t, dir) ← treeAndDir
  match t.statLink dir (pathText source), ← status? false source with
  | .ok (place, entry), .ok found =>
    let isDir := entry.isDir
    let cannot (e : OsError) : ShellM Bool := do
      grumble ("cannot move ".toList ++ quoted source ++ " to ".toList ++ quoted dest ++ ": ".toList ++
        e.wording.toList)
      return false
    match ← clearWay s true found source dest with
    | .refused => return false
    | .skipped => return true
    | .ready backup =>
      let t := (← world).tree
      match t.locateIn dir (pathText dest) with
      | .error e => cannot e
      | .ok (_, none) => cannot .busy
      | .ok (parent, some name) =>
        let target := parent ++ [name]
        if isDir ∧ place.isPrefixOf target then
          grumble ("cannot move ".toList ++ quoted source ++ " to a subdirectory of itself, ".toList ++
            quoted dest)
          return false
        else match t.entry? target with
          | none =>
            if !isDir ∧ Path.endsInSlash dest then cannot .notDirectory else finish place target backup
          | some .dir => if (t.below target).isEmpty then finish place target backup else cannot .notEmpty
          | some (.device (.pipe _)) => finish place target backup
          | some (.device _) =>
            setTree (t.erase place)
            return true
          | some _ => if Path.endsInSlash dest then cannot .notDirectory else finish place target backup
  | .error e, _ => missing e
  | _, .error e => missing e
where
  missing (e : OsError) : ShellM Bool := do
    grumble ("cannot stat ".toList ++ quoted source ++ ": ".toList ++ e.wording.toList)
    return false
  finish (place target : Place) (backup : Option Octets) : ShellM Bool := do
    modifyWorld fun w => w.rename place target
    let t := (← world).tree
    modifyShell fun p => { p with workDir := p.workDir.after t }
    if s.tells then
      let note := backup.elim [] fun b => " (backup: ".toList ++ quoted b ++ [')']
      emitLine ("renamed ".toList ++ quoted source ++ " -> ".toList ++ quoted dest ++ note)
    return true

def mv : Utility := fun _ args => do
  let g ← given (forms [('f', "force"), ('i', "interactive"), ('n', "no-clobber"), ('u', "update"),
    ('v', "verbose"), ('T', "no-target-directory"), ('\x05', "strip-trailing-slashes"), ('Z', "context")]
    [('t', "target-directory")] ++ backupForms) args
  let (sources, d) ← destinationOf g
  let s : CopyStyle := {
    newer := g.has 'u', backup := ← backupControl g, suffix := ← backupSuffix g
    overwrite := overwriteOf g "fin", tells := g.has 'v' }
  eachSource s d (moveOne s) (destinationOfEach d) sources

/-! ## Installing -/

/-- Copy files with a mode that lets them be run, or make directories. -/
def install : Utility := fun _ args => do
  let g ← given (forms [('d', "directory"), ('D', ""), ('c', ""), ('C', "compare"), ('v', "verbose"),
    ('p', "preserve-timestamps"), ('s', "strip"), ('T', "no-target-directory")] [('m', "mode"),
    ('o', "owner"), ('g', "group"), ('t', "target-directory")] ++ backupForms) args
  let mode ← match g.value? 'm' with
    | some m =>
      match Mode.ofText? m with
      | some clauses => pure (Mode.applyAll (g.has 'd') 0 clauses 0)
      | none => stop 1 ("invalid mode ".toList ++ quoted m)
    | none => pure 0o755
  let root (o : Octets) : Octets := if o.head? = some '/' then ['/'] else []
  if g.has 'd' then
    requireOperands "missing file operand" g.operands
    forEach g.operands fun o => do makeDirs (g.has 'v') mode (root o) (Path.pieces o)
  else
    if g.has 'D' then
      match g.value? 't', g.operands.getLast? with
      | some dir, _ =>
        let _ ← makeDirs (g.has 'v') 0o755 (root dir) (Path.pieces dir)
      | none, some dest =>
        if g.operands.length > 1 then
          let _ ← makeDirs (g.has 'v') 0o755 (root dest) (Path.pieces dest).dropLast
      | none, none => pure ()
    let (sources, d) ← destinationOf g
    let s : CopyStyle := {
      mode := some mode, keepsTime := g.has 'p', backup := ← backupControl g, suffix := ← backupSuffix g
      removes := true }
    eachSource s d (fun source dest => do
      let told := g.has 'v'
      let isThere := (← stat? dest).toOption.any fun f => !f.2.isDir
      let done ← copyEntry s none maxDepth source dest
      if done && told then
        if isThere && s.backup.isNone then emitLine ("removed ".toList ++ quoted dest)
        emitLine (quoted source ++ " -> ".toList ++ quoted dest)
      return done) (destinationOfEach d) sources
where
  makeDirs (tells : Bool) (mode : Nat) : (done : Octets) → List Octets → ShellM Bool
    | _, [] => return true
    | done, n :: rest => do
      let path := if done = [] then n else below done n
      match ← stat? path with
      | .ok (_, .dir) =>
        if rest = [] then setMode path mode
        makeDirs tells mode path rest
      | .ok _ =>
        let why := if rest = [] then "File exists" else "Not a directory"
        grumble ("cannot create directory ".toList ++ quoted path ++ ": ".toList ++ why.toList)
        return false
      | .error _ =>
        let done ← attempt ("cannot create directory ".toList ++ quoted path) fun t dir =>
          t.makeDir dir (pathText path)
        if !done then return false
        setMode path (if rest = [] then mode else 0o755)
        if tells then emitLine ((← programName) ++ ": creating directory ".toList ++ quoted path)
        makeDirs tells mode path rest

/-! ## Links -/

structure LinkStyle where
  symbolic : Bool
  overwrite : Overwrite
  follows : Bool
  relative : Bool
  backup : Option Backup
  suffix : Octets
  tells : Bool

/-- The way from a directory to a place. -/
def wayTo : (source target : Place) → Path
  | b :: bs, p :: ps =>
    if b = p then wayTo bs ps else Text.join ['/'] ((b :: bs).map (fun _ => ['.', '.']) ++ p :: ps)
  | [], [] => ['.']
  | bs, ps => Text.join ['/'] (bs.map (fun _ => ['.', '.']) ++ ps)

/-- What is written into a symbolic link. -/
def linkText (s : LinkStyle) (target dest : Octets) : ShellM Path := do
  if !s.relative then return pathText target
  else
    let (t, dir) ← treeAndDir
    match t.locateIn dir (pathText dest), t.locate dir (pathText target) with
    | .ok (parent, _), .ok place => return wayTo parent place
    | _, _ => return pathText target

/-- Clear the way for a link; tells whether it can be made, and the name of a backup. -/
def clearForLink (s : LinkStyle) (target dest : Octets) : ShellM (Bool × Option Octets) := do
  match ← statLink? dest with
  | .error _ => return (true, none)
  | .ok (place, entry) =>
    if s.overwrite = .asked then
      if !(← isConfirmed ("replace ".toList ++ quoted dest ++ "? ".toList)) then return (false, none)
    if s.overwrite = .never ∧ s.backup.isNone then return (true, none)
    else if entry.isDir then
      grumble (named dest ++ ": cannot overwrite directory".toList)
      return (false, none)
    else
      let isSame ← do
        match ← status? true target, ← status? false dest with
        | .ok f, .ok g => pure (f.node == g.node)
        | _, _ => pure false
      if isSame && (!s.symbolic || (← statLink? target).toOption.any (·.1 == place)) then
        grumble (quoted target ++ " and ".toList ++ quoted dest ++ " are the same file".toList)
        return (false, none)
      else match s.backup with
        | some kind => return (true, some (← makeBackup kind s.suffix place dest))
        | none =>
          dropAt place
          return (true, none)

def linkOne (s : LinkStyle) (target dest : Octets) : ShellM Bool := do
  let what := if s.symbolic then "failed to create symbolic link " else "failed to create hard link "
  let told (backup : Option Octets) : ShellM Unit := do
    if s.tells then
      let note := backup.elim [] fun b => quoted b ++ " ~ ".toList
      emitLine (note ++ quoted dest ++ (if s.symbolic then " -> " else " => ").toList ++ quoted target)
  let source ← if s.symbolic then pure (.ok ([], .link [])) else
    if s.follows then stat? target else statLink? target
  match source with
  | .error e =>
    grumble ("failed to access ".toList ++ quoted target ++ ": ".toList ++ e.wording.toList)
    return false
  | .ok (_, .dir) =>
    grumble (named target ++ ": hard link not allowed for directory".toList)
    return false
  | .ok (place, _) =>
    let (mayGo, backup) ← clearForLink s target dest
    if !mayGo then return false
    else if s.symbolic then
      let text ← linkText s target dest
      let done ← attempt (what.toList ++ quoted dest) fun t dir =>
        if target = [] then .error .noEntry
        else (t.locateIn dir (pathText dest)).bind fun
          | (_, none) => .error .alreadyThere
          | (parent, some name) =>
            if (t.entry? (parent ++ [name])).isSome then .error .alreadyThere
            else if Path.endsInSlash dest then .error .noEntry
            else t.makeLink dir (pathText dest) text
      if done then told backup
      return done
    else match ← giveName place dest with
      | .ok () =>
        told backup
        return true
      | .error e =>
        grumble (what.toList ++ quoted dest ++
          (if e = .alreadyThere then [] else " => ".toList ++ quoted target) ++ ": ".toList ++ e.wording.toList)
        return false

def ln : Utility := fun _ args => do
  let g ← given (forms [('s', "symbolic"), ('f', "force"), ('n', "no-dereference"), ('v', "verbose"),
    ('T', "no-target-directory"), ('r', "relative"), ('i', "interactive"), ('L', "logical"),
    ('P', "physical"), ('d', "directory"), ('F', "")] [('t', "target-directory")] ++ backupForms) args
  let s : LinkStyle := {
    symbolic := g.has 's', follows := g.last? "LP" == some 'L', relative := g.has 'r'
    overwrite := (match g.last? "fi" with
      | some 'f' => .always
      | some _ => .asked
      | none => .never)
    backup := ← backupControl g, suffix := ← backupSuffix g, tells := g.has 'v' }
  if s.relative && !s.symbolic then stop 1 "cannot do --relative without --symbolic".toList
  let one := linkOne s
  match g.operands, g.value? 't' with
  | [], _ => misuse 1 "missing file operand".toList
  | sources, some dir =>
    if ← isDirectory dir then forEach sources fun o => one o (below dir (lastName o))
    else
      let e := match ← stat? dir with
        | .error e => e
        | .ok _ => .notDirectory
      stop 1 ("target directory ".toList ++ quoted dir ++ ": ".toList ++ e.wording.toList)
  | [a], none => forEach [a] fun o => one o (below ['.'] (lastName o))
  | operands, none =>
    let sources := operands.dropLast
    let dest := operands.getLastD []
    let isLink := match ← statLink? dest with
      | .ok (_, .link _) => true
      | _ => false
    let isDir ← isDirectory dest
    if isDir && !(g.has 'n' && isLink) && !g.has 'T' then
      forEach sources fun o => one o (below dest (lastName o))
    else match sources with
      | [a] => forEach [a] fun o => one o dest
      | _ =>
        if g.has 'T' then misuse 1 ("extra operand ".toList ++ quoted ((operands.drop 2).headD []))
        let e := match ← stat? dest with
          | .error e => e
          | .ok _ => .notDirectory
        stop 1 ("target ".toList ++ quoted dest ++ ": ".toList ++ e.wording.toList)

/-- Give a file another name, and nothing else. -/
def link : Utility := fun _ args => do
  let g ← given [] args
  match g.operands with
  | [] => misuse 1 "missing operand".toList
  | [a] => misuse 1 ("missing operand after ".toList ++ quoted a)
  | [a, b] =>
    let made ← match ← statLink? a with
      | .ok (place, e) => if e.isDir then pure (.error .notPermitted) else giveName place b
      | .error e => pure (.error e)
    match made with
    | .ok () => return 0
    | .error e =>
      stop 1 ("cannot create link ".toList ++ quoted b ++ " to ".toList ++ quoted a ++ ": ".toList ++
        e.wording.toList)
  | _ :: _ :: o :: _ => misuse 1 ("extra operand ".toList ++ quoted o)

end KarelBuild.Shell.Utility
