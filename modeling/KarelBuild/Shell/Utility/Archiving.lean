import KarelBuild.Shell.Utility.Archive.Members
import KarelBuild.Shell.Utility.Compressing
import KarelBuild.Shell.Utility.Dates
import KarelBuild.Shell.Utility.Edit
import KarelBuild.Shell.Utility.Listing
import KarelBuild.Shell.Utility.Removing

/-!
# Archives of files

`tar` puts files into an archive, lists what is in one, and makes the files again. What is in an archive has relative
names; those that are not are made so. An archive may be compressed as a whole.
-/

namespace KarelBuild.Shell.Utility

open ShellM

namespace Archiving

open Archive

/-! ## Settings -/

inductive ArchiveTask where
  | create
  | list
  | extract
  | append
  | update
  | join
  | compare
  | delete
  deriving DecidableEq, Repr

/-- What is done about a file that is there already. -/
inductive Existing where
  | replaced
  | kept
  | passed
  | newer
  deriving DecidableEq, Repr

structure Settings where
  task : ArchiveTask
  archive : Octets := ['-']
  tells : Nat := 0
  compresses : Bool := false
  /-- A program to compress with that is not there. -/
  compressor : Option Octets := none
  excluded : List Octets := []
  isAnchored : Bool := false
  steps : Nat := 0
  substitutions : List Edit.Substitution := []
  toOutput : Bool := false
  existing : Existing := .replaced
  recursive : Bool := true
  follows : Bool := false
  keepsRoot : Bool := false
  numeric : Bool := false
  keepsMode : Bool := true
  keepsTime : Bool := true
  keepsOwner : Bool := true
  wildcards : Bool := false
  ignoresZeros : Bool := false
  removes : Bool := false
  sortsByName : Bool := false
  totals : Bool := false
  fullTime : Bool := false
  form : ArchiveForm := .long
  recordBlocks : Nat := 20
  owner : Option (Nat × Octets) := none
  group : Option (Nat × Octets) := none
  mode : Option Octets := none
  time : Option Int := none
  newerThan : Option Int := none

structure Progress where
  code : Nat := 0
  /-- What has been taken from names, with a message each. -/
  shortened : List (Octets × Bool) := []
  /-- Files with several names that are in the archive already. -/
  linked : List (Nat × Octets) := []
  /-- The archive, in parts of which the last one comes first. -/
  parts : List Octets := []
  length : Nat := 0
  /-- The file that the archive is written to. -/
  node : Option Nat := none
  /-- Directories that get their times and modes in the end. -/
  delayed : List (Octets × Stored) := []
  used : List Octets := []
  width : Nat := 19

abbrev ArchiveM := StateT Progress ShellM

/-! ## Messages -/

def note (message : Octets) : ShellM Unit := do
  say 2 ("tar: ".toList ++ message ++ ['\n'])

def fault (message : Octets) : ArchiveM Unit := do
  note message
  modify fun p => { p with code := 2 }

def quit {α : Type} : ShellM α := do
  note "Error is not recoverable: exiting now".toList
  exit 2

def fatal {α : Type} (message : Octets) : ShellM α := do
  note message
  quit

def misused {α : Type} (message : String) : ShellM α := do
  note message.toList
  pointToHelp
  exit 2

def told (name : Octets) (what : String) (e : OsError) : Octets :=
  name ++ ": ".toList ++ what.toList ++ ": ".toList ++ e.wording.toList

/-! ## Names -/

def globMatches (pattern o : Octets) : Bool := Pattern.isMatch (Pattern.items true (pattern.map (·, true))) o

/-- Whether a pattern stands for a name or for a directory that leads to it. -/
def leadsTo (isPlain : Bool) (pattern name : Octets) : Bool :=
  (leadingNames name).any fun n => if isPlain then n == pattern else globMatches pattern n

def isExcluded (s : Settings) (name : Octets) : Bool :=
  s.excluded.any fun pattern =>
    (if s.isAnchored then [name] else innerNames name).any fun n => leadsTo false pattern n

/-- A name after it has been changed as asked for. -/
def transformed (s : Settings) (name : Octets) : Octets :=
  s.substitutions.foldl (fun name u =>
    match u.regex with
    | none => name
    | some r =>
      let ms := if u.all ∨ u.number > 1 then (r.allMatches name).drop (u.number - 1) else (r.search name).toList
      let ms := if u.all then ms else ms.take 1
      if ms = [] then name else Edit.rewrite u.pieces name 0 ms) name

/-- A name that does not lead out of the directory; what has been taken from it is told once. -/
def safeName (s : Settings) (isTarget : Bool) (name : Octets) : ArchiveM Octets := do
  if s.keepsRoot then return name
  let lead := unsafePrefix name
  if lead ≠ [] ∧ !(← get).shortened.contains (lead, isTarget) then
    let what := if isTarget then "' from hard link targets" else "' from member names"
    note ("Removing leading \x60".toList ++ lead ++ what.toList)
    modify fun p => { p with shortened := (lead, isTarget) :: p.shortened }
  let rest := name.drop lead.length
  return if rest = [] then ['.'] else rest

/-! ## Lists -/

/-- A line that tells all about a member. -/
def longLine (s : Settings) (m : Stored) (name : Octets) : ArchiveM Octets := do
  let owner := if s.numeric ∨ m.ownerName = [] then Text.ofNat m.owner else m.ownerName
  let group := if s.numeric ∨ m.groupName = [] then Text.ofNat m.group else m.groupName
  let size := Text.ofNat m.size
  let taken := owner.length + group.length + size.length + 2
  let width := max (← get).width taken
  modify fun p => { p with width }
  let time := formatDate ((m.time : Int) * 1000000) (if s.fullTime then "%Y-%m-%d %H:%M:%S" else "%Y-%m-%d %H:%M").toList
  let link := match m.kind with
    | .softLink => " -> ".toList ++ m.target
    | .hardLink => " link to ".toList ++ m.target
    | _ => []
  return m.kind.letter :: Mode.letters m.mode ++ ' ' :: owner ++ '/' :: group ++ ' ' ::
    padLeft (width - taken + size.length) size ++ ' ' :: time ++ ' ' :: name ++ link ++ ['\n']

/-- Tell of a member, on the standard output unless something else goes there. -/
def tell (s : Settings) (aside : Bool) (level : Nat) (m : Stored) (name : Octets) : ArchiveM Unit := do
  if 0 < level then
    let line ← if 1 < level then longLine s m name else pure (name ++ ['\n'])
    if aside then say 2 line else emit line

/-! ## Creating -/

def put (s : Settings) (m : Stored) : ArchiveM Unit := do
  let o := m.write s.form
  modify fun p => { p with parts := o :: p.parts, length := p.length + o.length }

/-- What an entry is in an archive. -/
def memberOf (s : Settings) (f : Status) : Stored :=
  let kind := match f.kind with
    | .file => StoredKind.file
    | .dir => .dir
    | .link => .softLink
    | .characters => .characters
    | .pipe => .pipe
  let mode := match s.mode.bind Mode.ofText? with
    | some clauses => Mode.applyAll (f.kind = .dir) 0 clauses f.mode
    | none => f.mode
  let (owner, ownerName) := s.owner.getD (f.owner, accountName f.owner)
  let (group, groupName) := s.group.getD (f.group, groupName f.group)
  let isNamed (n : Octets) : Octets := if s.numeric ∨ isNumber n then [] else n
  { name := [], kind, mode := mode &&& 0o7777, owner, group, ownerName := isNamed ownerName
    groupName := isNamed groupName, time := ((s.time.getD f.time) / 1000000).toNat
    target := if f.kind = .link then Octets.ofText f.target else [] }

/-- Put an entry into the archive, and what is below it. `path` is where it is, `name` what it is called. -/
def dump (s : Settings) (aside : Bool) : (depth : Nat) → (isTop : Bool) → (path name : Octets) → ArchiveM Unit
  | 0, _, _, _ => return
  | depth + 1, isTop, path, name => do
    match ← status? s.follows path with
    | .error e =>
      if isTop ∨ s.follows then fault (told name "Cannot stat" e)
    | .ok f =>
      if f.kind ≠ .dir ∧ (s.newerThan.any fun t => decide (f.time < t)) then return
      else if f.kind ≠ .dir ∧ (← get).node = some f.node then
        note (name ++ ": file is the archive; not dumped".toList)
      else
        let base := memberOf s f
        let isDir := f.kind = .dir
        let shown := if isDir ∧ name.getLast? ≠ some '/' then name ++ ['/'] else name
        let linked := (← get).linked
        let known := if 1 < f.names ∧ !isDir then linked.lookup f.node else none
        match known with
        | some first =>
          let target ← safeName s true (transformed s first)
          let stored ← safeName s false (transformed s shown)
          let m := { base with name := stored, kind := .hardLink, target }
          put s m
          tell s aside s.tells m shown
        | none =>
          let stored ← safeName s false (transformed s shown)
          let m := { base with name := stored }
          if isDir then
            put s m
            tell s aside s.tells m shown
            if s.recursive then
              match ← stat? path with
              | .error _ => return
              | .ok (place, _) =>
                let names := ((← world).tree.children place).map fun (n, _) => Octets.ofText n
                for n in names do
                  let inner := below shown n
                  if !isExcluded s inner then dump s aside depth false (below path n) inner
          else
            if 1 < f.names then modify fun p => { p with linked := (f.node, name) :: p.linked }
            if f.kind = .file then
              match ← readOperand path with
              | .error e => fault (told name "Cannot open" e)
              | .ok o =>
                let m := { m with size := o.length, contents := o }
                put s m
                tell s aside s.tells m shown
            else
              put s m
              tell s aside s.tells m shown
          if s.removes ∧ !isDir then
            match ← statLink? path with
            | .ok (place, _) => dropAt place
            | .error _ => pure ()

/-- A path that is meant from another directory. -/
def fromDir (dir path : Octets) : Octets :=
  if dir = [] ∨ path.head? = some '/' then path else below dir path

/-! ## The archive itself -/

def openArchive (s : Settings) (d : Direction) : ShellM Nat := do
  if s.archive = ['-'] then
    match (← shell).opened? (if d = .reads then 0 else 1) with
    | some n => return n
    | none =>
      if d ≠ .reads then
        match ← openPath "/dev/null".toList .writes with
        | .ok n => return n
        | .error e => fatal (told s.archive "Cannot open" e)
      else
        note "-: Cannot read: Bad file descriptor".toList
        note "At beginning of tape, quitting now".toList
        quit
  else
    match ← openPath s.archive d with
    | .ok n => return n
    | .error e => fatal (told s.archive "Cannot open" e)

/-- Write an archive to where it goes. -/
def writeArchive (s : Settings) (n : Nat) (o : Octets) : ShellM Unit := do
  match s.compressor with
  | some program =>
    say 2 ("/bin/sh: 1: ".toList ++ program ++ ": not found\n".toList)
    note "Child returned status 127".toList
    quit
  | none =>
    let o := if s.compresses then ({} : Compressing.Header).write o else o
    flush
    match ← writeTo n o with
    | .ok () => return
    | .error e => fatal (told s.archive "Cannot write" e)

/-- Everything in an archive; one that is compressed may turn out to be damaged, which is told in the end. -/
def readArchive (s : Settings) : ShellM (Octets × ShellM Unit) := do
  let missing : ShellM (Octets × ShellM Unit) := do
    say 2 ("tar (child): ".toList ++ s.compressor.getD [] ++ ": Cannot exec: No such file or directory\n".toList)
    childFault
  let isPiped := s.compresses || s.compressor.isSome
  let n ← if s.archive ≠ ['-'] ∧ isPiped then
      match ← openPath s.archive .reads with
      | .ok n => pure n
      | .error e =>
        say 2 ("tar (child): ".toList ++ told s.archive "Cannot open" e ++ ['\n'])
        let _ ← childFault
        pure 0
    else openArchive s .reads
  if s.compressor.isSome then missing
  else
    match ← takeAll n with
    | .error e =>
      note (told s.archive "Cannot read" e)
      note "At beginning of tape, quitting now".toList
      quit
    | .ok (.endless _) => return ([], pure ())
    | .ok (.text o) =>
      let isCompressed := [Char.ofNat 0x1F, Char.ofNat 0x8B].isPrefixOf o
      if isCompressed ∧ s.task ≠ .list ∧ s.task ≠ .extract ∧ s.task ≠ .compare then
        fatal "Cannot update compressed archives".toList
      else if isCompressed ∧ s.archive = ['-'] ∧ !s.compresses then
        note "Archive is compressed. Use -z option".toList
        quit
      else if s.compresses ∨ isCompressed then
        let a := Compressing.Account.read (Digests.bytesOf o)
        let complaint? := match a.ending with
          | .whole => none
          | .zeros => none
          | .ended => some "unexpected end of file"
          | .invalid => some "invalid compressed data--format violated"
          | .wrong true _ => some "invalid compressed data--crc error"
          | .wrong _ _ => some "invalid compressed data--length error"
          | .unlike m => some m
          | .foreign => some (if a.texts.isEmpty then "not in gzip format" else "decompression OK, trailing garbage ignored")
        let status := if a.ending = .foreign ∧ !a.texts.isEmpty then "2" else "1"
        let report : ShellM Unit := do
          match complaint? with
          | none => return
          | some c =>
            say 2 ("\ngzip: stdin: ".toList ++ c.toList ++ ['\n'])
            note ("Child returned status ".toList ++ status.toList)
            quit
        if a.text.length < blockSize then report
        return (a.text, report)
      else return (o, pure ())
where
  childFault : ShellM (Octets × ShellM Unit) := do
    say 2 "tar (child): Error is not recoverable: exiting now\n".toList
    note "Child returned status 2".toList
    quit

/-! ## Choosing members -/

/-- The operand that a member is meant by. All are meant if there are none. -/
def chosenBy (s : Settings) (operands : List (Octets × Octets)) (name : Octets) : Option (Octets × Octets) :=
  operands.find? fun (_, o) => leadsTo (!s.wildcards) (bare o) name

def hasWildcards (o : Octets) : Bool := o.any fun c => c == '*' || c == '?' || c == '['

/-- Complain of operands that stand for no member. -/
def reportMissing (s : Settings) (operands : List (Octets × Octets)) : ArchiveM Unit := do
  let used := (← get).used
  let missing := (operands.map (·.2)).filter fun o => !used.contains o
  if !s.wildcards ∧ missing.any hasWildcards then
    note "Pattern matching characters used in file names".toList
    note "Use --wildcards to enable pattern matching, or --no-wildcards to suppress this warning".toList
  for o in missing do fault (o ++ ": Not found in archive".toList)

/-- Go through an archive. -/
def eachMember (s : Settings) (operands : List (Octets × Octets)) (found : List Finding)
    (use : Stored → (dir : Octets) → ArchiveM Unit) : ArchiveM Unit := do
  for f in found do
    match f with
    | .foreign => fault "This does not look like a tar archive".toList
    | .skipped => fault "Skipping to next header".toList
    | .loneZero n => note ("A lone zero block at ".toList ++ Text.ofNat n)
    | .member m isCut =>
      let chosen := if operands = [] then some ([], []) else chosenBy s operands m.name
      match chosen with
      | none => if isCut then fatal "Unexpected EOF in archive".toList
      | some (dir, o) =>
        if operands ≠ [] then modify fun p => { p with used := o :: p.used }
        if !isExcluded s m.name then
          use m dir
          if isCut ∧ s.task = .extract then note "Unexpected EOF in archive".toList
        if isCut then
          flush
          fatal "Unexpected EOF in archive".toList
  reportMissing s operands

/-! ## Extracting -/

/-- Make the directories that lead to a path. -/
def makeLeading (path : Octets) : ShellM Unit := do
  for dir in ((leadingNames path).drop 1).reverse do
    if dir ≠ [] then
      let (t, workDir) ← treeAndDir
      match t.makeDir workDir (pathText dir) with
      | .ok t => setTree t
      | .error _ => pure ()

/-- Give an entry what is known of a member. -/
def restore (s : Settings) (path : Octets) (m : Stored) : ShellM Unit := do
  match ← statLink? path with
  | .error _ => return
  | .ok (place, _) =>
    let umask := (← shell).umask
    if m.kind ≠ .softLink then
      setModeAt place (if s.keepsMode then m.mode else Mode.without (m.mode &&& 0o777) umask)
    modifyWorld fun w => w.modifyMetadata place fun d =>
      { d with
        time := if s.keepsTime then (m.time : Int) * 1000000 else d.time
        owner := if s.keepsOwner then ownerNumber m else d.owner
        group := if s.keepsOwner then groupNumber m else d.group }
where
  ownerNumber (m : Stored) : Nat :=
    if s.numeric then m.owner else (numberIn? Host.accountNumbers m.ownerName).getD m.owner
  groupNumber (m : Stored) : Nat :=
    if s.numeric then m.group else (numberIn? Host.groupNumbers m.groupName).getD m.group

/-- Take away what stands at a path; tells whether that could be done. -/
def clear (path : Octets) : ShellM (Except OsError Unit) := do
  match ← statLink? path with
  | .error _ => return .ok ()
  | .ok (place, .dir) =>
    if ((← world).tree.children place).isEmpty then
      setTree ((← world).tree.erase place)
      return .ok ()
    else return .error .alreadyThere
  | .ok (place, _) =>
    dropAt place
    return .ok ()

def extractFile (s : Settings) (path name : Octets) (m : Stored) : ArchiveM Unit := do
  match ← openPath path .writes with
  | .error e => fault (told name "Cannot open" e)
  | .ok n =>
    let _ ← writeTo n m.contents
    restore s path m

/-- Make the entry of a member. -/
def extractAt (s : Settings) (dir path name : Octets) (m : Stored) : ArchiveM Unit := do
  makeLeading path
  match m.kind with
  | .dir =>
    let path := bare path
    match ← stat? path with
    | .ok (_, .dir) =>
      if s.existing = .passed then note (bare name ++ ": skipping existing file".toList)
      else modify fun p => { p with delayed := (path, m) :: p.delayed }
    | _ =>
      let _ ← clear path
      let (t, workDir) ← treeAndDir
      match t.makeDir workDir (pathText path) with
      | .ok t =>
        setTree t
        modify fun p => { p with delayed := (path, m) :: p.delayed }
      | .error e => fault (told (bare name) "Cannot mkdir" e)
  | kind =>
    let before ← status? false path
    match s.existing, before with
    | .kept, .ok _ => fault (told name "Cannot open" .alreadyThere)
    | .passed, .ok _ => note (name ++ ": skipping existing file".toList)
    | existing, before =>
      let isNewer : Bool := match before with
        | .ok f => existing == .newer && (m.time : Int) * 1000000 ≤ f.time
        | .error _ => false
      if isNewer then note ("Current ".toList ++ "\x60".toList ++ name ++ "' is newer or same age".toList)
      else
        match ← clear path with
        | .error e => fault (told name "Cannot open" e)
        | .ok () =>
          match kind with
          | .softLink =>
            let (t, workDir) ← treeAndDir
            match t.makeLink workDir (pathText path) (Octets.toText m.target) with
            | .ok t =>
              setTree t
              restore s path m
            | .error e => fault (told name ("Cannot create symlink to '" ++ String.ofList m.target ++ "'") e)
          | .hardLink =>
            let target ← safeName s true m.target
            let cannot := "Cannot hard link to '" ++ String.ofList target ++ "'"
            match ← statLink? (fromDir dir target) with
            | .error e => fault (told name cannot e)
            | .ok (place, _) =>
              match ← giveName place path with
              | .ok () => pure ()
              | .error e => fault (told name cannot e)
          | .pipe =>
            let (n, w) := (← world).addStream {}
            modifyWorld fun _ => w
            let (t, workDir) ← treeAndDir
            match t.writable workDir (pathText path) with
            | .ok place =>
              setTree (t.put place (.device (.pipe n)))
              restore s path m
            | .error e => fault (told name "Cannot mkfifo" e)
          | .file => extractFile s path name m
          | _ => fault (told name "Cannot mknod" .notPermitted)

def extract (s : Settings) (m : Stored) (dir : Octets) : ArchiveM Unit := do
  match stripSteps s.steps m.name with
  | none => return
  | some name =>
    if s.steps ≠ 0 ∧ bare name = ['/'] then return
    let name ← safeName s false (transformed s name)
    tell s s.toOutput s.tells m m.name
    if s.toOutput then
      if m.kind = .file then emit m.contents
    else extractAt s dir (fromDir dir name) name m

/-- Give directories what is known of them, after everything in them has been made. -/
def finishDirs (s : Settings) : ArchiveM Unit := do
  for (path, m) in (← get).delayed do restore s path m

/-! ## Comparing -/

def compareMember (s : Settings) (m : Stored) (dir : Octets) : ArchiveM Unit := do
  tell s false s.tells m m.name
  let path := fromDir dir (bare m.name)
  let differs (what : String) : ArchiveM Unit := do
    emitLine (bare m.name ++ ": ".toList ++ what.toList)
    modify fun p => { p with code := max p.code 1 }
  match ← status? false path with
  | .error e =>
    note (bare m.name ++ ": Warning: Cannot stat: ".toList ++ e.wording.toList)
    modify fun p => { p with code := max p.code 1 }
  | .ok f =>
    let now := memberOf s f
    let isFile := m.kind = .file ∨ m.kind = .hardLink
    if now.kind ≠ m.kind ∧ !(isFile ∧ now.kind = .file) then differs "File type differs"
    else
      if m.kind ≠ .softLink ∧ now.mode ≠ m.mode then differs "Mode differs"
      if now.owner ≠ m.owner then differs "Uid differs"
      if now.group ≠ m.group then differs "Gid differs"
      if m.kind = .file then
        if now.time ≠ m.time then differs "Mod time differs"
        if f.size ≠ m.size then differs "Size differs"
        else
          match ← readOperand path with
          | .ok o => if o ≠ m.contents then differs "Contents differ"
          | .error _ => pure ()
      if m.kind = .softLink ∧ now.target ≠ m.target then differs "Symlink differs"

/-! ## Options -/

def archiveForms : List OptionForm :=
  forms [('t', "list"), ('x', "extract"), ('x', "get"), ('c', "create"), ('r', "append"), ('u', "update"),
    ('A', "concatenate"), ('A', "catenate"), ('d', "diff"), ('d', "compare"), ('\x01', "delete"), ('v', "verbose"),
    ('z', "gzip"), ('z', "gunzip"), ('z', "ungzip"), ('j', "bzip2"), ('J', "xz"), ('Z', "compress"),
    ('Z', "uncompress"), ('a', "auto-compress"), ('\x0e', "no-auto-compress"), ('\x0f', "lzma"), ('\x11', "zstd"),
    ('\x12', "lzip"), ('O', "to-stdout"), ('k', "keep-old-files"), ('\x06', "skip-old-files"),
    ('\x13', "keep-newer-files"), ('\x07', "overwrite"), ('U', "unlink-first"), ('\x07', "recursive-unlink"),
    ('\x08', "no-recursion"), ('\x0b', "recursion"), ('\x0c', "numeric-owner"), ('\x15', "remove-files"),
    ('h', "dereference"), ('P', "absolute-names"), ('p', "same-permissions"), ('p', "preserve-permissions"),
    ('\x16', "no-same-permissions"), ('\x17', "same-owner"), ('o', "no-same-owner"), ('s', "same-order"),
    ('s', "preserve-order"), ('m', "touch"), ('\x18', "wildcards"), ('\x19', "no-wildcards"), ('\x1a', "anchored"),
    ('\x1b', "no-anchored"), ('\x1c', "ignore-case"), ('i', "ignore-zeros"), ('R', "block-number"), ('W', "verify"),
    ('\x1d', "show-transformed-names"), ('\x1d', "show-stored-names"), ('\x1d', "show-omitted-dirs"),
    ('\x1d', "exclude-vcs"), ('\x1d', "exclude-backups"), ('\x1d', "exclude-caches"), ('\x1d', "one-file-system"),
    ('l', "check-links"), ('\x1e', "posix"), ('\x1f', "old-archive"), ('\x1f', "portability"), ('\x1d', "utc"),
    ('\x7f', "full-time"), ('\x1d', "no-check-device"), ('S', "sparse"), ('w', "interactive"),
    ('w', "confirmation"), ('\x1d', "null"), ('\x1d', "verbatim-files-from"), ('\x1d', "wildcards-match-slash"),
    ('\x1d', "overwrite-dir"), ('\x1d', "no-overwrite-dir"), ('\x1d', "keep-directory-symlink"),
    ('\x1d', "delay-directory-restore"), ('\x1d', "hard-dereference"), ('\x1d', "force-local"),
    ('\x1d', "no-verbatim-files-from"), ('\x1d', "no-null"), ('\x1d', "ignore-failed-read"), ('\x1d', "seek"),
    ('n', ""), ('B', "read-full-records"), ('M', "multi-volume"), ('G', "incremental"), ('\x14', "version")]
    [('f', "file"), ('C', "directory"), ('T', "files-from"), ('\x03', "exclude"), ('X', "exclude-from"),
    ('I', "use-compress-program"), ('\x04', "strip-components"), ('\x05', "transform"), ('\x05', "xform"),
    ('H', "format"), ('\x21', "owner"), ('\x22', "group"), ('\x23', "mtime"), ('\x24', "mode"), ('\x25', "sort"),
    ('b', "blocking-factor"), ('\x26', "record-size"), ('N', "newer"), ('N', "after-date"), ('N', "newer-mtime"),
    ('K', "starting-file"), ('V', "label"), ('F', "info-script"), ('L', "tape-length"), ('g', "listed-incremental"),
    ('\x27', "warning"), ('\x27', "quoting-style"), ('\x27', "suffix"), ('\x27', "index-file"), ('\x28', "add-file"),
    ('\x27', "volno-file")] ++
    [⟨'\x29', "totals", .maybe⟩, ⟨'\x27', "checkpoint", .maybe⟩, ⟨'\x27', "occurrence", .maybe⟩,
      ⟨'\x27', "backup", .maybe⟩, ⟨'\x27', "one-top-level", .maybe⟩]

/-- Letters without a dash in front, of which some take the arguments that follow. -/
def spreadLetters : List Char → (args : List Octets) → ShellM (List Octets)
  | [], args => return args
  | c :: cs, args => do
    let takes := archiveForms.any fun f => f.letter == c && f.takes == .value
    match takes, args with
    | true, [] => misused ("Old option '" ++ String.ofList [c] ++ "' requires an argument.")
    | true, v :: rest => return ['-', c] :: v :: (← spreadLetters cs rest)
    | false, args => return ['-', c] :: (← spreadLetters cs args)

def taskOf (g : Given) : ShellM ArchiveTask := do
  let tasks := [('c', ArchiveTask.create), ('t', .list), ('x', .extract), ('r', .append), ('u', .update), ('A', .join),
    ('d', .compare), ('\x01', .delete)]
  match Text.distinct ((g.options.filterMap fun o => (tasks.lookup o.1).map fun _ => [o.1])) with
  | [] => misused "You must specify one of the '-Acdtrux', '--delete' or '--test-label' options"
  | [[c]] => return (tasks.lookup c).getD .list
  | _ => misused "You may not specify more than one '-Acdtrux', '--delete' or  '--test-label' option"

/-- An account or a group: a name, a number, or both with a colon between them. -/
def accountGiven (table : List (Text × Nat)) (o : Octets) : Nat × Octets :=
  match Text.cut ':' o with
  | (name, some n) => (digitsValue n, name)
  | (name, none) =>
    if isNumber name then (digitsValue name, nameIn table (digitsValue name))
    else ((numberIn? table name).getD 0, name)

/-- The program that an ending of a name asks for. -/
def programFor (name : Octets) : Option Octets :=
  ([(".gz", "gzip"), (".tgz", "gzip"), (".taz", "gzip"), (".bz2", "bzip2"), (".tbz", "bzip2"), (".tbz2", "bzip2"),
    (".tz2", "bzip2"), (".xz", "xz"), (".txz", "xz"), (".Z", "compress"), (".taZ", "compress"), (".lzma", "lzma"),
    (".tlz", "lzma"), (".zst", "zstd"), (".tzst", "zstd"), (".lz", "lzip")].find? fun ((e, _) : String × String) =>
      e.toList.isSuffixOf name).map fun (_, p) => p.toList

/-- The lines of a file that lists names or patterns. -/
def listedNames (complaint : OsError → Octets) (path : Octets) : ShellM (List Octets) := do
  match ← readOperand path with
  | .ok o => return (linesOf o).1.filter (· ≠ [])
  | .error e => fatal (complaint e)

def settingsOf (g : Given) (task : ArchiveTask) : ShellM Settings := do
  let archive := (g.value? 'f').getD (((← shell).value? "TAPE".toList).getD ['-'])
  let program : Option Octets :=
    match g.last? "zjJZ\x0f\x11\x12I" with
    | some 'z' => some "gzip".toList
    | some 'j' => some "bzip2".toList
    | some 'J' => some "xz".toList
    | some 'Z' => some "compress".toList
    | some '\x0f' => some "lzma".toList
    | some '\x11' => some "zstd".toList
    | some '\x12' => some "lzip".toList
    | some _ => g.value? 'I'
    | none => if g.has 'a' ∧ task = .create then programFor archive else none
  let compresses := program == some "gzip".toList
  let files ← g.options.filterMapM fun (c, v) => do
    if c = 'X' then return some (← listedNames (reason v) v) else return none
  let excluded := g.options.filterMap (fun (c, v) => if c = '\x03' then some v else none) ++ files.flatten
  let substitutions ← g.options.filterMapM fun (c, v) => do
    if c ≠ '\x05' then return none
    else match Edit.script false true v with
      | .ok cs =>
        return cs.toList.findSome? fun (c : Edit.Command) => match c.action with
          | .substitute u => some u
          | _ => none
      | .error _ => fatal "Invalid transform expression".toList
  let now := (← world).now
  let time ← match g.value? '\x23' with
    | none => pure none
    | some t =>
      match dateOf? now t with
      | some t => pure (some t)
      | none =>
        match ← status? true t with
        | .ok f => pure (some f.time)
        | .error _ => fatal ("Date format not recognized ".toList)
  let steps ← match g.value? '\x04' with
    | none => pure 0
    | some t =>
      if isNumber t then pure (digitsValue t)
      else
        note (t ++ ": Invalid number of elements".toList)
        pointToHelp
        exit 2
  let form ← match g.last? "H\x1e\x1f", (g.value? 'H').map String.ofList with
    | some '\x1e', _ => pure ArchiveForm.parted
    | some '\x1f', _ => pure .plain
    | _, some "gnu" => pure .long
    | _, some "oldgnu" => pure .long
    | _, some "ustar" => pure .parted
    | _, some "pax" => pure .parted
    | _, some "posix" => pure .parted
    | _, some "v7" => pure .plain
    | _, some other =>
      note (other.toList ++ ": Invalid archive format".toList)
      pointToHelp
      exit 2
    | _, none => pure .long
  return {
    task, archive, tells := (g.options.filter (·.1 == 'v')).length + if task = .list then 1 else 0, compresses
    compressor := if compresses then none else program, excluded, isAnchored := g.last? "\x1a\x1b" = some '\x1a'
    steps, substitutions, toOutput := g.has 'O'
    existing := match g.last? "k\x06\x07\x13U" with
      | some 'k' => .kept
      | some '\x06' => .passed
      | some '\x13' => .newer
      | _ => .replaced
    recursive := g.last? "\x08\x0b" ≠ some '\x08', follows := g.has 'h', keepsRoot := g.has 'P'
    numeric := g.has '\x0c', keepsMode := g.last? "p\x16" ≠ some '\x16', keepsTime := !g.has 'm'
    keepsOwner := g.last? "\x17o" ≠ some 'o', wildcards := g.last? "\x18\x19" = some '\x18'
    ignoresZeros := g.has 'i', removes := g.has '\x15', sortsByName := g.value? '\x25' == some "name".toList
    totals := g.has '\x29', fullTime := g.has '\x7f', form
    recordBlocks := match g.value? 'b' with
      | some t => max 1 (digitsValue t)
      | none => 20
    owner := (g.value? '\x21').map (accountGiven Host.accountNumbers)
    group := (g.value? '\x22').map (accountGiven Host.groupNumbers)
    mode := g.value? '\x24', time
    newerThan := (g.value? 'N').bind fun t => dateOf? now t }

/-- Operands, each with the directory that it is meant from. -/
def operandsOf (g : Given) : ShellM (List (Octets × Octets)) := do
  let dirAt (count : Nat) : Octets := (g.options.take count).foldl (fun dir (c, v) =>
    if c ≠ 'C' then dir else if dir = [] ∨ v.head? = some '/' then v else below dir v) []
  let listed ← (g.options.zipIdx).filterMapM fun ((c, v), i) => do
    if c = 'T' then return some ((← listedNames (told v "Cannot stat") v).map fun o => (dirAt i, o))
    else if c = '\x28' then return some [(dirAt i, v)]
    else return none
  return (g.operands.zip g.places).map (fun (o, n) => (dirAt n, o)) ++ listed.flatten

/-! ## The utility -/

def checkDirs (g : Given) : ShellM Unit := do
  let mut dir : Octets := []
  for (c, v) in g.options do
    if c = 'C' then
      dir := fromDir dir v
      match ← stat? dir with
      | .ok (_, .dir) => pure ()
      | .ok _ => fatal (told v "Cannot open" .notDirectory)
      | .error e => fatal (told v "Cannot open" e)

def finishCode : ArchiveM Nat := do
  flush
  let code := (← get).code
  if code = 2 then note "Exiting with failure status due to previous errors".toList
  return code

/-- Put files into an archive behind what is in it already. -/
def create (s : Settings) (operands : List (Octets × Octets)) (before : List Stored) (n : Nat) : ArchiveM Unit := do
  let aside := s.archive == ['-']
  match (← world).opened[n]? with
  | some { target := .file place, .. } =>
    let w ← world
    match w.tree.entry? place with
    | some e => modify fun p => { p with node := some (w.statusOf place e).node }
    | none => pure ()
  | _ => pure ()
  for (dir, name) in operands do
    if !isExcluded s (bare name) then
      let known := if s.task = .update then before.filter fun m => bare m.name = bare name else []
      let time ← status? false (fromDir dir name)
      let isOld := match time with
        | .ok f => known.any fun m => f.time / 1000000 ≤ (m.time : Int)
        | .error _ => false
      if !isOld then dump s aside maxDepth true (fromDir dir name) (bare name)
  let p ← get
  let all := p.parts.reverse.flatten
  let all := all ++ closing s.recordBlocks p.length
  writeArchive s n all
  if s.totals then
    flush
    say 2 ("Total bytes written: ".toList ++ Text.ofNat all.length ++ " (".toList ++ shortSize 1024 all.length ++
      "iB, 10MiB/s)\n".toList)

def run (g : Given) (s : Settings) (operands : List (Octets × Octets)) (dir : Octets) : ArchiveM Nat := do
  let wholeArchive : ShellM (List Stored × Bool) := do
    match ← stat? s.archive with
    | .error _ => return ([], false)
    | .ok _ =>
      let (o, _) ← readArchive { s with compresses := false }
      return ((findAll s.ignoresZeros o).filterMap fun f => match f with
        | .member m _ => some m
        | _ => none, true)
  let withDir (use : Stored → (dir : Octets) → ArchiveM Unit) (m : Stored) (own : Octets) : ArchiveM Unit :=
    use m (if operands = [] then dir else own)
  match s.task with
  | .create =>
    let n ← openArchive s .writes
    create s operands [] n
  | .list =>
    let (o, finish) ← readArchive s
    eachMember s operands (findAll s.ignoresZeros o) fun m _ => do
      let _ ← safeName s false m.name
      if m.kind = .hardLink then let _ ← safeName s true m.target
      tell s false s.tells m (transformed s m.name)
    finish
  | .extract =>
    let (o, finish) ← readArchive s
    checkDirs g
    eachMember s operands (findAll s.ignoresZeros o) (withDir (extract s))
    finishDirs s
    finish
  | .compare =>
    let (o, finish) ← readArchive s
    checkDirs g
    eachMember s operands (findAll s.ignoresZeros o) (withDir (compareMember s))
    finish
  | .join =>
    let (before, _) ← wholeArchive
    for m in before do put s m
    for (dir, name) in operands do
      let (o, _) ← readArchive { s with archive := fromDir dir name }
      for f in findAll s.ignoresZeros o do
        match f with
        | .member m _ => put s m
        | _ => pure ()
    let n ← openArchive s .writes
    create s [] before n
  | .delete =>
    let (before, _) ← wholeArchive
    for m in before do
      match chosenBy s operands m.name with
      | some (_, o) => modify fun p => { p with used := o :: p.used }
      | none => put s m
    reportMissing s operands
    let n ← openArchive s .writes
    create s [] before n
  | _ =>
    if s.compresses ∨ s.compressor.isSome then misused "Cannot update compressed archives"
    let (before, _) ← wholeArchive
    for m in before do put s m
    let n ← openArchive s .both
    create s operands before n
  finishCode

def tar : Utility := fun _ args => do
  modifyShell fun p => { p with name := "tar".toList }
  let args ← match args with
    | first :: rest => if first.head? ≠ some '-' ∧ first ≠ [] then spreadLetters first rest else pure args
    | [] => pure args
  let g ← readGiven archiveForms 64 true args
  if g.has '\x14' then
    emitLine "tar (GNU tar) 1.34".toList
    return 0
  else
    let task ← taskOf g
    let s ← settingsOf g task
    let operands ← operandsOf g
    if task = .create ∧ operands = [] ∧ !g.has 'T' then misused "Cowardly refusing to create an empty archive"
    let dir := g.options.foldl (fun dir (c, v) => if c ≠ 'C' then dir else fromDir dir v) []
    let (code, _) ← (run g s operands dir).run {}
    return code

end Archiving

end KarelBuild.Shell.Utility
