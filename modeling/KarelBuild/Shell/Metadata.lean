import KarelBuild.Shell.World

/-!
# What is known of files

Besides its contents an entry has permissions, the time of its last change and a number. A file can have
several names, which share all of that. What is new in a changed tree is made now, with the permissions that
the mask of the process leaves; of the others what is known stays.
-/

namespace KarelBuild.Shell

inductive Kind where
  | file
  | dir
  | link
  | characters
  | pipe
  deriving DecidableEq, Repr

/-- What can be found out about an entry, or about what a descriptor leads to. -/
structure Status where
  kind : Kind
  mode : Nat
  size : Nat
  time : Int
  node : Nat
  names : Nat
  target : Path := []
  owner : Nat := 0
  group : Nat := 0

namespace World

/-! ## Metadata -/

/-- The time of the clock in microseconds. -/
def startTime : Int := 1767225600000000

def now (w : World) : Int := startTime + w.clock

/-- Times of files go in steps. -/
def fileTime (w : World) : Int := w.now / 4000 * 4000

def runBits : Nat := 0o111

/-- The permissions that an entry has from the beginning, as far as a mask allows. -/
def usualMode (umask : Nat) : Entry → Nat
  | .dir => 0o777 &&& (0o777 ^^^ umask)
  | .link _ => 0o777
  | .file _ executable => (if executable then 0o777 else 0o666) &&& (0o777 ^^^ umask)
  | .device (.pipe _) => 0o666 &&& (0o777 ^^^ umask)
  | .device _ => 0o666

/-- The directories that only the system writes to. -/
def systemDirs : List Name :=
  ["bin", "boot", "dev", "etc", "home", "lib", "lib64", "media", "mnt", "opt", "proc", "root", "run", "sbin",
    "srv", "sys", "usr", "var"].map String.toList

def usualTime (place : Place) : Int :=
  if place.head?.any systemDirs.contains then startTime - 100000000000000 else startTime - 20000

/-- The permissions with the right to run as the entry has it. -/
def adjusted (e : Entry) (mode : Nat) : Nat :=
  match e with
  | .file _ executable =>
    if executable = (mode &&& runBits != 0) then mode
    else if executable then mode ||| ((mode >>> 2) &&& runBits)
    else mode &&& (0o7777 ^^^ runBits)
  | _ => mode

def metadataOf (w : World) (place : Place) (e : Entry) : Metadata :=
  match w.metadata.lookup place with
  | some m => { m with mode := adjusted e m.mode }
  | none =>
    { mode := if place = ["tmp".toList] then 0o1777 else usualMode 0o022 e, time := usualTime place
      node := (w.tree.entries.findIdx (·.1 == place)) + 0x1000 }

/-- The names of a file. -/
def namesOf (w : World) (place : Place) : List Place :=
  ((w.linked.find? (·.contains place)).map (·.filter fun p => (w.tree.entry? p).isSome)).getD [place]

def setMetadata (w : World) (place : Place) (m : Metadata) : World :=
  let names := w.namesOf place
  { w with metadata := names.map (·, m) ++ w.metadata.filter fun (p, _) => !names.contains p }

def modifyMetadata (w : World) (place : Place) (f : Metadata → Metadata) : World :=
  match w.tree.entry? place with
  | some e => w.setMetadata place (f (w.metadataOf place e))
  | none => w

/-- Note that an entry has been changed now. -/
def touched (w : World) (place : Place) : World :=
  let time := w.fileTime
  w.modifyMetadata place fun m => { m with time }

/-- What has come and what has gone between two lists of entries, of which each keeps its order. -/
def changes : List (Place × Entry) → List (Place × Entry) → List (Place × Entry) × List Place
  | [], new => (new, [])
  | old, [] => ([], old.map (·.1))
  | (p, _) :: old, (q, e) :: new =>
    if p = q then changes old new
    else
      let (come, gone) := changes old ((q, e) :: new)
      (come, p :: gone)

/-- Note the metadata of an entry that is new. -/
def addEntry (umask : Nat) (w : World) (place : Place) (e : Entry) : World :=
  let m : Metadata := { mode := usualMode umask e, time := w.fileTime, node := w.nodes }
  { w with
    nodes := w.nodes + 1
    metadata := (place, m) :: w.metadata.filter fun (p, _) => p != place
    linked := w.linked.map fun names => names.filter (· != place) }

/-- Give all names of a file that was changed under one of them the new contents. -/
def shareContents (before : FileTree) (w : World) : World :=
  w.linked.foldl (fun w names =>
    match names.find? fun p => (w.tree.entry? p).any fun e => before.entry? p != some e with
    | some p =>
      match w.tree.entry? p with
      | some e =>
        names.foldl (fun w q =>
          if (w.tree.entry? q).isSome then { w with tree := w.tree.put q e } else w) w
      | none => w
    | none => w) w

/-- Take over a changed tree. What is new is made now, with the permissions that a mask allows. -/
def withTree (umask : Nat) (w : World) (t : FileTree) : World :=
  let (come, gone) := changes w.tree.entries t.entries
  let before := w.tree
  let w : World := come.foldl (fun w (p, e) => addEntry umask w p e) { w with tree := t }
  let w : World := (come.map (·.1) ++ gone).foldl (fun w p => if p.length > 1 then w.touched p.dropLast else w) w
  if w.linked = [] then w else shareContents before w

/-! ## Writing -/

/-- A file that is written to can no longer be run in the name of its owner. -/
def unprivileged (mode : Nat) : Nat :=
  let mode := mode &&& 0o3777
  if mode &&& 0o010 = 0 then mode else mode &&& 0o5777

/-- Give a file, under all its names, other contents. -/
def putFile (w : World) (place : Place) (e : Entry) : World :=
  let names := if w.linked = [] then [place] else w.namesOf place
  let time := w.fileTime
  let w := { w with tree := names.foldl (fun t p => t.put p e) w.tree }
  w.modifyMetadata place fun m => { m with time, mode := unprivileged m.mode }

def writeAt (w : World) (target : Target) (offset : Nat) (o : Octets) : World :=
  match target with
  | .nameless n =>
    w.modifyStream n fun s =>
      if offset = s.size then s.push o
      else
        let t := overwrite s.text offset o
        { s with chunks := [t], size := t.length }
  | .file place =>
    match w.tree.entry? place with
    | some (.file contents executable) =>
      let t :=
        if offset = contents.length then contents ++ Octets.toBytes o
        else Octets.toBytes (overwrite (Octets.ofBytes contents) offset o)
      w.putFile place (.file t executable)
    | _ => w
  | _ => w

/-- Cut a file off at a size, or fill it up with zeros. -/
def resize (w : World) (target : Target) (size : Nat) : World :=
  match target with
  | .nameless n => w.modifyStream n fun s =>
    let t := s.text.take size ++ List.replicate (size - s.size) '\x00'
    { s with chunks := [t], size }
  | .file place =>
    match w.tree.entry? place with
    | some (.file b executable) =>
      w.putFile place (.file (b.take size ++ List.replicate (size - b.length) 0) executable)
    | _ => w
  | _ => w

def truncate (w : World) (target : Target) : World := w.resize target 0

/-! ## Changes of the tree -/

/-- Keep the contents of a file that loses its name for those who have it open. -/
def detach (w : World) (place : Place) : World :=
  if w.opened.any fun o => o.target = .file place then
    match w.tree.entry? place, (w.namesOf place).find? (· != place) with
    | some (.file _ _), some other =>
      { w with
        opened := w.opened.map fun o =>
          if o.target = .file place then { o with target := .file other } else o }
    | some (.file contents _), none =>
      let t := Octets.ofBytes contents
      let (n, w) := w.addStream { chunks := [t], size := t.length }
      { w with
        opened := w.opened.map fun o =>
          if o.target = .file place then { o with target := .nameless n } else o }
    | _, _ => w
  else w

/-- The place of what was below `from` after it was moved to `to`. -/
def moved (before after place : Place) : Place :=
  match before.isPrefixOf? place with
  | some rest => after ++ rest
  | none => place

/-- Follow an entry that gets another name. -/
def reattach (w : World) (before after : Place) : World :=
  { w with
    opened := w.opened.map fun o =>
      match o.target with
      | .file place => { o with target := .file (moved before after place) }
      | .dir place => { o with target := .dir (moved before after place) }
      | _ => o }

/-- Move an entry, and everything below it, to another place. -/
def rename (w : World) (before after : Place) : World :=
  let w := (w.detach after).reattach before after
  let entries := w.tree.entries.filter fun (p, _) => p != after
  let isBelow (p : Place) : Bool := before.isPrefixOf p
  let known := w.tree.entries.filterMap fun (p, e) =>
    if isBelow p then some (moved before after p, w.metadataOf p e) else none
  let w : World := { w with
    tree := ⟨entries.filter (fun (p, _) => !isBelow p) ++
      (entries.filter fun (p, _) => isBelow p).map fun (p, e) => (moved before after p, e)⟩
    metadata := known ++ w.metadata.filter fun (p, _) => !isBelow p && p != after
    linked := w.linked.map fun names => (names.filter (· != after)).map (moved before after) }
  (w.touched before.dropLast).touched after.dropLast

/-- Give a file another name. -/
def addName (w : World) (place other : Place) : World :=
  match w.tree.entry? place with
  | some e =>
    let m := w.metadataOf place e
    let names := other :: (w.namesOf place).filter (· != other)
    { w with
      tree := w.tree.put other e
      metadata := (place, m) :: (other, m) :: w.metadata.filter fun (p, _) => p != place && p != other
      linked := names :: w.linked.filter fun g => !g.contains place }
  | none => w

/-! ## Status -/

def kindOf : Entry → Kind
  | .file _ _ => .file
  | .dir => .dir
  | .link _ => .link
  | .device (.pipe _) => .pipe
  | .device _ => .characters

def statusOf (w : World) (place : Place) (e : Entry) : Status :=
  let m := w.metadataOf place e
  let status (size names : Nat) : Status := ⟨kindOf e, m.mode, size, m.time, m.node, names, [], m.owner, m.group⟩
  match e with
  | .file b _ => status b.length (if w.linked = [] then 1 else (w.namesOf place).length)
  | .dir => status 4096 (2 + ((w.tree.children place).filter (·.2.isDir)).length)
  | .link target => { status (Utf8.size target) 1 with target }
  | .device _ => status 0 1

/-- What a process finds under a descriptor. -/
def statusOfDescriptor? (w : World) (p : Process) (fd : Nat) : Option Status :=
  ((p.opened? fd).bind (w.opened[·]?)).bind fun o =>
    match o.target with
    | .stream n => some ⟨.pipe, 0o600, 0, w.now, 0x100 + n, 1, [], 0, 0⟩
    | .nameless n => some ⟨.file, 0o600, (w.stream n).size, w.now, 0x100 + n, 0, [], 0, 0⟩
    | .file place => (w.tree.entry? place).map (w.statusOf place)
    | .dir place => some (w.statusOf place .dir)
    | .device _ => some ⟨.characters, 0o666, 0, startTime, 5, 1, [], 0, 0⟩

end World

end KarelBuild.Shell
