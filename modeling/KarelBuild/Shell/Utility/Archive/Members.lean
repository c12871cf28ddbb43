import KarelBuild.Text.Utf8

/-!
# Members of archives

An archive is a sequence of blocks of 512 bytes. Each member begins with a block that tells what it is, in numbers of
octal digits and names that are filled up with zeros, and goes on with its contents. A name that is too long stands in
a member of its own in front of it. Two blocks of zeros end an archive.
-/

namespace KarelBuild.Shell.Utility.Archive

inductive StoredKind where
  | file
  | hardLink
  | softLink
  | characters
  | blocks
  | dir
  | pipe
  deriving DecidableEq, Repr

def StoredKind.mark : StoredKind → Char
  | .file => '0'
  | .hardLink => '1'
  | .softLink => '2'
  | .characters => '3'
  | .blocks => '4'
  | .dir => '5'
  | .pipe => '6'

/-- The letter that a kind is listed with. -/
def StoredKind.letter : StoredKind → Char
  | .file => '-'
  | .hardLink => 'h'
  | .softLink => 'l'
  | .characters => 'c'
  | .blocks => 'b'
  | .dir => 'd'
  | .pipe => 'p'

structure Stored where
  name : Octets
  kind : StoredKind := .file
  mode : Nat := 0o644
  owner : Nat := 0
  group : Nat := 0
  ownerName : Octets := []
  groupName : Octets := []
  /-- When it was changed, in seconds. -/
  time : Nat := 0
  target : Octets := []
  size : Nat := 0
  contents : Octets := []
  deriving Repr

/-- How members are written: with names that are told in members of their own, or parted. -/
inductive ArchiveForm where
  | long
  | parted
  | plain
  deriving DecidableEq, Repr

def blockSize : Nat := 512

/-! ## Writing -/

def zeros (n : Nat) : Octets := List.replicate n '\x00'

/-- A text in a field of some width. -/
def field (width : Nat) (o : Octets) : Octets :=
  let o := o.take width
  o ++ zeros (width - o.length)

/-- A number in octal digits, behind which a zero stands. -/
def octalField (width n : Nat) : Octets :=
  let ds := Nat.toDigits 8 n
  List.replicate (width - 1 - ds.length) '0' ++ ds ++ ['\x00']

/-- Text filled up to whole blocks. -/
def padded (o : Octets) : Octets := o ++ zeros ((blockSize - o.length % blockSize) % blockSize)

/-- The sum of the bytes of a block. -/
def byteSum (o : Octets) : Nat := o.foldl (fun n c => n + c.toNat) 0

/-- Where a name can be parted: in front of a slash, so that both parts fit. -/
def partedName (name : Octets) : Octets × Octets :=
  if name.length ≤ 100 then ([], name)
  else
    match (List.range (min 156 name.length)).reverse.find? fun i =>
        name.getD i ' ' = '/' && i != 0 && name.length - i - 1 ≤ 100 && i + 1 != name.length with
    | some i => (name.take i, name.drop (i + 1))
    | none => ([], name)

/-- The block that a member begins with. -/
def headerBlock (f : ArchiveForm) (mark : Char) (m : Stored) : Octets :=
  let (lead, name) := if f = .parted then partedName m.name else ([], m.name)
  let signature := match f with
    | .long => "ustar  \x00".toList
    | .parted => "ustar\x0000".toList
    | .plain => zeros 8
  let names := if f = .plain then zeros 64 else field 32 m.ownerName ++ field 32 m.groupName
  let devices := if f = .parted ∧ (m.kind = .characters ∨ m.kind = .blocks) then octalField 8 0 ++ octalField 8 0
    else zeros 16
  let front := field 100 name ++ octalField 8 m.mode ++ octalField 8 m.owner ++ octalField 8 m.group ++
    octalField 12 m.size ++ octalField 12 m.time
  let back := mark :: field 100 m.target ++ signature ++ names ++ devices ++ field 155 lead ++ zeros 12
  let sum := byteSum front + 8 * 32 + byteSum back
  front ++ octalField 7 sum ++ [' '] ++ back

/-- A member that tells a long name. -/
def longName (mark : Char) (name : Octets) : Octets :=
  let text := name ++ ['\x00']
  let m : Stored := {
    name := "././@LongLink".toList, size := text.length, ownerName := "root".toList, groupName := "root".toList }
  headerBlock .long mark m ++ padded text

def Stored.write (f : ArchiveForm) (m : Stored) : Octets :=
  let told := if f = .long then
      (if 100 < m.target.length then longName 'K' m.target else []) ++
        if 100 < m.name.length then longName 'L' m.name else []
    else []
  let mark := if f = .plain ∧ m.kind = .file then '\x00' else m.kind.mark
  told ++ headerBlock f mark m ++ padded m.contents

/-- What an archive ends with, so that it has a whole number of records. -/
def closing (recordBlocks length : Nat) : Octets :=
  let record := recordBlocks * blockSize
  let size := length + 2 * blockSize
  zeros (2 * blockSize + (record - size % record) % record)

/-! ## Reading -/

/-- What is found in an archive, in order. -/
inductive Finding where
  /-- A member; its contents may be cut off. -/
  | member (m : Stored) (isCut : Bool)
  /-- What should be a member is none. -/
  | foreign
  | skipped
  | loneZero (block : Nat)

def text (o : Octets) : Octets := o.takeWhile (· != '\x00')

def slice (o : Octets) (start size : Nat) : Octets := (o.drop start).take size

/-- A number of octal digits; the highest bit of its first byte says that it is one of bytes. -/
def number? (o : Octets) : Option Nat :=
  match o with
  | c :: rest =>
    if 0x80 ≤ c.toNat then some (rest.foldl (fun n c => 256 * n + c.toNat) (c.toNat % 64))
    else
      let ds := (o.dropWhile (· == ' ')).takeWhile fun c => c != '\x00' && c != ' '
      if ds.all fun c => '0' ≤ c && c ≤ '7' then some (ds.foldl (fun n c => 8 * n + (c.toNat - 48)) 0) else none
  | [] => none

/-- What a block tells, with the mark of its kind, if its sum is right. -/
def member? (b : Octets) : Option (Char × Stored) := do
  let sum ← number? (slice b 148 8)
  if sum ≠ byteSum b + 8 * 32 - byteSum (slice b 148 8) then none
  else
    let lead := if slice b 257 6 = "ustar\x00".toList then text (slice b 345 155) else []
    let name := text (slice b 0 100)
    let name := if lead = [] then name else lead ++ '/' :: name
    let mark := b.getD 156 '0'
    let kind := match mark with
      | '1' => StoredKind.hardLink
      | '2' => .softLink
      | '3' => .characters
      | '4' => .blocks
      | '5' => .dir
      | '6' => .pipe
      | _ => if name.getLast? = some '/' then .dir else .file
    let mode := (← number? (slice b 100 8)) &&& 0o7777
    return (mark, {
      name, kind, mode, owner := (← number? (slice b 108 8)), group := (← number? (slice b 116 8))
      size := (← number? (slice b 124 12)), time := (← number? (slice b 136 12))
      target := text (slice b 157 100), ownerName := text (slice b 265 32), groupName := text (slice b 297 32) })

/-- Records of the form `length key=value`. -/
def keyValues : (fuel : Nat) → Octets → List (Octets × Octets)
  | 0, _ => []
  | n + 1, o =>
    let ds := o.takeWhile Char.isDigit
    let length := ds.foldl (fun n c => 10 * n + (c.toNat - 48)) 0
    if ds = [] ∨ length = 0 then []
    else
      let record := (o.take (length - 1)).drop (ds.length + 1)
      let key := record.takeWhile (· != '=')
      (key, record.drop (key.length + 1)) :: keyValues n (o.drop length)

/-- What has been told in front of the next member. -/
structure Told where
  name : Option Octets := none
  target : Option Octets := none
  owner : Option Octets := none
  group : Option Octets := none
  time : Option Nat := none

def Told.ofRecords (records : List (Octets × Octets)) : Told :=
  let value (key : String) : Option Octets := records.lookup key.toList
  { name := value "path", target := value "linkpath", owner := value "uname", group := value "gname"
    time := (value "mtime").map fun t =>
      (t.takeWhile Char.isDigit).foldl (fun n c => 10 * n + (c.toNat - 48)) 0 }

def Told.apply (t : Told) (m : Stored) : Stored :=
  { m with
    name := t.name.getD m.name, target := t.target.getD m.target, ownerName := t.owner.getD m.ownerName
    groupName := t.group.getD m.groupName, time := t.time.getD m.time }

/-- How reading has gone on so far. -/
inductive Course where
  | unread
  | going
  | lost
  deriving DecidableEq, Repr

/-- Everything in an archive. What was found last comes first. -/
def findFrom (ignoresZeros : Bool) : (fuel : Nat) → Course → (block : Nat) → Told → Octets → List Finding →
    List Finding
  | 0, _, _, _, _, back => back
  | fuel + 1, course, block, told, o, back =>
    let head := o.take blockSize
    let rest := o.drop blockSize
    if head.length < blockSize then if course = .unread then .foreign :: back else back
    else if head.all (· == '\x00') then
      if ignoresZeros then findFrom ignoresZeros fuel course (block + 1) told rest back
      else
        let next := rest.take blockSize
        if next.length = blockSize ∧ next.all (· == '\x00') then back else .loneZero (block + 1) :: back
    else match member? head with
      | none =>
        let back := match course with
          | .unread => .skipped :: .foreign :: back
          | .going => .skipped :: back
          | .lost => back
        findFrom ignoresZeros fuel .lost (block + 1) {} rest back
      | some (mark, m) =>
        let hasContents := m.kind = .file ∨ "LKxg".toList.contains mark
        let blocks := if hasContents then (m.size + blockSize - 1) / blockSize else 0
        let whole := rest.take (blocks * blockSize)
        let contents := whole.take m.size
        let isCut := whole.length / blockSize < blocks
        let after := rest.drop (blocks * blockSize)
        let block := block + 1 + blocks
        if mark = 'L' then findFrom ignoresZeros fuel .going block { told with name := some (text contents) } after back
        else if mark = 'K' then
          findFrom ignoresZeros fuel .going block { told with target := some (text contents) } after back
        else if mark = 'x' then
          findFrom ignoresZeros fuel .going block (.ofRecords (keyValues (contents.length + 1) contents)) after back
        else if mark = 'g' then findFrom ignoresZeros fuel .going block told after back
        else
          let size := if m.kind = .file then m.size else 0
          let contents := contents.take (whole.length / blockSize * blockSize)
          let found := Finding.member { told.apply m with contents, size } isCut
          if isCut then found :: back else findFrom ignoresZeros fuel .going block {} after (found :: back)

def findAll (ignoresZeros : Bool) (o : Octets) : List Finding :=
  (findFrom ignoresZeros (o.length / blockSize + 2) .unread 0 {} o []).reverse

/-! ## Names -/

/-- What stands in front of a name that leads out of the directory: everything up to the last step upwards, and
slashes. -/
def unsafePrefix (name : Octets) : Octets :=
  let rec go : (fuel : Nat) → (front : Nat) → (place : Nat) → Octets → Nat
    | 0, front, _, _ => front
    | _, front, _, [] => front
    | n + 1, front, place, o =>
      let step := o.takeWhile (· != '/')
      let front := if step = "..".toList then place + 2 else front
      go n front (place + step.length + 1) (o.drop (step.length + 1))
  let front := go (name.length + 1) 0 0 name
  let slashes := (name.drop front).takeWhile (· == '/')
  name.take (front + slashes.length)

/-- A name without its first steps; `none` if it has no more. -/
def stripSteps : (count : Nat) → Octets → Option Octets
  | 0, o => if o = [] then none else some o
  | n + 1, o =>
    let o := o.dropWhile (· == '/')
    let step := o.takeWhile (· != '/')
    match o.drop step.length with
    | [] => none
    | rest => stripSteps n (rest.dropWhile (· == '/'))

/-- A name without the slashes at its end. -/
def bare (o : Octets) : Octets :=
  let t := (o.reverse.dropWhile (· == '/')).reverse
  if t = [] ∧ o ≠ [] then ['/'] else t

/-- A name and all that lead to it, the shortest last. -/
def leadingNames (o : Octets) : List Octets :=
  bare o :: ((List.range o.length).reverse.filter fun i => o.getD i ' ' = '/' && i != 0).map o.take

/-- A name, and what follows each of its slashes. -/
def innerNames (o : Octets) : List Octets :=
  o :: ((List.range o.length).filter fun i => o.getD i ' ' = '/').map fun i => o.drop (i + 1)

end KarelBuild.Shell.Utility.Archive
