import KarelBuild.Shell.Utility.Digests.Long
import KarelBuild.Shell.Utility.Digests.Short
import KarelBuild.Shell.Utility.Files

/-!
# Digests and checksums of files

A digest is shown in front of the name of its file, or behind it with the name of the method. Lines of both forms
can be read again, to check whether the files are still the same.
-/

namespace KarelBuild.Shell.Utility

open ShellM

namespace Checksums

/-- A way to make a digest: its name, and how many digits the digest has. -/
structure Method where
  name : String
  digits : Nat
  sum : Octets → Octets

def md5 : Method := ⟨"MD5", 32, Digests.md5⟩

def sha1 : Method := ⟨"SHA1", 40, Digests.sha1⟩

def sha224 : Method := ⟨"SHA224", 56, Digests.sha224⟩

def sha256 : Method := ⟨"SHA256", 64, Digests.sha256⟩

def sha384 : Method := ⟨"SHA384", 96, Digests.sha384⟩

def sha512 : Method := ⟨"SHA512", 128, Digests.sha512⟩

/-- With so many bits; the full number of them is not told. -/
def blake2b (bits : Nat) : Method :=
  ⟨if bits = 512 then "BLAKE2b" else "BLAKE2b-" ++ toString bits, bits / 4, Digests.blake2b (bits / 8)⟩

/-! ## Lines -/

/-- A name in which backslashes and ends of lines are written with a backslash. -/
def escapedName (name : Octets) : Octets := name.flatMap fun c =>
  if c = '\\' then ['\\', '\\'] else if c = '\n' then ['\\', 'n'] else if c = '\r' then ['\\', 'r'] else [c]

def needsEscape (name : Octets) : Bool := name.any fun c => c == '\\' || c == '\n' || c == '\r'

def plainName : Octets → Option Octets
  | [] => some []
  | '\\' :: 'n' :: r => (plainName r).map ('\n' :: ·)
  | '\\' :: 'r' :: r => (plainName r).map ('\r' :: ·)
  | '\\' :: '\\' :: r => (plainName r).map ('\\' :: ·)
  | '\\' :: _ => none
  | c :: r => (plainName r).map (c :: ·)

/-- How the line of a file looks. -/
structure Layout where
  tagged : Bool := false
  binary : Bool := false
  stop : Char := '\n'

def digestLine (m : Method) (l : Layout) (name sum : Octets) : Octets :=
  let isEscaped := l.stop == '\n' && needsEscape name
  let lead := if isEscaped then ['\\'] else []
  let name := if isEscaped then escapedName name else name
  if l.tagged then lead ++ m.name.toList ++ " (".toList ++ name ++ ") = ".toList ++ sum ++ [l.stop]
  else lead ++ sum ++ ' ' :: (if l.binary then '*' else ' ') :: name ++ [l.stop]

def isHex (c : Char) : Bool := c.isDigit || ('a' ≤ c && c ≤ 'f') || ('A' ≤ c && c ≤ 'F')

/-- The digits and the name behind them; one blank and a mark stand between them, or one blank alone. -/
def untaggedParts? (isLength : Nat → Bool) (t : Octets) : Option (Octets × Octets) :=
  let ds := t.takeWhile isHex
  if !isLength ds.length then none
  else match t.drop ds.length with
    | ' ' :: ' ' :: name => some (ds, name)
    | ' ' :: '*' :: name => some (ds, name)
    | ' ' :: name => some (ds, name)
    | _ => none

/-- The name between parentheses, and the digits behind them. -/
def taggedParts? (t : Octets) : Option (Octets × Octets) :=
  let back := t.reverse
  let ds := back.takeWhile isHex
  match (back.drop ds.length).dropWhile (· == ' ') with
  | '=' :: r =>
    match r.dropWhile (· == ' ') with
    | ')' :: name => some (ds.reverse, name.reverse)
    | _ => none
  | _ => none

/-- The method, the digits and the name that a line gives. -/
def lineParts? (methods : List Method) (tagOnly : Bool) (anyLength : Option (Nat → Method)) (line : Octets) :
    Option (Method × Octets × Octets) := do
  let t := line.dropWhile fun c => c == ' ' || c == '\t'
  let isEscaped := t.head? = some '\\'
  let t := if isEscaped then t.drop 1 else t
  let unescape (name : Octets) : Option Octets := if isEscaped then plainName name else some name
  let tagged := methods.findSome? fun m =>
    let lead := m.name.toList
    if lead.isPrefixOf t then
      let r := t.drop lead.length
      let (m, r) : Method × Octets := match anyLength, r with
        | some make, '-' :: r' =>
          let bits := r'.takeWhile Char.isDigit
          (make (digitsValue bits), r'.drop bits.length)
        | _, r => (m, r)
      match r.dropWhile (· == ' ') with
      | '(' :: r => some (m, r)
      | _ => none
    else none
  match tagged with
  | some (m, r) =>
    let (ds, name) ← taggedParts? r
    if ds.length ≠ m.digits then none else return (m, ds, ← unescape name)
  | none =>
    if tagOnly then none
    else
      let m ← methods.head?
      match anyLength with
      | some make =>
        let (ds, name) ← untaggedParts? (fun n => n % 2 = 0 && 2 ≤ n && n ≤ 128) t
        return (make (4 * ds.length), ds, ← unescape name)
      | none =>
        let (ds, name) ← untaggedParts? (· == m.digits) t
        return (m, ds, ← unescape name)

/-! ## Checking -/

/-- What is told while files are checked. -/
structure Telling where
  quiet : Bool
  status : Bool
  warns : Bool
  strict : Bool
  ignoresMissing : Bool

/-- How many lines could not be read, how many files could not, and how many have changed or stayed the same. -/
structure Tally where
  wrongLines : Nat := 0
  rightLines : Nat := 0
  unreadable : Nat := 0
  changed : Nat := 0
  same : Nat := 0

def warnOf (n : Nat) (one many : String) : ShellM Unit := do
  if n > 0 then grumble ("WARNING: ".toList ++ Text.ofNat n ++ (if n = 1 then one else many).toList)

/-- Check one line. -/
def checkLine (t : Telling) (source title : Octets) (read : Octets → Option (Method × Octets × Octets))
    (tally : Tally) (number : Nat) (line : Octets) : ShellM Tally := do
  let line := if line.getLast? = some '\r' then line.dropLast else line
  if line = [] ∨ line.head? = some '#' then return tally
  else match read line with
    | none =>
      if t.warns then
        grumble (source ++ ": ".toList ++ Text.ofNat number ++ ": improperly formatted ".toList ++ title ++
          " checksum line".toList)
      return { tally with wrongLines := tally.wrongLines + 1 }
    | some (m, ds, name) =>
      let tally := { tally with rightLines := tally.rightLines + 1 }
      let tell (result : String) : ShellM Unit := do
        let lead := if name.contains '\n' then '\\' :: escapedName name else name
        if !t.status then emitLine (lead ++ ": ".toList ++ result.toList)
      match ← readOperand name with
      | .error e =>
        if t.ignoresMissing && e == .noEntry then return tally
        else
          grumble (reason name e)
          tell "FAILED open or read"
          return { tally with unreadable := tally.unreadable + 1 }
      | .ok o =>
        if m.sum o = ds.map Char.toLower then
          if !t.quiet then tell "OK"
          return { tally with same := tally.same + 1 }
        else
          tell "FAILED"
          return { tally with changed := tally.changed + 1 }

/-- Check the files that are listed in another; tells whether all is well. -/
def checkList (t : Telling) (title : Octets) (read : Octets → Option (Method × Octets × Octets)) (list : Octets) :
    ShellM Bool := do
  let source := if list = ['-'] then quoted "standard input".toList else named list
  match ← readOperand list with
  | .error e =>
    grumble (source ++ ": ".toList ++ e.wording.toList)
    return false
  | .ok o =>
    let tally ← ((linesOf o).1.zipIdx).foldlM (fun tally (line, i) =>
      checkLine t source title read tally (i + 1) line) {}
    if tally.rightLines = 0 then
      grumble (source ++ ": no properly formatted checksum lines found".toList)
      return false
    else
      if !t.status then
        warnOf tally.wrongLines " line is improperly formatted" " lines are improperly formatted"
        warnOf tally.unreadable " listed file could not be read" " listed files could not be read"
        warnOf tally.changed " computed checksum did NOT match" " computed checksums did NOT match"
        if t.ignoresMissing ∧ tally.same = 0 then grumble (source ++ ": no file was verified".toList)
      return tally.same > 0 && tally.changed = 0 && tally.unreadable = 0 && (!t.strict || tally.wrongLines = 0)

/-! ## Options -/

def checkForms : List OptionForm :=
  forms [('c', "check"), ('z', "zero"), ('\x01', "tag"), ('\x02', "ignore-missing"), ('\x03', "quiet"),
    ('\x04', "status"), ('\x05', "strict"), ('w', "warn")] []

/-- Complain of options that are of no use, with or without a list to be checked. -/
def refuseUseless (g : Given) : ShellM Unit := do
  if g.has 'c' then
    if g.has 'z' then misuse 1 "the --zero option is not supported when verifying checksums".toList
    if g.has '\x01' then misuse 1 "the --tag option is meaningless when verifying checksums".toList
    if g.has 'b' || g.has 't' then
      misuse 1 "the --binary and --text options are meaningless when verifying checksums".toList
  else
    let last := g.last? "\x03\x04w"
    for (c, name) in [('\x02', "ignore-missing"), ('\x04', "status"), ('w', "warn"), ('\x03', "quiet"),
        ('\x05', "strict")] do
      if (g.has c && c != '\x03' && c != '\x04' && c != 'w') || last == some c then
        misuse 1 ("the --" ++ name ++ " option is meaningful only when verifying checksums").toList

def tellingGiven (g : Given) : Telling :=
  let last := g.last? "\x03\x04w"
  ⟨last == some '\x03', last == some '\x04', last == some 'w', g.has '\x05', g.has '\x02'⟩

/-- Complain, after all else, of an input that leads nowhere. -/
def closeInput (operands : List Octets) : ShellM Unit := do
  if ← lacksInput operands then grumble ("standard input: ".toList ++ OsError.badDescriptor.wording.toList)

/-- Show digests, or check them. -/
def run (g : Given) (m : Method) (l : Layout) (read : Octets → Option (Method × Octets × Octets)) (title : String) :
    ShellM Nat := do
  refuseUseless g
  if g.has 'c' then
    let names := if g.operands = [] then [['-']] else g.operands
    forEach names (checkList (tellingGiven g) title.toList read)
  else
    let code ← forOperands g.operands fun name o => emit (digestLine m l name (m.sum o))
    closeInput g.operands
    return code

def digestWith (m : Method) : Utility := fun _ args => do
  let g ← given (checkForms ++ forms [('b', "binary"), ('t', "text")] []) args
  if g.has '\x01' && g.last? "bt" == some 't' then
    misuse 1 "--tag does not support --text mode".toList
  let l : Layout :=
    { tagged := g.has '\x01', binary := g.last? "bt" == some 'b', stop := if g.has 'z' then '\x00' else '\n' }
  run g m l (lineParts? [m] false none) m.name

/-- The number of bits that is asked for. -/
def bitsGiven (g : Given) : ShellM Nat := do
  match g.value? 'l' with
  | none => return 512
  | some v =>
    if !isNumber v then stop 1 ("invalid length: ".toList ++ quoted v)
    else
      let n := digitsValue v
      if n > 512 then
        grumble ("invalid length: ".toList ++ quoted v)
        stop 1 "maximum digest length for 'BLAKE2b' is 512 bits".toList
      else if n % 8 ≠ 0 then
        grumble ("invalid length: ".toList ++ quoted v)
        stop 1 "length is not a multiple of 8".toList
      else return if n = 0 then 512 else n

def b2sum : Utility := fun _ args => do
  let g ← given (checkForms ++ forms [('b', "binary"), ('t', "text")] [('l', "length")]) args
  let bits ← bitsGiven g
  if g.has '\x01' && g.last? "bt" == some 't' then
    misuse 1 "--tag does not support --text mode".toList
  let l : Layout :=
    { tagged := g.has '\x01', binary := g.last? "bt" == some 'b', stop := if g.has 'z' then '\x00' else '\n' }
  run g (blake2b bits) l (lineParts? [blake2b 512] false (some blake2b)) "BLAKE2b"

/-! ## Checksums -/

/-- One step of the checksum by division, for a byte. -/
def crcStep (crc : UInt32) (byte : Nat) : UInt32 :=
  (List.range 8).foldl (fun crc _ =>
    if crc &&& 0x80000000 = 0 then crc <<< 1 else (crc <<< 1) ^^^ 0x04C11DB7)
    (crc ^^^ (UInt32.ofNat byte <<< 24))

/-- The bytes of a length, the lowest one first, without zeros at the end. -/
def lengthBytes : (steps : Nat) → Nat → List Nat
  | 0, _ => []
  | k + 1, n => if n = 0 then [] else n % 256 :: lengthBytes k (n / 256)

def crc (o : Octets) : Nat :=
  let body := o.foldl (fun crc c => crcStep crc c.toNat) 0
  (~~~((lengthBytes 8 o.length).foldl crcStep body)).toNat

/-- The sum of the bytes, turned by one place before each. -/
def turningSum (o : Octets) : Nat :=
  o.foldl (fun n c => (n / 2 + n % 2 * 0x8000 + c.toNat) % 0x10000) 0

/-- The sum of the bytes, whose higher half is added to the lower one. -/
def foldedSum (o : Octets) : Nat :=
  let s := o.foldl (fun n c => n + c.toNat) 0 % 0x100000000
  let r := s % 0x10000 + s / 0x10000
  r % 0x10000 + r / 0x10000

def blocks (size n : Nat) : Nat := (n + size - 1) / size

/-- The line of a checksum; without operands it has no name. -/
def crcLine (name : Option Octets) (o : Octets) : Octets :=
  Text.ofNat (crc o) ++ ' ' :: Text.ofNat o.length ++ name.elim [] (' ' :: ·)

def turningLine (name : Option Octets) (o : Octets) : Octets :=
  let n := Text.ofNat (turningSum o)
  List.replicate (5 - n.length) '0' ++ n ++ ' ' :: padLeft 5 (Text.ofNat (blocks 1024 o.length)) ++
    name.elim [] (' ' :: ·)

def foldedLine (name : Option Octets) (o : Octets) : Octets :=
  Text.ofNat (foldedSum o) ++ ' ' :: Text.ofNat (blocks 512 o.length) ++ name.elim [] (' ' :: ·)

/-- Show a checksum of each operand. -/
def showSums (line : Option Octets → Octets → Octets) (operands : List Octets) : ShellM Nat := do
  let code ← forOperands operands fun name o => emitLine (line (if operands = [] then none else some name) o)
  closeInput operands
  return code

def sum : Utility := fun _ args => do
  let g ← given (forms [('r', ""), ('s', "sysv")] []) args
  showSums (if g.last? "rs" == some 's' then foldedLine else turningLine) g.operands

/-- The methods by the names that options give them. -/
def methods : List (String × Method) :=
  [("md5", md5), ("sha1", sha1), ("sha224", sha224), ("sha256", sha256), ("sha384", sha384), ("sha512", sha512),
    ("blake2b", blake2b 512)]

def methodNames : List String :=
  ["bsd", "sysv", "crc", "md5", "sha1", "sha224", "sha256", "sha384", "sha512", "blake2b", "sm3"]

def cksum : Utility := fun _ args => do
  let g ← given (checkForms ++ forms [('\x06', "untagged"), ('\x07', "debug"), ('b', "binary"), ('t', "text")]
    [('a', "algorithm"), ('l', "length")]) args
  match g.value? 'a' with
  | none =>
    if g.has 'c' then run g md5 {} (lineParts? (methods.map Prod.snd) true (some blake2b)) "CRC"
    else
      refuseUseless g
      showSums crcLine g.operands
  | some v =>
    let name := String.ofList v
    match methods.lookup name with
    | some m =>
      let m ← if name = "blake2b" then blake2b <$> bitsGiven g else pure m
      let isTagged := match g.last? "\x01\x06" with
        | some c => c == '\x01'
        | none => true
      run { g with options := g.options.filter (·.1 != '\x01') } m
        { tagged := isTagged, stop := if g.has 'z' then '\x00' else '\n' }
        (lineParts? [m] false (if name = "blake2b" then some blake2b else none)) m.name
    | none =>
      let line? : Option (Option Octets → Octets → Octets) :=
        [("bsd", turningLine), ("sysv", foldedLine), ("crc", crcLine)].lookup name
      match line? with
      | some line =>
        if g.has 'c' then
          stop 1 "--check is not supported with --algorithm=\x7bbsd,sysv,crc\x7d".toList
        else showSums line g.operands
      | none =>
        grumble ("invalid argument ".toList ++ quoted v ++ " for '--algorithm'".toList)
        say 2 ("Valid arguments are:\n".toList ++
          methodNames.flatMap fun n => "  - '".toList ++ n.toList ++ "'\n".toList)
        pointToHelp
        exit 1

end Checksums

end KarelBuild.Shell.Utility
