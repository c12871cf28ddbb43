import KarelBuild.Shell.Calendar
import KarelBuild.Shell.Utility.Files

/-!
# Copying blocks

`dd` reads blocks of one size and writes blocks of another, and tells how many of them were full. A block that
was read is shorter than it should be where a stream had no more to give.
-/

namespace KarelBuild.Shell.Utility

open ShellM

/-! ## Numbers -/

/-- A number of bytes, and whether a zero in front of a cross may be meant for something else. -/
inductive BlockNumber where
  | bytes (n : Nat)
  | invalid
  | tooLarge
  deriving DecidableEq, Repr

/-- The letters for multiples, each with the power of a thousand. -/
def blockPrefixes : List (Char × Nat) :=
  [('k', 1), ('K', 1), ('M', 2), ('G', 3), ('T', 4), ('P', 5), ('E', 6), ('Z', 7), ('Y', 8)]

/-- What follows the digits of a number: the multiple, and whether bytes are meant. -/
def blockFactor? (t : Octets) : Option Nat :=
  match t with
  | [] => some 1
  | ['B'] => some 1
  | ['b'] => some 512
  | ['c'] => some 1
  | ['w'] => some 2
  | c :: rest => do
    let power ← blockPrefixes.lookup c
    match String.ofList rest with
    | "" => some (Nat.pow 1024 power)
    | "B" => some (Nat.pow 1000 power)
    | "iB" => some (Nat.pow 1024 power)
    | _ => none

/-- A number: factors between crosses. -/
def blockNumber (t : Octets) : BlockNumber :=
  let factors := (Text.split 'x' t).map fun (f : Octets) =>
    let ds := f.takeWhile Char.isDigit
    if ds = [] then none else (blockFactor? (f.drop ds.length)).map (· * digitsValue ds)
  match factors.mapM id with
  | none => .invalid
  | some ns =>
    let n := ns.foldl (· * ·) 1
    if 0x7FFFFFFFFFFFFFFF < n then .tooLarge else .bytes n

/-- How often a zero stands in front of a cross, as if sixteen were the base. -/
def zeroFactors (t : Octets) : Nat := ((Text.split 'x' t).dropLast.filter (· == ['0'])).length

/-! ## Copying -/

/-- What has been read and written, and what a conversion has to remember. -/
structure BlockCopy where
  fullIn : Nat := 0
  partIn : Nat := 0
  fullOut : Nat := 0
  partOut : Nat := 0
  truncated : Nat := 0
  total : Nat := 0
  pending : Octets := []
  pendingSize : Nat := 0
  /-- A byte that waits for the one that it changes places with. -/
  odd : Option Char := none
  column : Nat := 0
  blanks : Nat := 0
  /-- How much was read last, where a short block is worth a warning. -/
  lastRead : Nat := 0
  hasWarned : Bool := false

/-- How blocks are copied: their sizes, and what is done to the text. -/
structure BlockStyle where
  inSize : Nat
  outSize : Nat
  /-- Whether a block is written as it was read. -/
  direct : Bool
  /-- How long lines are that are filled up. -/
  lineSize : Nat
  conversions : List String
  wholeBlocks : Bool
  /-- Whether it is told of blocks that are short, although they are counted. -/
  warns : Bool

namespace BlockStyle

def converts (s : BlockStyle) (what : String) : Bool := s.conversions.contains what

/-- Whether lines are filled up to a size, and whether such lines are taken apart. -/
def fills (s : BlockStyle) : Bool := s.converts "block" && s.lineSize != 0

def trims (s : BlockStyle) : Bool := s.converts "unblock" && s.lineSize != 0

/-- Fill up what was read last. -/
def padded (s : BlockStyle) (o : Octets) : Octets :=
  let missing := (s.inSize - o.length % s.inSize) % s.inSize
  if s.converts "sync" then o ++ List.replicate missing (if s.fills || s.trims then ' ' else '\x00') else o

end BlockStyle

/-- Every two bytes change places. A byte that has no partner yet comes apart from the others. -/
def swapPairs (odd : Option Char) (o : Octets) : Option Char × Octets :=
  let (odd, back) := o.foldl (fun ((odd, back) : Option Char × Octets) c =>
    match odd with
    | none => (some c, back)
    | some b => (none, b :: c :: back)) (odd, [])
  (odd, back.reverse)

/-- Fill lines up with blanks, and cut those that are too long. -/
def fillLines (size : Nat) (c : BlockCopy) (o : Octets) : BlockCopy × Octets :=
  let (c, back) := o.foldl (fun ((c, back) : BlockCopy × Octets) b =>
    if b = '\n' then ({ c with column := 0 }, List.replicate (size - c.column) ' ' ++ back)
    else
      let truncated := if c.column = size then c.truncated + 1 else c.truncated
      ({ c with column := c.column + 1, truncated }, if c.column < size then b :: back else back)) (c, [])
  (c, back.reverse)

/-- End a line after so many bytes, and leave out the blanks in front of its end. -/
def trimLines (size : Nat) (c : BlockCopy) (o : Octets) : BlockCopy × Octets :=
  let (c, back) := o.foldl (fun ((c, back) : BlockCopy × Octets) b =>
    let (c, back) := if size ≤ c.column then ({ c with column := 0, blanks := 0 }, '\n' :: back) else (c, back)
    let c := { c with column := c.column + 1 }
    if b = ' ' then ({ c with blanks := c.blanks + 1 }, back)
    else ({ c with blanks := 0 }, b :: (List.replicate c.blanks ' ' ++ back))) (c, [])
  (c, back.reverse)

namespace BlockStyle

/-- Give lines their form. -/
def shape (s : BlockStyle) (c : BlockCopy) (o : Octets) : BlockCopy × Octets :=
  if s.fills then fillLines s.lineSize c o else if s.trims then trimLines s.lineSize c o else (c, o)

/-- Convert text, given what is remembered of the text before. -/
def convert (s : BlockStyle) (c : BlockCopy) (o : Octets) : BlockCopy × Octets :=
  let o := if s.converts "ucase" then o.map Char.toUpper
    else if s.converts "lcase" then o.map Char.toLower else o
  let (c, o) :=
    if s.converts "swab" then
      let (odd, o) := swapPairs c.odd o
      ({ c with odd }, o)
    else (c, o)
  s.shape c o

/-- What is written at the end. -/
def close (s : BlockStyle) (c : BlockCopy) : BlockCopy × Octets :=
  let (c, o) := match c.odd with
    | some b => s.shape c [b]
    | none => (c, [])
  let rest := if c.column = 0 then []
    else if s.fills then List.replicate (s.lineSize - c.column) ' '
    else if s.trims then ['\n'] else []
  (c, o ++ rest)

end BlockStyle

abbrev BlockM := StateT BlockCopy ShellM

/-- Write text, of which so many blocks are full and so many are not. -/
def writeBlocks (output : Nat) (o : Octets) (full part : Nat) : BlockM (Except OsError Unit) := do
  if o = [] then return .ok ()
  else match ← writeTo output o with
    | .ok () =>
      modify fun c =>
        { c with fullOut := c.fullOut + full, partOut := c.partOut + part, total := c.total + o.length }
      return .ok ()
    | .error e => return .error e

/-- Put converted text behind what is pending; whole output blocks are written. -/
def queueText (s : BlockStyle) (output : Nat) (o : Octets) : BlockM (Except OsError Unit) := do
  let c ← get
  let all := c.pending ++ o
  let size := c.pendingSize + o.length
  let ready := size / s.outSize * s.outSize
  set { c with pending := all.drop ready, pendingSize := size - ready }
  writeBlocks output (all.take ready) (size / s.outSize) 0

/-- Take over text that was read as one block or several. -/
def feedBlock (s : BlockStyle) (output : Nat) (o : Octets) : BlockM (Except OsError Unit) := do
  let full := o.length / s.inSize
  let part := if o.length % s.inSize = 0 then 0 else 1
  modify fun c => { c with fullIn := c.fullIn + full, partIn := c.partIn + part }
  let o := s.padded o
  if s.direct then
    writeBlocks output o (o.length / s.outSize) (if o.length % s.outSize = 0 then 0 else 1)
  else
    let (c, o) := s.convert (← get) o
    set c
    queueText s output o

/-- Read one block; with `wholeBlocks`, wait until it is full. -/
def readBlock (s : BlockStyle) (input : Nat) : (steps : Nat) → (size : Nat) → ShellM (Except OsError Octets)
  | 0, _ => return .ok []
  | n + 1, size => do
    match ← takeUpTo input size with
    | .ok [] => return .ok []
    | .ok o =>
      if o.length ≥ size ∨ !s.wholeBlocks then return .ok o
      else
        match ← readBlock s input n (size - o.length) with
        | .ok more => return .ok (o ++ more)
        | .error e => return .error e
    | .error e => return .error e

inductive BlockEnd where
  | done
  | unreadable (e : OsError)
  | unwritable (e : OsError)

/-- Copy from a stream block by block; `limit` is how many blocks, or how many bytes, are copied at most. -/
def copyBlocks (s : BlockStyle) (input output : Nat) : (steps : Nat) → (limit : Option (Nat × Bool)) →
    BlockM BlockEnd
  | 0, _ => throw .outOfSteps
  | n + 1, limit => do
    let size := match limit with
      | some (k, true) => min k s.inSize
      | some (0, false) => 0
      | _ => s.inSize
    if size = 0 then return .done
    else
      match ← readBlock s input size size with
      | .error e => return .unreadable e
      | .ok [] => return .done
      | .ok o =>
        let c ← get
        if s.warns ∧ !c.hasWarned ∧ 0 < c.lastRead ∧ c.lastRead < size then
          let plural := if c.lastRead = 1 then "" else "s"
          grumble ("warning: partial read (".toList ++ Text.ofNat c.lastRead ++ " byte".toList ++ plural.toList ++
            "); suggest iflag=fullblock".toList)
          modify fun c => { c with hasWarned := true }
        modify fun c => { c with lastRead := o.length }
        match ← feedBlock s output o with
        | .error e => return .unwritable e
        | .ok () =>
          copyBlocks s input output n (limit.map fun (k, bytes) => (k - if bytes then o.length else 1, bytes))

/-! ## Operands -/

def blockConversions : List String :=
  ["ascii", "ebcdic", "ibm", "block", "unblock", "lcase", "ucase", "sparse", "swab", "sync", "excl", "nocreat",
    "notrunc", "noerror", "fdatasync", "fsync"]

/-- Conversions for which blocks are not written as they were read. -/
def lastingConversions : List String :=
  ["ascii", "ebcdic", "ibm", "block", "unblock", "lcase", "ucase", "swab"]

def blockFlags : List String :=
  ["append", "binary", "cio", "direct", "directory", "dsync", "noatime", "nocache", "noctty", "nofollow",
    "nolinks", "nonblock", "sync", "text", "fullblock", "count_bytes", "skip_bytes", "seek_bytes"]

/-- What operands say. A number of blocks comes with whether it is one of bytes. -/
structure BlockOperands where
  input : Option Octets := none
  output : Option Octets := none
  both : Option Nat := none
  inSize : Option Nat := none
  outSize : Option Nat := none
  lineSize : Nat := 0
  count : Option (Nat × Bool) := none
  skip : Nat × Bool := (0, false)
  seek : Nat × Bool := (0, false)
  conversions : List String := []
  inFlags : List String := []
  outFlags : List String := []
  status : String := ""

/-- The words of a list between commas, each of which has to be known. -/
def knownWords (known : List String) (what : String) (t : Octets) : ShellM (List String) := do
  let words := (Text.split ',' t).map String.ofList
  for w in words do
    if !known.contains w then misuse 1 ("invalid ".toList ++ what.toList ++ ": ".toList ++ quoted w.toList)
  return words

/-- Read an operand. -/
def addBlockOperand (o : BlockOperands) (a : Octets) : ShellM BlockOperands := do
  match Text.cut '=' a with
  | (_, none) => unknown a
  | (name, some v) =>
    let number (isSize : Bool) : ShellM (Nat × Bool) := do
      for _ in List.range (zeroFactors v) do
        grumble "warning: '0x' is a zero multiplier; use '00x' if that is intended".toList
      match blockNumber v with
      | .bytes n =>
        if n = 0 ∧ isSize then stop 1 ("invalid number: ".toList ++ quoted v) else return (n, v.contains 'B')
      | .invalid => stop 1 ("invalid number: ".toList ++ quoted v)
      | .tooLarge =>
        stop 1 ("invalid number: ".toList ++ quoted v ++ ": Value too large for defined data type".toList)
    match String.ofList name with
    | "if" => return { o with input := some v }
    | "of" => return { o with output := some v }
    | "conv" =>
      let words ← knownWords blockConversions "conversion" v
      return { o with conversions := o.conversions ++ words }
    | "iflag" =>
      let words ← knownWords blockFlags "input flag" v
      return { o with inFlags := o.inFlags ++ words }
    | "oflag" =>
      let words ← knownWords blockFlags "output flag" v
      return { o with outFlags := o.outFlags ++ words }
    | "status" =>
      if ["none", "noxfer", "progress"].contains (String.ofList v) then return { o with status := String.ofList v }
      else misuse 1 ("invalid status level: ".toList ++ quoted v)
    | "bs" =>
      let n ← number true
      return { o with both := some n.1 }
    | "ibs" =>
      let n ← number true
      return { o with inSize := some n.1 }
    | "obs" =>
      let n ← number true
      return { o with outSize := some n.1 }
    | "cbs" =>
      let n ← number true
      return { o with lineSize := n.1 }
    | "count" =>
      let n ← number false
      return { o with count := some n }
    | "skip" =>
      let n ← number false
      return { o with skip := n }
    | "iseek" =>
      let n ← number false
      return { o with skip := n }
    | "seek" =>
      let n ← number false
      return { o with seek := n }
    | "oseek" =>
      let n ← number false
      return { o with seek := n }
    | _ => unknown a
where
  unknown (a : Octets) : ShellM BlockOperands := misuse 1 ("unrecognized operand ".toList ++ quoted a)

/-- Conversions and flags that exclude each other. -/
def exclusions : List (Bool × List String × String) :=
  [(true, ["ascii", "ebcdic", "ibm"], "cannot combine any two of \x7bascii,ebcdic,ibm\x7d"),
    (true, ["block", "unblock"], "cannot combine block and unblock"),
    (true, ["lcase", "ucase"], "cannot combine lcase and ucase"),
    (true, ["excl", "nocreat"], "cannot combine excl and nocreat"),
    (false, ["direct", "nocache"], "cannot combine direct and nocache")]

namespace BlockOperands

def check (o : BlockOperands) : ShellM Unit := do
  if o.outFlags.contains "fullblock" then misuse 1 "invalid output flag: 'fullblock'".toList
  for (ofText, words, message) in exclusions do
    let several (given : List String) : Bool := 1 < words.countP given.contains
    let fails := if ofText then several o.conversions else several o.inFlags || several o.outFlags
    if fails then stop 1 message.toList

/-- The size of what is read at once, and of what is written at once. -/
def readSize (o : BlockOperands) : Nat := (o.both.or o.inSize).getD 512

def writeSize (o : BlockOperands) : Nat := (o.both.or o.outSize).getD 512

def skipBytes (o : BlockOperands) : Nat :=
  if o.skip.2 || o.inFlags.contains "skip_bytes" then o.skip.1 else o.skip.1 * o.readSize

def seekBytes (o : BlockOperands) : Nat :=
  if o.seek.2 || o.outFlags.contains "seek_bytes" then o.seek.1 else o.seek.1 * o.writeSize

/-- How much is copied at most, and whether that is a number of bytes. -/
def limit (o : BlockOperands) : Option (Nat × Bool) :=
  o.count.map fun (n, isBytes) => (n, isBytes || o.inFlags.contains "count_bytes")

def style (o : BlockOperands) : BlockStyle :=
  let direct := o.both.isSome && !o.conversions.any lastingConversions.contains
  let counts := (o.limit.map fun (n, isBytes) => if isBytes then o.readSize ≤ n else 0 < n).getD false
  { inSize := o.readSize, outSize := o.writeSize, lineSize := o.lineSize, conversions := o.conversions, direct
    wholeBlocks := o.inFlags.contains "fullblock"
    warns := direct && !o.inFlags.contains "fullblock" && o.status != "none" &&
      (counts || o.readSize ≤ o.skipBytes) }

def inName (o : BlockOperands) : Octets := o.input.getD "standard input".toList

def outName (o : BlockOperands) : Octets := o.output.getD "standard output".toList

end BlockOperands

/-! ## The utility -/

/-- A size with one digit behind the point, where it is less than ten. -/
def scaledSize (base : Nat) (units : List String) (n : Nat) : Octets :=
  let power := ((List.range units.length).reverse.find? fun p => Nat.pow base p ≤ n).getD 0
  let unit := (units.getD power "").toList
  if power = 0 then Text.ofNat n ++ ' ' :: unit
  else
    let one := Nat.pow base power
    let tenths := (20 * n + one) / (2 * one)
    let whole := (2 * n + one) / (2 * one)
    if tenths < 100 then Text.ofNat (tenths / 10) ++ '.' :: Text.ofNat (tenths % 10) ++ ' ' :: unit
    else Text.ofNat whole ++ ' ' :: unit

/-- How many bytes were copied, in so many microseconds. -/
def transferLine (total micros : Nat) : Octets :=
  let decimal := scaledSize 1000 ["B", "kB", "MB", "GB", "TB"]
  let sizes : Octets :=
    if total < 1000 then []
    else if total < 1024 then " (".toList ++ decimal total ++ [')']
    else " (".toList ++ decimal total ++ ", ".toList ++
      scaledSize 1024 ["B", "KiB", "MiB", "GiB", "TiB"] total ++ [')']
  let micros := max 1 micros
  let rate := total * 1000000 / micros
  let rateText := if rate < 1000 then "0.".toList ++ Text.ofNat (rate / 100) ++ " kB".toList else decimal rate
  let seconds := Text.ofNat (micros / 1000000) ++ '.' :: zeroPadded 6 (micros % 1000000)
  Text.ofNat total ++ (if total = 1 then " byte" else " bytes").toList ++ sizes ++ " copied, ".toList ++
    seconds ++ " s, ".toList ++ rateText ++ "/s\n".toList

def tellBlocks (o : BlockOperands) (start : Int) (c : BlockCopy) : ShellM Unit := do
  if o.status ≠ "none" then
    let records (full part : Nat) (what : String) : Octets :=
      Text.ofNat full ++ '+' :: Text.ofNat part ++ " records ".toList ++ what.toList ++ ['\n']
    say 2 (records c.fullIn c.partIn "in" ++ records c.fullOut c.partOut "out")
    if 0 < c.truncated then
      let plural := if c.truncated = 1 then "" else "s"
      say 2 (Text.ofNat c.truncated ++ " truncated record".toList ++ plural.toList ++ ['\n'])
    if o.status ≠ "noxfer" then say 2 (transferLine c.total ((← world).now - start).toNat)

def openBlockInput (o : BlockOperands) : ShellM (Option Nat) := do
  match o.input with
  | some path =>
    match ← openPath path .reads with
    | .ok n => return some n
    | .error e => stop 1 ("failed to open ".toList ++ quoted path ++ ": ".toList ++ e.wording.toList)
  | none => return (← shell).opened? 0

def openBlockOutput (o : BlockOperands) : ShellM (Option Nat) := do
  match o.output with
  | none => return (← shell).opened? 1
  | some path =>
    let fails {α : Type} (why : String) : ShellM α := stop 1 ("failed to open ".toList ++ quoted path ++ ": ".toList ++ why.toList)
    let isThere := (← statLink? path).isOk
    if o.conversions.contains "excl" ∧ isThere then fails "File exists"
    if o.conversions.contains "nocreat" ∧ !(← stat? path).isOk then fails "No such file or directory"
    let keeps := o.conversions.contains "notrunc"
    let direction : Direction :=
      if o.outFlags.contains "append" then .appends else if keeps ∨ 0 < o.seekBytes then .both else .writes
    match ← openPath path direction with
    | .error e => fails e.wording
    | .ok n =>
      if !keeps ∧ (0 < o.seekBytes ∨ direction = .appends) then
        match ← targetOf n with
        | some (.file p) => modifyWorld fun w => w.resize (.file p) o.seekBytes
        | _ => pure ()
      return some n

def isStream (n : Nat) : ShellM Bool := do
  match ← targetOf n with
  | some (.stream _) => return true
  | _ => return false

/-- Pass over the beginning of what is read. -/
def skipBlocks (o : BlockOperands) (input : Nat) : ShellM Unit := do
  let lacks : ShellM Unit := do
    if o.status ≠ "none" then grumble (named o.inName ++ ": cannot skip to specified offset".toList)
  if 0 < o.skipBytes then
    if ← isStream input then
      match ← readBlock { o.style with wholeBlocks := true } input o.skipBytes o.skipBytes with
      | .ok t => if t.length < o.skipBytes then lacks
      | .error _ => pure ()
    else
      match ← unread input with
      | .ok (.text t) =>
        if t.length < o.skipBytes then lacks
        advance input (min o.skipBytes t.length) (t.drop o.skipBytes)
      | _ => pure ()

def copyAllBlocks (o : BlockOperands) (input output : Nat) : BlockM BlockEnd := do
  let style := o.style
  let result ← do
    match ← targetOf input, ← targetOf output with
    | some (.stream _), _ => copyBlocks style input output 0x100000 o.limit
    | some (.device _), _ => copyBlocks style input output 0x100000 o.limit
    | _, some (.device .full) => copyBlocks style input output 0x100000 o.limit
    | _, _ =>
      match ← unread input with
      | .error e => pure (.unreadable e)
      | .ok (.endless _) => pure .done
      | .ok (.text t) =>
        let used := match o.limit with
          | none => t
          | some (n, isBytes) => t.take (if isBytes then n else n * style.inSize)
        advance input used.length (t.drop used.length)
        if used = [] then pure .done
        else match ← feedBlock style output used with
          | .error e => pure (.unwritable e)
          | .ok () => pure .done
  match result with
  | .unwritable e => return .unwritable e
  | result =>
    let (c, rest) := style.close (← get)
    set c
    match ← queueText style output rest with
    | .error e => return .unwritable e
    | .ok () =>
      let c ← get
      match ← writeBlocks output c.pending 0 1 with
      | .error e => return .unwritable e
      | .ok () => return result

def dd : Utility := fun _ args => do
  for a in args do
    match a with
    | '-' :: '-' :: _ :: _ => misuse 1 ("unrecognized option ".toList ++ quoted a)
    | '-' :: c :: _ => if c ≠ '-' then misuse 1 ("invalid option -- ".toList ++ quoted [c])
    | _ => pure ()
  let o ← (args.filter (· != ['-', '-'])).foldlM addBlockOperand {}
  o.check
  let start := (← world).now
  let fault (what : String) (name : Octets) (e : OsError) : ShellM Unit :=
    grumble (what.toList ++ ' ' :: quoted name ++ ": ".toList ++ e.wording.toList)
  let some input ← openBlockInput o | do
    fault "error reading" o.inName .badDescriptor
    fault "closing input file" o.inName .badDescriptor
    return 1
  let output ← openBlockOutput o
  skipBlocks o input
  match output with
  | none =>
    fault "error writing" o.outName .badDescriptor
    fault "closing output file" o.outName .badDescriptor
    return 1
  | some output =>
    if 0 < o.seekBytes then
      if ← isStream output then
        grumble (quoted o.outName ++ ": cannot seek: Illegal seek".toList)
        tellBlocks o start {}
        exit 1
      else modifyWorld fun w => w.setOffset output (o.seekBytes + ((w.opened[output]?).map (·.offset)).getD 0)
    let (result, c) ← (copyAllBlocks o input output).run {}
    match result with
    | .done => pure ()
    | .unreadable e => fault "error reading" o.inName e
    | .unwritable e => fault "error writing" o.outName e
    tellBlocks o start c
    return match result with
      | .done => 0
      | _ => 1

end KarelBuild.Shell.Utility
