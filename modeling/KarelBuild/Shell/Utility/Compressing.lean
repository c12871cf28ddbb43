import KarelBuild.Shell.Calendar
import KarelBuild.Shell.Utility.Copying
import KarelBuild.Shell.Utility.Deflate.Reading
import KarelBuild.Shell.Utility.Deflate.Writing

/-!
# Compressed files

A compressed file is a sequence of members. Each begins with two bytes that say what it is, with the time and the name
of the file that it was made from, and ends with a checksum and the length of its text. A file is replaced by the
compressed one, or by the one that was compressed, whose name is shorter by its suffix.
-/

namespace KarelBuild.Shell.Utility

open ShellM Digests

namespace Compressing

/-! ## Checksums -/

/-- The checksums of single bytes. -/
def crcTable : Array UInt32 :=
  ((List.range 256).map fun n =>
    (List.range 8).foldl (fun (c : UInt32) _ => if c &&& 1 = 0 then c >>> 1 else (c >>> 1) ^^^ 0xEDB88320)
      (UInt32.ofNat n)).toArray

def crcOf (b : ByteArray) : UInt32 :=
  ~~~(b.foldl (fun (c : UInt32) byte =>
    crcTable.getD ((c ^^^ byte.toUInt32) &&& 0xFF).toNat 0 ^^^ (c >>> 8)) (~~~0))

/-! ## Members -/

def octetsOf (b : ByteArray) : Octets := b.data.toList.map fun n => Char.ofNat n.toNat

/-- A number in so many bytes, the lowest one first. -/
def littleBytes (size n : Nat) : Octets := (List.range size).map fun i => Char.ofNat (n >>> (8 * i) % 256)

/-- What is told of a file in front of its text. -/
structure Header where
  seconds : Nat := 0
  name : Option Octets := none
  level : Nat := 6

/-- A text as a member. -/
def Header.write (h : Header) (text : Octets) : Octets :=
  let b := bytesOf text
  let flags := if h.name.isSome then 8 else 0
  let hint := if h.level = 1 then 4 else if h.level = 9 then 2 else 0
  [Char.ofNat 0x1F, Char.ofNat 0x8B, Char.ofNat 8, Char.ofNat flags] ++ littleBytes 4 h.seconds ++
    [Char.ofNat hint, Char.ofNat 3] ++ h.name.elim [] (· ++ ['\x00']) ++ octetsOf (Deflate.compress h.level b) ++
    littleBytes 4 (crcOf b).toNat ++ littleBytes 4 (b.size % 0x100000000)

/-- Why there is no member at a place: nothing but zeros follows, something else does, the text ends, or what is
said of it is not understood. -/
inductive Refusal where
  | foreign
  | zeros
  | ended
  | unlike (message : String)
  deriving DecidableEq, Repr

/-- The place behind the next zero. -/
def behindZero (b : ByteArray) : (fuel i : Nat) → Option Nat
  | 0, _ => none
  | k + 1, i => if b.size ≤ i then none else if byteAt b i = 0 then some (i + 1) else behindZero b k (i + 1)

/-- What is told of a member at a place, and where its text begins. -/
def Header.read (b : ByteArray) (start : Nat) : Except Refusal (Header × Nat) :=
  let size := b.size - start
  let here (i : Nat) : Nat := byteAt b (start + i)
  if size = 0 ∨ (size = 1 ∧ here 0 ≠ 0) then .error .ended
  else if here 0 ≠ 0x1F ∨ (here 1 ≠ 0x8B ∧ here 1 ≠ 0x9E) then
    .error (if (List.range size).all fun i => here i = 0 then .zeros else .foreign)
  else if size < 3 then .error .ended
  else if here 2 ≠ 8 then .error (.unlike ("unknown method " ++ toString (here 2) ++ " -- not supported"))
  else if size < 4 then .error .ended
  else
    let flags := here 3
    if flags >>> 5 % 2 = 1 then .error (.unlike "is encrypted -- not supported")
    else if flags >>> 6 ≠ 0 then
      .error (.unlike ("has flags 0x" ++ String.ofList (Nat.toDigits 16 flags) ++ " -- not supported"))
    else if size < 10 then .error .ended
    else
      let seconds := (List.range 4).foldr (fun i n => n * 256 + here (4 + i)) 0
      let parts : Option (Option Octets × Nat) := do
        let i := start + 10
        let i ← if flags >>> 2 % 2 = 0 then some i
          else if b.size < i + 2 then none
          else some (i + 2 + byteAt b i + 256 * byteAt b (i + 1))
        let (name, i) ← if flags >>> 3 % 2 = 0 then some (none, i)
          else do
            let j ← behindZero b (b.size + 1) i
            return (some (octetsOf (b.extract i (j - 1))), j)
        let i ← if flags >>> 4 % 2 = 0 then some i else behindZero b (b.size + 1) i
        let i := if flags >>> 1 % 2 = 0 then i else i + 2
        if b.size < i then none else some (name, i)
      match parts with
      | none => .error .ended
      | some (name, i) => .ok ({ seconds, name }, i)

/-! ## All members of a file -/

/-- How the members of a file end. -/
inductive Ending where
  | whole
  | zeros
  | foreign
  | ended
  | invalid
  | wrong (crc length : Bool)
  | unlike (message : String)
  deriving DecidableEq, Repr

/-- What the members of a file say: their texts, what is told of the first one, and the length and the checksum of
the last one. -/
structure Account where
  texts : List ByteArray := []
  header : Header := {}
  /-- How long all is that is not text, for a single member. -/
  frame : Nat := 0
  size : Nat := 0
  crc : Nat := 0
  ending : Ending := .whole

namespace Account

def add (a : Account) (text : ByteArray) : Account := { a with texts := text :: a.texts }

/-- Read members from a place on; `part` is how many there have been. -/
def readFrom (b : ByteArray) : (fuel start part : Nat) → Account → Account
  | 0, _, _, a => a
  | fuel + 1, start, part, a =>
    if start = b.size ∧ 0 < part then a
    else
      let frame := if part = 0 then a.frame else 0
      match Header.read b start with
      | .error .ended => { a with ending := .ended }
      | .error (.unlike message) => { a with ending := .unlike message }
      | .error .zeros => { a with ending := if part = 0 then .foreign else .zeros, frame }
      | .error .foreign => { a with ending := .foreign, frame }
      | .ok (h, i) =>
        match Deflate.extract b i with
        | .error (.ended, text) => { a.add text with ending := .ended }
        | .error (.invalid, text) =>
          let kept := text.size / Deflate.halfWindow * Deflate.halfWindow
          { a.add (text.extract 0 kept) with ending := .invalid }
        | .ok (text, j) =>
          let number (i : Nat) : Nat := (List.range 4).foldr (fun k n => n * 256 + byteAt b (i + k)) 0
          let crc := number j
          let hasCrc := crc = (crcOf text).toNat
          let hasLength := number (j + 4) = text.size % 0x100000000
          let a := { a.add text with
            size := text.size, crc, frame := if part = 0 then i + 8 - start else 0
            header := if part = 0 then h else a.header }
          if b.size < j + 8 then { a with ending := .ended }
          else if hasCrc ∧ hasLength then readFrom b fuel (j + 8) (part + 1) a
          else { a with ending := .wrong (!hasCrc) (!hasLength) }

def read (b : ByteArray) : Account :=
  let a := readFrom b (b.size + 1) 0 0 {}
  { a with texts := a.texts.reverse }

def text (a : Account) : Octets := a.texts.flatMap octetsOf

/-- Whether there is no member at all. -/
def isForeign (a : Account) : Bool := a.texts.isEmpty && (a.ending == .foreign || a.ending == .ended)

end Account

/-! ## Settings -/

structure Settings where
  decompresses : Bool := false
  toOutput : Bool := false
  lists : Bool := false
  tests : Bool := false
  force : Bool := false
  keeps : Bool := false
  quiet : Bool := false
  tells : Bool := false
  recursive : Bool := false
  keepsName : Bool := true
  level : Nat := 6
  suffix : Octets := ".gz".toList

/-- What has been handled so far: the exit code, and the lengths of files that were listed. -/
structure Progress where
  code : Nat := 0
  lengths : Nat := 0
  texts : Nat := 0
  listed : Nat := 0
  frame : Nat := 0

def Progress.failed (p : Progress) : Progress := { p with code := 1 }

/-- Warn, which is a failure only if nothing worse has happened. -/
def warn (s : Settings) (p : Progress) (message : Octets) : ShellM Progress := do
  if !s.quiet then say 2 message
  return { p with code := if p.code = 0 then 2 else p.code }

def under (message : Octets) : ShellM Octets := do return (← programName) ++ ": ".toList ++ message ++ ['\n']

/-- Complain on a line of its own. -/
def object (name : Octets) (message : String) : ShellM Unit := do
  say 2 ('\n' :: (← under (name ++ ": ".toList ++ message.toList)))

/-- Complain and end at once. -/
def giveUp {α : Type} (name : Octets) (message : String) : ShellM α := do
  object name message
  exit 1

/-- How much shorter a text has become, in percent. -/
def ratio (saved : Int) (size : Nat) : Octets :=
  let tenths : Nat := if size = 0 then 0
    else
      let n := 1000 * saved.natAbs
      let q := n / size
      let r := n % size
      if 2 * r > size ∨ (2 * r = size ∧ q % 2 = 1) then q + 1 else q
  let sign : Octets := if saved < 0 ∧ size ≠ 0 then ['-'] else []
  padLeft 5 (sign ++ Text.ofNat (tenths / 10) ++ ['.'] ++ Text.ofNat (tenths % 10)) ++ ['%']

/-- Endings of names that say that a file is compressed. -/
def endings (s : Settings) : List Octets :=
  s.suffix :: [".gz", ".z", ".taz", ".tgz", "-gz", "-z", "_z"].map String.toList

/-- The ending of a name, if something other than a slash stands in front of it. -/
def ending? (s : Settings) (name : Octets) : Option Octets :=
  let low := name.map Char.toLower
  let short (e : Octets) : Bool :=
    let stem := low.take (low.length - e.length)
    (e.isSuffixOf low || e.isSuffixOf name) && stem ≠ [] && stem.getLast? ≠ some '/'
  (endings s).find? short |>.map fun e => name.drop (name.length - e.length)

/-- The name that a file gets; what cannot get one is left alone. -/
def nameFor (s : Settings) (p : Progress) (name : Octets) : ShellM (Progress × Option Octets) := do
  let tells := s.tells || (!s.recursive && !s.quiet)
  match s.decompresses, ending? s name with
  | true, none =>
    if !s.recursive ∧ (s.lists ∨ s.tests) then return (p, some name)
    else
      if !tells then return ({ p with code := if p.code = 0 then 2 else p.code }, none)
      return (← warn s p (← under (name ++ ": unknown suffix -- ignored".toList)), none)
  | true, some e =>
    let stem := name.take (name.length - e.length)
    let low := String.ofList (e.map Char.toLower)
    return (p, some (if low = ".tgz" ∨ low = ".taz" then stem ++ ".tar".toList else stem))
  | false, some e =>
    if s.force then return (p, some (name ++ s.suffix))
    else
      if tells then say 2 (← under (name ++ " already has ".toList ++ e ++ " suffix -- unchanged".toList))
      return (p, none)
  | false, none => return (p, some (name ++ s.suffix))

/-! ## Files -/

/-- Make the file that a text goes to, with what is known of the file that it comes from. -/
def store (s : Settings) (p : Progress) (source : Status) (name text : Octets) : ShellM (Progress × Bool) := do
  match ← statLink? name with
  | .ok (place, e) =>
    if !s.force then
      say 2 (← under (name ++ " already exists;\tnot overwritten".toList))
      return ({ p with code := if p.code = 0 then 2 else p.code }, false)
    else if e matches .dir then
      say 2 (← under (reason name .isDirectory))
      return (p.failed, false)
    else dropAt place
  | .error _ => pure ()
  match ← openPath name .writes with
  | .error e =>
    say 2 (← under (reason name e))
    return (p.failed, false)
  | .ok n =>
    let _ ← writeTo n text
    setMode name (source.mode &&& 0o777)
    modifyStatus name fun m => { m with time := source.time }
    return (p, true)

/-- Write to the standard output; whoever cannot do so ends. -/
def putOut (told : Octets) (text : Octets) : ShellM Unit := do
  match ← put 1 text with
  | .ok () => return
  | .error e => giveUp told e.wording

/-- Remove the file that another one has replaced. -/
def finish (s : Settings) (p : Progress) (name target saved : Octets) : ShellM Progress := do
  if s.tells then
    say 2 (saved ++ (if s.keeps then " -- created " else " -- replaced with ").toList ++ target ++ ['\n'])
  if !s.keeps then
    match ← statLink? name with
    | .ok (place, _) => dropAt place
    | .error _ => pure ()
  return p

/-- Say how members end; whoever cannot go on then ends too. Tells whether the text can be used. -/
def report (s : Settings) (p : Progress) (shown : Octets) (a : Account) : ShellM (Progress × Bool) := do
  match a.ending with
  | .whole => return (p, true)
  | .ended => giveUp shown "unexpected end of file"
  | .invalid => giveUp shown "invalid compressed data--format violated"
  | .wrong crc length =>
    if crc then object shown "invalid compressed data--crc error"
    if length then object shown "invalid compressed data--length error"
    if s.tests || s.lists then return (p.failed, false) else exit 1
  | .unlike message =>
    let between := if message.startsWith "unknown" then ": " else " "
    say 2 (← under (shown ++ between.toList ++ message.toList))
    return (p.failed, false)
  | .zeros =>
    if s.tells then
      let p ← warn s p ('\n' :: (← under (shown ++ ": decompression OK, trailing zero bytes ignored".toList)))
      return (p, true)
    else return (p, true)
  | .foreign =>
    if a.texts.isEmpty then
      object shown "not in gzip format"
      return (p.failed, false)
    else
      let p ← warn s p ('\n' :: (← under (shown ++ ": decompression OK, trailing garbage ignored".toList)))
      return (p, true)

/-- How much shorter the text of an account is than what it was read from. -/
def Account.ratio (a : Account) (length : Nat) : Octets :=
  Compressing.ratio ((a.size : Int) - ((length : Int) - a.frame)) a.size

/-! ## The list -/

def listLine (s : Settings) (p : Progress) (a : Account) (length : Nat) (time : Int) (name : Octets) :
    ShellM Progress := do
  if p.listed = 0 then
    if s.tells then emit "method  crc     date  time  ".toList
    if !s.quiet then
      emitLine (padLeft 19 "compressed".toList ++ ' ' :: padLeft 19 "uncompressed".toList ++
        "  ratio uncompressed_name".toList)
  if s.tells then
    let crc := Nat.toDigits 16 a.crc
    emit ("defla ".toList ++ List.replicate (8 - crc.length) '0' ++ crc ++ ' ' ::
      formatDate time "%b %e %H:%M ".toList)
  emitLine (padLeft 19 (Text.ofNat length) ++ ' ' :: padLeft 19 (Text.ofNat a.size) ++
    ' ' :: a.ratio length ++ ' ' :: name)
  return { p with
    lengths := p.lengths + length, texts := p.texts + a.size, listed := p.listed + 1, frame := a.frame }

def listTotals (s : Settings) (p : Progress) : ShellM Unit := do
  if 1 < p.listed ∧ 0 < p.lengths ∧ 0 < p.texts then
    if s.tells then emit (List.replicate 28 ' ')
    if s.tells ∨ !s.quiet then
      let saved : Int := (p.texts : Int) - ((p.lengths : Int) - p.frame)
      emitLine (padLeft 19 (Text.ofNat p.lengths) ++ ' ' :: padLeft 19 (Text.ofNat p.texts) ++
        ' ' :: ratio saved p.texts ++ " (totals)".toList)

/-- The seconds of a time, as far as they can be told. -/
def secondsOf (time : Int) : Nat :=
  let n := time.toNat / 1000000
  if n < 0x100000000 then n else 0

/-! ## One file -/

/-- Handle compressed text whose own text is wanted on the standard output, or nowhere. -/
def readOut (s : Settings) (p : Progress) (shown told : Octets) (isInput : Bool) (text : Octets) (time : Int)
    (listed : Account → Octets) : ShellM Progress := do
  let a := Account.read (bytesOf text)
  let isQuiet := s.lists || s.tests
  if s.force ∧ !isQuiet ∧ a.isForeign then
    putOut told text
    return p
  else
    if s.tells ∧ !s.lists ∧ !isInput ∧ !a.texts.isEmpty then say 2 (shown ++ ":\t".toList)
    if !isQuiet then
      for part in a.texts do putOut told (octetsOf part)
    let (p, isUsable) ← report s p shown a
    if !isUsable then return p
    else if s.lists then
      if a.ending = .whole then
        let time := if s.keepsName ∧ a.header.seconds ≠ 0 then (a.header.seconds : Int) * 1000000 else time
        listLine s p a text.length time (listed a)
      else return p
    else
      if s.tells then
        if s.tests then say 2 " OK\n".toList
        else if !isInput then
          let made := if s.keeps then " -- created " else " -- replaced with "
          say 2 (a.ratio text.length ++ made.toList ++ told ++ ['\n'])
      return p

/-- Handle the standard input. -/
def treatInput (s : Settings) (p : Progress) : ShellM Progress := do
  match (← shell).opened? 0 with
  | none =>
    say 2 (← under "standard input: Bad file descriptor".toList)
    exit 1
  | some n =>
    let status := ((← world).statusOfDescriptor? (← shell) 0).filter (·.kind == .file)
    let text ← match ← takeAll n with
      | .ok (.text o) => pure o
      | .ok (.endless _) => pure []
      | .error e => giveUp "stdin".toList e.wording
    let told := "stdout".toList
    if s.decompresses then
      let now := (← world).now
      readOut s p "stdin".toList told true text ((status.map (·.time)).getD now) fun _ => told
    else
      let seconds := if s.keepsName then (status.map fun f => secondsOf f.time).getD 0 else 0
      let written := ({ seconds, level := s.level } : Header).write text
      putOut told written
      if s.tells then
        say 2 (ratio ((text.length : Int) - ((written.length : Int) - 18)) text.length ++ ['\n'])
      return p

/-- The name by which a file can be found; one that is compressed need not be named in full. -/
def foundName (s : Settings) (name : Octets) : ShellM (Except (Octets × OsError) (Octets × Status)) := do
  let follows := s.toOutput || s.force
  match ← status? follows name with
  | .ok f =>
    if f.kind = .link then return .error (name, .tooManyLinks) else return .ok (name, f)
  | .error e =>
    if !s.decompresses ∨ (ending? s name).isSome ∨ e ≠ .noEntry then return .error (name, e)
    else
      for suffix in [s.suffix, ".gz".toList, ".z".toList, "-z".toList, ".Z".toList] do
        match ← status? follows (name ++ suffix) with
        | .ok f => return .ok (name ++ suffix, f)
        | .error _ => pure ()
      return .error (name ++ s.suffix, e)

def withoutLast (name : Octets) : Octets := name.take (name.length - (lastName name).length)

/-- Put the text in place of a compressed file. -/
def decompressFile (s : Settings) (p : Progress) (name target text : Octets) (f : Status) : ShellM Progress := do
  let a := Account.read (bytesOf text)
  let target := if s.keepsName then (a.header.name.map fun n => withoutLast name ++ lastName n).getD target else target
  let time := if s.keepsName ∧ a.header.seconds ≠ 0 then (a.header.seconds : Int) * 1000000 else f.time
  if a.texts.isEmpty then return (← report s p name a).1
  else if !s.force ∧ (← statLink? target).isOk then
    return (← store s p f target []).1
  else
    if s.tells then say 2 (name ++ ":\t".toList)
    let (p, isUsable) ← report s p name a
    if !isUsable then return p
    else
      let (p, isDone) ← store s p { f with time } target a.text
      if isDone then finish s p name target (a.ratio text.length) else return p

/-- Put compressed text in place of a file. -/
def compressFile (s : Settings) (p : Progress) (name target text : Octets) (f : Status) : ShellM Progress := do
  let header : Header := {
    seconds := if s.keepsName then secondsOf f.time else 0
    name := if s.keepsName then some (lastName name) else none
    level := s.level }
  let written := header.write text
  let frame := 18 + (header.name.map fun (n : Octets) => n.length + 1).getD 0
  let saved := ratio ((text.length : Int) - ((written.length : Int) - frame)) text.length
  if s.toOutput then
    if s.tells then say 2 (name ++ ":\t".toList)
    putOut target written
    if s.tells then
      let made := if s.keeps then " -- created " else " -- replaced with "
      say 2 (saved ++ made.toList ++ target ++ ['\n'])
    return p
  else
    let (p, isDone) ← store s p f target written
    if isDone then
      if s.tells then say 2 (name ++ ":\t".toList)
      finish s p name target saved
    else return p

def treatRegular (s : Settings) (p : Progress) (name : Octets) (f : Status) : ShellM Progress := do
  let isPlain := s.toOutput && !s.lists && !s.tests
  let (p, target) ← if isPlain then pure (p, some "stdout".toList) else nameFor s p name
  match target with
  | none => return p
  | some target =>
    match ← readOperand name with
    | .error e =>
      say 2 (← under (reason name e))
      return p.failed
    | .ok text =>
      if !s.decompresses then compressFile s p name target text f
      else if s.toOutput then
        readOut s p name target false text f.time fun a =>
          if s.keepsName then (a.header.name.map fun n => withoutLast name ++ n).getD target else target
      else decompressFile s p name target text f

/-- Handle an operand, or all that is below a directory. -/
def treat (s : Settings) : (depth : Nat) → Octets → Progress → ShellM Progress
  | 0, _, p => return p
  | depth + 1, name, p => do
    if name = ['-'] then treatInput s p
    else
      match ← foundName s name with
      | .error (name, e) =>
        say 2 (← under (reason name e))
        return p.failed
      | .ok (name, f) =>
        let leave (why : String) : ShellM Progress := do warn s p (← under (name ++ ' ' :: why.toList))
        if f.kind = .dir then
          if s.recursive then
            match ← stat? name with
            | .error _ => return p
            | .ok (place, _) =>
              ((← world).tree.children place).foldlM
                (fun p (n, _) => treat s depth (below name (Octets.ofText n)) p) p
          else leave "is a directory -- ignored"
        else if s.toOutput then treatRegular s p name f
        else if f.kind ≠ .file then leave "is not a directory or a regular file - ignored"
        else if f.mode >>> 11 % 2 = 1 then leave "is set-user-ID on execution - ignored"
        else if f.mode >>> 10 % 2 = 1 then leave "is set-group-ID on execution - ignored"
        else if !s.force ∧ f.mode >>> 9 % 2 = 1 then leave "has the sticky bit set - file ignored"
        else if !s.force ∧ 1 < f.names then
          leave ("has " ++ toString (f.names - 1) ++ " other link" ++ (if f.names = 2 then "" else "s") ++
            " -- file ignored")
        else treatRegular s p name f

/-! ## The utilities -/

def compressForms : List OptionForm :=
  forms [('a', "ascii"), ('c', "stdout"), ('c', "to-stdout"), ('d', "decompress"), ('d', "uncompress"),
    ('f', "force"), ('h', "help"), ('k', "keep"), ('l', "list"), ('L', "license"), ('m', "no-time"), ('M', "time"),
    ('n', "no-name"), ('N', "name"), ('q', "quiet"), ('q', "silent"), ('r', "recursive"), ('t', "test"),
    ('v', "verbose"), ('V', "version"), ('1', "fast"), ('9', "best"), ('2', ""), ('3', ""), ('4', ""), ('5', ""),
    ('6', ""), ('7', ""), ('8', ""), ('\x01', "synchronous"), ('\x02', "rsyncable"),
    ('\x03', "presume-input-tty"), ('Z', "lzw")] [('b', "bits"), ('S', "suffix")]

def compressWith (lead : List Octets) : Utility := fun _ args => do
  modifyShell fun p => { p with name := "gzip".toList }
  let g ← given compressForms (lead ++ args)
  if g.has 'h' then introduce (usageLine "gzip".toList)
  else if g.has 'V' then introduce (versionLine "gzip".toList)
  else
    for (c, v) in g.options do
      if c = 'b' ∧ !isNumber v then misuse 1 "-b operand is not an integer".toList
      if c = 'S' ∧ v = [] then stop 1 "invalid suffix ''".toList
    let lists := g.has 'l'
    let tests := g.has 't'
    let decompresses := g.has 'd' || lists || tests
    let s : Settings := {
      decompresses, toOutput := g.has 'c' || lists || tests, lists, tests, force := g.has 'f', keeps := g.has 'k'
      quiet := g.last? "qv" = some 'q', tells := g.last? "qv" = some 'v', recursive := g.has 'r'
      keepsName := match g.last? "nN" with
        | some 'n' => false
        | some _ => true
        | none => !decompresses
      level := ((g.last? "123456789").map fun (c : Char) => c.toNat - 48).getD 6
      suffix := (g.value? 'S').getD ".gz".toList }
    let p ← (if g.operands = [] then [['-']] else g.operands).foldlM (fun p name => treat s maxDepth name p) {}
    if lists then listTotals s p
    return p.code

def gzip : Utility := compressWith []

/-- `gzip` with an option in front, under another name, which is told. -/
def calledAs (option : String) : Utility := fun m args => do
  let name ← programName
  if args.head? = some "--help".toList then introduce (usageLine ("/usr/bin/".toList ++ name))
  else if args.head? = some "--version".toList then
    introduce ((if name = "zcat".toList then "zcat" else "gunzip").toList ++ " (gzip) 1.12\n".toList)
  else compressWith [option.toList] m args

def gunzip : Utility := calledAs "-d"

def zcat : Utility := calledAs "-cd"

end Compressing

end KarelBuild.Shell.Utility
