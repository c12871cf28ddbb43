import KarelBuild.Shell.Format
import KarelBuild.Shell.Utility.Listing

/-!
# What is known of files

`stat` writes what is known of a file in a format of its own.
-/

namespace KarelBuild.Shell.Utility

open ShellM

def kindName (f : Status) : String :=
  match f.kind with
  | .file => if f.size = 0 then "regular empty file" else "regular file"
  | .dir => "directory"
  | .link => "symbolic link"
  | .characters => "character special file"
  | .pipe => "fifo"

/-- The permissions with the kind in front, as the system keeps them in a number. -/
def rawMode (f : Status) : Nat :=
  f.mode + match f.kind with
    | .file => 0o100000
    | .dir => 0o40000
    | .link => 0o120000
    | .characters => 0o20000
    | .pipe => 0o10000

def fullTime (time : Int) : Octets := formatDate time "%Y-%m-%d %H:%M:%S.%N %z".toList

/-- What stands for a letter, and whether it is a number that may be filled up with zeros. -/
def statPart (name : Octets) (f : Status) (letter : Char) : Octets × Bool :=
  let number (n : Nat) : Octets × Bool := (Text.ofNat n, true)
  match letter with
  | 'n' => (name, false)
  | 'N' =>
    (quoted name ++ if f.kind = .link then " -> ".toList ++ quoted (Octets.ofText f.target) else [], false)
  | 's' => number f.size
  | 'b' => number (blockCount f * 2)
  | 'B' => number 512
  | 'o' => number 4096
  | 'F' => ((kindName f).toList, false)
  | 'a' => (Mode.octalText 1 f.mode, true)
  | 'A' => (permissionText f, false)
  | 'f' => (Nat.toDigits 16 (rawMode f), true)
  | 'u' => number f.owner
  | 'g' => number f.group
  | 'U' => (if (Host.accountNumbers.any fun (_, n) => n == f.owner) then accountName f.owner
      else "UNKNOWN".toList, false)
  | 'G' => (if (Host.groupNumbers.any fun (_, n) => n == f.group) then groupName f.group
      else "UNKNOWN".toList, false)
  | 'h' => number f.names
  | 'i' => number f.node
  | 'd' => number 54
  | 'D' => ("36".toList, true)
  | 'm' => (['/'], false)
  | 't' => (if f.kind = .characters then ['1'] else ['0'], true)
  | 'T' => (if f.kind = .characters then ['3'] else ['0'], true)
  | 'w' => (fullTime f.time, false)
  | 'W' => (Text.ofInt (f.time.fdiv 1000000), true)
  | 'x' => (fullTime f.time, false)
  | 'X' => (Text.ofInt (f.time.fdiv 1000000), true)
  | 'y' => (fullTime f.time, false)
  | 'Y' => (Text.ofInt (f.time.fdiv 1000000), true)
  | 'z' => (fullTime f.time, false)
  | 'Z' => (Text.ofInt (f.time.fdiv 1000000), true)
  | _ => (['?'], false)

/-- A part in its width, with the marks that stand in front of its letter. -/
def paddedPart (marks : Octets) (width : Nat) (precision : Option Nat) : Octets × Bool → Octets
  | (o, isNumber) =>
    let o := match precision with
      | some p => if isNumber then List.replicate (p - o.length) '0' ++ o else o.take p
      | none => o
    if marks.contains '-' then padRight width o
    else if marks.contains '0' && isNumber then List.replicate (width - o.length) '0' ++ o
    else padLeft width o

def statText (name : Octets) (f : Status) : (steps : Nat) → Octets → Octets
  | 0, _ => []
  | n + 1, '%' :: r =>
    let marks := r.takeWhile "#0-+ '".toList.contains
    let rest := r.drop marks.length
    let width := rest.takeWhile Char.isDigit
    let rest := rest.drop width.length
    let (precision, rest) : Option Nat × Octets := match rest with
      | '.' :: more =>
        let ds := more.takeWhile Char.isDigit
        (some (digitsValue ds), more.drop ds.length)
      | rest => (none, rest)
    match rest with
    | '%' :: more => '%' :: statText name f n more
    | 'H' :: c :: more =>
      if c = 'd' ∨ c = 'r' then '0' :: statText name f n more else '?' :: statText name f n (c :: more)
    | 'L' :: c :: more =>
      if c = 'd' ∨ c = 'r' then "54".toList ++ statText name f n more else '?' :: statText name f n (c :: more)
    | c :: more =>
      let part := statPart name f c
      let part := if marks.contains '#' ∧ c = 'a' then ('0' :: part.1, part.2) else part
      paddedPart marks (digitsValue width) precision part ++ statText name f n more
    | [] => ['%']
  | n + 1, c :: r => c :: statText name f n r
  | _, [] => []

def usualStatFormat (f : Status) : String :=
  "  File: %N\n  Size: %-10s\tBlocks: %-10b IO Block: %-6o %F\nDevice: %Hd,%Ld\tInode: %-11i Links: " ++
    (if f.kind = .characters then "%-5h Device type: %t,%T\n" else "%h\n") ++
    "Access: (%04a/%10.10A)  Uid: (%5u/%8U)   Gid: (%5g/%8G)\nAccess: %x\nModify: %y\nChange: %z\n Birth: %w\n"

def terseStatFormat : String := "%n %s %b %f %u %g %D %i %h %t %T %X %Y %Z %W %o\n"

def stat : Utility := fun _ args => do
  let g ← given (forms [('L', "dereference"), ('f', "file-system"), ('t', "terse")]
    [('c', "format"), ('\x01', "printf"), ('\x02', "cached")]) args
  requireOperands "missing operand" g.operands
  forEach g.operands fun o => do
    let found ← if o = ['-'] then do
        match (← world).statusOfDescriptor? (← shell) 0 with
        | some f => pure (.ok f)
        | none => pure (.error .badDescriptor)
      else status? (g.has 'L') o
    match found with
    | .error e =>
      if o = ['-'] then grumble ("cannot stat standard input: ".toList ++ e.wording.toList)
      else
        grumble ((if g.has 'L' then "cannot stat " else "cannot statx ").toList ++ quoted o ++ ": ".toList ++
          e.wording.toList)
      return false
    | .ok f =>
      let text (format : Octets) : Octets := statText o f (format.length + 1) format
      match (g.options.reverse.find? fun o => o.1 == 'c' || o.1 == '\x01') with
      | some ('c', format) => emitLine (text format)
      | some (_, format) => emit (text (unescape .program format).1)
      | none =>
        if g.has 't' then emit (text terseStatFormat.toList)
        else if f.kind = .link then emit (text (usualStatFormat f).toList)
        else emit (text ((usualStatFormat f).toList.take 8 ++ "%n".toList ++ (usualStatFormat f).toList.drop 10))
      return true

end KarelBuild.Shell.Utility
