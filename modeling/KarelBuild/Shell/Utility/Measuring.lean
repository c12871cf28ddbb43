import KarelBuild.Shell.Utility.Listing

/-!
# Room on the disk

`du` adds up how much room directories take with everything below them. What has several names counts once.
-/

namespace KarelBuild.Shell.Utility

open ShellM

namespace Measuring

/-! ## Units -/

/-- How sizes are shown: in blocks of a size, with a letter behind them, or in the largest unit that fits. -/
inductive Units where
  | blocks (size : Nat) (behind : Octets)
  | short (base : Nat)

def Units.shown : Units → Nat → Octets
  | .blocks size behind, n => Text.ofNat ((n + size - 1) / size) ++ behind
  | .short base, n => shortSize base n

/-- A unit as it is shown behind numbers. -/
def shownLetters (o : Octets) : Octets :=
  match o with
  | 'k' :: r => (if r = ['B'] then 'k' else 'K') :: r
  | ['K', 'B'] => "kB".toList
  | o => o

/-- The units that a block size stands for; a letter alone is shown behind the numbers. -/
def unitsNamed? (o : Octets) : Option Units :=
  let o := if o.head? = some '\'' then o.drop 1 else o
  if o = "human-readable".toList then some (.short 1024)
  else if o = "si".toList then some (.short 1000)
  else if o.head?.any Char.isDigit then (sized? o).bind fun n => if n = 0 then none else some (.blocks n [])
  else (sized? ('1' :: o)).bind fun n => if o = [] ∨ n ≤ 1 then none else some (.blocks n (shownLetters o))

/-! ## Counting -/

structure Style where
  units : Units
  all : Bool
  apparent : Bool
  counts : Bool
  follows : Bool
  followsOperands : Bool
  countsAgain : Bool
  hasSeveral : Bool
  apart : Bool
  depth : Option Nat
  threshold : Int
  stop : Char
  excluded : List Octets
  times : Bool

/-- What an entry takes together with all below it, how many there are, and when one of them was changed last. -/
structure Total where
  bytes : Nat := 0
  entries : Nat := 0
  time : Int := 0

def Total.add (a b : Total) : Total := ⟨a.bytes + b.bytes, a.entries + b.entries, max a.time b.time⟩

/-- Where counting stands: the entries that are counted already, and whether all went well. -/
structure Counting where
  seen : List Nat := []
  fine : Bool := true

abbrev MeasureM := StateT Counting ShellM

def ownTotal (s : Style) (f : Status) : Total :=
  { bytes := if s.apparent then f.size else blockCount f * 1024, entries := 1, time := f.time }

def showTotal (s : Style) (t : Total) (path : Octets) : MeasureM Unit := do
  let amount := if s.counts then t.entries else t.bytes
  let isShown := if s.threshold < 0 then (amount : Int) ≤ -s.threshold else s.threshold ≤ amount
  if isShown then
    let size := if s.counts then Text.ofNat amount else s.units.shown amount
    let time := if s.times then '\t' :: formatDate t.time "%Y-%m-%d %H:%M".toList else []
    emit (size ++ time ++ '\t' :: path ++ [s.stop])

/-- Whether an entry is left out because of its name. -/
def isExcluded (s : Style) (path : Octets) : Bool :=
  let matching (p o : Octets) : Bool := Pattern.isMatch (Pattern.items true (p.map (·, true))) o
  s.excluded.any fun p => matching p path || matching p (lastName path)

/-- Count an entry and what is below it; directories are shown when that is done. `none` if it does not count. -/
def measure (s : Style) : (steps : Nat) → (level : Nat) → Octets → MeasureM (Option Total)
  | 0, _, _ => return none
  | n + 1, level, path => do
    if isExcluded s path then return none
    let follows := s.follows || (s.followsOperands && level = 0)
    match ← (status? follows path : ShellM _) with
    | .error e =>
      if follows then
        match ← (status? false path : ShellM _) with
        | .ok _ => complainOf path e
        | .error _ => complainOf path e
      else complainOf path e
      return none
    | .ok f =>
      let c ← get
      let isCounted := (s.hasSeveral || s.follows || (f.kind != .dir && 1 < f.names)) && !s.countsAgain
      if isCounted && c.seen.contains f.node then return none
      else
        if isCounted then set { c with seen := f.node :: c.seen }
        let isTop := level = 0
        match f.kind with
        | .dir =>
          let inside ← measureBelow n level path
          let own := (ownTotal s f).add inside.1
          let whole := own.add inside.2
          if (s.depth.all (level ≤ ·)) then showTotal s (if s.apart then own else whole) path
          return some whole
        | _ =>
          let t := ownTotal s f
          if isTop || (s.all && s.depth.all (level ≤ ·)) then showTotal s t path
          return some t
where
  complainOf (path : Octets) (e : OsError) : MeasureM Unit := do
    (grumble ("cannot access ".toList ++ quoted path ++ ": ".toList ++ e.wording.toList) : ShellM Unit)
    modify fun c => { c with fine := false }
  /-- What the entries of a directory take: those that are no directories, and those that are. -/
  measureBelow (n level : Nat) (path : Octets) : MeasureM (Total × Total) := do
    let (t, dir) ← (treeAndDir : ShellM _)
    match t.stat dir (pathText path) with
    | .ok (place, .dir) =>
      (t.children place).foldlM (fun ((files, dirs) : Total × Total) (name, _) => do
        let inner := below path (Octets.ofText name)
        let isDir ← (isDirectory inner : ShellM _)
        match ← measure s n (level + 1) inner with
        | none => return (files, dirs)
        | some t => if isDir then return (files, dirs.add t) else return (files.add t, dirs)) ({}, {})
    | _ => return ({}, {})

/-! ## The utility -/

def du : Utility := fun _ args => do
  let g ← given (forms [('0', "null"), ('a', "all"), ('\x01', "apparent-size"), ('b', "bytes"), ('c', "total"),
    ('D', "dereference-args"), ('H', ""), ('h', "human-readable"), ('k', ""), ('L', "dereference"),
    ('l', "count-links"), ('m', ""), ('P', "no-dereference"), ('S', "separate-dirs"), ('s', "summarize"),
    ('x', "one-file-system"), ('\x02', "si"), ('\x03', "inodes")]
    [('B', "block-size"), ('d', "max-depth"), ('t', "threshold"), ('X', "exclude-from"), ('\x04', "exclude"),
    ('\x05', "time-style"), ('\x06', "files0-from")] ++ [⟨'\x07', "time", .maybe⟩]) args
  let depth ← match g.value? 'd' with
    | none => pure none
    | some v =>
      if isNumber v then pure (some (digitsValue v))
      else misuse 1 ("invalid maximum depth ".toList ++ quoted v)
  if g.has 's' ∧ g.has 'a' then misuse 1 "cannot both summarize and show all entries".toList
  match g.has 's', depth with
  | true, some 0 => grumble "warning: summarizing is the same as using --max-depth=0".toList
  | true, some n => misuse 1 ("warning: summarizing conflicts with --max-depth=".toList ++ Text.ofNat n)
  | _, _ => pure ()
  let units ← match g.last? "Bbhkm\x02" with
    | some 'B' =>
      let v := (g.value? 'B').getD []
      match unitsNamed? v with
      | some u => pure u
      | none => stop 1 ("invalid -B argument ".toList ++ quoted v)
    | some 'b' => pure (.blocks 1 [])
    | some 'h' => pure (.short 1024)
    | some 'm' => pure (.blocks 1048576 [])
    | some '\x02' => pure (.short 1000)
    | _ => pure (.blocks 1024 [])
  let threshold ← match g.value? 't' with
    | none => pure (0 : Int)
    | some v =>
      let isNegative : Bool := v.head? == some '-'
      match sized? (if isNegative then v.drop 1 else v) with
      | some n =>
        if isNegative ∧ n = 0 then stop 1 ("invalid --threshold argument ".toList ++ quoted v)
        else pure (if isNegative then -(n : Int) else n)
      | none => stop 1 ("invalid -t argument ".toList ++ quoted v)
  let lists ← (g.options.filter (·.1 == 'X')).mapM fun (_, path) => do
    match ← readOperand path with
    | .ok o => return (linesOf o).1
    | .error e => stop 1 (reason path e)
  let operands ← match g.value? '\x06' with
    | none => pure (if g.operands = [] then [['.']] else g.operands)
    | some path =>
      match ← readOperand path with
      | .ok o =>
        let (names, rest) := wholeLines '\x00' o
        pure (names.map (·.1) ++ if rest = [] then [] else [rest])
      | .error e => stop 1 ("cannot open ".toList ++ quoted path ++ " for reading: ".toList ++ e.wording.toList)
  let s : Style := {
    units, all := g.has 'a', apparent := g.has '\x01' || g.has 'b', counts := g.has '\x03'
    follows := g.last? "LPDH" = some 'L', followsOperands := g.has 'D' || g.has 'H', countsAgain := g.has 'l'
    hasSeveral := 1 < operands.length, apart := g.has 'S', depth := if g.has 's' then some 0 else depth
    threshold, stop := if g.has '0' then '\x00' else '\n'
    excluded := (g.options.filter (·.1 == '\x04')).map (·.2) ++ lists.flatten, times := g.has '\x07' }
  let (totals, c) ← (operands.mapM (measure s maxDepth 0)).run {}
  if g.has 'c' then
    let sum := totals.foldl (fun (sum : Total) t => sum.add (t.getD {})) {}
    let amount := if s.counts then Text.ofNat sum.entries else s.units.shown sum.bytes
    let time := if s.times then '\t' :: formatDate sum.time "%Y-%m-%d %H:%M".toList else []
    emit (amount ++ time ++ "\ttotal".toList ++ [s.stop])
  return if c.fine then 0 else 1

end Measuring

end KarelBuild.Shell.Utility
