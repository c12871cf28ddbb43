import KarelBuild.Shell.Builtin.Variable

/-!
# Builtins that read

Reading a line and cutting it into variables, and reading lines as the members of a list.
-/

namespace KarelBuild.Shell.Builtin

open ShellM

/-! ## Cutting -/

/-- Cutting a line into as many fields as there are names; the last one takes the rest. -/
structure LineCut where
  done : List Octets := []
  current : Octets := []
  afterBlank : Bool := false
  left : Nat
  /-- How much of the current field stays if nothing more comes. -/
  kept : Option Nat := none

namespace LineCut

/-- A character, and whether it may separate fields. -/
def step (s : Separators) (k : LineCut) (m : Marked) : LineCut :=
  let (c, mayCut) := m
  let cuts := mayCut && s.all.contains c
  let blank := cuts && Separators.blanks.contains c
  if k.left = 0 then
    let kept := if blank then some (k.kept.getD k.current.length)
      else if cuts && k.afterBlank then k.kept else none
    { k with current := c :: k.current, kept, afterBlank := if blank then k.afterBlank else false }
  else if k.afterBlank ∧ blank then { k with current := [] }
  else if k.afterBlank then
    { k with current := if cuts then [] else [c], afterBlank := false }
  else if cuts then
    if k.current = [] ∧ blank then k
    else if k.left = 1 then
      { k with current := c :: k.current, left := 0, afterBlank := blank, kept := some k.current.length }
    else
      { k with
        done := k.current.reverse :: k.done, current := [], left := k.left - 1, afterBlank := blank }
  else { k with current := c :: k.current }

def fields (s : Separators) (names : Nat) (line : List Marked) : List Octets :=
  let k := line.foldl (step s) { left := names }
  let last := k.current.reverse
  let last := match k.kept with
    | some n => last.take n
    | none => last
  (if last = [] then k.done else last :: k.done).reverse

end LineCut

/-! ## Reading -/

/-- How a line is read: whether backslashes mean nothing, where it stops, how much of it is taken at most,
and when there is no more time. -/
structure LineForm where
  raw : Bool := false
  stop : Char := '\n'
  count : Option Nat := none
  /-- Whether the stop means nothing. -/
  exactly : Bool := false
  deadline : Option Nat := none

/-- How a line ended. -/
inductive LineEnd where
  | complete
  | atEnd
  | late
  deriving DecidableEq, Repr

/-- Wait until there is something to read, or nobody is left to write it; tells whether that came in time. -/
def awaitInput (n : Nat) (deadline : Option Nat) : ShellM Bool := do
  let w ← world
  match deadline, (w.opened[n]?).map Opened.target with
  | some time, some (Target.stream k) =>
    awaitOrCatch (some (.filled k 0)) (some time) maxWaits
    let w ← world
    return (w.stream k).size ≠ 0 || !w.isHeldWith (← shell) true k
  | _, _ => return true

/-- How far a text goes up to its stop, or up to a count of characters, behind backslashes if they mean
something; and whether it is complete. -/
def reach (f : LineForm) : (count : Nat) → Octets → Nat × Bool
  | 0, _ => (0, true)
  | _, [] => (0, false)
  | _, ['\\'] => (1, false)
  | k + 1, c :: r =>
    if c = f.stop ∧ !f.exactly then (1, true)
    else match c, f.raw, r with
      | '\\', false, d :: r =>
        let (used, ended) := reach f (if d = '\n' then k + 1 else k) r
        (used + 2, ended)
      | _, _, r =>
        let (used, ended) := reach f k r
        (used + 1, ended)

/-- Escaped characters do not cut; a backslash before a line end joins lines. -/
def unescapeLine (raw : Bool) (stop : Char) : Octets → List Marked
  | [] => []
  | '\\' :: c :: r =>
    if raw then ('\\', true) :: unescapeLine raw stop (c :: r)
    else if c = '\n' then unescapeLine raw stop r
    else (c, false) :: unescapeLine raw stop r
  | c :: r => if c = '\\' ∧ !raw then unescapeLine raw stop r else (c, true) :: unescapeLine raw stop r

/-- Read a line, or as much as there is. What is read piece by piece is kept meanwhile. -/
def readFrom (f : LineForm) (n : Nat) : (steps : Nat) → Octets → ShellM (Octets × LineEnd)
  | 0, before => return (before, .atEnd)
  | k + 1, before => do
    if !(← awaitInput n f.deadline) then return (before, .late)
    else match ← unread n with
      | .ok (.text []) => return (before, .atEnd)
      | .ok (.text o) =>
        let whole := before ++ o
        let (used, ended) := reach f (f.count.getD whole.length.succ) whole
        let taken := used - before.length
        advance n taken (o.drop taken)
        if ended then return (whole.take used, .complete) else readFrom f n k whole
      | _ => return (before, .atEnd)

def maxPieces : Nat := 0x1000000

/-- A line without its stop, with its characters marked; and how it ended. -/
def readLine (f : LineForm) (n : Nat) : ShellM (List Marked × LineEnd) := do
  let (o, ended) ← readFrom f n maxPieces []
  let body := if ended = .complete && !f.exactly && o.getLast? == some f.stop then o.dropLast else o
  return ((unescapeLine f.raw f.stop body).filter (·.1 != '\x00'), ended)

/-- Set what an argument names. -/
def setNamed (name : Text) (o : Octets) : ShellM Unit := do
  if ← isRich then assignNamed name o else setVar name o

def assignFields : List Text → List Octets → ShellM Unit
  | [], _ => return
  | name :: names, fields => do
    setNamed name (fields.headD [])
    assignFields names (fields.drop 1)

/-- A number of an option, which has to be one. -/
def optionNumber (value : Option Octets) (what : String) : ShellM (Option Nat) := do
  match value with
  | none => return none
  | some o =>
    if o ≠ [] ∧ o.all Char.isDigit then return (String.ofList o).toNat?
    else refuse (o ++ ": ".toList ++ what.toList)

/-- A time in seconds, in microseconds. -/
def secondsOf? (o : Octets) : Option Nat :=
  let (whole, part) := Text.cut '.' o
  let places := (part.getD []).take 6
  if o = [] ∨ !whole.all Char.isDigit ∨ !(part.getD []).all Char.isDigit then none
  else some (Arithmetic.valueIn 10 whole * 1000000 +
    Arithmetic.valueIn 10 (places ++ List.replicate (6 - places.length) '0'))

def requirePlace (name : Text) : ShellM Unit := do
  if ← isRich then
    if !isName (Process.cutPlace name).1 then refuse (notName name)
  else requireName name

/-- The descriptor that is read from. -/
def inputOf (value : Option Octets) : ShellM (Option Nat) := do
  match value with
  | none => return (← shell).opened? 0
  | some o =>
    let wrong (reason : String) : ShellM (Option Nat) :=
      refuse (o ++ ": invalid file descriptor".toList ++ reason.toList)
    match (String.ofList o).toNat? with
    | none => wrong " specification"
    | some fd =>
      match (← shell).opened? fd with
      | some n => return some n
      | none => wrong (": " ++ OsError.badDescriptor.wording)

/-- Whether something can be read without waiting. -/
def hasInput (n : Nat) : ShellM Bool := do
  let w ← world
  match (w.opened[n]?).map Opened.target with
  | some (Target.stream k) => return (w.stream k).size ≠ 0 || !w.isHeldWith (← shell) true k
  | _ => return true

/-- Put a line into variables. -/
def distribute (list : Option Text) (names : List Text) (isWhole : Bool) (line : List Marked) : ShellM Unit := do
  let s := Separators.ofProcess (← shell)
  match list with
  | some name =>
    requirePlace name
    setContent name (listOf (LineCut.fields s (line.length + 1) line))
  | none =>
    if names = [] then setVar "REPLY".toList (line.map (·.1))
    else if isWhole then assignFields names [line.map (·.1)]
    else assignFields names (LineCut.fields s names.length line)

def read : Builtin := fun _ args => do
  let rich ← isRich
  let (found, names) ← if rich then options "rse" "padnNtui" args else options "r" "p" args
  let value (c : Char) : Option Octets := (found.reverse.find? (·.1 == c)).map (·.2)
  if !rich ∧ names = [] then refuse "arg count".toList
  else
    for name in names do requirePlace name
    let few ← optionNumber (value 'n') "invalid number"
    let exactly ← optionNumber (value 'N') "invalid number"
    let time ← match value 't' with
      | none => pure none
      | some o =>
        match secondsOf? o with
        | some t => pure (some t)
        | none => refuse (o ++ ": invalid timeout specification".toList)
    match ← inputOf (value 'u') with
    | none => if rich then refuse ("read error: 0: ".toList ++ OsError.badDescriptor.wording.toList) else return 1
    | some n =>
      if time = some 0 then return if ← hasInput n then 0 else 1
      else
        let now := (← world).clock
        let form : LineForm := {
          raw := found.any (·.1 == 'r')
          stop := match value 'd' with
            | some (c :: _) => c
            | some [] => '\x00'
            | none => '\n'
          count := exactly.or few, exactly := exactly.isSome, deadline := time.map (now + ·) }
        let (line, ended) ← readLine form n
        distribute (value 'a') names exactly.isSome line
        return match ended with
          | .complete => 0
          | .atEnd => 1
          | .late => 142

/-! ## Lists of lines -/

/-- The pieces of a text, each with the character that ends it. -/
def piecesOf (stop : Char) (o : Octets) : List Octets :=
  let pieces := Text.split stop o
  let last := pieces.getLastD []
  (pieces.dropLast.map (· ++ [stop])) ++ if last = [] then [] else [last]

/-- Set members from a number on, and run a command before every so many of them. -/
def addLines (name : Text) (before : Nat → Octets → ShellM Unit) : (index : Nat) → List Octets → ShellM Unit
  | _, [] => return
  | index, o :: rest => do
    before index o
    setMember name index o
    addLines name before (index + 1) rest

/-- Lines as the members of a list. -/
def mapfile : Builtin := fun m args => do
  let (found, names) ← options "t" "dnOsuCc" args
  let value (c : Char) : Option Octets := (found.reverse.find? (·.1 == c)).map (·.2)
  let most ← optionNumber (value 'n') "invalid line count"
  let origin ← optionNumber (value 'O') "invalid array origin"
  let skipped ← optionNumber (value 's') "invalid line count"
  let quantum ← optionNumber (value 'c') "invalid callback quantum"
  let name := names.headD "MAPFILE".toList
  match ← inputOf (value 'u') with
  | none => refuse ("0: invalid file descriptor: ".toList ++ OsError.badDescriptor.wording.toList)
  | some n =>
    if !isName name then refuse (notName name)
    else
      let stop := match value 'd' with
        | some (c :: _) => c
        | some [] => '\x00'
        | none => '\n'
      match ← takeAll n with
      | .ok (.text o) =>
        let pieces := (piecesOf stop o).drop (skipped.getD 0)
        let pieces := match most with
          | some (k + 1) => pieces.take (k + 1)
          | _ => pieces
        let strips := found.any (·.1 == 't')
        let lines := pieces.map fun l => if strips && l.getLast? == some stop then l.dropLast else l
        let step := quantum.getD 5000
        match value 'C' with
        | some command =>
          if origin.isNone then setContent name (.list [])
          let first := origin.getD 0
          addLines name (fun index o => do
            if (index - first + 1) % (max step 1) = 0 then
              m (.text {} (command ++ ' ' :: Text.ofNat index ++ ' ' :: Quoting.single o))) first lines
        | none =>
          match origin with
          | some first => addLines name (fun _ _ => return) first lines
          | none => setContent name (listOf lines)
        return 0
      | _ => return 1

/-- Work out expressions; the exit code tells whether the last one is zero. -/
def let_ : Builtin := fun _ args => do
  let args := if args.head? = some ['-', '-'] then args.drop 1 else args
  if args = [] then refuse "expression expected".toList
  else
    let values ← args.mapM fun a => Arithmetic.value a
    return if values.getLastD 0 = 0 then 1 else 0

end KarelBuild.Shell.Builtin
