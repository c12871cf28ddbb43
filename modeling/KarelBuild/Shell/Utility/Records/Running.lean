import KarelBuild.Shell.Utility.Records.Memory

/-!
# Running programs for records

Rules are carried out for each record in their order. The bound on the steps is one on how deep what is carried
out stands inside other parts of the program.
-/

namespace KarelBuild.Shell.Records

open ShellM

/-! ## Places -/

/-- Where a value is kept. -/
inductive Place where
  | named (name : Text)
  | entry (table key : Text)
  | field (n : Nat)
  /-- What is no variable keeps nothing. -/
  | nowhere

def Place.value : Place → RecordM Cell
  | named name => valueOf name
  | entry table key => Records.entry table key
  | field n => fieldAt n
  | nowhere => return .unset

def Place.set (c : Cell) : Place → RecordM Unit
  | named name => setValue name c
  | entry table key => setEntry table key c
  | field n => setField n c
  | nowhere => return

/-! ## Numbers by chance -/

/-- The numbers that the next ones are made from: after a few that are made by multiplying, of which three come
again, each is the sum of two that came before it. -/
def randomState (seed : Nat) : List Nat :=
  let seed := if seed = 0 then 1 else seed
  let first := (List.range 30).foldl (fun back _ =>
    match back with
    | n :: _ => (16807 * n % 2147483647) :: back
    | [] => back) [seed % 0x80000000]
  let first := (List.range 3).foldl (fun back _ => back.getD 30 0 :: back) first
  (List.range 310).foldl (fun back _ => next back :: back.take 33) first
where
  next (back : List Nat) : Nat := (back.getD 2 0 + back.getD 30 0) % 0x100000000

def nextRandom : RecordM Float := do
  let s ← get
  let back := if s.random = [] then randomState 1 else s.random
  let n := randomState.next back
  set { s with random := n :: back.take 30 }
  return Float.ofNat (n / 2) / 2147483647.0

/-! ## Functions that there always are -/

def wordsOfTime (o : Octets) : List Int := (wordsIn o).map fun w => (Real.ofFloat (numberIn w)).truncated

/-- Seconds since the epoch of a time that is written as year, month, day, hour, minute and second. -/
def secondsOf : List Int → Int
  | y :: m :: d :: h :: min :: s :: _ => dayNumber y m d * 86400 + h * 3600 + min * 60 + s
  | _ => -1

def calculateBy? (name : String) : Option (Float → Float) :=
  [("sin", Float.sin), ("cos", Float.cos), ("exp", Float.exp), ("log", Float.log), ("sqrt", Float.sqrt),
    ("int", fun x => match (Real.ofFloat x).magnitude with
      | .finite _ _ => if x < 0.0 then x.ceil else x.floor
      | _ => x)].lookup name

/-- Where a text stands in another, counted from 1; the empty one stands in front. -/
def placeIn (wanted : Octets) : (o : Octets) → (n : Nat) → Nat
  | [], n => if wanted = [] then n else 0
  | c :: r, n => if wanted.isPrefixOf (c :: r) then n else placeIn wanted r (n + 1)

def systemCode (text : Octets) : RecordM Cell := do
  flushOutlets
  let ending ← inShell do
    Utility.flush
    awaitEnding (← startCommand text none)
  return ofNat (codeOf ending)

def flushNamed (name : Octets) : RecordM Cell := do
  let isThere := (← get).outlets.any (·.name == name)
  flushOutlets
  return ofInt (if isThere ∨ name = "/dev/stdout".toList ∨ name = "/dev/stderr".toList then 0 else -1)

/-- Functions of values alone. -/
def ofValues (name : String) (args : List Cell) : RecordM Cell := do
  match name, args with
  | "index", [a, b] => return ofNat (placeIn (← textOf b) (← textOf a) 1)
  | "substr", [a, first] => return .text (cutOut (← textOf a) first.toNumber none)
  | "substr", [a, first, n] => return .text (cutOut (← textOf a) first.toNumber (some n.toNumber))
  | "toupper", [a] => return .text ((← textOf a).map Char.toUpper)
  | "tolower", [a] => return .text ((← textOf a).map Char.toLower)
  | "length", [a] => return ofNat (← textOf a).length
  | "atan2", [a, b] => return .number (Float.atan2 a.toNumber b.toNumber)
  | "rand", _ => return .number (← nextRandom)
  | "srand", _ =>
    let s ← get
    let now ← inShell do return ((← world).now / 1000000 : Int)
    let seed := args.headD (ofInt now)
    let n := ((Real.ofFloat seed.toNumber).truncated % 0x100000000).toNat
    set { s with seed, random := randomState n }
    return s.seed
  | "close", [a] => return ofInt (← closeNamed (← textOf a))
  | "system", [a] => systemCode (← textOf a)
  | "fflush", [] =>
    inShell Utility.flush
    return ofInt 0
  | "fflush", [a] =>
    inShell Utility.flush
    flushNamed (← textOf a)
  | "systime", _ => return ofInt (← inShell do return ((← world).now / 1000000 : Int))
  | "mktime", a :: _ => return ofInt (secondsOf (wordsOfTime (← textOf a)))
  | "strftime", _ =>
    let form ← match args with
      | a :: _ => textOf a
      | [] => pure "%c".toList
    let micros : Int ← match args with
      | _ :: t :: _ => pure ((Real.ofFloat t.toNumber).truncated * 1000000)
      | _ => inShell do return (← world).now
    return .text (formatDate micros form)
  | "sprintf", format :: args =>
    let t ← textOf format
    let conv := globalText (← get) "CONVFMT"
    match formatted (Cell.textBy conv) t args with
    | (o, none) => return .text o
    | (_, some fault) => runTimeError (faultText "sprintf" t fault)
  | name, [a] =>
    match calculateBy? name with
    | some f => return .number (f a.toNumber)
    | none => return .unset
  | _, _ => return .unset
where
  faultText (name : String) (format : Octets) : FormatFault → Octets
    | .missing => "not enough arguments passed to ".toList ++ name.toList ++ "(\"".toList ++ format ++ "\")".toList
    | .improper n =>
      "improper conversion(number ".toList ++ Text.ofNat n ++ ") in ".toList ++ name.toList ++ "(\"".toList ++ format ++
        "\")".toList

/-! ## Output -/

/-- A value as it is printed. -/
def printedText (c : Cell) : RecordM Octets := do
  match c with
  | .number x => return numberText (globalText (← get) "OFMT") x
  | c => return c.textBy []

def putTo (target : Option (Channel × Octets)) (o : Octets) : RecordM Unit :=
  match target with
  | none => inShell (Utility.emit o)
  | some (channel, name) => putNamed channel name o

def putCells (target : Option (Channel × Octets)) (cells : List Cell) : RecordM Unit := do
  let parts ← cells.mapM printedText
  let s ← get
  putTo target (Text.join (globalText s "OFS") parts ++ globalText s "ORS")

def putFormatted (target : Option (Channel × Octets)) : List Cell → RecordM Unit
  | [] => return
  | format :: args => do
    let t ← textOf format
    let conv := globalText (← get) "CONVFMT"
    let (o, fault) := formatted (Cell.textBy conv) t args
    putTo target o
    match fault with
    | some f => runTimeError (ofValues.faultText "printf" t f)
    | none => return

/-! ## Evaluation -/

/-- Do rounds until one says that it was the last. -/
def rounds (round : RecordM Bool) : (tries : Nat) → RecordM Unit
  | 0 => inShell (throw .outOfSteps)
  | n + 1 => do
    inShell takeStep
    if ← round then rounds round n

def maxRounds : Nat := 0x1000000000

/-- Carry out the body of a loop; tells whether the loop goes on. -/
def roundOf (body : RecordM Unit) : RecordM Bool :=
  tryCatch (do body; return true) fun jump =>
    match jump with
    | .endLoop => return false
    | .nextRound => return true
    | jump => throw jump

/-- Bring a record or a field to where it is wanted. -/
def giveTaken (target : Option Place) (o : Octets) : RecordM Unit :=
  match target with
  | some p => p.set (.input o)
  | none => setRecord o

def takeFrom (isCommand : Bool) (name : Octets) (target : Option Place) : RecordM Cell := do
  match ← inletFor isCommand name with
  | none => return ofInt (-1)
  | some i =>
    let (o, source) ← takeRecord i.source
    setInlet { i with source }
    match o with
    | some o =>
      giveTaken target o
      return ofInt 1
    | none => return ofInt 0

def takeFromInput (target : Option Place) : RecordM Cell := do
  match ← nextRecord? maxFiles with
  | some o =>
    giveTaken target o
    return ofInt 1
  | none => return ofInt 0

/-- Replace one match or all of them. -/
def substitute (all : Bool) (r : Regex) (filling : Octets) (place : Place) : RecordM Cell := do
  let o ← textOf (← place.value)
  let ms := if all then r.allMatches o else (r.search o).toList
  if ms = [] then return ofNat 0
  else
    place.set (.text (replaced (fillings (filling.length + 1) filling) o 0 ms))
    return ofNat ms.length

/-- What a parameter stands for, whose argument is a name alone: a table is shared, a value is copied. -/
def handOver (name : Text) : RecordM Held := do
  if name = ['N', 'F'] then return .cell (← valueOf name)
  else match heldBy (← get) name with
    | some (.cell c) => return .cell c
    | some (.table n) => return .table n
    | some (.free (some n)) => return .free (some n)
    | _ =>
      let n := (← get).tables.size
      modify fun s => { s with tables := s.tables.push [] }
      hold name (.free (some n))
      return .free (some n)

/-- Run the body of a function with variables of its own. -/
def withFrame (f : Function) (args : List Held) (body : RecordM Unit) : RecordM Cell := do
  let before := (← get).frame
  let held := f.params.zip (args ++ List.replicate (f.params.length - args.length) (Held.free none))
  modify fun s => { s with frame := held }
  let restore : RecordM Unit := modify fun s => { s with frame := before }
  let c ← tryCatch (do body; return Cell.unset) fun jump => do
    match jump with
    | .result c => return c
    | jump =>
      restore
      throw jump
  restore
  return c

mutual

def eval : (steps : Nat) → Expr → RecordM Cell
  | 0, _ => giveUp "function call nesting too deep".toList
  | n + 1, e => do
    match e with
    | .number x => return .number x
    | .text o => return .text o
    | .regex r => return ofBool (r.search (← wholeRecord)).isSome
    | .grouped e => eval n e
    | .name t => valueOf t
    | .field _ => (← placeOf n e).value
    | .member _ _ => (← placeOf n e).value
    | .has t keys =>
      let key ← keyOf n keys
      return ofBool ((← tableAt (← tableNumber t)).any (·.1 == key))
    | .assign target value =>
      let p ← placeOf n target
      let c ← eval n value
      p.set c
      return c
    | .update op target value =>
      let p ← placeOf n target
      let y := (← eval n value).toNumber
      let c := Cell.number (op.apply (← p.value).toNumber y)
      p.set c
      return c
    | .step op before target =>
      let p ← placeOf n target
      let x := (← p.value).toNumber
      let y := op.apply x 1.0
      p.set (.number y)
      return .number (if before then x else y)
    | .calculation op a b =>
      let x := (← eval n a).toNumber
      let y := (← eval n b).toNumber
      return .number (op.apply x y)
    | .minus a => return .number (-(← eval n a).toNumber)
    | .plus a => return .number (← eval n a).toNumber
    | .not a => return ofBool !(← eval n a).isTrue
    | .joined a b =>
      let x ← textOf (← eval n a)
      let y ← textOf (← eval n b)
      return .text (x ++ y)
    | .comparison c a b =>
      let x ← eval n a
      let y ← eval n b
      match x.number?, y.number? with
      | some x, some y => return ofBool (c.ofNumbers x y)
      | _, _ => return ofBool (c.ofTexts (← textOf x) (← textOf y))
    | .hits expected a pattern =>
      let o ← textOf (← eval n a)
      let r ← patternBy n pattern
      return ofBool ((r.search o).isSome == expected)
    | .and a b =>
      if (← eval n a).isTrue then return ofBool (← eval n b).isTrue else return ofBool false
    | .or a b =>
      if (← eval n a).isTrue then return ofBool true else return ofBool (← eval n b).isTrue
    | .choice test yes no => if (← eval n test).isTrue then eval n yes else eval n no
    | .call name args =>
      match (← get).program.functions.find? (·.name == name) with
      | none => return .unset
      | some f =>
        let held ← args.mapM fun a =>
          match a with
          | .name t => handOver t
          | a => do return Held.cell (← eval n a)
        withFrame f held (exec n f.body)
    | .builtin name args => evalBuiltin n name args
    | .take origin source target =>
      let p ← match target with
        | some t => do pure (some (← placeOf n t))
        | none => pure none
      match origin, source with
      | .input, _ => takeFromInput p
      | .file, some e => takeFrom false (← textOf (← eval n e)) p
      | .command, some e => takeFrom true (← textOf (← eval n e)) p
      | _, none => return ofInt (-1)

/-- The key that some values make together. -/
def keyOf : (steps : Nat) → List Expr → RecordM Octets
  | 0, _ => return []
  | n + 1, keys => do
    let parts ← keys.mapM fun k => do textOf (← eval n k)
    return Text.join (globalText (← get) "SUBSEP") parts

def placeOf : (steps : Nat) → Expr → RecordM Place
  | 0, _ => return .nowhere
  | n + 1, e => do
    match e with
    | .name t => return .named t
    | .member t keys => return .entry t (← keyOf n keys)
    | .grouped e => placeOf n e
    | .field index =>
      let x := (← eval n index).toNumber
      let i := (Real.ofFloat x).truncated
      if i < 0 then runTimeError ("negative field index $".toList ++ numberText "%.6g".toList x)
      else return .field i.toNat
    | _ => return .nowhere

/-- An expression in the place of which a value may stand. -/
def patternBy : (steps : Nat) → Expr → RecordM Regex
  | 0, _ => return .empty
  | n + 1, e => do
    match e with
    | .regex r => return r
    | e => regexOf (← textOf (← eval n e))

def evalBuiltin : (steps : Nat) → String → List Expr → RecordM Cell
  | 0, _, _ => return .unset
  | n + 1, name, args => do
    match name, args with
    | "length", [] => return ofNat (← wholeRecord).length
    | "length", [.name t] =>
      match heldBy (← get) t with
      | some (.table k) => return ofNat (← tableAt k).length
      | some (.free (some k)) => return ofNat (← tableAt k).length
      | _ => return ofNat (← textOf (← valueOf t)).length
    | "split", o :: .name t :: rest =>
      let o ← textOf (← eval n o)
      let ps ← match rest with
        | .regex r :: _ => pure (splitBy r o)
        | e :: _ => fieldsIn (← textOf (← eval n e)) o
        | [] => fieldsIn (globalText (← get) "FS") o
      let entries := (ps.foldl (fun (back, k) p => ((Text.ofNat k, Cell.input p) :: back, k + 1))
        (([] : Table), 1)).1
      setTable (← tableNumber t) entries
      return ofNat ps.length
    | "match", [a, e] =>
      let o ← textOf (← eval n a)
      let r ← patternBy n e
      let (start, length) : Int × Int := match r.search o with
        | some m => (m.start + 1, m.length)
        | none => (0, -1)
      setGlobal "RSTART" (ofInt start)
      setGlobal "RLENGTH" (ofInt length)
      return ofInt start
    | "sub", e :: o :: rest =>
      let r ← patternBy n e
      let filling ← textOf (← eval n o)
      substitute false r filling (← placeOf n (rest.headD (.field (.number 0.0))))
    | "gsub", e :: o :: rest =>
      let r ← patternBy n e
      let filling ← textOf (← eval n o)
      substitute true r filling (← placeOf n (rest.headD (.field (.number 0.0))))
    | name, args =>
      let cells ← args.mapM fun a => eval n a
      ofValues name cells

def exec : (steps : Nat) → Statement → RecordM Unit
  | 0, _ => giveUp "function call nesting too deep".toList
  | n + 1, s => do
    match s with
    | .value e =>
      let _ ← eval n e
    | .print isFormatted args target =>
      let cells ← args.mapM fun a => eval n a
      let target ← match target with
        | some (channel, e) => do pure (some (channel, ← textOf (← eval n e)))
        | none => pure none
      if isFormatted then putFormatted target cells
      else if args.isEmpty then putCells target [.input (← wholeRecord)]
      else putCells target cells
    | .choice test yes no =>
      if (← eval n test).isTrue then exec n yes
      else match no with
        | some s => exec n s
        | none => return
    | .whileLoop test body =>
      rounds (do if (← eval n test).isTrue then roundOf (exec n body) else return false) maxRounds
    | .doLoop body test =>
      rounds (do if ← roundOf (exec n body) then return (← eval n test).isTrue else return false) maxRounds
    | .forLoop start test step body =>
      match start with
      | some e =>
        let _ ← eval n e
      | none => pure ()
      rounds (do
        let goesOn ← match test with
          | some e => do pure (← eval n e).isTrue
          | none => pure true
        if !goesOn then return false
        else if ← roundOf (exec n body) then
          match step with
          | some e =>
            let _ ← eval n e
          | none => pure ()
          return true
        else return false) maxRounds
    | .forEach key table body =>
      let keys := (← tableAt (← tableNumber table)).keys
      forKeys keys fun k => do
        setValue key (.text k)
        roundOf (exec n body)
    | .block body => body.forM fun s => exec n s
    | .delete table none => setTable (← tableNumber table) []
    | .delete table (some keys) =>
      let key ← keyOf n keys
      let k ← tableNumber table
      setTable k ((← tableAt k).filter (·.1 != key))
    | .endLoop => throw .endLoop
    | .nextRound => throw .nextRound
    | .nextRecord => throw .nextRecord
    | .nextFile => throw .nextFile
    | .exit code =>
      match code with
      | some e =>
        let x := (← eval n e).toNumber
        modify fun s => { s with code := ((Real.ofFloat x).truncated % 256).toNat }
      | none => pure ()
      throw .quit
    | .result value =>
      match value with
      | some e => throw (.result (← eval n e))
      | none => throw (.result .unset)
where
  /-- Do something for each key until it says that it was the last. -/
  forKeys : List Octets → (Octets → RecordM Bool) → RecordM Unit
    | [], _ => return
    | k :: rest, f => do if ← f k then forKeys rest f

end

/-! ## Rules -/

/-- How deep programs may be nested when they are carried out. -/
def maxDepth : Nat := 6000

def isTrue (e : Expr) : RecordM Bool := do return (← eval maxDepth e).isTrue

/-- Whether a rule is for the record. Between the first and the last of a range it is for every one. -/
def isFor (index : Nat) : Pattern → RecordM Bool
  | .start => return false
  | .finish => return false
  | .always => return true
  | .single e => isTrue e
  | .range first last => do
    let isInside := (← get).active.contains index
    let begins ← if isInside then pure true else isTrue first
    if begins then
      let ends ← isTrue last
      modify fun s => { s with
        active := if ends then s.active.filter (· != index)
          else if isInside then s.active else index :: s.active }
      return true
    else return false

def act (body : Option Statement) : RecordM Unit := do
  match body with
  | some s => exec maxDepth s
  | none => putCells none [.input (← wholeRecord)]

/-- Carry out the rules for the record that there is. -/
def applyRules (rules : List (Rule × Nat)) : RecordM Unit :=
  rules.forM fun (r, i) => do if ← isFor i r.pattern then act r.body

/-- Carry out the rules for every record. -/
def applyToAll (rules : List (Rule × Nat)) : (tries : Nat) → RecordM Unit
  | 0 => return
  | n + 1 => do
    match ← nextRecord? maxFiles with
    | none => return
    | some o =>
      inShell takeStep
      setRecord o
      tryCatch (applyRules rules) fun jump =>
        match jump with
        | .nextRecord => return
        | .nextFile => modify fun s => { s with source := none }
        | jump => throw jump
      applyToAll rules n

def isStart (r : Rule) : Bool :=
  match r.pattern with
  | .start => true
  | _ => false

def isFinish (r : Rule) : Bool :=
  match r.pattern with
  | .finish => true
  | _ => false

/-- Do something up to where the program asks for an end; tells whether it did. -/
def untilQuit (m : RecordM Unit) : RecordM Bool :=
  tryCatch (do m; return false) fun jump =>
    match jump with
    | .quit => return true
    | _ => return false

/-- Carry out a program: what comes first, what is for the records, and what comes last. -/
def runProgram (p : Program) : RecordM Unit := do
  let bodies (rules : List Rule) : RecordM Unit := rules.forM fun r => act r.body
  let forRecords := p.rules.zipIdx.filter fun (r, _) => !isStart r && !isFinish r
  let last := p.rules.filter isFinish
  let hasQuit ← untilQuit (bodies (p.rules.filter isStart))
  if !hasQuit ∧ (forRecords.length > 0 ∨ last.length > 0) then
    let _ ← untilQuit (applyToAll forRecords Utility.maxBlocks)
  let _ ← untilQuit (bodies last)
  closeAll

end KarelBuild.Shell.Records
