import KarelBuild.Shell.Utility.Basic

/-!
# Arranged arguments

`getopt` puts the arguments of a script into an order that is easy to go through: each option on its own with
its value behind it, then two dashes, then the operands.
-/

namespace KarelBuild.Shell.Utility

open ShellM

namespace Arranging

/-- Which options there are, and what happens with operands between them. -/
structure Spec where
  short : List (Char × Takes) := []
  long : List (Octets × Takes) := []
  /-- Options end with the first operand. -/
  stops : Bool := false
  /-- Operands stay where they are. -/
  keepsPlaces : Bool := false
  /-- One dash may stand before long names. -/
  alternative : Bool := false

/-- Short options, each with as many colons behind it as it takes: none, one for a value, two for one that may be
missing. -/
def shortOptions : Octets → List (Char × Takes)
  | c :: ':' :: ':' :: r => (c, .maybe) :: shortOptions r
  | c :: ':' :: r => (c, .value) :: shortOptions r
  | c :: r => (c, .nothing) :: shortOptions r
  | [] => []

def longOptions (o : Octets) : List (Octets × Takes) :=
  let words := (Text.split ',' (o.map fun c => if " \t\n".toList.contains c then ',' else c)).filter (· != [])
  words.map fun w =>
    let name := (w.reverse.dropWhile (· == ':')).reverse
    (name, match w.length - name.length with
      | 0 => Takes.nothing
      | 1 => .value
      | _ => .maybe)

def specOf (short : Octets) (long : List (Octets × Takes)) (stopsAnyway alternative : Bool) : Spec :=
  let stops := short.head? = some '+' || stopsAnyway
  let keepsPlaces := short.head? = some '-'
  let body := if short.head? = some '+' ∨ short.head? = some '-' then short.drop 1 else short
  let body := if body.head? = some ':' then body.drop 1 else body
  { short := shortOptions body, long, stops := stops && !keepsPlaces, keepsPlaces, alternative }

/-- What has been found so far: options and values to be shown, the last first; operands, the last first; and
complaints, the last first. -/
structure Found where
  back : List Octets := []
  operands : List Octets := []
  faults : List Octets := []

namespace Found

def note (f : Found) (message : Octets) : Found := { f with faults := message :: f.faults }

def put (f : Found) (words : List Octets) : Found := { f with back := words.reverse ++ f.back }

end Found

/-- A value or an operand as it is shown. -/
def shownValue (quotes : Bool) (o : Octets) : Octets :=
  if quotes then '\'' :: o.flatMap (fun c => if c = '\'' then "'\\''".toList else [c]) ++ ['\''] else o

section

variable (spec : Spec) (shown : Octets → Octets)

/-- A long option by its name or the beginning of it. -/
def longNamed (dashes name : Octets) : Except Octets (Octets × Takes) :=
  match spec.long.find? (·.1 == name) with
  | some f => .ok f
  | none =>
    match spec.long.filter fun f => name.isPrefixOf f.1 with
    | [f] => .ok f
    | [] => .error ("unrecognized option '".toList ++ dashes ++ name ++ ['\''])
    | several =>
      .error ("option '".toList ++ dashes ++ name ++ "' is ambiguous; possibilities:".toList ++
        several.flatMap fun f => " '".toList ++ dashes ++ f.1 ++ ['\''])

/-- Go through arguments. -/
def arrange : (steps : Nat) → List Octets → Found → Found
  | 0, _, f => f
  | _, [], f => f
  | n + 1, a :: rest, f =>
    let byLongName (dashes body : Octets) : Found :=
      let (name, value) := Text.cut '=' body
      match longNamed spec dashes name with
      | .error message => arrange n rest (f.note message)
      | .ok (full, takes) =>
        let option := "--".toList ++ full
        match takes, value with
        | .nothing, some _ =>
          arrange n rest (f.note ("option '".toList ++ dashes ++ full ++ "' doesn't allow an argument".toList))
        | .nothing, none => arrange n rest (f.put [option])
        | .maybe, v => arrange n rest (f.put [option, shown (v.getD [])])
        | .value, some v => arrange n rest (f.put [option, shown v])
        | .value, none =>
          match rest with
          | v :: rest => arrange n rest (f.put [option, shown v])
          | [] => f.note ("option '".toList ++ dashes ++ full ++ "' requires an argument".toList)
    match a with
    | ['-', '-'] => { f with operands := rest.reverse ++ f.operands }
    | '-' :: '-' :: body => byLongName "--".toList body
    | '-' :: c :: cs =>
      let isLong := spec.alternative && (match longNamed spec ['-'] (Text.cut '=' (c :: cs)).1 with
        | .ok _ => cs != [] || !spec.short.any (·.1 == c)
        | .error _ => !spec.short.any (·.1 == c))
      if isLong then byLongName ['-'] (c :: cs)
      else
        let rest' := if cs = [] then rest else ('-' :: cs) :: rest
        match if c = ':' then none else spec.short.lookup c with
        | none => arrange n rest' (f.note ("invalid option -- '".toList ++ [c, '\'']))
        | some .nothing => arrange n rest' (f.put [['-', c]])
        | some .maybe => arrange n rest (f.put [['-', c], shown cs])
        | some .value =>
          if cs ≠ [] then arrange n rest (f.put [['-', c], shown cs])
          else match rest with
            | v :: rest => arrange n rest (f.put [['-', c], shown v])
            | [] => f.note ("option requires an argument -- '".toList ++ [c, '\''])
    | _ =>
      if spec.stops then { f with operands := (a :: rest).reverse ++ f.operands }
      else if spec.keepsPlaces then arrange n rest (f.put [shown a])
      else arrange n rest { f with operands := a :: f.operands }

end

/-- Show arranged arguments; complaints are made under a name. -/
def showArranged (spec : Spec) (quotes quiet silent : Bool) (name : Octets) (args : List Octets) : ShellM Nat := do
  let steps := sumOf (args.map (·.length)) + args.length + 1
  let f := arrange spec (shownValue quotes) steps args {}
  if !quiet then
    for message in f.faults.reverse do say 2 (name ++ ": ".toList ++ message ++ ['\n'])
  if !silent then
    let words := f.back.reverse ++ "--".toList :: f.operands.reverse.map (shownValue quotes)
    emitLine (words.flatMap fun w => ' ' :: w)
  return if f.faults = [] then 0 else 1

def misuseOptions {α : Type} (message : Octets) : ShellM α := do
  grumble message
  say 2 "Try 'getopt --help' for more information.\n".toList
  exit 2

def getopt : Utility := fun _ args => do
  let stopsAnyway := ((← shell).var? "POSIXLY_CORRECT".toList).isSome
  let isOld := ((← shell).var? "GETOPT_COMPATIBLE".toList).isSome
  match args with
  | [] =>
    if isOld then
      emitLine " --".toList
      return 0
    else misuseOptions "missing optstring argument".toList
  | first :: rest =>
    if first.head? ≠ some '-' ∨ isOld then
      let body := first.dropWhile fun c => c == '-' || c == '+'
      showArranged (specOf body [] stopsAnyway false) false false false "getopt".toList rest
    else
      let g ← readGiven (forms [('a', "alternative"), ('q', "quiet"), ('Q', "quiet-output"), ('T', "test"),
        ('u', "unquoted"), ('h', "help"), ('V', "version")]
        [('l', "longoptions"), ('n', "name"), ('o', "options"), ('s', "shell")]) 2 false args
      if g.has 'V' then introduce (versionLine "getopt".toList)
      if g.has 'T' then return 4
      for (c, v) in g.options do
        if c = 's' ∧ !(["sh", "bash", "csh", "tcsh"].any (·.toList == v)) then
          misuseOptions "unknown shell after -s or --shell argument".toList
      let (short, operands) ← match g.value? 'o', g.operands with
        | some o, operands => pure (o, operands)
        | none, o :: operands => pure (o, operands)
        | none, [] => misuseOptions "missing optstring argument".toList
      let long := (g.options.filter (·.1 == 'l')).flatMap fun (_, v) => longOptions v
      showArranged (specOf short long stopsAnyway (g.has 'a')) (!g.has 'u') (g.has 'q') (g.has 'Q')
        ((g.value? 'n').getD "getopt".toList) operands

end Arranging

end KarelBuild.Shell.Utility
