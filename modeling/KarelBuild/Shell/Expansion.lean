import KarelBuild.Shell.Brace
import KarelBuild.Shell.Calculation
import KarelBuild.Shell.Quoting

/-!
# Expansion

Expanding a word gives runs of glyphs: the values of parameters, the output of commands, sums, and
the text in between. A mode says whether fields will be cut out of the result.
-/

namespace KarelBuild.Shell

open ShellM

/-- How a word is expanded: into fields or not, whether it is the argument of a parameter outside
quotes, whose text is cut as well, and where a tilde stands for a home directory. -/
structure Mode where
  full : Bool := false
  cutsText : Bool := false
  tilde : Bool := false
  tildeBehindColon : Bool := false

/-! ## Values -/

/-- What a parameter stands for. -/
inductive Fetched where
  | missing
  | one (o : Octets)
  | many (items : List Octets) (apart : Bool)

namespace Fetched

def isEmpty : Fetched → Bool
  | missing => true
  | one o => o.isEmpty
  | many items _ => items.all (·.isEmpty) && items.length ≤ 1

def map (f : Octets → Octets) : Fetched → Fetched
  | missing => missing
  | one o => one (f o)
  | many items apart => many (items.map f) apart

def ofOption (o : Option Octets) : Fetched := o.elim missing one

/-- Whether nothing is there, or with `emptyToo` nothing but the empty text. In the rich dialect a list
without members is nothing. -/
def isMissing (rich emptyToo : Bool) : Fetched → Bool
  | missing => true
  | many [] apart => rich || (emptyToo && (many [] apart).isEmpty)
  | f => emptyToo && f.isEmpty

end Fetched

/-- What a place of a list or a table that an index names holds. -/
def fetch (s : State) (name : Text) (sub : Subscript) (index : Octets) : Fetched :=
  match name, sub with
  | ['@'], _ => .many s.shell.args true
  | ['*'], _ => .many s.shell.args false
  | _, .each => ofVariable true
  | _, .joined => ofVariable false
  | _, .member _ => .ofOption ((s.var? (s.shell.meantName name)).bind fun v => v.content.at? index)
  | _, .none => .ofOption (s.parameter? name)
where
  ofVariable (apart : Bool) : Fetched :=
    match s.var? (s.shell.meantName name) with
    | some v => .many v.content.members apart
    | none => .many [] apart

def joinGlyphs (separator : List Glyph) : List (List Glyph) → List Glyph
  | [] => []
  | [g] => g
  | g :: gs => g ++ separator ++ joinGlyphs separator gs

/-- A value as it is expanded inside or outside quotes. -/
def runOf (p : Process) (full inQuotes : Bool) : Fetched → List Run
  | .missing => []
  | .one o => [⟨if inQuotes then .never else .atSeparators, Glyph.ofText (!inQuotes) o⟩]
  | .many items apart =>
    let parts := items.map (Glyph.ofText (!inQuotes))
    if full && inQuotes && apart then
      if items = [] then [] else [⟨.atGaps, joinGlyphs [.gap] parts⟩]
    else if full && !inQuotes then [⟨.atSeparators, joinGlyphs [.gap] parts⟩]
    else
      let joint := Glyph.ofText false (if apart && p.dialect == .rich then [' '] else Separators.joint p)
      [⟨if inQuotes then .never else .atSeparators, joinGlyphs joint parts⟩]

/-- The length of a value; arguments count with what stands between them. -/
def lengthOf (rich : Bool) (f : Fetched) : Nat :=
  match f with
  | .missing => 0
  | .one o => o.length
  | .many items _ => if rich then items.length else sumOf (items.map (·.length)) + (items.length - 1)

/-! ## Home directories -/

/-- The directory that a tilde and a name stand for. -/
def homeOf (p : Process) (name : Text) : Option Octets :=
  if name = [] then p.value? "HOME".toList
  else if name = "root".toList then some "/root".toList
  else if p.dialect = .rich ∧ name = ['+'] then p.value? "PWD".toList
  else if p.dialect = .rich ∧ name = ['-'] then p.value? "OLDPWD".toList
  else none

/-- Text behind a tilde: its home directory and what follows; the name has to end here. -/
def tilded? (p : Process) (stopsAtColon isLast : Bool) (t : Text) : Option (Octets × Text) :=
  let name := t.takeWhile fun c => c != '/' && !(stopsAtColon && c == ':')
  let rest := t.drop name.length
  if rest = [] ∧ !isLast then none else (homeOf p name).map (·, rest)

/-- Unquoted text with tildes where they may stand. -/
def plainGlyphs (p : Process) (isLast : Bool) : (tilde behindColon : Bool) → (steps : Nat) → Text →
    List Glyph
  | _, _, 0, _ => []
  | _, _, _, [] => []
  | tilde, behindColon, n + 1, c :: r =>
    if c = '~' ∧ tilde then
      match tilded? p behindColon isLast r with
      | some (home, rest) =>
        Glyph.ofText false home ++ plainGlyphs p isLast false behindColon n rest
      | none => .char c true :: plainGlyphs p isLast false behindColon n r
    else .char c true :: plainGlyphs p isLast (behindColon && c == ':') behindColon n r

/-! ## Changes -/

def refuseValue {α : Type} (message : Octets) : ShellM α := do
  complain message
  failWith (if ← isRich then 1 else 2)

/-- End the shell for a parameter that is not there. -/
def endFor {α : Type} (message : Octets) : ShellM α := do
  complain message
  if ← isRich then
    let p ← shell
    setStatus (if p.source.isSome || p.isSubshell then 1 else 127)
    throw .exit
  else failWith 2

def refuseUnset {α : Type} (name : Text) : ShellM α := do
  let reason := if ← isRich then ": unbound variable" else ": parameter not set"
  endFor (name ++ reason.toList)

/-- Upper, lower or the other case, of the first character or of all, as far as they match. -/
def recase (casing : Recasing) (all : Bool) (is : List PatternItem) (o : Octets) : Octets :=
  let change (c : Char) : Char := match casing with
    | .upper => c.toUpper
    | .lower => c.toLower
    | .toggle => if c.isUpper then c.toLower else c.toUpper
  let f (c : Char) : Char := if is.isEmpty || Pattern.isMatch is [c] then change c else c
  if all then o.map f
  else match o with
    | c :: r => f c :: r
    | [] => []

/-- A part of a list by an offset and a length, which count from the end if negative. -/
def sliceOf {α : Type} (items : List α) (offset : Int) (length : Option Int) : List α :=
  let size : Int := items.length
  let start := if offset < 0 then size + offset else offset
  if start < 0 ∨ size < start then []
  else match length with
    | none => items.drop start.toNat
    | some n =>
      if n < 0 then (items.drop start.toNat).take (size + n - start).toNat
      else (items.drop start.toNat).take n.toNat

/-- Set the parameter that was missing; gives what it holds then. -/
def assignParameter (name : Text) (sub : Subscript) (index o : Octets) : ShellM Octets := do
  if !isName name then
    if ← isRich then refuseValue ('$' :: name ++ ": cannot assign in this way".toList)
    else refuseValue (name ++ ": bad variable name".toList)
  else
    match sub with
    | .member _ => assignPlace name index o
    | _ => assignVar name o
    match fetch (← get) name sub index with
    | .one o => return o
    | _ => return o

def dropLineEnds (o : Octets) : Octets := (o.reverse.dropWhile (· == '\n')).reverse

/-! ## Words -/

/-- How the words inside a word are expanded. -/
abbrev Expander := Mode → Word → ShellM (List Run)

/-- How commands in a word are run: for what they write, or beside the shell with a name for the stream. -/
structure Commands where
  output : Statement → ShellM Octets
  stream : (reads : Bool) → Statement → ShellM Octets

section

variable (run : Commands) (inner : Expander)

def innerText (w : Word) : ShellM Octets := do return Run.text (← inner { tilde := true } w)

def innerItems (caret : Bool) (w : Word) : ShellM (List PatternItem) := do
  let extended := hasHabit (← get) "extglob"
  return Pattern.itemsWith caret extended (Run.marked (← inner { tilde := true } w))

def innerNumber (w : Word) : ShellM Int := do Arithmetic.value (Run.text (← inner {} w))

/-- The member that an index means: a key of a table, or the number that it works out to. -/
def indexOf (name : Text) (o : Octets) : ShellM Octets := do
  match ← placeIndex name o with
  | (index, true) => return index
  | _ =>
    complain (name ++ ": bad array subscript".toList)
    return []

def memberIndex (name : Text) (sub : Subscript) : ShellM Octets := do
  match sub with
  | .member e => indexOf name (← innerText inner e)
  | _ => return []

/-- A parameter with its value. -/
structure Parameter where
  inQuotes : Bool
  name : Text
  sub : Subscript
  index : Octets
  value : Fetched

namespace Parameter

def isApart (x : Parameter) : Bool :=
  match x.sub with
  | .each => true
  | _ => x.name == ['@']

/-- The name with its subscript. -/
def written (x : Parameter) : Octets :=
  match x.sub with
  | .none => x.name
  | .each => x.name ++ "[@]".toList
  | .joined => x.name ++ "[*]".toList
  | .member _ => x.name ++ '[' :: x.index ++ [']']

end Parameter

variable (mode : Mode) (x : Parameter)

def runsOf (f : Fetched) : ShellM (List Run) := do return runOf (← shell) mode.full x.inQuotes f

def refuseMissing (f : Fetched) : ShellM Unit := do
  match f with
  | .missing => if ← hasOption 'u' then refuseUnset x.written else return
  | _ => return

/-- The value, which has to be there if that is asked for. -/
def kept (f : Fetched) : ShellM (List Run) := do
  refuseMissing x f
  runsOf mode x f

def argument (w : Word) : ShellM (List Run) :=
  inner { full := mode.full, cutsText := !x.inQuotes, tilde := true } w

/-- Why a parameter that has to be there is not. -/
def missingReason (rich emptyToo : Bool) : String :=
  if !emptyToo then "parameter not set"
  else if rich then "parameter null or not set"
  else "parameter not set or null"

def orFail (emptyToo : Bool) (w : Word) : ShellM (List Run) := do
  let rich ← isRich
  if x.value.isMissing rich emptyToo then
    let o ← innerText inner w
    endFor (x.written ++ ": ".toList ++ if w.isEmpty then (missingReason rich emptyToo).toList else o)
  else runsOf mode x x.value

def trimmed (rich front : Bool) (cut : Octets → Octets) (f : Fetched) : Fetched :=
  match f with
  | .many items apart =>
    if rich then .many (items.map cut) apart
    else if front then .many ((items.take 1).map cut ++ items.drop 1) apart
    else .many (items.dropLast ++ (items.getLast?.map cut).toList) apart
  | f => f.map cut

/-- Whether a length that counts from the end leaves less than nothing. -/
def isTooShort (size start : Int) (count : Option Int) : Bool :=
  count.any fun c => c < 0 && size + c < (if start < 0 then size + start else start)

def sliced (offset : Word) (length : Option Word) : ShellM (List Run) := do
  let start ← innerNumber inner offset
  let count ← length.mapM (innerNumber inner)
  let p ← shell
  let tooShort : ShellM (List Run) := refuseValue (Text.ofInt (count.getD 0) ++ ": substring expression < 0".toList)
  match x.value with
  | .many items apart =>
    if count.any (· < 0) then tooShort
    else if x.name = ['@'] ∨ x.name = ['*'] then
      kept mode x (.many (sliceOf (p.name :: items) start count) apart)
    else match ((← get).var? (p.meantName x.name)).map (·.content) with
      | some (Content.list ms) =>
        let size : Int := ((ms.getLast?.map (·.1 + 1)).getD 0 : Nat)
        let from_ := if start < 0 then size + start else start
        let behind := if from_ < 0 then [] else ms.filter fun m => from_ ≤ m.1
        let taken := match count with
          | some n => behind.take n.toNat
          | none => behind
        kept mode x (.many (taken.map (·.2)) apart)
      | _ => kept mode x (.many (sliceOf items start count) apart)
  | .one o =>
    if isTooShort o.length start count then tooShort else kept mode x (.one (sliceOf o start count))
  | .missing => kept mode x .missing

/-- What a match is replaced by: the text, in which marks stand for the match if that is asked for. -/
def replacement (marks : Bool) : List Marked → (found : Octets) → Octets
  | [], _ => []
  | ('\\', true) :: (c, b) :: r, found =>
    if marks && (c == '&' || c == '\\') then c :: replacement marks r found
    else '\\' :: replacement marks ((c, b) :: r) found
  | (c, active) :: r, found =>
    if marks && active && c == '&' then found ++ replacement marks r found
    else c :: replacement marks r found
termination_by w => w.length

/-- Replace matches: where one begins the text, where one ends it, or wherever they are. -/
def replaced (all : Bool) (anchor : Text) (is : List PatternItem) (put : Octets → Octets) (o : Octets) : Octets :=
  match anchor with
  | ['#'] =>
    match Pattern.longestFront? is o with
    | some k => put (o.take k) ++ o.drop k
    | none => o
  | ['%'] =>
    match (List.range (o.length + 1)).find? fun k => Pattern.isMatch is (o.drop k) with
    | some k => o.take k ++ put (o.drop k)
    | none => o
  | _ => if is.isEmpty then o else Pattern.replace is all put (o.length + 1) o

/-- The letters that tell what a variable is. -/
def attributesOf (s : State) (name : Text) : Octets :=
  ((s.var? (s.shell.meantName name)).map Variable.letters).getD []

/-- What an operator behind an at sign makes of a value. -/
def transformed (c : Char) : ShellM (List Run) := do
  let s ← get
  let v := s.var? (s.shell.meantName x.name)
  let isArgs := x.name = ['@'] ∨ x.name = ['*']
  let each (f : Octets → Octets) : ShellM (List Run) := kept mode x (x.value.map f)
  match c with
  | 'U' => each fun o => o.map Char.toUpper
  | 'L' => each fun o => o.map Char.toLower
  | 'u' => each (recase .upper false [])
  | 'Q' => each Quoting.reusable
  | 'E' => each Quoting.unescaped
  | 'P' => each (Quoting.prompt s.shell)
  | 'a' =>
    let letters := attributesOf s x.name
    match x.value with
    | .many items apart => kept mode x (.many (items.map fun _ => letters) apart)
    | _ => if v.isSome then kept mode x (.one letters) else kept mode x .missing
  | 'A' =>
    match x.value, v with
    | .many items apart, v =>
      if isArgs then
        kept mode x (.one ("set -- ".toList ++ Text.join [' '] (items.map Quoting.reusable)))
      else match v with
        | some v => kept mode x (.many [(Quoting.declared x.name v).dropLast] apart)
        | none => kept mode x (.many [] apart)
    | .one o, some v =>
      let bare := x.name ++ '=' :: Quoting.reusable o
      kept mode x (.one (if v.letters = [] then bare else "declare -".toList ++ v.letters ++ ' ' :: bare))
    | .missing, some v =>
      kept mode x (.one ("declare -".toList ++ (if v.letters = [] then ['-'] else v.letters) ++ ' ' :: x.name))
    | _, none => kept mode x .missing
  | 'K' =>
    match x.value, v.map (·.content) with
    | .many _ apart, some content =>
      if isArgs then each Quoting.reusable
      else
        let pair (key o : Octets) : Octets := Quoting.key key ++ ' ' :: Quoting.double o
        kept mode x (.many [Text.join [' '] (List.zipWith pair content.keys content.members)
          ++ (match content with | .table _ => [' '] | _ => [])] apart)
    | _, _ => each Quoting.reusable
  | 'k' =>
    match x.value, v.map (·.content) with
    | .many _ apart, some content =>
      if isArgs then each Quoting.reusable
      else kept mode x (.many ((content.keys.zip content.members).flatMap fun (k, o) => [k, o]) apart)
    | _, _ => each Quoting.reusable
  | _ => kept mode x x.value

/-- The parameter that a text names, apart from quotes. -/
def parameterOf (inQuotes : Bool) (t : Octets) : ShellM Parameter := do
  let make (name : Text) (sub : Subscript) (index : Octets) : ShellM Parameter := do
    return ⟨inQuotes, name, sub, index, fetch (← get) name sub index⟩
  match Process.cutPlace t with
  | (name, some ['@']) => make name .each []
  | (name, some ['*']) => make name .joined []
  | (name, some i) => make name (.member [.plain i]) (← indexOf name i)
  | (name, none) => make name .none []

def isParameterName (t : Octets) : Bool :=
  let name := (Process.cutPlace t).1
  isName name || (name != [] && name.all Char.isDigit) || (match name with | [c] => isSpecialName c | _ => false)

def changed (x : Parameter) : Change → ShellM (List Run)
  | .bare => kept mode x x.value
  | .keep => kept mode x x.value
  | .size => do
    refuseMissing x x.value
    runsOf mode x (.one (Text.ofNat (lengthOf (← isRich) x.value)))
  | .orElse emptyToo w => do
    if x.value.isMissing (← isRich) emptyToo then argument inner mode x w else runsOf mode x x.value
  | .instead emptyToo w => do
    if x.value.isMissing (← isRich) emptyToo then return [] else argument inner mode x w
  | .orAssign emptyToo w => do
    if x.value.isMissing (← isRich) emptyToo then
      runsOf mode x (.one (← assignParameter x.name x.sub x.index (← innerText inner w)))
    else runsOf mode x x.value
  | .orFail emptyToo w => orFail inner mode x emptyToo w
  | .trim front longest pattern => do
    let rich ← isRich
    let is ← innerItems inner rich pattern
    let cut := if front then Pattern.dropFront longest is else Pattern.dropBack longest is
    kept mode x (trimmed rich front cut x.value)
  | .slice offset length => sliced inner mode x offset length
  | .replace all anchor pattern put => do
    let is ← innerItems inner true pattern
    let put := Run.marked (← inner { tilde := true } put)
    let marks := hasHabit (← get) "patsub_replacement"
    kept mode x (x.value.map (replaced all anchor is (replacement marks put)))
  | .recase casing all pattern => do
    let is ← innerItems inner true pattern
    kept mode x (x.value.map (recase casing all is))
  | .transform c => transformed mode x c
  | .names => do
    let names := ((← shell).vars.filter fun v => x.name.isPrefixOf v.1 && v.2.content != .unset).map (·.1)
    kept mode x (.many (names.mergeSort Text.le) x.isApart)
  | .keys => do
    let s ← get
    kept mode x (.many ((s.var? (s.shell.meantName x.name)).elim [] (·.content.keys)) x.isApart)
  | .through change => do
    let p ← shell
    let refers := (p.var? x.name).any (·.refers)
    match refers, change, p.value? x.name, x.value with
    | true, .keep, some target, _ => kept mode x (.one target)
    | _, _, _, .one target =>
      if isParameterName target then changed (← parameterOf x.inQuotes target) change
      else refuseValue (target ++ ": invalid variable name".toList)
    | _, _, _, _ => refuseValue (x.name ++ ": invalid indirect expansion".toList)
  | .wrong written => do
    if ← isRich then refuseValue (written ++ ": bad substitution".toList)
    else refuseValue "Bad substitution".toList

def expandPart (first last : Bool) : Part → ShellM (List Run)
  | .plain t => do
    let p ← shell
    let glyphs := plainGlyphs p last (first && mode.tilde) mode.tildeBehindColon (t.length + 1) t
    return [⟨if mode.cutsText then .atSeparators else .never, glyphs⟩]
  | .quoted t => return [.fixed false t]
  | .quoteMark _ => return [⟨.never, [.mark]⟩]
  | .output q body => do
    let o := (dropLineEnds (← run.output body)).filter (· != '\x00')
    return [⟨if q then .never else .atSeparators, Glyph.ofText (!q) o⟩]
  | .process reads body => do return [.fixed false (← run.stream reads body)]
  | .sum q expression => do
    let k ← innerNumber inner expression
    return [⟨if q then .never else .atSeparators, Glyph.ofText false (Text.ofInt k)⟩]
  | .value q name sub change => do
    if name = "RANDOM".toList || name = "SRANDOM".toList then drawRandom
    let index ← memberIndex inner name sub
    changed inner mode ⟨q, name, sub, index, fetch (← get) name sub index⟩ change

/-- Expand the parts of a word one after another. -/
def expandAll (first : Bool) : Word → ShellM (List Run)
  | [] => return []
  | p :: rest => do
    let rs ← expandPart run inner mode first rest.isEmpty p
    return rs ++ (← expandAll false rest)

end

/-- Expand a word with what is nested in it; `run` runs the commands. -/
def expandParts (run : Commands) : (depth : Nat) → Mode → Word → ShellM (List Run)
  | 0, _, _ => return []
  | n + 1, mode, w => expandAll run (expandParts run n) mode true w

/-- How deep expansions may be nested. -/
def maxNesting : Nat := 500

def expand (run : Commands) (mode : Mode) (w : Word) : ShellM (List Run) :=
  expandParts run maxNesting mode w

/-- What stands in front of the value in a word that looks as if it gave a variable one. -/
def cutName? : Word → Option (Text × Word)
  | .plain t :: rest =>
    let name := t.takeWhile isNameChar
    match t.drop name.length with
    | '=' :: r => if isName name then some (name ++ ['='], if r = [] then rest else .plain r :: rest) else none
    | _ => none
  | _ => none

/-- Expand a word of a command. In the rich dialect a tilde may stand where a value begins. -/
def expandArgument (run : Commands) (w : Word) : ShellM (List Run) := do
  match ← isRich, cutName? w with
  | true, some (name, value) =>
    return Run.fixed false name :: (← expand run { full := true, tilde := true, tildeBehindColon := true } value)
  | _, _ => expand run { full := true, tilde := true } w

/-- The fields that a word without braces expands to. -/
def expandUnbraced (run : Commands) (w : Word) : ShellM (List Octets) := do
  let rs ← expandArgument run w
  let s ← get
  let fields := Cutting.fields (Separators.ofProcess s.shell) rs
  let marked := fields.map fun f => f.filterMap Glyph.marked?
  if hasHabit s "failglob" then
    match marked.find? fun f => (foundPaths? s f).any (·.isEmpty) with
    | some f => refuseValue ("no match: ".toList ++ f.map (·.1))
    | none => pure ()
  return marked.flatMap (pathsOf s)

/-- The fields that a word expands to. -/
def expandFields (run : Commands) (w : Word) : ShellM (List Octets) := do
  if (← isRich) && !(← hasOption Switch.noBraces) then (Brace.expand w).flatMapM (expandUnbraced run)
  else expandUnbraced run w

/-- The text of a word that stays in one piece. -/
def expandText (run : Commands) (w : Word) : ShellM Octets := do
  return Run.text (← expand run { tilde := true } w)

/-- The text that a variable is set to. -/
def expandValue (run : Commands) (w : Word) : ShellM Octets := do
  return Run.text (← expand run { tilde := true, tildeBehindColon := true } w)

/-- A word that is a pattern. -/
def expandPattern (run : Commands) (w : Word) : ShellM (List Marked) := do
  return Run.marked (← expand run { tilde := true } w)

end KarelBuild.Shell
