import KarelBuild.Shell.Utility.Permissions
import KarelBuild.Shell.Utility.Sorting

/-!
# Listing directories

`ls` shows the names in directories, one to a line, in columns or with all that is known of them.
-/

namespace KarelBuild.Shell.Utility

open ShellM

/-! ## Styles -/

inductive ListShape where
  | lines
  | long
  | commas
  | columns
  | across
  deriving DecidableEq, Repr

inductive ListOrder where
  | name
  | time
  | size
  | extension
  | version
  | width
  | found
  deriving DecidableEq, Repr

/-- What is marked behind names: nothing, directories, kinds, or kinds and what can be run. -/
inductive Marking where
  | nothing
  | slash
  | kinds
  | all
  deriving DecidableEq, Repr

/-- How names are written. -/
inductive NameStyle where
  | plain
  | masked
  | escaped
  | quoted
  | shell
  | shellAlways
  | shellEscape
  | shellEscapeAlways
  deriving DecidableEq, Repr

/-- How times are written: by a format, or by one for times near the present and one for others. -/
structure TimeStyle where
  recent : Octets
  old : Octets

structure ListStyle where
  shape : ListShape := .lines
  order : ListOrder := .name
  marking : Marking := .nothing
  names : NameStyle := .plain
  time : TimeStyle
  /-- Whether names that begin with a dot are shown, and whether the two that every directory has are. -/
  hidden : Bool := false
  dots : Bool := false
  reversed : Bool := false
  dirsFirst : Bool := false
  deep : Bool := false
  nodes : Bool := false
  blocks : Bool := false
  owner : Bool := true
  group : Bool := true
  numeric : Bool := false
  follows : Bool := false
  /-- The base of units for sizes that are written shortly. -/
  units : Option Nat := none
  passedOver : List Octets := []
  passedUnlessAll : List Octets := []
  lineWidth : Nat := 80
  tabWidth : Nat := 8
  stop : Char := '\n'

structure ListItem where
  name : Octets
  status : Status
  /-- What a symbolic link leads to. -/
  target : Option Status := none

/-! ## Names -/

/-- A name with escapes for what cannot be printed. -/
def escapedName (isSpecial : Char → Bool) (o : Octets) : Octets :=
  o.flatMap fun c =>
    if c = '\\' ∨ isSpecial c then ['\\', c]
    else if isPrintable c then [c]
    else match escapeLetter.lookup c with
      | some d => ['\\', d]
      | none => octalDigits c

def shownName (s : NameStyle) (o : Octets) : Octets :=
  match s with
  | .plain => o
  | .masked => o.map fun c => if isPrintable c then c else '?'
  | .escaped => escapedName (· == ' ') o
  | .quoted => '"' :: escapedName (· == '"') o ++ ['"']
  | .shell => if o.all isPrintable then named o else '\'' :: o ++ ['\'']
  | .shellAlways => if o.all isPrintable then quoted o else '\'' :: o ++ ['\'']
  | .shellEscape => named o
  | .shellEscapeAlways => quoted o

def kindMark (m : Marking) (f : Status) : Octets :=
  let rest : Octets := match f.kind with
    | .dir => ['/']
    | .link => if m = .slash then [] else ['@']
    | .pipe => if m = .slash then [] else ['|']
    | .file => if m = .all ∧ f.mode &&& World.runBits ≠ 0 then ['*'] else []
    | .characters => []
  if m = .nothing then [] else rest

/-! ## Sizes -/

/-- A size in the largest unit that leaves a number below the base, rounded up. -/
def shortSize (base n : Nat) : Octets :=
  let letters := (if base = 1024 then "KMGTPE" else "kMGTPE").toList
  if n < base then Text.ofNat n
  else go letters base
where
  go : List Char → Nat → Octets
    | [], unit => Text.ofNat (n / unit)
    | c :: cs, unit =>
      let tenths := (n * 10 + unit - 1) / unit
      let whole := (n + unit - 1) / unit
      if tenths < 100 then Text.ofNat (tenths / 10) ++ '.' :: Text.ofNat (tenths % 10) ++ [c]
      else if whole < base ∨ cs = [] then Text.ofNat whole ++ [c]
      else go cs (unit * base)

/-- How many blocks of 1024 bytes an entry takes. -/
def blockCount (f : Status) : Nat :=
  match f.kind with
  | .file => (f.size + 4095) / 4096 * 4
  | .dir => 4
  | _ => 0

def shownSize (s : ListStyle) (n : Nat) : Octets := (s.units.map (shortSize · n)).getD (Text.ofNat n)

def shownBlocks (s : ListStyle) (count : Nat) : Octets :=
  (s.units.map (shortSize · (count * 1024))).getD (Text.ofNat count)

/-! ## Lines -/

def kindLetter : Kind → Char
  | .file => '-'
  | .dir => 'd'
  | .link => 'l'
  | .characters => 'c'
  | .pipe => 'p'

def permissionText (f : Status) : Octets := kindLetter f.kind :: Mode.letters f.mode

def widest (os : List Octets) : Nat := (os.map (·.length)).foldl max 0

/-- What stands in front of the names: numbers and blocks. -/
def frontOf (s : ListStyle) (padded : Bool) (items : List ListItem) : ListItem → Octets :=
  let node (i : ListItem) : Octets := Text.ofNat i.status.node
  let blocks (i : ListItem) : Octets := shownBlocks s (blockCount i.status)
  let width (f : ListItem → Octets) : Nat := if padded then widest (items.map f) else 0
  let nodeWidth := width node
  let blockWidth := width blocks
  fun i => (if s.nodes then padLeft nodeWidth (node i) ++ [' '] else []) ++
    if s.blocks then padLeft blockWidth (blocks i) ++ [' '] else []

def shownItem (s : ListStyle) (i : ListItem) : Octets := shownName s.names i.name ++ kindMark s.marking i.status

def linkTextOf (s : ListStyle) (i : ListItem) : Octets :=
  if i.status.kind = .link then
    " -> ".toList ++ shownName s.names (Octets.ofText i.status.target) ++
      ((i.target.map (kindMark s.marking)).getD [])
  else []

def shownTime (now : Int) (s : TimeStyle) (time : Int) : Octets :=
  let isRecent := time ≤ now && now - 15778476000000 < time
  formatDate time (if isRecent then s.recent else s.old)

/-- Lines with permissions, owners, sizes and times in columns. -/
def longLines (now : Int) (s : ListStyle) (items : List ListItem) : List Octets :=
  let column (left : Bool) (f : ListItem → Octets) : ListItem → Octets :=
    let width := widest (items.map f)
    fun i => ' ' :: (if left then padRight width (f i) else padLeft width (f i))
  let names := column false fun i => Text.ofNat i.status.names
  let owner := column true fun i =>
    if s.numeric then Text.ofNat i.status.owner else accountName i.status.owner
  let group := column true fun i =>
    if s.numeric then Text.ofNat i.status.group else groupName i.status.group
  let size := column false fun i => match i.status.kind with
    | .characters => "1, 3".toList
    | _ => shownSize s i.status.size
  let time := column false fun i => shownTime now s.time i.status.time
  let front := frontOf s true items
  items.map fun i =>
    front i ++ permissionText i.status ++ names i ++ (if s.owner then owner i else []) ++
      (if s.group then group i else []) ++ size i ++ time i ++ ' ' :: shownName s.names i.name ++
      if i.status.kind = .link then linkTextOf s i else kindMark s.marking i.status

/-! ## Columns -/

/-- Blanks and tabs from one column of the page to another. -/
def indentBy (tab : Nat) : (steps : Nat) → (here there : Nat) → Octets
  | 0, _, _ => []
  | n + 1, here, there =>
    if here ≥ there then []
    else if tab ≠ 0 ∧ there / tab > (here + 1) / tab then
      '\t' :: indentBy tab n (here + tab - here % tab) there
    else ' ' :: indentBy tab n (here + 1) there

/-- The widths of columns if there are so many; `down` tells whether names follow each other downwards. -/
def columnWidths (down : Bool) (widths : List Nat) (columns : Nat) : List Nat :=
  let rows := (widths.length + columns - 1) / columns
  let columnOf (i : Nat) : Nat := if down then i / rows else i % columns
  let placed := widths.zipIdx.map fun (w, i) => (columnOf i, w + if columnOf i + 1 = columns then 0 else 2)
  (List.range columns).map fun c => placed.foldl (fun most (k, w) => if k = c then max most w else most) 3

/-- The most columns that fit into a line. -/
def bestColumns (down : Bool) (lineWidth : Nat) (widths : List Nat) : List Nat :=
  let most := min (max 1 (lineWidth / 3)) widths.length
  let fits (ws : List Nat) : Bool := sumOf ws < lineWidth
  let candidates := (List.range most).reverse.map fun k => columnWidths down widths (k + 1)
  (candidates.find? fun ws => ws.length ≤ 1 || fits ws).getD [0]

/-- One line of names, each starting at its column. -/
def columnLine (tab : Nat) : (position : Nat) → List Nat → List Octets → Octets
  | position, w :: ws, item :: items =>
    item ++ (if items = [] then [] else
      indentBy tab (w + 1) (position + item.length) (position + w) ++ columnLine tab (position + w) ws items)
  | _, [], item :: _ => item
  | _, _, [] => []

def columnLines (s : ListStyle) (items : List Octets) : List Octets :=
  let down := s.shape = .columns
  let widths := bestColumns down s.lineWidth (items.map (·.length))
  let columns := max 1 widths.length
  let rows := (items.length + columns - 1) / columns
  let cells := items.zipIdx
  (List.range rows).map fun r =>
    columnLine s.tabWidth 0 widths ((cells.filter fun (_, i) =>
      if down then i % rows == r else i / columns == r).map (·.1))

/-- Names with commas between them, in lines. -/
def commaText (lineWidth : Nat) : (position : Nat) → (first : Bool) → List Octets → Octets
  | _, _, [] => []
  | position, first, item :: rest =>
    if first then item ++ commaText lineWidth item.length false rest
    else if lineWidth = 0 ∨ position + item.length + 2 < lineWidth then
      ", ".toList ++ item ++ commaText lineWidth (position + 2 + item.length) false rest
    else ",\n".toList ++ item ++ commaText lineWidth item.length false rest

/-! ## Order -/

def extensionOf (o : Octets) : Octets :=
  let back := o.reverse.takeWhile (· != '.')
  if back.length = o.length then [] else '.' :: back.reverse

def compareItems (s : ListStyle) (a b : ListItem) : Ordering :=
  let byName := compareText a.name b.name
  let byOrder := match s.order with
    | .name => byName
    | .time => (Ord.compare b.status.time a.status.time).then byName
    | .size => (Ord.compare b.status.size a.status.size).then byName
    | .extension => (compareText (extensionOf a.name) (extensionOf b.name)).then byName
    | .version => (compareVersions a.name b.name).then byName
    | .width => (Ord.compare (shownName s.names a.name).length (shownName s.names b.name).length).then byName
    | .found => .eq
  if s.reversed then byOrder.swap else byOrder

/-- What counts as a directory for the order: a directory, or a link to one. -/
def ListItem.leadsToDir (i : ListItem) : Bool :=
  i.status.kind = .dir || i.target.any fun f => f.kind = .dir

def inOrder (s : ListStyle) (items : List ListItem) : List ListItem :=
  let sorted := if s.order = .found then (if s.reversed then items.reverse else items)
    else items.mergeSort fun a b => compareItems s a b != .gt
  if s.dirsFirst ∧ s.order ≠ .found then
    sorted.filter ListItem.leadsToDir ++ sorted.filter (!ListItem.leadsToDir ·)
  else sorted

/-- Items in the shape of the style. -/
def itemsText (now : Int) (s : ListStyle) (items : List ListItem) : Octets :=
  if items = [] then []
  else
    let front := frontOf s (s.shape ≠ .commas) items
    let names := items.map fun i => front i ++ shownItem s i
    let lines (ls : List Octets) : Octets := ls.flatMap (· ++ [s.stop])
    match s.shape with
    | .lines => lines names
    | .long => lines (longLines now s items)
    | .commas => commaText s.lineWidth 0 true names ++ [s.stop]
    | _ =>
      if s.lineWidth = 0 then Text.join [' ', ' '] names ++ [s.stop]
      else lines (columnLines s names)

/-! ## Directories -/

def isPassedOver (s : ListStyle) (name : Octets) : Bool :=
  let isLike (p : Octets) : Bool := Pattern.isMatch (Pattern.items true (p.map (·, true))) name &&
    (name.head? != some '.' || p.head? == some '.')
  s.passedOver.any isLike || (!s.hidden && s.passedUnlessAll.any isLike)

def itemOf (w : World) (dir : WorkDir) (s : ListStyle) (name : Octets) (place : Place) (e : Entry) : ListItem :=
  let status := w.statusOf place e
  if status.kind ≠ .link then ⟨name, status, none⟩
  else
    let target := (w.tree.stat dir (Path.ofNames place)).toOption.map fun (p, e) => w.statusOf p e
    match s.follows, target with
    | true, some f => ⟨name, f, none⟩
    | _, _ => ⟨name, status, target⟩

/-- The items that a directory shows. -/
def shownItems (w : World) (dir : WorkDir) (s : ListStyle) (place : Place) : List ListItem :=
  let entries := (w.tree.children place).map fun (n, e) =>
    itemOf w dir s (Octets.ofText n) (place ++ [n]) e
  let entries := entries.filter fun i =>
    (s.hidden || i.name.head? != some '.') && !isPassedOver s i.name
  let dots := if s.dots then
      [(⟨['.'], w.statusOf place .dir, none⟩ : ListItem), ⟨['.', '.'], w.statusOf place.dropLast .dir, none⟩]
    else []
  dots ++ entries

/-- A directory with its header, and those in it. -/
def listDirectory (w : World) (dir : WorkDir) (s : ListStyle) : (depth : Nat) → (header : Bool) → Octets →
    Place → List Octets
  | 0, _, _, _ => []
  | n + 1, header, name, place =>
    let items := inOrder s (shownItems w dir s place)
    let total := sumOf (items.map fun i => blockCount i.status)
    let sums := if s.shape = .long ∨ s.blocks then "total ".toList ++ shownBlocks s total ++ ['\n'] else []
    let block := (if header then shownName s.names name ++ ":\n".toList else []) ++ sums ++ itemsText w.now s items
    let inner := if s.deep then
        (items.filter fun i => i.status.kind = .dir && i.name != ['.'] && i.name != ['.', '.']).flatMap
          fun i => listDirectory w dir s n true (below name i.name) (place ++ [Octets.toText i.name])
      else []
    block :: inner

/-! ## Options -/

/-- Options that have only a long name, by letters that cannot be typed. -/
def listForms : List OptionForm :=
  let long : List (Char × String) :=
    [('a', "all"), ('A', "almost-all"), ('b', "escape"), ('B', "ignore-backups"), ('d', "directory"),
      ('D', "dired"), ('g', ""), ('G', "no-group"), ('h', "human-readable"), ('H', "dereference-command-line"),
      ('i', "inode"), ('k', "kibibytes"), ('L', "dereference"), ('n', "numeric-uid-gid"), ('N', "literal"),
      ('q', "hide-control-chars"), ('Q', "quote-name"), ('r', "reverse"), ('R', "recursive"), ('s', "size"),
      ('\x02', "si"), ('\x03', "group-directories-first"), ('\x04', "full-time"), ('\x05', "file-type"),
      ('\x06', "zero"), ('\x07', "show-control-chars"), ('\x08', "author"), ('Z', "context")]
  forms (long ++ "cCflmopStuUvxX1".toList.map (·, ""))
    [('I', "ignore"), ('w', "width"), ('T', "tabsize"), ('\x10', "hide"), ('\x11', "quoting-style"),
      ('\x12', "sort"), ('\x13', "time"), ('\x14', "time-style"), ('\x15', "format"), ('\x16', "indicator-style"),
      ('\x17', "block-size")] ++
    [⟨'\x18', "color", .maybe⟩, ⟨'F', "classify", .maybe⟩, ⟨'\x19', "hyperlink", .maybe⟩]

def usualTimes : TimeStyle := ⟨"%b %e %H:%M".toList, "%b %e  %Y".toList⟩

def timeStyle (g : Given) : ShellM TimeStyle := do
  let fullTime : TimeStyle := ⟨"%Y-%m-%d %H:%M:%S.%N %z".toList, "%Y-%m-%d %H:%M:%S.%N %z".toList⟩
  if g.last? "\x04\x14" = some '\x04' then return fullTime
  else match g.value? '\x14' with
    | none => return usualTimes
    | some ('+' :: format) =>
      let (recent, old) := Text.cut '\n' format
      return match old with
        | some old => ⟨old, recent⟩
        | none => ⟨recent, recent⟩
    | some word =>
      wordMeaning 2 "time-style" [("full-iso", fullTime),
        ("long-iso", ⟨"%Y-%m-%d %H:%M".toList, "%Y-%m-%d %H:%M".toList⟩),
        ("iso", ⟨"%m-%d %H:%M".toList, "%Y-%m-%d ".toList⟩), ("locale", usualTimes)] word

def listStyleOf (g : Given) : ShellM ListStyle := do
  let formatWord ← optionWord g '\x15' "format" [("verbose", ListShape.long), ("long", .long),
    ("commas", .commas), ("horizontal", .across), ("across", .across), ("vertical", .columns),
    ("single-column", .lines)]
  let shape := match g.last? "Cxm1lgno\x15\x04" with
    | some 'C' => ListShape.columns
    | some 'x' => .across
    | some 'm' => .commas
    | some '1' => if g.has 'l' || g.has 'g' || g.has 'n' || g.has 'o' || g.has '\x04' then .long else .lines
    | some '\x15' => formatWord.getD .lines
    | some _ => .long
    | none => .lines
  let sortWord ← optionWord g '\x12' "sort" [("none", ListOrder.found), ("time", .time), ("size", .size),
    ("extension", .extension), ("version", .version), ("width", .width)]
  let order := match g.last? "UftSXv\x12" with
    | some 't' => ListOrder.time
    | some 'S' => .size
    | some 'X' => .extension
    | some 'v' => .version
    | some '\x12' => sortWord.getD .name
    | some _ => .found
    | none => if (g.has 'c' || g.has 'u') && shape ≠ .long then .time else .name
  let markWord ← optionWord g '\x16' "indicator-style" [("none", Marking.nothing), ("slash", .slash),
    ("file-type", .kinds), ("classify", .all)]
  let classify := (g.value? 'F').any fun w =>
    (["never", "no", "none", "auto", "tty", "if-tty"] : List String).all (·.toList != w)
  let marking := match g.last? "Fp\x05\x16" with
    | some 'F' => if classify then Marking.all else .nothing
    | some 'p' => .slash
    | some '\x05' => .kinds
    | some _ => markWord.getD .nothing
    | none => .nothing
  let quoteWord ← optionWord g '\x11' "quoting-style" [("literal", NameStyle.plain), ("shell", .shell),
    ("shell-always", .shellAlways), ("shell-escape", .shellEscape),
    ("shell-escape-always", .shellEscapeAlways), ("c", .quoted), ("c-maybe", .quoted), ("escape", .escaped),
    ("locale", .quoted), ("clocale", .quoted)]
  let names := match g.last? "bNQ\x11" with
    | some 'b' => NameStyle.escaped
    | some 'Q' => .quoted
    | some 'N' => .plain
    | some _ => quoteWord.getD .plain
    | none => .plain
  let names := if names = .plain ∧ g.last? "q\x07" = some 'q' then .masked else names
  let number (letter : Char) (what : String) : ShellM (Option Nat) := do
    match g.value? letter with
    | none => return none
    | some t =>
      if isNumber t then return some (digitsValue t)
      else stop 2 ("invalid ".toList ++ what.toList ++ ": ".toList ++ quoted t)
  let columns := ((← shell).value? "COLUMNS".toList).bind fun t =>
    if isNumber t ∧ digitsValue t > 0 then some (digitsValue t) else none
  let lineWidth := (← number 'w' "line width").getD (columns.getD 80)
  let given (letter : Char) : List Octets := g.options.filterMap fun (c, v) => if c = letter then some v else none
  return {
    shape, order, marking, names, lineWidth
    time := ← timeStyle g
    hidden := g.has 'a' || g.has 'A' || g.has 'f'
    dots := (g.last? "aAf").any (· != 'A')
    reversed := g.has 'r'
    dirsFirst := g.has '\x03'
    deep := g.has 'R' && !g.has 'd'
    nodes := g.has 'i'
    blocks := g.has 's'
    owner := !g.has 'g'
    group := !(g.has 'o' || g.has 'G')
    numeric := g.has 'n'
    follows := g.has 'L'
    units := match g.last? "h\x02" with
      | some 'h' => some 1024
      | some _ => some 1000
      | none => none
    passedOver := given 'I' ++ if g.has 'B' then ["*~".toList, ".*~".toList] else []
    passedUnlessAll := given '\x10'
    tabWidth := (← number 'T' "tab size").getD 8
    stop := if g.has '\x06' then '\x00' else '\n' }

/-! ## The utility -/

def listWith (prepare : ListStyle → ListStyle) : Utility := fun _ args => do
  let g ← readGiven listForms 2 true args
  let s := prepare (← listStyleOf g)
  let names := if g.operands = [] then [['.']] else g.operands
  let immediate := g.has 'd'
  let followsDirs := !(immediate || s.marking == .all || s.shape == .long)
  let mut files : List ListItem := []
  let mut dirs : List (ListItem × Place) := []
  let mut code := 0
  for name in names do
    let own ← statLink? name
    let target ← stat? name
    let found := match own, target with
      | .ok (_, .link _), .ok (_, e) =>
        if s.follows || g.has 'H' || (followsDirs && e.isDir) then target else own
      | .ok _, .error _ => if s.follows ∧ !own.isOk then target else own
      | _, r => r
    match found with
    | .error e =>
      grumble ("cannot access ".toList ++ quoted name ++ ": ".toList ++ e.wording.toList)
      code := 2
    | .ok (place, e) =>
      let item := itemOf (← world) (← shell).workDir s name place e
      if e.isDir && !immediate then dirs := dirs ++ [(item, place)]
      else files := files ++ [item]
  let w ← world
  let dir := (← shell).workDir
  let headers := names.length > 1 || s.deep
  let placed (i : ListItem) : Place := ((dirs.find? fun (j, _) => j.name == i.name).map (·.2)).getD []
  let blocks := (inOrder s (dirs.map (·.1))).flatMap fun i =>
    listDirectory w dir s maxDepth headers i.name (placed i)
  let all := (if files = [] then [] else [itemsText w.now s (inOrder s files)]) ++ blocks
  emit (Text.join ['\n'] all)
  return code

def ls : Utility := listWith fun s => s

/-- `ls` in columns with escapes. -/
def listColumns : Utility := listWith fun s => { s with
  shape := if s.shape = .lines then .columns else s.shape
  names := if s.names = .plain then .escaped else s.names }

/-- `ls` with all that is known. -/
def listLong : Utility := listWith fun s => { s with
  shape := .long
  names := if s.names = .plain then .escaped else s.names }

end KarelBuild.Shell.Utility
