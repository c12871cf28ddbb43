import KarelBuild.Shell.Quoting

/-!
# Written statements

Words and statements as they are written: a function is shown with a line for each of its commands, and the
commands that others hold further to the right.
-/

namespace KarelBuild.Shell.Written

/-- Text between double quotes. -/
def inDoubleQuotes (t : Text) : Text :=
  t.flatMap fun c => if "\"\\$\x60".toList.contains c then ['\\', c] else [c]

def escapedText (t : Text) : Text := t.flatMap fun c => ['\\', c]

def caseEnd : CaseEnd → Text
  | .stop => ";;".toList
  | .goOn => ";&".toList
  | .tryNext => ";;&".toList

def directionMark : Direction → Text
  | .reads => "< ".toList
  | .writes => "> ".toList
  | .replaces => ">| ".toList
  | .appends => ">> ".toList
  | .both => "<> ".toList

/-- Text without the blanks in front. -/
def bare (t : Text) : Text := t.dropWhile (· == ' ')

/-- A descriptor before a redirection, unless it is the usual one. -/
def place (fd usual : Nat) : Text := if fd = usual then [] else Text.ofNat fd

structure Page where
  /-- Lines so far, the last one at work, and how far its commands stand to the right. -/
  text : Text := []
  indent : Nat := 0
  /-- Whether the next command goes on in the line. -/
  goesOn : Bool := false
  inFunction : Bool := false
  /-- How much further to the right commands inside others stand. -/
  step : Nat := 4

namespace Page

def add (p : Page) (t : Text) : Page := { p with text := t.reverse ++ p.text }

def addString (p : Page) (t : String) : Page := p.add t.toList

def blanks (p : Page) : Page := p.add (List.replicate p.indent ' ')

def newLine (p : Page) (t : String) : Page := (p.add ['\n']).blanks.addString t

def semicolon (p : Page) : Page :=
  if p.text.head? = some '&' ∨ p.text.head? = some '\n' then p else p.add [';']

def deeper (p : Page) : Page := { p with indent := p.indent + p.step }

def shallower (p : Page) : Page := { p with indent := p.indent - p.step }

def onLine (p : Page) : Page := { p with goesOn := true }

end Page

mutual

/-- The parts of a word; `mark` is the quote that is open. -/
def parts : (depth : Nat) → (mark : Option Char) → List Part → Text
  | 0, _, _ => []
  | _, _, [] => []
  | n + 1, mark, p :: r =>
    match p with
    | .plain t => t ++ parts n mark r
    | .quoted t =>
      (match mark with
        | some '\'' => t
        | some _ => inDoubleQuotes t
        | none => escapedText t) ++ parts n mark r
    | .quoteMark c => c :: parts n (if mark = some c then none else some c) r
    | .value true name sub change =>
      let inside := value n (some '"') name sub change
      (if mark.isSome then inside else '"' :: inside ++ ['"']) ++ parts n mark r
    | .value false name sub change => value n mark name sub change ++ parts n mark r
    | .output _ body => "$(".toList ++ line n body ++ ')' :: parts n mark r
    | .process reads body => (if reads then '<' else '>') :: '(' :: line n body ++ ')' :: parts n mark r
    | .sum _ e => "$((".toList ++ parts n none e ++ "))".toList ++ parts n mark r

def value : (depth : Nat) → (mark : Option Char) → Text → Subscript → Change → Text
  | 0, _, _, _, _ => []
  | n + 1, mark, name, sub, change =>
    let subscribed : Text := match sub with
      | .none => []
      | .each => "[@]".toList
      | .joined => "[*]".toList
      | .member e => '[' :: parts n mark e ++ [']']
    let braced (front behind : Text) : Text := "$\x7b".toList ++ front ++ name ++ subscribed ++ behind ++ ['\x7d']
    let colon (b : Bool) : Text := if b then [':'] else []
    match change with
    | .bare => '$' :: name
    | .keep => braced [] []
    | .size => braced ['#'] []
    | .orElse b w => braced [] (colon b ++ '-' :: parts n mark w)
    | .orAssign b w => braced [] (colon b ++ '=' :: parts n mark w)
    | .orFail b w => braced [] (colon b ++ '?' :: parts n mark w)
    | .instead b w => braced [] (colon b ++ '+' :: parts n mark w)
    | .trim front longest w =>
      let c := if front then '#' else '%'
      braced [] ((if longest then [c, c] else [c]) ++ parts n mark w)
    | .slice offset length =>
      braced [] (':' :: parts n mark offset ++ match length with
        | some w => ':' :: parts n mark w
        | none => [])
    | .replace all anchor pattern put =>
      braced [] ((if all then ['/', '/'] else ['/']) ++ anchor ++ parts n mark pattern ++ '/' :: parts n mark put)
    | .recase casing all pattern =>
      let c := match casing with
        | .upper => '^'
        | .lower => ','
        | .toggle => '~'
      braced [] ((if all then [c, c] else [c]) ++ parts n mark pattern)
    | .transform c => braced [] ['@', c]
    | .names => "$\x7b!".toList ++ name ++ (match sub with | .each => ['@'] | _ => ['*']) ++ ['\x7d']
    | .keys => braced ['!'] []
    | .through change => "$\x7b!".toList ++ (value n mark name sub change).drop 2
    | .wrong written => written

/-- A statement in one line. -/
def line : (depth : Nat) → Statement → Text
  | 0, _ => []
  | n + 1, s => (page n s { goesOn := true }).text.reverse

def assigned : (depth : Nat) → Assignment → Text
  | 0, _ => []
  | n + 1, .mk name sub appends v =>
    let place := match sub with
      | some w => '[' :: parts n none w ++ [']']
      | none => []
    let content := match v with
      | .text w => parts n none w
      | .list members => '(' :: Text.join [' '] (members.map (member n)) ++ [')']
    name ++ place ++ (if appends then "+=".toList else ['=']) ++ content

def member : (depth : Nat) → Member → Text
  | 0, _ => []
  | n + 1, m =>
    match m with
    | .word w => parts n none w
    | .entry key appends v =>
      '[' :: parts n none key ++ (if appends then "]+=".toList else "]=".toList) ++ parts n none v

def redirection : (depth : Nat) → Redirection → Text
  | 0, _ => []
  | n + 1, r =>
    match r with
    | .allotted name r => '\x7b' :: name ++ '\x7d' :: redirection n r
    | .file fd d w => place fd (if d = .reads ∨ d = .both then 0 else 1) ++ directionMark d ++ parts n none w
    | .copy fd none => Text.ofNat fd ++ ">&-".toList
    | .copy fd (some source) =>
      Text.ofNat fd ++ (if fd = 0 then "<&" else ">&").toList ++ Text.ofNat source
    | .copyNamed fd reads w => place fd (if reads then 0 else 1) ++ (if reads then "<&" else ">&").toList ++ parts n none w
    | .document fd _ => place fd 0 ++ "<<EOF".toList
    | .text fd w => place fd 0 ++ "<<< ".toList ++ parts n none w
    | .outAndErrors appends w => (if appends then "&>> " else "&> ").toList ++ parts n none w

def condition : (depth : Nat) → Condition → Text
  | 0, _ => []
  | n + 1, c =>
    match c with
    | .unary op w => op ++ ' ' :: parts n none w
    | .binary a op b => parts n none a ++ ' ' :: op ++ ' ' :: parts n none b
    | .isNot c => "! ".toList ++ condition n c
    | .both c d => condition n c ++ " && ".toList ++ condition n d
    | .either c d => condition n c ++ " || ".toList ++ condition n d

/-- A statement on a page. -/
def page : (depth : Nat) → Statement → Page → Page
  | 0, _, p => p
  | n + 1, s, p =>
    let p := if p.goesOn then { p with goesOn := false } else p.blanks
    let redirected (p : Page) (rs : List Redirection) : Page :=
      rs.foldl (fun p r => (p.add [' ']).add (redirection n r)) p
    let list (p : Page) (head : Text) (body : Statement) : Page :=
      let p := ((p.add head).add [';']).newLine "do\n"
      (page n body p.deeper).semicolon.shallower.newLine "done"
    let words (ws : List Word) : Text := Text.join [' '] (ws.map (parts n none))
    match s with
    | .simple _ as ws rs =>
      let items := as.reverse.map (assigned n) ++ ws.map (parts n none)
      let items := if ws = [] then as.map (assigned n) else items
      let all := items ++ rs.map (redirection n)
      p.add (Text.join [' '] all)
    | .pipeline _ stages =>
      match stages with
      | [] => p
      | s :: rest => rest.foldl (fun p s => page n s (p.addString " | ").onLine) (page n s p.onLine)
    | .background _ body => (page n body p.onLine).addString " &"
    | .opposite s => page n s (p.addString "! ").onLine
    | .timed briefly s => page n s (p.addString (if briefly then "time -p " else "time ")).onLine
    | .companion _ name body =>
      page n body ((p.addString "coproc ").add (name ++ [' '])).onLine
    | .both a b => page n b ((page n a p.onLine).addString " && ").onLine
    | .either a b => page n b ((page n a p.onLine).addString " || ").onLine
    | .block ss =>
      match ss with
      | [] => p
      | s :: rest => rest.foldl (fun p s =>
          let isBeside := p.text.head? = some '&'
          let p := p.semicolon
          if p.inFunction && !isBeside then page n s (p.add ['\n']) else page n s (p.add [' ']).onLine)
        (page n s p.onLine)
    | .choice branches otherwise => choice n branches otherwise p
    | .loop expected test body =>
      let p := (page n test (p.addString (if expected then "while " else "until ")).onLine).semicolon.addString " do\n"
      (page n body p.deeper).shallower.semicolon.newLine "done"
    | .each _ name ws body => list p ("for ".toList ++ name ++ " in ".toList ++ words ws) body
    | .menu _ name ws body => list p ("select ".toList ++ name ++ " in ".toList ++ words ws) body
    | .count _ a b c body =>
      let head := "for ((".toList ++ (Text.join "; ".toList ([a, b, c].map fun w => bare (parts n none w))) ++
        "))".toList
      let p := (p.add head).newLine "do\n"
      (page n body p.deeper).semicolon.shallower.newLine "done"
    | .select _ w cases =>
      let p := (((p.addString "case ").add (parts n none w)).addString " in ").deeper
      (cases.foldl (fun p (ps, body, e) =>
        let p := ((p.newLine "").add (Text.join " | ".toList (ps.map (parts n none)))).addString ")\n"
        ((page n body p.deeper).shallower.newLine "").add (caseEnd e)) p).shallower.newLine "esac"
    | .subshell _ body => (page n body (p.addString "( ").onLine).addString " )"
    | .redirected _ body rs => redirected (page n body p.onLine) rs
    | .define _ name body => (p.add name).addString " () " |> fun p => (page n body p.onLine)
    | .sum _ e => p.add ("((".toList ++ parts n none e ++ "))".toList)
    | .condition _ c => p.add ("[[ ".toList ++ condition n c ++ " ]]".toList)
    | .group body =>
      let p := p.addString "\x7b "
      if p.inFunction then
        let p := page n body (p.add ['\n']).deeper
        ((p.add ['\n']).shallower.blanks).add ['\x7d']
      else ((page n body p.onLine).semicolon.add [' ']).add ['\x7d']

def choice : (depth : Nat) → List (Statement × Statement) → Option Statement → Page → Page
  | 0, _, _, p => p
  | _, [], _, p => p
  | n + 1, (test, body) :: rest, otherwise, p =>
    let p := (page n test (p.addString "if ").onLine).semicolon.addString " then\n"
    let p := (page n body p.deeper).shallower
    let p := match rest, otherwise with
      | [], none => p
      | [], some s => (page n s (p.semicolon.newLine "else\n").deeper).shallower
      | rest, otherwise => (choice n rest otherwise (p.semicolon.newLine "else\n").deeper.blanks).shallower
    p.semicolon.newLine "fi"

end

/-- How deep what is written may nest. -/
def maxDepth : Nat := 0x10000

def word (w : Word) : Text := parts maxDepth none w

/-- The commands in a function, and its redirections. -/
def inside (body : Statement) : Statement × List Redirection :=
  match body with
  | .redirected _ (.group s) rs => (s, rs)
  | .group s => (s, [])
  | s => (s, [])

def withRedirections (p : Page) (rs : List Redirection) : Text :=
  (rs.foldl (fun p r => (p.add [' ']).add (redirection maxDepth r)) p).text.reverse

/-- A function with its name. -/
def function (name : Text) (body : Statement) : Text :=
  let (s, rs) := inside body
  let start : Page := { indent := 4, inFunction := true }
  let p := page maxDepth s ((start.add name).addString " () \n\x7b \n")
  withRedirections (p.shallower.newLine "\x7d") rs

/-- A function as it is given to programs. -/
def exported (body : Statement) : Text :=
  let (s, rs) := inside body
  let start : Page := { indent := 1, inFunction := true, step := 0 }
  let p := page maxDepth s (start.addString "() \x7b ")
  withRedirections (p.addString "\n\x7d") rs

/-- A statement in one line. -/
def statement (s : Statement) : Text := line maxDepth s

end KarelBuild.Shell.Written
