import KarelBuild.Text.Utf8

/-!
# Names between quotes

Utilities show names so that no character of them is lost: between quotes where a shell would take some of
it for more than text.
-/

namespace KarelBuild.Shell.Utility

def octalDigits (c : Char) : Octets :=
  let n := c.toNat
  ['\\', Char.ofNat (48 + n / 64), Char.ofNat (48 + n / 8 % 8), Char.ofNat (48 + n % 8)]

def isPrintable (c : Char) : Bool := ' ' ≤ c && c ≤ '~'

def escapeLetter : List (Char × Char) :=
  [('\n', 'n'), ('\t', 't'), ('\r', 'r'), ('\x07', 'a'), ('\x08', 'b'), ('\x0b', 'v'), ('\x0c', 'f')]

/-- Neighbours that agree on a property, together. -/
def runsOf (p : Char → Bool) : Octets → List Octets
  | [] => []
  | c :: r =>
    match runsOf p r with
    | (d :: run) :: runs => if p c == p d then (c :: d :: run) :: runs else [c] :: (d :: run) :: runs
    | runs => [c] :: runs

/-- Bytes that can be printed between quotes, and others as numbers between quotes of their own. -/
def quotedRun (run : Octets) : Octets :=
  if run.all isPrintable then
    '\'' :: run.flatMap (fun c => if c = '\'' then "'\\''".toList else [c]) ++ ['\'']
  else
    "$'".toList ++ run.flatMap (fun c => match escapeLetter.lookup c with
      | some d => ['\\', d]
      | none => octalDigits c) ++ ['\'']

/-- A name between quotes. -/
def quoted (name : Octets) : Octets :=
  if name = [] then "''".toList
  else if name.all isPrintable then
    if name.contains '\'' ∧ !name.any (fun c => "\"$\\!\x60&()*;<=>[^|?".toList.contains c) then
      '"' :: name ++ ['"']
    else quotedRun name
  else
    (if name.head?.any isPrintable then [] else "''".toList) ++ (runsOf isPrintable name).flatMap quotedRun

/-- Whether a name has characters that a shell would take for more than text. -/
def isSpecial (name : Octets) : Bool :=
  let special (c : Char) : Bool := !isPrintable c || " !\"$&'()*;<=>?[\\^\x60|".toList.contains c
  let atFront := name.head?.any fun c => c == '#' || c == '~'
  name == [] || name.any special || atFront || name == ['\x7b'] || name == ['\x7d']

/-- A name as it is, unless a shell would take some of it for more than text. -/
def shellWord (name : Octets) : Octets := if isSpecial name then quoted name else name

/-- The same where a colon comes behind the name. -/
def named (name : Octets) : Octets := if isSpecial name || name.contains ':' then quoted name else name

end KarelBuild.Shell.Utility
