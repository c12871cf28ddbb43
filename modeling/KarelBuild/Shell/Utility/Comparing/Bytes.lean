import KarelBuild.Shell.Utility.Lines
import KarelBuild.Shell.Utility.Files

/-!
# Comparing bytes

`cmp` tells the first byte in which two files differ, or all of them.
-/

namespace KarelBuild.Shell.Utility

open ShellM

/-- Complain of missing operands in the manner of programs that compare. -/
def missingAfter {α : Type} (operands : List Octets) : ShellM α := do
  misuse 2 ("missing operand after ".toList ++ quoted (operands.getLastD (← programName)))

/-- The place of the first difference, from 1 on, and its line; none if one text is the front of the
other. -/
def firstDifference : (byte line : Nat) → Octets → Octets → Option (Nat × Nat × Char × Char)
  | n, l, a :: s, b :: t =>
    if a = b then firstDifference (n + 1) (if a = '\n' then l + 1 else l) s t else some (n, l, a, b)
  | _, _, _, _ => none

/-- A byte with marks for those that cannot be printed. -/
def markedByte (c : Char) : Octets :=
  let low (n : Nat) : Octets :=
    if n < 32 then ['^', Char.ofNat (n + 64)] else if n = 127 then "^?".toList else [Char.ofNat n]
  if c.toNat < 128 then low c.toNat else "M-".toList ++ low (c.toNat - 128)

def octalByte (c : Char) : Octets := padLeft 3 (Nat.toDigits 8 c.toNat)

/-- All bytes in which two texts differ. -/
def differences (shows : Bool) (width : Nat) (s t : Octets) : Octets :=
  ((List.range (min s.length t.length)).zip (s.zip t)).flatMap fun (i, x, y) =>
    if x = y then []
    else
      let place := padLeft width (Text.ofNat (i + 1)) ++ ' ' :: octalByte x ++ [' ']
      if shows then place ++ padRight 4 (markedByte x) ++ ' ' :: octalByte y ++ ' ' :: markedByte y ++ ['\n']
      else place ++ octalByte y ++ ['\n']

/-- A side of a comparison: what is left to compare, and how much that is if it is known before. -/
structure Side where
  name : Octets
  text : Octets
  size : Option Nat

def readSide (quiet : Bool) (name : Octets) (skip : Nat) : ShellM Side := do
  let refuse (e : OsError) : ShellM Side := do
    if !quiet then grumble (name ++ ": ".toList ++ e.wording.toList)
    exit 2
  match ← openOperand name with
  | .error e => refuse e
  | .ok n =>
    let isStream := match ← targetOf n with
      | some (.stream _) => true
      | some (.device _) => true
      | _ => false
    match ← takeAll n with
    | .ok (.text o) =>
      let o := o.drop skip
      return ⟨name, o, if isStream then none else some o.length⟩
    | .ok (.endless _) => return ⟨name, [], none⟩
    | .error e => refuse e

/-- The ways to begin at a byte: for both files, or for each of them. -/
def skipsOf (t : Octets) : ShellM (Nat × Nat) := do
  let (first, second) := Text.cut ':' t
  match sized? first, second with
  | some n, none => return (n, n)
  | some n, some u =>
    match sized? u with
    | some m => return (n, m)
    | none => wrong u
  | none, _ => wrong t
where
  wrong (v : Octets) : ShellM (Nat × Nat) := misuse 2 ("invalid --ignore-initial value ".toList ++ quoted v)

/-- Tell that a file ends before the other one. -/
def reportEnd (verbose : Bool) (short : Side) : ShellM Unit := do
  let t := short.text
  if t = [] then grumble ("EOF on ".toList ++ short.name ++ " which is empty".toList)
  else
    let lines := t.countP (· == '\n')
    let place := if verbose then []
      else if t.getLast? = some '\n' then ", line ".toList ++ Text.ofNat lines
      else ", in line ".toList ++ Text.ofNat (lines + 1)
    grumble ("EOF on ".toList ++ short.name ++ " after byte ".toList ++ Text.ofNat t.length ++ place)

def cmp : Utility := fun _ args => do
  let g ← readGiven (forms [('b', "print-bytes"), ('c', "print-chars"), ('l', "verbose"), ('s', "quiet"), ('s', "silent")]
    [('i', "ignore-initial"), ('n', "bytes")]) 2 true args
  let shows := g.has 'b' || g.has 'c'
  let given ← match g.value? 'i' with
    | some t => skipsOf t
    | none => pure (0, 0)
  let limit ← match g.value? 'n' with
    | none => pure none
    | some t =>
      match sized? t with
      | some n => pure (some n)
      | none => misuse 2 ("invalid --bytes value ".toList ++ quoted t)
  if g.has 'l' ∧ g.has 's' then misuse 2 "options -l and -s are incompatible".toList
  match g.operands with
  | [] => missingAfter []
  | a :: rest =>
    let b := rest.headD ['-']
    let (i, j) ← match rest.drop 1 with
      | [] => pure given
      | [x] =>
        let (n, _) ← skipsOf x
        pure (max given.1 n, given.2)
      | [x, y] =>
        let (n, _) ← skipsOf x
        let (m, _) ← skipsOf y
        pure (max given.1 n, max given.2 m)
      | _ :: _ :: extra :: _ => misuse 2 ("extra operand ".toList ++ quoted extra)
    if a = ['-'] ∧ b = ['-'] then return 0
    let s ← readSide (g.has 's') a i
    let t ← readSide (g.has 's') b j
    let cutOff (o : Octets) : Octets := limit.elim o o.take
    let s := { s with text := cutOff s.text }
    let t := { t with text := cutOff t.text }
    if g.has 'l' then
      let most := ([limit, s.size, t.size].filterMap fun n => n).foldl min 0x7fffffffffffffff
      emit (differences shows (Text.ofNat most).length s.text t.text)
    match firstDifference 1 1 s.text t.text with
    | some (n, l, x, y) =>
      if !g.has 's' && !g.has 'l' then
        let place := Text.ofNat n ++ ", line ".toList ++ Text.ofNat l
        let lead := a ++ ' ' :: b ++ " differ: ".toList
        if shows then
          emit (lead ++ "byte ".toList ++ place ++ " is ".toList ++ octalByte x ++ ' ' :: markedByte x ++ ' ' ::
            octalByte y ++ ' ' :: markedByte y ++ ['\n'])
        else emit (lead ++ "char ".toList ++ place ++ ['\n'])
      if g.has 'l' ∧ s.text.length ≠ t.text.length then
        reportEnd true (if s.text.length < t.text.length then s else t)
      return 1
    | none =>
      if s.text.length = t.text.length then return 0
      else
        if !g.has 's' then reportEnd (g.has 'l') (if s.text.length < t.text.length then s else t)
        return 1

end KarelBuild.Shell.Utility
