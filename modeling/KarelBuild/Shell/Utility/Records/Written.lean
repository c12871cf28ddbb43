import KarelBuild.Shell.Format
import KarelBuild.Shell.Utility.Records.Value

/-!
# Values as text

Whole numbers are written with all their digits, other numbers by a format that a variable holds. A format
takes an argument for each of its conversions, and there have to be enough.
-/

namespace KarelBuild.Shell.Records

/-- What is wrong with a format. -/
inductive FormatFault where
  | missing
  | improper (number : Nat)

/-- The part of a format that tells how something is laid out, with the arguments it takes and what follows. -/
def layoutIn (t : Octets) (args : List Cell) : Option (Format.Layout × Octets × List Cell) :=
  let flags := t.takeWhile fun c => "-+ #0".toList.contains c
  let count (t : Octets) (args : List Cell) : Option (Option Int × Octets × List Cell) :=
    match t with
    | '*' :: r =>
      match args with
      | a :: rest => some (some (Real.ofFloat a.toNumber).truncated, r, rest)
      | [] => none
    | _ =>
      let ds := t.takeWhile Char.isDigit
      some (if ds = [] then none else some (Real.natOf ds : Int), t.drop ds.length, args)
  (count (t.drop flags.length) args).bind fun (width, rest, args) =>
    let flags := if width.any (· < 0) then '-' :: flags else flags
    let width := (width.map Int.natAbs).getD 0
    match rest with
    | '.' :: r =>
      (count r args).map fun (precision, rest, args) =>
        let precision : Option Nat := match precision with
          | none => some 0
          | some n => if n < 0 then none else some n.toNat
        (⟨flags, width, precision⟩, rest, args)
    | _ => some (⟨flags, width, none⟩, rest, args)

/-- The whole number that is written for a number, within the bounds of 64 bits. -/
def boundedWhole (x : Float) : Int :=
  max (-0x7fffffffffffffff) (min (Real.ofFloat x).truncated 0xffffffffffffffff)

/-- A value by a conversion. -/
def converted? (toText : Cell → Octets) (l : Format.Layout) (c : Char) (v : Cell) : Option Octets :=
  let cut (o : Octets) : Octets := match l.precision with
    | some n => o.take n
    | none => o
  if c = 's' then some (l.pad (cut (toText v)))
  else if c = 'c' then
    let char := match v with
      | .number x => Char.ofNat ((Real.ofFloat x).truncated % 256).toNat
      | .unset => '\x00'
      | .text o => o.headD '\x00'
      | .input o => if looksNumeric o then Char.ofNat ((Real.ofFloat (numberIn o)).truncated % 256).toNat
        else o.headD '\x00'
    some (l.pad [char])
  else if c = 'd' ∨ c = 'i' then
    let n := boundedWhole v.toNumber
    some (l.whole (l.sign (n < 0)) (Text.ofNat n.natAbs))
  else if c = 'u' then some (Format.inBase l 10 [] false (boundedWhole v.toNumber))
  else if c = 'o' then some (Format.inBase l 8 ['0'] false (boundedWhole v.toNumber))
  else if c = 'x' then some (Format.inBase l 16 ['0', 'x'] false (boundedWhole v.toNumber))
  else if c = 'X' then some (Format.inBase l 16 ['0', 'X'] true (boundedWhole v.toNumber))
  else if "eEfFgG".toList.contains c then
    let x := Real.ofFloat v.toNumber
    let digits := Real.format c l.precision (l.has '#') x.magnitude
    let isFinite := match x.magnitude with
      | .finite _ _ => true
      | _ => false
    some (l.signed isFinite (l.sign x.negative) digits)
  else none

/-- A format with its arguments put in, the last part first, and what was wrong. -/
def formatParts (toText : Cell → Octets) : (steps number : Nat) → Octets → List Cell → List Octets →
    List Octets × Option FormatFault
  | 0, _, _, _, back => (back, none)
  | _, _, [], _, back => (back, none)
  | n + 1, number, '%' :: r, args, back =>
    match r with
    | '%' :: r' => formatParts toText n number r' args (['%'] :: back)
    | _ =>
      match layoutIn r args with
      | none => (back, some .missing)
      | some (l, rest, args) =>
        match args, rest.dropWhile fun c => "hlLqjzt".toList.contains c with
        | [], _ => (back, some .missing)
        | _, [] => (back, some (.improper number))
        | a :: args', c :: r' =>
          if rest.head?.any fun d => "jzt".toList.contains d then (back, some (.improper number))
          else match converted? toText l c a with
            | some o => formatParts toText n (number + 1) r' args' (o :: back)
            | none => (back, some (.improper number))
  | n + 1, number, c :: r, args, back =>
    let run := (c :: r).takeWhile (· != '%')
    formatParts toText n number ((c :: r).drop run.length) args (run :: back)

/-- A format with its arguments put in; a zero byte ends it. -/
def formatted (toText : Cell → Octets) (format : Octets) (args : List Cell) : Octets × Option FormatFault :=
  let (back, fault) := formatParts toText (format.length + 1) 1 (format.takeWhile (· != '\x00')) args []
  (back.reverse.flatten, fault)

/-- The text of a number; `form` is for those that are not whole. -/
def numberText (form : Octets) (x : Float) : Octets :=
  match wholeText? x with
  | some o => o
  | none => (formatted (fun _ => []) form [.number x]).1

def Cell.textBy (form : Octets) : Cell → Octets
  | unset => []
  | number x => numberText form x
  | text o => o
  | input o => o

/-! ## Replacing -/

/-- A replacement: text, and where what was found is put. Of backslashes in front of that mark each pair is one,
and a single one takes its meaning away. -/
inductive Filling where
  | text (o : Octets)
  | found

def fillings : (steps : Nat) → Octets → List Filling
  | 0, _ => []
  | _, [] => []
  | n + 1, '&' :: r => .found :: fillings n r
  | n + 1, '\\' :: r =>
    let more := r.takeWhile (· == '\\')
    let count := more.length + 1
    match r.drop more.length with
    | '&' :: r' =>
      .text (List.replicate (count / 2) '\\') :: (if count % 2 = 1 then .text ['&'] else .found) :: fillings n r'
    | rest => .text (List.replicate count '\\') :: fillings n rest
  | n + 1, c :: r =>
    let run := (c :: r).takeWhile fun d => d != '\\' && d != '&'
    .text run :: fillings n ((c :: r).drop run.length)

def filled (fs : List Filling) (found : Octets) : Octets :=
  fs.flatMap fun
    | .text o => o
    | .found => found

/-- A text in which matches, which come in order, are replaced. -/
def replaced (fs : List Filling) : (rest : Octets) → (position : Nat) → List Regex.Match → Octets
  | rest, _, [] => rest
  | rest, position, m :: ms =>
    let front := m.start - position
    rest.take front ++ filled fs ((rest.drop front).take m.length) ++
      replaced fs (rest.drop (front + m.length)) (m.start + m.length) ms

end KarelBuild.Shell.Records
