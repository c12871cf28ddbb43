import KarelBuild.Shell.Real
import KarelBuild.Text.Utf8

/-!
# The calendar

Time is counted in microseconds since the first of January 1970, without leap seconds and in one time zone.
A time is written by a format with conversions for its parts.
-/

namespace KarelBuild.Shell

/-- The number of a day, counted from the first of January 1970. -/
def dayNumber (year : Int) (month day : Int) : Int :=
  let y := if month ≤ 2 then year - 1 else year
  let era := y.fdiv 400
  let yoe := y - era * 400
  let doy := (153 * (month + (if month > 2 then -3 else 9)) + 2) / 5 + day - 1
  era * 146097 + (yoe * 365 + yoe / 4 - yoe / 100 + doy) - 719468

/-- A day by its number: year, month and day. -/
def civilDate (days : Int) : Int × Nat × Nat :=
  let z := days + 719468
  let era := z.fdiv 146097
  let doe := (z - era * 146097).toNat
  let yoe := (doe - doe / 1460 + doe / 36524 - doe / 146096) / 365
  let doy := doe - (365 * yoe + yoe / 4 - yoe / 100)
  let mp := (5 * doy + 2) / 153
  let month := if mp < 10 then mp + 3 else mp - 9
  (yoe + era * 400 + (if month ≤ 2 then 1 else 0), month, doy - (153 * mp + 2) / 5 + 1)

def isLeap (y : Int) : Bool := (y % 4 == 0 && y % 100 != 0) || y % 400 == 0

def monthLength (y : Int) (m : Nat) : Nat :=
  if m = 2 then (if isLeap y then 29 else 28)
  else if [4, 6, 9, 11].contains m then 30
  else 31

def dayNames : List String :=
  ["Sunday", "Monday", "Tuesday", "Wednesday", "Thursday", "Friday", "Saturday"]

def monthNames : List String :=
  ["January", "February", "March", "April", "May", "June", "July", "August", "September", "October",
    "November", "December"]

/-! ## Writing -/

def zeroPadded (width n : Nat) : Octets :=
  let ds := Text.ofNat n
  List.replicate (width - ds.length) '0' ++ ds

def blankPadded (width n : Nat) : Octets :=
  let ds := Text.ofNat n
  List.replicate (width - ds.length) ' ' ++ ds

/-- A time, taken apart. -/
structure Calendar where
  micros : Int
  year : Int
  month : Nat
  day : Nat
  hour : Nat
  minute : Nat
  second : Nat
  fraction : Nat
  weekDay : Nat
  yearDay : Nat

def Calendar.of (micros : Int) : Calendar :=
  let seconds := micros.fdiv 1000000
  let days := seconds.fdiv 86400
  let ofDay := (seconds - days * 86400).toNat
  let (year, month, day) := civilDate days
  { micros, year, month, day, hour := ofDay / 3600, minute := ofDay % 3600 / 60, second := ofDay % 60
    fraction := (micros - seconds * 1000000).toNat, weekDay := ((days + 4) % 7).toNat
    yearDay := (days - dayNumber year 1 1).toNat }

/-- The year and the number of the week that begins on a Monday and holds its Thursday. -/
def Calendar.isoWeek (c : Calendar) : Int × Nat :=
  let monday := (c.weekDay + 6) % 7
  let week := ((c.yearDay : Int) - monday + 10) / 7
  let weeksOf (y : Int) : Int :=
    let first := (dayNumber y 1 1 + 4) % 7
    if first = 4 ∨ (first = 3 ∧ isLeap y) then 53 else 52
  if week < 1 then (c.year - 1, (weeksOf (c.year - 1)).toNat)
  else if week > weeksOf c.year then (c.year + 1, 1)
  else (c.year, week.toNat)

/-- A field that is filled up to a width with zeros or blanks. -/
inductive DatePart where
  | number (width : Nat) (filler : Char) (n : Int)
  | text (o : Octets)

def conversion? (c : Calendar) (letter : Char) : Option DatePart :=
  let two (n : Nat) : Octets := zeroPadded 2 n
  let clock := two c.hour ++ ':' :: two c.minute ++ ':' :: two c.second
  let year : Octets := (if c.year < 0 then ['-'] else []) ++ zeroPadded 4 c.year.natAbs
  let twelve := (c.hour + 11) % 12 + 1
  let month := (monthNames.getD (c.month - 1) "").toList
  let day := (dayNames.getD c.weekDay "").toList
  let half := (if c.hour < 12 then "AM" else "PM").toList
  let monday := (c.weekDay + 6) % 7
  match letter with
  | 'Y' => some (.number 4 '0' c.year)
  | 'C' => some (.number 2 '0' (c.year.fdiv 100))
  | 'y' => some (.number 2 '0' (c.year % 100))
  | 'G' => some (.number 4 '0' c.isoWeek.1)
  | 'g' => some (.number 2 '0' (c.isoWeek.1 % 100))
  | 'V' => some (.number 2 '0' c.isoWeek.2)
  | 'U' => some (.number 2 '0' ((c.yearDay + 7 - c.weekDay) / 7 : Nat))
  | 'W' => some (.number 2 '0' ((c.yearDay + 7 - monday) / 7 : Nat))
  | 'm' => some (.number 2 '0' c.month)
  | 'q' => some (.number 1 '0' ((c.month - 1) / 3 + 1 : Nat))
  | 'd' => some (.number 2 '0' c.day)
  | 'e' => some (.number 2 ' ' c.day)
  | 'j' => some (.number 3 '0' (c.yearDay + 1 : Nat))
  | 'H' => some (.number 2 '0' c.hour)
  | 'k' => some (.number 2 ' ' c.hour)
  | 'I' => some (.number 2 '0' twelve)
  | 'l' => some (.number 2 ' ' twelve)
  | 'M' => some (.number 2 '0' c.minute)
  | 'S' => some (.number 2 '0' c.second)
  | 's' => some (.number 1 '0' (c.micros.fdiv 1000000))
  | 'N' => some (.number 9 '0' (c.fraction * 1000 : Nat))
  | 'u' => some (.number 1 '0' (monday + 1 : Nat))
  | 'w' => some (.number 1 '0' c.weekDay)
  | 'F' => some (.text (year ++ '-' :: two c.month ++ '-' :: two c.day))
  | 'T' => some (.text clock)
  | 'X' => some (.text clock)
  | 'R' => some (.text (clock.take 5))
  | 'r' => some (.text (two twelve ++ clock.drop 2 ++ ' ' :: half))
  | 'D' => some (.text (two c.month ++ '/' :: two c.day ++ '/' :: two (c.year % 100).toNat))
  | 'x' => some (.text (two c.month ++ '/' :: two c.day ++ '/' :: two (c.year % 100).toNat))
  | 'A' => some (.text day)
  | 'a' => some (.text (day.take 3))
  | 'B' => some (.text month)
  | 'b' => some (.text (month.take 3))
  | 'h' => some (.text (month.take 3))
  | 'c' => some (.text (day.take 3 ++ ' ' :: month.take 3 ++ ' ' :: blankPadded 2 c.day ++ ' ' ::
      clock ++ ' ' :: Text.ofInt c.year))
  | 'p' => some (.text half)
  | 'P' => some (.text (half.map Char.toLower))
  | 'Z' => some (.text "UTC".toList)
  | 'z' => some (.text "+0000".toList)
  | 'n' => some (.text ['\n'])
  | 't' => some (.text ['\t'])
  | '%' => some (.text ['%'])
  | _ => none

/-- The marks between `%` and the letter: how to fill up, and letters in another case. -/
structure Marks where
  filler : Option Char := none
  unfilled : Bool := false
  upper : Bool := false
  swapped : Bool := false
  width : Option Nat := none

def Marks.apply (m : Marks) : DatePart → Octets
  | .number width filler n =>
    let filler := m.filler.getD filler
    let digits := Text.ofNat n.natAbs
    let width := if m.unfilled then 0 else m.width.getD width
    let sign : Octets := if n < 0 then ['-'] else []
    if filler = ' ' then List.replicate (width - sign.length - digits.length) ' ' ++ sign ++ digits
    else sign ++ List.replicate (width - digits.length - sign.length) filler ++ digits
  | .text o =>
    let o := if m.upper then o.map Char.toUpper
      else if m.swapped then (if o.all Char.isUpper then o.map Char.toLower else o.map Char.toUpper) else o
    List.replicate (m.width.getD 0 - o.length) (m.filler.getD ' ') ++ o

/-- The text of one conversion behind `%`, and what follows it. -/
def convertDate (c : Calendar) : (steps : Nat) → Marks → (read : Octets) → Octets → Octets × Octets
  | 0, _, _, r => ([], r)
  | _, _, read, [] => (read.reverse, [])
  | n + 1, m, read, ch :: r =>
    match ch with
    | '-' => convertDate c n { m with unfilled := true } (ch :: read) r
    | '_' => convertDate c n { m with filler := some ' ' } (ch :: read) r
    | '0' => convertDate c n { m with filler := some '0' } (ch :: read) r
    | '^' => convertDate c n { m with upper := true } (ch :: read) r
    | '#' => convertDate c n { m with swapped := true } (ch :: read) r
    | ':' =>
      let colons := (r.takeWhile (· == ':')).length + 1
      match r.drop (colons - 1) with
      | 'z' :: rest => ((if colons = 1 then "+00:00" else if colons = 2 then "+00:00:00" else "+00").toList, rest)
      | rest => (read.reverse ++ List.replicate colons ':', rest)
    | _ =>
      if ch.isDigit then
        let ds := (ch :: r).takeWhile Char.isDigit
        convertDate c n { m with width := some (Real.natOf ds) } (ds.reverse ++ read) ((ch :: r).drop ds.length)
      else if ch = 'E' ∨ ch = 'O' then convertDate c n m (ch :: read) r
      else
        -- A fraction is cut to its width instead of being filled up.
        if ch = 'N' then
          let digits := zeroPadded 9 (c.fraction * 1000)
          (digits.take (m.width.getD 9), r)
        else match conversion? c ch with
          | some f => (m.apply f, r)
          | none => (read.reverse ++ [ch], r)

/-- A format with the parts of a time in the place of its conversions. -/
def dateText (c : Calendar) : (steps : Nat) → Octets → Octets
  | 0, _ => []
  | _, [] => []
  | n + 1, '%' :: r =>
    let (o, rest) := convertDate c (r.length + 1) {} ['%'] r
    o ++ dateText c n rest
  | n + 1, ch :: r => ch :: dateText c n r

def formatDate (micros : Int) (format : Octets) : Octets :=
  dateText (Calendar.of micros) (format.length + 1) format

end KarelBuild.Shell
