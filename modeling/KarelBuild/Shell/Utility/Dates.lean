import KarelBuild.Shell.Calendar
import KarelBuild.Shell.Utility.Basic

/-!
# Dates

A date is read from words: dates, times of the day, zones and spans to be added.
-/

namespace KarelBuild.Shell.Utility

/-- What has been read of a date. -/
structure DateRead where
  date : Option (Int × Int × Int) := none
  /-- The time of the day in microseconds. -/
  time : Option Int := none
  zone : Option Int := none
  weekDay : Option (Nat × Int) := none
  months : Int := 0
  days : Int := 0
  micros : Int := 0
  stamp : Option Int := none

def fraction? (t : Octets) : Option Int :=
  if t.all Char.isDigit then some (digitsValue ((t ++ "000000".toList).take 6)) else none

/-- A number of seconds with a fraction, in microseconds. -/
def seconds? (t : Octets) : Option Int :=
  let (negative, t) := match t with
    | '-' :: r => (true, r)
    | '+' :: r => (false, r)
    | r => (false, r)
  let whole := t.takeWhile Char.isDigit
  let rest := t.drop whole.length
  if whole = [] then none
  else
    let part := match rest with
      | [] => some 0
      | '.' :: f => if f = [] then none else fraction? f
      | _ => none
    part.map fun f =>
      let n : Int := digitsValue whole * 1000000 + f
      if negative then -n else n

/-- Hours, minutes and seconds with colons between them, in microseconds. -/
def clockTime? (t : Octets) : Option Int :=
  match Text.split ':' t with
  | [h, m] => clock h m ['0']
  | [h, m, s] => clock h m s
  | _ => none
where
  clock (h m s : Octets) : Option Int := do
    if !isNumber h || !isNumber m || m.length > 2 || h.length > 2 then none
    else
      let s ← seconds? (s.map fun c => if c = ',' then '.' else c)
      let h := digitsValue h
      let m := digitsValue m
      if h > 24 ∨ m > 59 ∨ s < 0 ∨ s ≥ 61000000 then none
      else some (((h * 60 + m : Nat) : Int) * 60000000 + s)

/-- An offset from the standard time in microseconds. -/
def zoneOffset? (t : Octets) : Option Int :=
  let upper := t.map Char.toUpper
  let hours (n : Int) : Option Int := some (n * 3600000000)
  match [("Z", 0), ("UTC", 0), ("UT", 0), ("GMT", 0), ("EST", -5), ("EDT", -4), ("CST", -6), ("CDT", -5),
      ("MST", -7), ("MDT", -6), ("PST", -8), ("PDT", -7), ("CET", 1), ("CEST", 2), ("BST", 1), ("WET", 0),
      ("EET", 2), ("JST", 9), ("MSK", 3)].lookup (String.ofList upper) with
  | some (n : Int) => hours n
  | none =>
    match t with
    | sign :: ds =>
      let digits := ds.filter (· != ':')
      if (sign = '+' ∨ sign = '-') ∧ isNumber digits ∧ digits.length ≤ 4 then
        let n := digitsValue digits
        let minutes : Int := if digits.length ≤ 2 then n * 60 else n / 100 * 60 + n % 100
        some ((if sign = '-' then -minutes else minutes) * 60000000)
      else none
    | [] => none

def monthNumber? (t : Octets) : Option Int :=
  let t := (t.map Char.toLower).filter (· != '.')
  let i := monthNames.findIdx fun name =>
    let name := name.toList.map Char.toLower
    t == name || t == name.take 3 || (t == "sept".toList && name == "september".toList)
  if i < 12 then some (i + 1) else none

def weekDayNumber? (t : Octets) : Option Nat :=
  let t := (t.map Char.toLower).filter fun c => c != '.' && c != ','
  let i := dayNames.findIdx fun name =>
    let name := name.toList.map Char.toLower
    t == name || t == name.take 3 || (t.length > 3 && t.isPrefixOf name && t.length ≤ 5)
  if i < 7 then some i else none

/-- A year; of two digits only, one near the present. -/
def fullYear (t : Octets) : Int :=
  let n := digitsValue t
  if t.length ≤ 2 then (if n < 69 then 2000 + n else 1900 + n) else n

/-- A date in one word, with hyphens or slashes. -/
def dateWord? (t : Octets) : Option (Int × Int × Int) :=
  match Text.split '-' t with
  | [y, m, d] =>
    if isNumber y ∧ isNumber m ∧ isNumber d then some (fullYear y, digitsValue m, digitsValue d)
    else if isNumber y ∧ isNumber d then (monthNumber? m).map fun m => (fullYear d, m, digitsValue y)
    else none
  | _ =>
    match Text.split '/' t with
    | [m, d, y] =>
      if isNumber y ∧ isNumber m ∧ isNumber d then
        if m.length = 4 then some (fullYear m, digitsValue d, digitsValue y)
        else some (fullYear y, digitsValue m, digitsValue d)
      else none
    | _ => none

/-- A unit of time: months, days or microseconds. -/
def unit? (t : Octets) : Option (Int × Int × Int) :=
  let t := t.map Char.toLower
  let one := if t.length > 3 ∧ t.getLast? = some 's' then t.dropLast else t
  [("year", (12, 0, 0)), ("month", (1, 0, 0)), ("fortnight", (0, 14, 0)), ("week", (0, 7, 0)), ("day", (0, 1, 0)),
    ("hour", (0, 0, 3600000000)), ("minute", (0, 0, 60000000)), ("min", (0, 0, 60000000)),
    ("second", (0, 0, 1000000)), ("sec", (0, 0, 1000000))].lookup (String.ofList one)

def DateRead.addSpan (r : DateRead) (n : Int) (u : Int × Int × Int) : DateRead :=
  { r with months := r.months + n * u.1, days := r.days + n * u.2.1, micros := r.micros + n * u.2.2 }

/-- A word that stands for a number of times. -/
def ordinal? (t : Octets) : Option Int :=
  [("last", -1), ("this", 0), ("next", 1), ("third", 3), ("fourth", 4), ("fifth", 5), ("sixth", 6)].lookup
    (String.ofList (t.map Char.toLower))

/-- A number with a sign in front. -/
def signed? (t : Octets) : Option Int :=
  match t with
  | '+' :: ds => if isNumber ds then some (digitsValue ds) else none
  | '-' :: ds => if isNumber ds then some (-(digitsValue ds : Int)) else none
  | ds => if isNumber ds then some (digitsValue ds) else none

/-- Read the words of a date from left to right. -/
def readDate : (steps : Nat) → DateRead → List Octets → Option DateRead
  | 0, _, _ => none
  | _, r, [] => some r
  | n + 1, r, w :: rest =>
    let lower := w.map Char.toLower
    let ago (rest : List Octets) : Int × List Octets :=
      match rest with
      | a :: rest' => if a.map Char.toLower = "ago".toList then (-1, rest') else (1, rest)
      | [] => (1, [])
    match w with
    | '@' :: t => do
      let stamp ← seconds? t
      readDate n { r with stamp := some stamp } rest
    | _ =>
      if ["now", "today", "utc", "z", "gmt"].any (·.toList = lower) then
        readDate n (if lower = "now".toList ∨ lower = "today".toList then r else { r with zone := some 0 }) rest
      else if lower = "yesterday".toList then readDate n { r with days := r.days - 1 } rest
      else if lower = "tomorrow".toList then readDate n { r with days := r.days + 1 } rest
      else match dateWord? w with
        | some d => readDate n { r with date := some d } rest
        | none =>
          match clockTime? w with
          | some t =>
            match rest with
            | half :: rest' =>
              let half := (half.map Char.toLower).filter (· != '.')
              if half = "am".toList ∨ half = "pm".toList then
                let hour := t / 3600000000
                let bare := t - hour * 3600000000
                let hour := hour % 12 + if half = "pm".toList then 12 else 0
                readDate n { r with time := some (hour * 3600000000 + bare) } rest'
              else readDate n { r with time := some t } rest
            | [] => readDate n { r with time := some t } []
          | none =>
            match weekDayNumber? w with
            | some d => readDate n { r with weekDay := some (d, 0) } rest
            | none =>
              match monthNumber? w, unit? w with
              | some m, _ =>
                match rest with
                | d :: y :: rest' =>
                  let bare := d.filter (· != ',')
                  if !isNumber bare then none
                  else if isNumber y && y.length = 4 then
                    readDate n { r with date := some (digitsValue y, m, digitsValue bare) } rest'
                  else readDate n { r with date := some (0, m, digitsValue bare) } (y :: rest')
                | [d] =>
                  let bare := d.filter (· != ',')
                  if isNumber bare then some { r with date := some (0, m, digitsValue bare) } else none
                | [] => none
              | none, some u =>
                let (sign, rest) := ago rest
                readDate n (r.addSpan sign u) rest
              | none, none =>
                match ordinal? w, rest with
                | some k, u :: rest' =>
                  match unit? u, weekDayNumber? u with
                  | some u, _ =>
                    let (sign, rest') := ago rest'
                    readDate n (r.addSpan (k * sign) u) rest'
                  | none, some d => readDate n { r with weekDay := some (d, k) } rest'
                  | none, none => none
                | _, _ =>
                  match signed? w, rest with
                  | some k, u :: rest' =>
                    match unit? u, monthNumber? u with
                    | some u, _ =>
                      let (sign, rest') := ago rest'
                      readDate n (r.addSpan (k * sign) u) rest'
                    | none, some m =>
                      match rest' with
                      | y :: rest'' =>
                        if isNumber y && y.length = 4 then
                          readDate n { r with date := some (digitsValue y, m, k) } rest''
                        else readDate n { r with date := some (0, m, k) } rest'
                      | [] => some { r with date := some (0, m, k) }
                    | none, none => number n w r rest
                  | some _, [] => number n w r rest
                  | none, _ =>
                    match zoneOffset? w with
                    | some z => readDate n { r with zone := some z } rest
                    | none => none
where
  number (n : Nat) (w : Octets) (r : DateRead) (rest : List Octets) : Option DateRead :=
    if w.head? = some '+' ∨ w.head? = some '-' then
      (zoneOffset? w).bind fun z => if r.time.isSome then readDate n { r with zone := some z } rest else none
    else if w.length = 8 then
      readDate n { r with date := some (digitsValue (w.take 4), digitsValue ((w.drop 4).take 2),
        digitsValue (w.drop 6)) } rest
    else if w.length ≤ 2 ∧ r.time.isNone then
      if digitsValue w < 24 then readDate n { r with time := some (digitsValue w * 3600000000) } rest else none
    else if w.length = 4 ∧ r.time.isNone then
      let h := digitsValue (w.take 2)
      let m := digitsValue (w.drop 2)
      if h < 24 ∧ m < 60 then readDate n { r with time := some ((h * 60 + m : Nat) * 60000000) } rest else none
    else none

/-- Letters, digits with what belongs to them, and signs apart from each other. -/
def dateWords (t : Octets) : List Octets :=
  let isBlank (c : Char) : Bool := c == ' ' || ('\t' ≤ c && c ≤ '\r')
  let pieces := (t.splitBy fun a b => !isBlank a && !isBlank b).filter fun w => !w.all isBlank
  pieces.flatMap fun w =>
    -- The date and the time of one word, and a zone right behind a time.
    let isDate (d : Octets) : Bool := (dateWord? d).isSome
    let (d, time) := Text.cut 'T' w
    match time with
    | some time => if isDate d then d :: splitZone time else splitZone w
    | none => splitZone w
where
  splitZone (w : Octets) : List Octets :=
    let front := w.takeWhile fun c => c.isDigit || c == ':' || c == '.'
    let rest := w.drop front.length
    if front.contains ':' ∧ rest ≠ [] then [front, rest]
    else if front ≠ [] ∧ rest ≠ [] ∧ rest.all Char.isAlpha ∧ !front.contains '.' then [front, rest]
    else [w]

/-- The time that words stand for, as seen from a time. -/
def dateOf? (now : Int) (text : Octets) : Option Int := do
  let words := dateWords text
  let r ← readDate (2 * words.length + 2) {} words
  match r.stamp with
  | some stamp => if words.length = 1 then some stamp else none
  | none =>
    let here := Calendar.of now
    let (y, m, d) := r.date.getD (here.year, here.month, here.day)
    let y := if y = 0 ∧ r.date.isSome then here.year else y
    if m < 1 ∨ m > 12 ∨ d < 1 ∨ d > monthLength y m.toNat then none
    else
      let month := y * 12 + (m - 1) + r.months
      let days := dayNumber (month.fdiv 12) (month % 12 + 1) d + r.days
      let days := match r.weekDay with
        | some (w, k) =>
          let ahead := ((w : Int) - (days + 4) % 7) % 7
          days + ahead + 7 * (if k > 0 ∧ ahead ≠ 0 then k - 1 else k)
        | none => days
      let isWhole := r.date.isSome || r.weekDay.isSome
      let ofDay := r.time.getD (if isWhole then 0 else now - now.fdiv 86400000000 * 86400000000)
      some (days * 86400000000 + ofDay + r.micros - r.zone.getD 0)

end KarelBuild.Shell.Utility
