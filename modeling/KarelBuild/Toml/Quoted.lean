import KarelBuild.Toml.Scalar

/-!
# Quoted text

Text stands between double quotes, where a backslash begins an escape, or between single quotes,
where every character stands for itself. Three quotes begin a block, which may span lines.
-/

namespace KarelBuild.Toml

structure Quotes where
  mark : Char
  escapes : Bool
  block : Bool
  deriving DecidableEq, Repr

namespace Quotes

/-! ## Where a text ends -/

/-- Up to two marks may stand right before the three that close a block. -/
def surplus (mark : Char) : Text → Text × Text
  | a :: b :: r =>
    if a = mark ∧ b = mark then ([a, b], r) else if a = mark then ([a], b :: r) else ([], a :: b :: r)
  | [a] => if a = mark then ([a], []) else ([], [a])
  | [] => ([], [])

theorem surplus_length (mark : Char) (s : Text) : (surplus mark s).2.length ≤ s.length := by
  fun_cases surplus mark s <;> grind

/-- What stands before the closing marks, and what stands behind them. -/
def close? (q : Quotes) : Text → Option (Text × Text)
  | [] => none
  | c :: r =>
    if q.escapes ∧ c = '\\' then
      match r with
      | [] => none
      | d :: r' => (close? q r').map fun (t, rest) => (c :: d :: t, rest)
    else if c = q.mark then
      if q.block then
        match r with
        | d :: e :: r' =>
          if d = q.mark ∧ e = q.mark then some (surplus q.mark r')
          else (close? q (d :: e :: r')).map fun (t, rest) => (c :: t, rest)
        | _ => none
      else some ([], r)
    else (close? q r).map fun (t, rest) => (c :: t, rest)

theorem close?_length (q : Quotes) (s t rest : Text) (h : close? q s = some (t, rest)) :
    rest.length < s.length := by
  fun_induction close? q s generalizing t rest with
  | case1 => simp at h
  | case2 => simp at h
  | case3 c _ d r ih =>
    obtain ⟨⟨u, v⟩, hu, hv⟩ := Option.map_eq_some_iff.1 h
    obtain ⟨-, rfl⟩ := Prod.mk.inj hv
    have := ih u v hu
    simp only [List.length_cons]
    omega
  | case4 _ d e r _ =>
    have := surplus_length q.mark r
    rw [Option.some.inj h] at this
    simp only [List.length_cons] at this ⊢
    omega
  | case5 _ d e r _ _ ih =>
    obtain ⟨⟨u, v⟩, hu, hv⟩ := Option.map_eq_some_iff.1 h
    obtain ⟨-, rfl⟩ := Prod.mk.inj hv
    have := ih u v hu
    simp only [List.length_cons] at this ⊢
    omega
  | case6 => simp at h
  | case7 c r =>
    obtain ⟨-, rfl⟩ := Prod.mk.inj (Option.some.inj h)
    simp
  | case8 c r _ _ ih =>
    obtain ⟨⟨u, v⟩, hu, hv⟩ := Option.map_eq_some_iff.1 h
    obtain ⟨-, rfl⟩ := Prod.mk.inj hv
    have := ih u v hu
    simp only [List.length_cons]
    omega

/-! ## What a text says -/

def escapeLetters : List (Char × Char) :=
  [('b', '\x08'), ('t', '\t'), ('n', '\n'), ('f', '\x0c'), ('r', '\r'), ('"', '"'), ('\\', '\\')]

/-- The character of a hexadecimal code of fixed width. -/
def coded? (width : Nat) (s : Text) : Option (Text × Text) :=
  let digits := s.take width
  let n := Scalar.valueIn 16 digits
  if digits.length = width ∧ digits.all Scalar.isHexDigit ∧ n.isValidChar then
    some ([Char.ofNat n], s.drop width)
  else none

def isBlank (c : Char) : Bool := c == ' ' || c == '\t'

/-- Drop blanks and line ends. -/
def dropLayout : Text → Text
  | [] => []
  | [c] => if isBlank c ∨ c = '\n' then [] else [c]
  | c :: d :: r =>
    if isBlank c ∨ c = '\n' then dropLayout (d :: r)
    else if c = '\r' ∧ d = '\n' then dropLayout r
    else c :: d :: r

theorem dropLayout_length (s : Text) : (dropLayout s).length ≤ s.length := by
  fun_induction dropLayout s <;> simp_all <;> omega

def lineEnd? : Text → Option Text
  | '\n' :: r => some r
  | '\r' :: '\n' :: r => some r
  | _ => none

theorem lineEnd?_length {s r : Text} (h : lineEnd? s = some r) : r.length < s.length := by
  unfold lineEnd? at h
  split at h
  · rw [← Option.some.inj h]
    exact Nat.lt_succ_self _
  · rw [← Option.some.inj h]
    exact Nat.lt_add_of_pos_right Nat.two_pos
  · exact absurd h (by simp)

/-- A backslash at the end of a line joins it with the next text. -/
def joined? (s : Text) : Option (Text × Text) :=
  (lineEnd? (s.dropWhile isBlank)).map fun r => ([], dropLayout r)

/-- What the characters behind a backslash stand for, and what follows them. -/
def escape? (q : Quotes) (s : Text) : Option (Text × Text) :=
  match s with
  | [] => none
  | c :: r =>
    if c = 'u' then coded? 4 r
    else if c = 'U' then coded? 8 r
    else match escapeLetters.lookup c with
      | some d => some ([d], r)
      | none => if q.block then joined? (c :: r) else none

theorem coded?_length {width : Nat} {s t r : Text} (h : coded? width s = some (t, r)) :
    r.length ≤ s.length := by
  unfold coded? at h
  simp only at h
  split at h
  · simp only [Option.some.injEq, Prod.mk.injEq] at h
    simp [← h.2]
  · simp at h

theorem joined?_length {s t r : Text} (h : joined? s = some (t, r)) : r.length ≤ s.length := by
  obtain ⟨u, hu, hr⟩ := Option.map_eq_some_iff.1 h
  simp only [Prod.mk.injEq] at hr
  have := lineEnd?_length hu
  have := dropLayout_length u
  have := (List.dropWhile_sublist (l := s) isBlank).length_le
  rw [← hr.2]
  omega

theorem escape?_length {q : Quotes} {s t r : Text} (h : escape? q s = some (t, r)) :
    r.length ≤ s.length := by
  unfold escape? at h
  split at h
  · simp at h
  · rename_i c u
    simp only [List.length_cons]
    split at h
    · have := coded?_length h
      omega
    · split at h
      · have := coded?_length h
        omega
      · split at h
        · simp only [Option.some.injEq, Prod.mk.injEq] at h
          simp [h.2]
        · split at h
          · simpa using joined?_length h
          · simp at h

/-- Control characters may not stand in a text. -/
def isPrintable (c : Char) : Bool := c == '\t' || (' ' ≤ c && c != '\x7f')

/-- The text that stands between the marks. A line end in a block is a line feed. -/
def contents? (q : Quotes) (s : Text) : Option Text :=
  match s with
  | [] => some []
  | c :: r =>
    if q.escapes ∧ c = '\\' then
      match _h : escape? q r with
      | some (t, r') => (contents? q r').map (t ++ ·)
      | none => none
    else if isPrintable c then (contents? q r).map (c :: ·)
    else if q.block then
      match _h : lineEnd? (c :: r) with
      | some r' => (contents? q r').map ('\n' :: ·)
      | none => none
    else none
termination_by s.length
decreasing_by
  · have := escape?_length _h
    simp only [List.length_cons]
    omega
  · simp
  · exact lineEnd?_length _h

end Quotes

namespace Quoted

/-- The marks that a text begins with, and what stands behind them. -/
def open? : Text → Option (Quotes × Text)
  | c :: r =>
    if c = '"' ∨ c = '\'' then
      let line : Quotes := ⟨c, c = '"', false⟩
      match r with
      | d :: e :: r' => if d = c ∧ e = c then some ({ line with block := true }, r') else some (line, r)
      | _ => some (line, r)
    else none
  | [] => none

theorem open?_length {s r : Text} {q : Quotes} (h : open? s = some (q, r)) :
    r.length < s.length := by
  fun_cases open? s <;> grind [open?]

/-- A line end right behind the marks is not part of a block. -/
def dropFirstLineEnd (q : Quotes) (s : Text) : Text :=
  if q.block then (Quotes.lineEnd? s).getD s else s

theorem dropFirstLineEnd_length (q : Quotes) (s : Text) :
    (dropFirstLineEnd q s).length ≤ s.length := by
  unfold dropFirstLineEnd
  split
  · cases h : Quotes.lineEnd? s with
    | none => simp
    | some r =>
      have := Quotes.lineEnd?_length h
      simp only [Option.getD_some]
      omega
  · simp

/-- The text between marks that were opened. -/
def body? (q : Quotes) (s : Text) : Option (Text × Rest s) :=
  match h : q.close? (dropFirstLineEnd q s) with
  | none => none
  | some (raw, rest) =>
    let behind : Rest (dropFirstLineEnd q s) := ⟨rest, Quotes.close?_length q _ _ _ h⟩
    (q.contents? raw).map fun t => (t, behind.widen (dropFirstLineEnd_length q s))

def read? (s : Text) : Option (Text × Rest s) :=
  match h : open? s with
  | none => none
  | some (q, r) => (body? q r).map fun (t, rest) => (t, rest.widen (Nat.le_of_lt (open?_length h)))

/-- Quoted text on one line, as it is used for keys. -/
def readLine? (s : Text) : Option (Text × Rest s) :=
  match s with
  | [] => none
  | c :: r =>
    if c = '"' ∨ c = '\'' then
      (body? ⟨c, c = '"', false⟩ r).map fun (t, rest) => (t, rest.behind c)
    else none

end Quoted

end KarelBuild.Toml
