import KarelBuild.Toml.Table

/-!
# Reading values

Arrays may be laid out over lines with comments between their items, tables between braces may not.
How deep they are nested is bounded.
-/

namespace KarelBuild.Toml

abbrev Reader (α : Type) := (s : Text) → Option (α × Rest s)

def isCommentChar (c : Char) : Bool := Quotes.isPrintable c

theorem dropComment_length (s : Text) : (s.dropWhile isCommentChar).length ≤ s.length :=
  dropWhile_length isCommentChar s

/-- Drop blanks, line ends and comments. -/
def skipLayout (s : Text) : Text :=
  match _h : Quotes.dropLayout s with
  | '#' :: r => skipLayout (r.dropWhile isCommentChar)
  | r => r
termination_by s.length
decreasing_by
  have := dropComment_length r
  have hs := Quotes.dropLayout_length s
  rw [_h] at hs
  simp only [List.length_cons] at hs
  omega

theorem skipLayout_length (s : Text) : (skipLayout s).length ≤ s.length := by
  fun_induction skipLayout s with
  | case1 s r h ih =>
    have := dropComment_length r
    have hs := Quotes.dropLayout_length s
    rw [h] at hs
    simp only [List.length_cons] at hs
    omega
  | case2 s => exact Quotes.dropLayout_length s

/-! ## Arrays -/

/-- An item with layout around it. -/
def spaced? (item : Reader Value) : Reader Value := fun s =>
  (item (skipLayout s)).map fun (v, rest) =>
    (v, ((rest.widen (skipLayout_length s)).skip skipLayout skipLayout_length))

/-- Items with commas between them, up to the closing bracket. -/
def items? (item : Reader Value) (s : Text) : Option (List Value × Rest s) :=
  match h : skipLayout s with
  | ']' :: r => some ([], ⟨r, tail_length_of_le (skipLayout_length s) h⟩)
  | _ =>
    match spaced? item s with
    | none => none
    | some (v, rest) =>
      match h' : rest.text with
      | ']' :: r => some ([v], ⟨r, rest.tail_length h'⟩)
      | ',' :: r =>
        (items? item r).map fun (vs, more) => (v :: vs, more.widen (Nat.le_of_lt (rest.tail_length h')))
      | _ => none
termination_by s.length
decreasing_by exact rest.tail_length h'

/-! ## Tables between braces -/

/-- A key and its value with the blanks behind it. -/
def pair? (value : Reader Value) (s : Text) : Option ((Key × Value) × Rest s) :=
  match Key.read? s with
  | none => none
  | some (k, rest) =>
    match h : rest.text with
    | '=' :: r => (value (Key.skipBlanks r)).map fun (v, more) =>
      ((k, v), ((more.widen (Key.skipBlanks_length r)).skip Key.skipBlanks Key.skipBlanks_length).widen
        (Nat.le_of_lt (rest.tail_length h)))
    | _ => none

/-- At least one pair, up to the closing brace. -/
def pairs? (value : Reader Value) (s : Text) : Option (List (Key × Value) × Rest s) :=
  match pair? value s with
  | none => none
  | some (p, rest) =>
    match h : rest.text with
    | '}' :: r => some ([p], ⟨r, rest.tail_length h⟩)
    | ',' :: r =>
      (pairs? value r).map fun (ps, more) => (p :: ps, more.widen (Nat.le_of_lt (rest.tail_length h)))
    | _ => none
termination_by s.length
decreasing_by exact rest.tail_length h

def braced? (value : Reader Value) (s : Text) : Option (Value × Rest s) :=
  match h : Key.skipBlanks s with
  | '}' :: r => some (.table .inline [], ⟨r, tail_length_of_le (Key.skipBlanks_length s) h⟩)
  | _ => do
    let (ps, rest) ← pairs? value s
    return (.table .inline (← Fields.ofPairs? ps), rest)

/-! ## Values -/

/-- How many brackets and braces may be open at once. -/
def maxDepth : Nat := 79

/-- Drop the first character and read on. -/
def behind {α : Type} (reader : Reader α) : Reader α
  | [] => none
  | c :: r => (reader r).map fun (a, rest) => (a, rest.behind c)

/-- A value with at most `depth` brackets and braces open at once. -/
def value? : (depth : Nat) → Reader Value
  | 0, s => simple? s
  | depth + 1, s =>
    match s.head? with
    | some '[' => (behind (items? (value? depth)) s).map fun (vs, rest) => (.array vs, rest)
    | some '{' => behind (braced? (value? depth)) s
    | _ => simple? s
where
  simple? (s : Text) : Option (Value × Rest s) :=
    ((Quoted.read? s).map fun (t, rest) => (Value.text t, rest)).or (Scalar.read? s)

end KarelBuild.Toml
