/-!
# Text

Text is a list of characters, so that everything said about it is said by
recursion on the list. Here are its lines, its splitting at a separator, its blank
characters (those with the Unicode property White_Space), replacement in it and the
decimal form of numbers.
-/

namespace KarelBuild

abbrev Text := List Char

namespace Text

/-! ## Splitting and joining -/

/-- Put a character in front of the first piece. -/
def consHead (c : Char) : List Text → List Text
  | [] => [[c]]
  | p :: ps => (c :: p) :: ps

/-- The pieces between the occurrences of `d`; there is always at least one. -/
def split (d : Char) : Text → List Text
  | [] => [[]]
  | c :: r => if c = d then [] :: split d r else consHead c (split d r)

/-- The text up to the first `d`, and what follows it if there is one. -/
def cut (d : Char) : Text → Text × Option Text
  | [] => ([], none)
  | c :: r => if c = d then ([], some r) else (c :: (cut d r).1, (cut d r).2)

/-- The texts with `separator` between each two neighbours. -/
def join (separator : Text) : List Text → Text
  | [] => []
  | [t] => t
  | t :: u :: ts => t ++ separator ++ join separator (u :: ts)

theorem cut_rest_length (d : Char) (s r : Text) (h : (cut d s).2 = some r) :
    r.length < s.length := by
  induction s with
  | nil => simp [cut] at h
  | cons c s ih =>
    by_cases hc : c = d
    · simp [cut, hc] at h
      simp [h]
    · simp [cut, hc] at h
      have := ih h
      simp only [List.length_cons]
      omega

/-! ## Lines -/

/-- A line feed ends a line; one carriage return right before it belongs to the line end. -/
def dropReturn (line : Text) : Text :=
  if line.getLast? = some '\r' then line.dropLast else line

/-- The first line and the text after its line end; `none` for the empty text. The last line needs
no line end, and then keeps a carriage return it may close with. -/
def nextLine? (s : Text) : Option (Text × Text) :=
  if s = [] then none
  else match (cut '\n' s).2 with
    | some rest => some (dropReturn (cut '\n' s).1, rest)
    | none => some ((cut '\n' s).1, [])

/-- All lines; the empty text after a closing line feed is no line. -/
def lines (s : Text) : List Text :=
  let pieces := split '\n' s
  let last := pieces.getLastD []
  pieces.dropLast.map dropReturn ++ (if last = [] then [] else [last])

theorem nextLine?_rest_length {s line rest : Text} (h : nextLine? s = some (line, rest)) :
    rest.length < s.length := by
  unfold nextLine? at h
  split at h
  · simp at h
  · rename_i hs
    split at h
    · rename_i r hr
      simp at h
      rw [← h.2]
      exact cut_rest_length _ _ _ hr
    · simp at h
      have := List.length_pos_iff.mpr hs
      simp [h.2]
      omega

/-! ## Ends of a text -/

/-- The text without an end of the given form, if it has it. -/
def stripSuffix? (suffix s : Text) : Option Text :=
  if suffix.isSuffixOf s then some (s.take (s.length - suffix.length)) else none

/-- The longest text free of `d` at the end, and what stands before that last `d`. -/
def cutLast (d : Char) (s : Text) : Option (Text × Text) :=
  if s.contains d then
    let tail := (s.reverse.takeWhile (· != d)).reverse
    some (s.take (s.length - tail.length - 1), tail)
  else none

/-! ## Repetitions -/

/-- The texts in order of their first occurrence. -/
def distinct : List Text → List Text
  | [] => []
  | t :: ts => t :: (distinct ts).filter (· != t)

/-! ## Blank characters -/

/-- First and last code point of each run of white space. -/
def blankRanges : List (Nat × Nat) :=
  [(0x09, 0x0D), (0x20, 0x20), (0x85, 0x85), (0xA0, 0xA0), (0x1680, 0x1680), (0x2000, 0x200A),
   (0x2028, 0x2029), (0x202F, 0x202F), (0x205F, 0x205F), (0x3000, 0x3000)]

def isBlank (c : Char) : Bool :=
  blankRanges.any fun (low, high) => low ≤ c.toNat && c.toNat ≤ high

def trimStart (s : Text) : Text := s.dropWhile isBlank

theorem isBlank_of_isWhitespace {c : Char} (h : c.isWhitespace = true) : isBlank c = true := by
  simp only [Char.isWhitespace, Bool.or_eq_true, decide_eq_true_eq] at h
  rcases h with ((rfl | rfl) | rfl) | rfl <;> decide

/-! ## Replacement

Occurrences of a text are taken from the left and do not overlap.
-/

/-- Replace `old` in a text whose first `skip` characters belong to an occurrence already replaced. -/
def replaceFrom (old new : Text) : Nat → Text → Text
  | _, [] => []
  | skip + 1, _ :: r => replaceFrom old new skip r
  | 0, c :: r =>
    if old.isPrefixOf (c :: r) then new ++ replaceFrom old new (old.length - 1) r
    else c :: replaceFrom old new 0 r

/-- Replace every occurrence of `old`, which must not be empty, by `new`. -/
def replaceAll (old new s : Text) : Text := replaceFrom old new 0 s

/-! ## Numbers -/

def ofNat (n : Nat) : Text := Nat.toDigits 10 n

def ofInt : Int → Text
  | .ofNat n => ofNat n
  | .negSucc n => '-' :: ofNat (n + 1)

/-! ## Order -/

/-- Order by code points, which is also the order of the UTF-8 bytes. -/
def le : Text → Text → Bool
  | [], _ => true
  | _ :: _, [] => false
  | a :: s, b :: t => if a = b then le s t else a.toNat < b.toNat

end Text

end KarelBuild
