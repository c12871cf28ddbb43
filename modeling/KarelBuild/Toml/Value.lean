import KarelBuild.Text

/-!
# Values of a TOML document

A table remembers how it came about, since that decides which later lines may add to it.
-/

namespace KarelBuild.Toml

/-- How a table came about: by its own header, as part of a longer header, by a dotted key, or as a
value between braces. -/
inductive Origin where
  | header
  | implied
  | dotted
  | inline
  deriving DecidableEq, Repr

/-- Numbers and dates are kept as they are spelled. `tables` is an array made by headers. -/
inductive Value where
  | text (t : Text)
  | boolean (b : Bool)
  | number (spelled : Text)
  | moment (spelled : Text)
  | array (items : List Value)
  | table (origin : Origin) (fields : List (Text × Value))
  | tables (members : List (List (Text × Value)))

abbrev Fields := List (Text × Value)

namespace Fields

def add (fields : Fields) (key : Text) (v : Value) : Fields := fields ++ [(key, v)]

/-- Change the value of a key where it stands. -/
def change (fields : Fields) (key : Text) (v : Value) : Fields :=
  fields.map fun (k, old) => if k = key then (k, v) else (k, old)

end Fields

/-- What is left of a text after something was read from its front. -/
structure Rest (s : Text) where
  text : Text
  shorter : text.length < s.length

theorem dropWhile_length (p : Char → Bool) (s : Text) : (s.dropWhile p).length ≤ s.length :=
  (List.dropWhile_sublist p).length_le

theorem tail_length_of_le {s t r : Text} {c : Char} (ht : t.length ≤ s.length) (h : t = c :: r) :
    r.length < s.length := by
  rw [h] at ht
  exact ht

namespace Rest

variable {s r : Text}

theorem tail_length {c : Char} (rest : Rest s) (h : rest.text = c :: r) : r.length < s.length :=
  tail_length_of_le (Nat.le_of_lt rest.shorter) h

/-- What is left of a text is also left of one that is at least as long. -/
def widen (h : r.length ≤ s.length) (rest : Rest r) : Rest s :=
  ⟨rest.text, Nat.lt_of_lt_of_le rest.shorter h⟩

/-- What is left of a text, as it is left when one more character stands before the text. -/
def behind (c : Char) (rest : Rest r) : Rest (c :: r) := rest.widen (Nat.le_succ r.length)

/-- Skip some of what is left. -/
def skip (f : Text → Text) (hf : ∀ t, (f t).length ≤ t.length) (rest : Rest s) : Rest s :=
  ⟨f rest.text, Nat.lt_of_le_of_lt (hf rest.text) rest.shorter⟩

end Rest

end KarelBuild.Toml
