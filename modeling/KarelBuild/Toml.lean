import KarelBuild.Toml.Reader

/-!
# TOML documents

A document is a list of lines, each of them a pair, a header or nothing. `parse?` reads the lines
and builds the table that they describe; it has no result where a line is malformed or defines
something a second time.
-/

namespace KarelBuild.Toml

inductive Line where
  | blank
  | pair (key : Key) (value : Value)
  | table (key : Key)
  | member (key : Key)

/-! ## Reading lines -/

/-- A chain of names and the closing brackets of a header. -/
def header? (closing : Text) (s : Text) : Option (Key × Rest s) :=
  match Key.read? s with
  | none => none
  | some (k, rest) => if closing.isPrefixOf rest.text then some (k, rest.skip (·.drop closing.length) fun _ => (List.drop_sublist _ _).length_le) else none

/-- A line up to its blanks, comment and end. -/
def line? (s : Text) : Option (Line × { r : Text // r.length ≤ s.length }) :=
  match s with
  | '[' :: '[' :: r => (header? "]]".toList r).map fun (k, rest) =>
    (.member k, ⟨rest.text, Nat.le_of_lt ((rest.behind '[').behind '[').shorter⟩)
  | '[' :: r => (header? "]".toList r).map fun (k, rest) =>
    (.table k, ⟨rest.text, Nat.le_of_lt (rest.behind '[').shorter⟩)
  | s =>
    if s.head?.all "#\r\n".toList.contains then some (.blank, ⟨s, Nat.le_refl _⟩)
    else (pair? (value? maxDepth) s).map fun ((k, v), rest) =>
      (.pair k v, ⟨rest.text, Nat.le_of_lt rest.shorter⟩)

def skipComment : Text → Text
  | '#' :: r => r.dropWhile isCommentChar
  | s => s

theorem skipComment_length (s : Text) : (skipComment s).length ≤ s.length := by
  unfold skipComment
  split
  · rename_i r
    have := dropComment_length r
    simp only [List.length_cons]
    omega
  · exact Nat.le_refl _

/-- What follows the blanks and the comment that a line may end with. -/
def lineTail (s : Text) : Text := skipComment (Key.skipBlanks s)

theorem lineTail_length (s : Text) : (lineTail s).length ≤ s.length :=
  Nat.le_trans (skipComment_length _) (Key.skipBlanks_length s)

/-- All lines; the last one needs no end. -/
def lines? (s : Text) : Option (List Line) :=
  match line? (Key.skipBlanks s) with
  | none => none
  | some (l, ⟨r, _⟩) =>
    if lineTail r = [] then some [l]
    else match _h : Quotes.lineEnd? (lineTail r) with
      | none => none
      | some s' => (lines? s').map (l :: ·)
termination_by s.length
decreasing_by
  have := Quotes.lineEnd?_length _h
  have := lineTail_length r
  have := Key.skipBlanks_length s
  omega

/-! ## The document's table -/

/-- The table built so far, and the names that lead to the one that pairs are added to. -/
structure Document where
  fields : Fields := []
  here : List Text := []

namespace Document

def add (d : Document) : Line → Option Document
  | .blank => some d
  | .pair k v =>
    (d.fields.within (Fields.assign v k.first k.rest) d.here).map fun fields => { d with fields }
  | .table k =>
    (d.fields.within (Fields.openTable (k.names.getLast (by simp [Key.names]))) k.names.dropLast).map
      fun fields => ⟨fields, k.names⟩
  | .member k =>
    (d.fields.within (Fields.openMember (k.names.getLast (by simp [Key.names]))) k.names.dropLast).map
      fun fields => ⟨fields, k.names⟩

end Document

/-- A mark in front that tells the order of bytes is no part of the document. -/
def dropMark : Text → Text
  | '\ufeff' :: s => s
  | s => s

def parse? (s : Text) : Option Fields := do
  let ls ← lines? (dropMark s)
  let d ← ls.foldlM Document.add {}
  return d.fields

end KarelBuild.Toml
