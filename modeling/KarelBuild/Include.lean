import KarelBuild.Text

/-!
# Include directives

A line is a directive if, after optional white space, it holds `%INCLUDE` in capitals, white space
and a name; the name ends at the next white space and the rest of the line is free. A line that
starts with `--` is a comment.

`includes` reads a whole source at once. A `Scanner` reads it name by name and holds only the text
that it has not read yet.
-/

namespace KarelBuild

open Text

def commentMark : Text := "--".toList

def includeKeyword : Text := "%INCLUDE".toList

def isComment (line : Text) : Bool := commentMark.isPrefixOf (trimStart line)

/-- The name after the keyword: white space must come first, and a name must follow. -/
def nameAfterKeyword? (rest : Text) : Option Text :=
  match rest with
  | [] => none
  | c :: _ =>
    if isBlank c then
      let name := (trimStart rest).takeWhile (!isBlank ·)
      if name = [] then none else some name
    else none

/-- The name that a line includes. -/
def includeOnLine? (line : Text) : Option Text :=
  if isComment line then none
  else (includeKeyword.isPrefixOf? (trimStart line)).bind nameAfterKeyword?

/-- The names that a source includes, in order and with repetitions. -/
def includes (source : Text) : List Text := (lines source).filterMap includeOnLine?

/-! ## Reading name by name -/

structure Scanner where
  unread : Text
  deriving DecidableEq

namespace Scanner

def ofSource (source : Text) : Scanner := ⟨source⟩

/-- The next name and the scanner after the line it stands on. -/
def next? (s : Scanner) : Option (Text × Scanner) :=
  match h : nextLine? s.unread with
  | none => none
  | some (line, rest) =>
    have : rest.length < s.unread.length := nextLine?_rest_length h
    match includeOnLine? line with
    | some name => some (name, ⟨rest⟩)
    | none => next? ⟨rest⟩
  termination_by s.unread.length

/-- At most `n` names, and the scanner after them. -/
def take (s : Scanner) : Nat → List Text × Scanner
  | 0 => ([], s)
  | n + 1 =>
    match s.next? with
    | none => ([], ⟨[]⟩)
    | some (name, s') => (name :: (s'.take n).1, (s'.take n).2)

/-- Everything that is still to come: no text has more names than characters. -/
def rest (s : Scanner) : List Text := (s.take s.unread.length).1

end Scanner

end KarelBuild
