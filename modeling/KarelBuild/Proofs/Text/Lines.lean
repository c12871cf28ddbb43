import KarelBuild.Proofs.Path
import Mathlib.Data.List.Basic

/-!
# Lines of a text

`HasLines` says what the lines of a text are, line end by line end, and `lines` computes them
(`hasLines_iff`). A line feed between two texts keeps their lines apart, up to a carriage return that
the first text may close with (`lines_append`).
-/

namespace KarelBuild.Text

/-- A line feed ends a line, and so does a carriage return with a line feed behind it. The last line
needs no end, but has to have something in it. -/
inductive HasLines : Text → List Text → Prop
  | none : HasLines [] []
  | last {line : Text} : line ≠ [] → '\n' ∉ line → HasLines line [line]
  | feed {line rest : Text} {ls : List Text} : '\n' ∉ line → line.getLast? ≠ some '\r' →
      HasLines rest ls → HasLines (line ++ '\n' :: rest) (line :: ls)
  | returnFeed {line rest : Text} {ls : List Text} : '\n' ∉ line →
      HasLines rest ls → HasLines (line ++ '\r' :: '\n' :: rest) (line :: ls)

/-! ## Carriage returns -/

theorem dropReturn_concat (line : Text) : dropReturn (line ++ ['\r']) = line := by
  simp [dropReturn]

theorem dropReturn_of_last {line : Text} (h : line.getLast? ≠ some '\r') :
    dropReturn line = line := by
  simp [dropReturn, h]

theorem exists_return_of_last {line : Text} (h : line.getLast? = some '\r') :
    ∃ t, line = t ++ ['\r'] := List.getLast?_eq_some_iff.mp h

/-! ## Line feeds -/

theorem lines_of_noFeed {t : Text} (h : '\n' ∉ t) : lines t = if t = [] then [] else [t] := by
  simp [lines, split_of_not_mem h]

/-- The lines before a line feed are complete, and those after it are not affected by them. -/
theorem lines_append (t u : Text) :
    lines (t ++ '\n' :: u) = (split '\n' t).map dropReturn ++ lines u := by
  have hne := split_ne_nil '\n' u
  simp only [lines, split_append, List.dropLast_append_of_ne_nil hne, List.map_append,
    List.append_assoc, List.getLastD_eq_getLast?, List.getLast?_append_of_ne_nil _ hne]

theorem lines_cons {line : Text} (h : '\n' ∉ line) (rest : Text) :
    lines (line ++ '\n' :: rest) = dropReturn line :: lines rest := by
  rw [lines_append, split_of_not_mem h, List.map_singleton, List.singleton_append]

theorem HasLines.lines {t : Text} {ls : List Text} (h : HasLines t ls) : lines t = ls := by
  induction h with
  | none => rfl
  | last hne hfeed => rw [lines_of_noFeed hfeed, if_neg hne]
  | feed hfeed hlast _ ih => rw [lines_cons hfeed, dropReturn_of_last hlast, ih]
  | @returnFeed line rest ls hfeed _ ih =>
    have hfeed' : '\n' ∉ line ++ ['\r'] := by simpa using hfeed
    have hsplit : line ++ '\r' :: '\n' :: rest = line ++ ['\r'] ++ '\n' :: rest := by simp
    rw [hsplit, lines_cons hfeed', dropReturn_concat, ih]

theorem nextLine?_of_noFeed {t : Text} (h : '\n' ∉ t) :
    nextLine? t = if t = [] then none else some (t, []) := by
  have hcut : cut '\n' t = (t, none) := by
    induction t with
    | nil => rfl
    | cons c t ih =>
      obtain ⟨hc, ht⟩ : '\n' ≠ c ∧ '\n' ∉ t := by simpa using h
      simp [cut, hc.symm, ih ht]
  simp only [nextLine?, hcut]

theorem nextLine?_cons {line : Text} (h : '\n' ∉ line) (rest : Text) :
    nextLine? (line ++ '\n' :: rest) = some (dropReturn line, rest) := by
  simp [nextLine?, cut_append h rest]

/-- Reading line by line gives all lines. -/
theorem lines_eq_nextLine? (t : Text) :
    lines t = match nextLine? t with
      | none => []
      | some (line, rest) => line :: lines rest := by
  by_cases h : '\n' ∈ t
  · obtain ⟨line, rest, rfl, hline⟩ := List.eq_append_cons_of_mem h
    rw [nextLine?_cons hline, lines_cons hline]
  · rw [nextLine?_of_noFeed h, lines_of_noFeed h]
    split <;> rfl

/-- A text either lacks a character, or the text behind the first one follows it. -/
@[elab_as_elim]
theorem break_induction (c : Char) {motive : Text → Prop} (last : ∀ t, c ∉ t → motive t)
    (piece : ∀ t rest, c ∉ t → motive rest → motive (t ++ c :: rest)) (t : Text) : motive t := by
  induction hn : t.length using Nat.strongRecOn generalizing t with
  | _ n ih =>
    by_cases h : c ∈ t
    · obtain ⟨u, rest, rfl, hu⟩ := List.eq_append_cons_of_mem h
      have hshort : rest.length < n := by
        rw [← hn, List.length_append, List.length_cons]
        omega
      exact piece u rest hu (ih rest.length hshort rest rfl)
    · exact last t h

/-- Every text has lines, found by going from line feed to line feed. -/
theorem hasLines_lines (t : Text) : HasLines t (Text.lines t) := by
  induction t using break_induction '\n' with
  | last t hfeed =>
    rw [lines_of_noFeed hfeed]
    by_cases hne : t = []
    · rw [if_pos hne, hne]
      exact .none
    · rw [if_neg hne]
      exact .last hne hfeed
  | piece line rest hline hrest =>
    rw [lines_cons hline]
    by_cases hlast : line.getLast? = some '\r'
    · obtain ⟨t, rfl⟩ := exists_return_of_last hlast
      rw [dropReturn_concat, List.append_assoc]
      exact .returnFeed (by simpa using hline) hrest
    · rw [dropReturn_of_last hlast]
      exact .feed hline hlast hrest

theorem hasLines_iff {t : Text} {ls : List Text} : HasLines t ls ↔ lines t = ls := by
  constructor
  · exact HasLines.lines
  · rintro rfl
    exact hasLines_lines t

end KarelBuild.Text
