import KarelBuild.Proofs.MakeRule
import Mathlib.Data.List.Nodup

/-!
# Taking a written rule apart

The text of a rule is read line by line (`Rule.parts?`): which names stand where is decided by blanks
and line ends alone, so backslashes and colons may be in the names. What was written is read again
(`Rule.parts?_render`), and with that the text says which rule it is of (`Rule.render_determines`).
-/

namespace KarelBuild

namespace Rule

open Make

/-! ## Reading line by line -/

/-- The words of lines of which each goes on in the next: it has a backslash for its last word. -/
def continuedWords : List Text → List Text
  | [] => []
  | [line] => words line
  | line :: next :: more => (words line).dropLast ++ continuedWords (next :: more)

def isIndented (line : Text) : Bool := line.head? == some '\t'

/-- What stands where in a written rule. -/
structure Parts where
  target : Text
  prerequisites : List Text
  emptyRules : List Text
  deriving DecidableEq, Repr

/-- The first line goes on in the indented ones behind it. There stand the target, a colon and the
prerequisites; every other line is an empty rule, a name with a colon. The line ends close lines, so
nothing stands behind the last. -/
def parts? (t : Text) : Option Parts :=
  match Text.split '\n' t with
  | [] => none
  | first :: rest =>
    match continuedWords (first :: rest.takeWhile isIndented),
      (rest.dropWhile isIndented).dropLast.mapM (Text.stripSuffix? [':']) with
    | target :: [':'] :: prerequisites, some emptyRules =>
      some ⟨target, prerequisites, emptyRules⟩
    | _, _ => none

/-- The names that a rule is about are words. -/
structure Worded (r : Rule) : Prop where
  target : IsWord r.target
  dependencies : ∀ d ∈ r.dependencies, IsWord d

/-- A rule made of a target and paths, with or without phony targets. -/
def Made (r : Rule) : Prop :=
  ∃ target paths made, ofPaths? target paths = some made ∧ r = made.withPhony r.phony

theorem Made.lists {r : Rule} (h : r.Made) : ∃ paths, r.Lists paths := by
  obtain ⟨target, paths, made, hmade, heq⟩ := h
  obtain ⟨-, -, -, hlists⟩ := ofPaths?_spec hmade
  refine ⟨paths, ?_⟩
  rw [heq]
  exact ⟨hlists.mem_iff, hlists.order⟩

/-! ## The lines of a rule -/

theorem words_behind {c : Char} (hc : isBlank c = true) (before t : Text) :
    words (before ++ [c] ++ t) = words before ++ words t := by
  rw [List.append_assoc, List.singleton_append, words_append hc]

theorem continuedWords_cons (line : Text) {more : List Text} (h : more ≠ []) :
    continuedWords (line :: more) = (words line).dropLast ++ continuedWords more := by
  obtain ⟨next, more, rfl⟩ := List.exists_cons_of_ne_nil h
  rfl

/-- Behind a blank, joined names are the last words of their lines, and every line but the first is
indented. -/
theorem split_join {ds : List Text} (hds : ∀ d ∈ ds, IsWord d) {c : Char} (hc : isBlank c = true)
    (before : Text) (hbefore : '\n' ∉ before ++ [c]) :
    ∃ first more, Text.split '\n' (before ++ [c] ++ Text.join continuation ds) =
        (before ++ [c] ++ first) :: more ∧
      (∀ line ∈ more, isIndented line = true) ∧
      continuedWords ((before ++ [c] ++ first) :: more) = words before ++ ds := by
  induction ds generalizing before c with
  | nil =>
    refine ⟨[], [], ?_, by simp, ?_⟩
    · simpa [Text.join] using Text.split_of_not_mem hbefore
    · rw [continuedWords, words_behind hc, words_nil]
  | cons d ds ih =>
    have hd := hds d (List.mem_cons_self ..)
    have hopen {t : Text} (ht : '\n' ∉ t) : '\n' ∉ before ++ [c] ++ (d ++ t) := by
      simp only [List.mem_append, not_or] at hbefore ⊢
      exact ⟨hbefore, hd.noLineEnd, ht⟩
    have hname : words d = [d] := words_of_noBlank hd.nonempty hd.noBlank
    cases ds with
    | nil =>
      refine ⟨d, [], ?_, by simp, ?_⟩
      · simpa [Text.join] using Text.split_of_not_mem (hopen (t := []) (by simp))
      · rw [continuedWords, words_behind hc, hname]
    | cons e es =>
      -- The line of `d` ends in a backslash, and the others are those behind a tab.
      obtain ⟨next, more, hsplit, hmore, hrest⟩ := ih
        (fun x hx => hds x (List.mem_cons_of_mem d hx)) (c := '\t') (by decide) [] (by decide)
      have htext : before ++ [c] ++ Text.join continuation (d :: e :: es) =
          (before ++ [c] ++ (d ++ " \\".toList)) ++
            '\n' :: ([] ++ ['\t'] ++ Text.join continuation (e :: es)) := by
        simp [Text.join, continuation]
      have hmark : words (d ++ " \\".toList) = [d] ++ [['\\']] := by
        rw [← hname]
        exact words_append (by decide) d ['\\']
      refine ⟨d ++ " \\".toList, ([] ++ ['\t'] ++ next) :: more, ?_, ?_, ?_⟩
      · rw [htext, Text.split_append, Text.split_of_not_mem (hopen (by decide)), hsplit,
          List.singleton_append]
      · intro line hmem
        rcases List.mem_cons.mp hmem with rfl | hmem
        · rfl
        · exact hmore line hmem
      · rw [continuedWords_cons _ (by simp), words_behind hc, hmark, hrest, words_nil,
          List.nil_append, ← List.append_assoc (words before), List.dropLast_concat,
          List.append_assoc, List.singleton_append]

theorem split_phonyLines {ds : List Text} (hds : ∀ d ∈ ds, IsWord d) :
    Text.split '\n' (ds.flatMap phonyLine) = ds.map (· ++ [':']) ++ [[]] := by
  induction ds with
  | nil => rfl
  | cons d ds ih =>
    have hline : '\n' ∉ d ++ [':'] := by
      simp [(hds d (List.mem_cons_self ..)).noLineEnd]
    have htext : (d :: ds).flatMap phonyLine = (d ++ [':']) ++ '\n' :: ds.flatMap phonyLine := by
      simp [phonyLine]
    rw [htext, Text.split_append, Text.split_of_not_mem hline,
      ih fun e he => hds e (List.mem_cons_of_mem d he)]
    rfl

theorem mapM_phonyNames (ds : List Text) :
    (ds.map (· ++ [':'])).mapM (Text.stripSuffix? [':']) = some ds := by
  have hstrip (d : Text) : Text.stripSuffix? [':'] (d ++ [':']) = some d := by
    simp [Text.stripSuffix?, List.isSuffixOf_iff_suffix]
  induction ds with
  | nil => rfl
  | cons d ds ih => simp [hstrip, ih]

/-- A line of an empty rule is not indented, and neither is what stands behind the last line. -/
theorem not_isIndented {ds : List Text} (hds : ∀ d ∈ ds, IsWord d) :
    ∀ line ∈ ds.map (· ++ [':']) ++ [[]], isIndented line = false := by
  intro line hline
  rcases List.mem_append.mp hline with hline | hline
  · obtain ⟨d, hd, rfl⟩ := List.mem_map.mp hline
    obtain ⟨c, t, rfl⟩ := List.exists_cons_of_ne_nil (hds d hd).nonempty
    have hc : c ≠ '\t' := by
      rintro rfl
      simpa [isBlank] using (hds _ hd).noBlank '\t' (List.mem_cons_self ..)
    simp [isIndented, hc]
  · obtain rfl := List.mem_singleton.mp hline
    rfl

/-! ## The rule of a text -/

variable {r : Rule}

/-- The names that a rule has an empty rule for. -/
def phonyNames (r : Rule) : List Text := if r.phony then r.dependencies else []

theorem emptyRules_eq (r : Rule) : r.emptyRules = r.phonyNames.flatMap phonyLine := by
  unfold emptyRules phonyNames
  split <;> rfl

theorem Worded.phonyNames (h : r.Worded) : ∀ d ∈ r.phonyNames, IsWord d := by
  unfold Rule.phonyNames
  split
  · exact h.dependencies
  · simp

theorem takeWhile_parts {p : Text → Bool} {ls ms : List Text} (hls : ∀ l ∈ ls, p l = true)
    (hms : ∀ l ∈ ms, p l = false) :
    (ls ++ ms).takeWhile p = ls ∧ (ls ++ ms).dropWhile p = ms := by
  rw [List.takeWhile_append_of_pos hls, List.dropWhile_append_of_pos hls]
  cases ms with
  | nil => simp
  | cons m ms => simp [hms m (List.mem_cons_self ..)]

/-- What was written is read again. -/
theorem parts?_render (h : r.Worded) :
    parts? r.render = some ⟨r.target, r.dependencies, r.phonyNames⟩ := by
  obtain ⟨first, more, hsplit, hmore, hwords⟩ := split_join h.dependencies (c := ' ') (by decide)
    (r.target ++ " :".toList) (by simp [h.target.noLineEnd])
  have hlines : Text.split '\n' r.render = (r.target ++ " :".toList ++ [' '] ++ first) ::
      (more ++ (r.phonyNames.map (· ++ [':']) ++ [[]])) := by
    have htext : r.render = (r.target ++ " :".toList ++ [' '] ++
        Text.join continuation r.dependencies) ++ '\n' :: r.phonyNames.flatMap phonyLine := by
      rw [render_eq, body, emptyRules_eq]
      simp
    rw [htext, Text.split_append, hsplit, split_phonyLines h.phonyNames, List.cons_append]
  have htarget : words (r.target ++ " :".toList) = [r.target, [':']] := by
    have hcolon : words (r.target ++ " :".toList) = words r.target ++ [[':']] :=
      words_append (by decide) r.target [':']
    rw [hcolon, words_of_noBlank h.target.nonempty h.target.noBlank]
    rfl
  obtain ⟨htake, hdrop⟩ := takeWhile_parts hmore (not_isIndented h.phonyNames)
  simp only [parts?, hlines, htake, hdrop, hwords, htarget, List.dropLast_concat, mapM_phonyNames,
    List.cons_append, List.nil_append]

/-- Rules with the same text differ at most in a phony flag that has no dependency to show it. -/
theorem eq_of_render_eq {r' : Rule} (h : r.Worded) (h' : r'.Worded) (heq : r'.render = r.render) :
    r' = r ∨ r.dependencies = [] ∧ r' = r.withPhony r'.phony := by
  have hparts : some (Parts.mk r'.target r'.dependencies r'.phonyNames) =
      some ⟨r.target, r.dependencies, r.phonyNames⟩ := by
    rw [← parts?_render h', heq, parts?_render h]
  obtain ⟨htarget, hdeps, hphony⟩ := Parts.mk.inj (Option.some.inj hparts)
  obtain ⟨target, dependencies, phony⟩ := r
  obtain ⟨target', dependencies', phony'⟩ := r'
  obtain rfl : target' = target := htarget
  obtain rfl : dependencies' = dependencies := hdeps
  cases dependencies' with
  | nil => exact .inr ⟨rfl, rfl⟩
  | cons d ds =>
    have hflag : phony' = phony := by
      cases phony' <;> cases phony <;> simp_all [phonyNames]
    exact .inl (by rw [hflag])

/-- **A rule is in its text.** When the names are words, the text of a rule says which rule it is,
though without dependencies not whether there are phony targets. In it each dependency is a
prerequisite once, with phony targets it has an empty rule once, both in the order of the list, and
the target is neither. -/
theorem render_determines (hmade : r.Made) (hwords : r.Worded) :
    (∀ r' : Rule, r'.Made → r'.Worded → r'.render = r.render →
      r' = r ∨ r.dependencies = [] ∧ r' = r.withPhony r'.phony) ∧
    ∃ p, parts? r.render = some p ∧ p.target = r.target ∧ p.prerequisites = r.dependencies ∧
      p.emptyRules = (if r.phony then r.dependencies else []) ∧
      (∀ d ∈ r.dependencies, p.prerequisites.count d = 1 ∧
        (r.phony = true → p.emptyRules.count d = 1)) ∧
      r.target ∉ p.prerequisites ∧ r.target ∉ p.emptyRules := by
  obtain ⟨paths, hlists⟩ := hmade.lists
  have htarget : r.target ∉ r.dependencies := fun h => ((hlists.mem_iff _).mp h).2 rfl
  refine ⟨fun r' _ hwords' heq => eq_of_render_eq hwords hwords' heq, _, parts?_render hwords, rfl,
    rfl, rfl, ?_, htarget, ?_⟩
  · intro d hd
    have honce : r.dependencies.count d = 1 := List.count_eq_one_of_mem hlists.nodup hd
    exact ⟨honce, fun hphony => by simpa [phonyNames, hphony] using honce⟩
  · unfold phonyNames
    split
    · exact htarget
    · simp

/-! A rule whose names look like what stands between them. -/

def markedRule : Rule := ⟨":".toList, ["\\".toList, "a:".toList, "b\\".toList], true⟩

theorem marked_determines :
    markedRule.render = ": : \\ \\\n\ta: \\\n\tb\\\n\\:\na::\nb\\:\n".toList ∧
    (∃ p, parts? markedRule.render = some p ∧ p.prerequisites = markedRule.dependencies ∧
      p.emptyRules = markedRule.dependencies) ∧
    ∀ r' : Rule, r'.Made → r'.Worded → r'.render = markedRule.render → r' = markedRule := by
  have hmade : markedRule.Made :=
    ⟨":".toList, ["\\".toList, ":".toList, "a:".toList, "\\".toList, "b\\".toList], _,
      rfl, by decide +kernel⟩
  have hwords : markedRule.Worded :=
    ⟨⟨by decide, by decide +kernel⟩, fun d hd => by
      have hall : ∀ d ∈ markedRule.dependencies, d ≠ [] ∧ Unbroken d := by decide +kernel
      exact ⟨(hall d hd).1, (hall d hd).2⟩⟩
  obtain ⟨hunique, p, hp, -, hprerequisites, hempty, -⟩ := render_determines hmade hwords
  refine ⟨by decide +kernel, ⟨p, hp, hprerequisites, hempty⟩, ?_⟩
  intro r' hmade' hwords' heq
  exact (hunique r' hmade' hwords' heq).resolve_right fun h => by simp [markedRule] at h

end Rule

end KarelBuild
