import KarelBuild.Options.Reading
import KarelBuild.Options.Spelling
import Mathlib.Data.List.Basic

/-!
# The word behind an option

Spelling looks at each word alone, and so also at a word that is the value of the option before it. A
value that begins like an include directory becomes an option, and a line with such a value gives no
options at all. `value_kept_iff` says that this is the only way to lose a value.
-/

namespace KarelBuild

namespace Spelling

/-- The options that take the next word as their value, as they may be spelled, and what they set. -/
def valueOptions : List (Text × Setting) :=
  [("-MT".toList, .target), ("-MF".toList, .dependencyFile), ("-I".toList, .includeDir),
    ("--ktrans".toList, .translator), ("--gpp".toList, .preprocessor), ("--config".toList, .config)]

/-! ## One word -/

theorem attached?_eq_some {word option value : Text} (h : attached? word = some (option, value)) :
    option ∈ valuedWords ∧ word = option ++ value := by
  obtain ⟨o, ho, hvalue⟩ := List.exists_of_findSome?_eq_some h
  obtain ⟨v, hv, heq⟩ := Option.map_eq_some_iff.mp hvalue
  obtain ⟨rfl, rfl⟩ := Prod.mk.inj heq
  exact ⟨ho, (List.isPrefixOf?_eq_some_iff_append_eq.mp hv).symm⟩

/-- A word in one of the two older spellings. -/
def Older (word : Text) : Prop :=
  includeMark <+: word ∨ word ∈ familyWords ∨ ∃ option ∈ valuedWords, option <+: word

theorem canonical_of_not_older {word : Text} (h : ¬ Older word) : canonical word = word := by
  obtain ⟨hmark, hfamily, hattached⟩ : ¬ includeMark <+: word ∧ word ∉ familyWords ∧
      ¬ ∃ option ∈ valuedWords, option <+: word := by simpa only [Older, not_or] using h
  have hno : includeMark.isPrefixOf? word = none := by
    refine Option.eq_none_iff_forall_ne_some.mpr fun dir hdir => hmark ⟨dir, ?_⟩
    exact List.isPrefixOf?_eq_some_iff_append_eq.mp hdir
  have happart : attached? word = none := by
    refine Option.eq_none_iff_forall_ne_some.mpr fun ⟨option, value⟩ hsome => hattached ?_
    obtain ⟨hoption, rfl⟩ := attached?_eq_some hsome
    exact ⟨option, hoption, List.prefix_append option value⟩
  have hword : familyWords.contains word = false := by simpa using hfamily
  simp only [canonical, hno, hword, happart, Bool.false_eq_true, ↓reduceIte]

/-- What is no option is left alone, unless it begins like an include directory. -/
theorem canonical_of_plain {word : Text} (hdash : word.head? ≠ some '-')
    (hmark : ¬ includeMark <+: word) : canonical word = word := by
  refine canonical_of_not_older ?_
  rintro (h | hfamily | ⟨option, hoption, value, rfl⟩)
  · exact hmark h
  · have hall : ∀ w ∈ familyWords, w.head? = some '-' := by decide
    exact hdash (hall word hfamily)
  · have hall : ∀ w ∈ valuedWords, ∀ v : Text, (w ++ v).head? = some '-' := by
      simp [valuedWords]
    exact hdash (hall option hoption value)

theorem canonical_mark (dir : Text) : canonical (includeMark ++ dir) = "-I".toList ++ dir := by
  have hmark : includeMark.isPrefixOf? (includeMark ++ dir) = some dir :=
    List.isPrefixOf?_eq_some_iff_append_eq.mpr rfl
  simp [canonical, hmark]

/-- No word becomes the separator. -/
theorem canonical_ne_separator {word : Text} (h : word ≠ separator) :
    canonical word ≠ separator := by
  unfold canonical
  split
  next dir _ => simp [separator]
  next =>
    split
    next hfamily =>
      have hall : ∀ w ∈ familyWords, '-' :: w ≠ separator := by decide
      exact hall word (by simpa using hfamily)
    next =>
      split
      next option value hattached =>
        obtain ⟨hoption, -⟩ := attached?_eq_some hattached
        have hall : ∀ w ∈ valuedWords, ∀ v : Text, '-' :: w ++ v ≠ separator := by
          simp [valuedWords, separator]
        exact hall option hoption _
      next => exact h

/-! ## All words -/

theorem canonicalWords_append {before : List Text} (h : separator ∉ before) (words : List Text) :
    canonicalWords (before ++ words) = before.map canonical ++ canonicalWords words := by
  induction before with
  | nil => rfl
  | cons w before ih =>
    obtain ⟨hw, hbefore⟩ : separator ≠ w ∧ separator ∉ before := by simpa using h
    simp only [List.cons_append, canonicalWords, Ne.symm hw, ↓reduceIte, ih hbefore,
      List.map_cons]

theorem separator_not_mem_map {before : List Text} (h : separator ∉ before) :
    separator ∉ before.map canonical := by
  intro hmem
  obtain ⟨w, hw, heq⟩ := List.mem_map.mp hmem
  refine canonical_ne_separator ?_ heq
  rintro rfl
  exact h hw

end Spelling

/-! ## Reading a value -/

namespace Reading

open Spelling

variable {r : Reading} {option value : Text} {s : Setting}

theorem words_append {xs : List Text} (h : separator ∉ xs) (ys : List Text) :
    r.words (xs ++ ys) = r.words xs >>= fun r => r.words ys := by
  induction xs generalizing r with
  | nil => rfl
  | cons x xs ih =>
    obtain ⟨hx, hxs⟩ : separator ≠ x ∧ separator ∉ xs := by simpa using h
    have hx' : x ≠ "--".toList := Ne.symm hx
    simp only [List.cons_append, words, hx', ↓reduceIte, bind_assoc]
    cases r.word x with
    | error e => rfl
    | ok r' => exact ih hxs

theorem word_option (h : (option, s) ∈ valueOptions) : r.word (canonical option) = r.await s := by
  simp only [valueOptions, List.mem_cons, Prod.mk.injEq, List.not_mem_nil, or_false] at h
  rcases h with ⟨rfl, rfl⟩ | ⟨rfl, rfl⟩ | ⟨rfl, rfl⟩ | ⟨rfl, rfl⟩ | ⟨rfl, rfl⟩ | ⟨rfl, rfl⟩ <;> rfl

theorem word_plain (h : value.head? ≠ some '-') : r.word value = r.plain value := by
  cases value with
  | nil => rfl
  | cons c rest =>
    have hc : c ≠ '-' := by simpa using h
    simp [word, hc]

theorem option_ne_separator (h : (option, s) ∈ valueOptions) : option ≠ separator := by
  have hall : ∀ a ∈ valueOptions, a.1 ≠ separator := by decide
  exact hall _ h

/-- A value that is no option is what the option before it waits for. -/
theorem words_kept (hoption : (option, s) ∈ valueOptions) (hvalue : value.head? ≠ some '-')
    (ws : List Text) : r.words (canonical option :: value :: ws) =
      r.settle >>= fun o => words ⟨o, some (s, some value)⟩ ws := by
  have hopen : canonical option ≠ "--".toList :=
    canonical_ne_separator (option_ne_separator hoption)
  have hvalue' : value ≠ "--".toList := by
    rintro rfl
    exact hvalue rfl
  simp only [words, hopen, hvalue', ↓reduceIte, word_option hoption, word_plain hvalue, await]
  cases r.settle <;> rfl

/-- An include directory in the place of a value leaves the option before it without one. -/
theorem words_mark (hoption : (option, s) ∈ valueOptions) (dir : Text) (ws : List Text) :
    ∃ stop, r.words (canonical option :: ("-I".toList ++ dir) :: ws) = .error stop := by
  have hopen : canonical option ≠ "--".toList :=
    canonical_ne_separator (option_ne_separator hoption)
  have hdir : "-I".toList ++ dir ≠ "--".toList := by simp
  have hstop (o : Options) : word ⟨o, some (s, none)⟩ ("-I".toList ++ dir) = .error .badValue := by
    have hletter : Meaning.ofLetter? 'I' = some (.setting .includeDir) := rfl
    change letters _ ('I' :: dir) = _
    unfold letters
    rw [hletter]
    dsimp only
    split <;> rfl
  simp only [words, hopen, hdir, ↓reduceIte, word_option hoption, await]
  cases r.settle with
  | error stop => exact ⟨stop, rfl⟩
  | ok o =>
    refine ⟨.badValue, ?_⟩
    simp only [Except.map, bind, Except.bind, hstop]

end Reading

namespace Spelling

/-! ## Lines with a value -/

variable {program option value : Text} {before after : List Text} {s : Setting}

theorem canonicalLine_value (hopen : separator ∉ before) (hoption : (option, s) ∈ valueOptions)
    (hvalue : value.head? ≠ some '-') :
    canonicalLine (program :: before ++ option :: value :: after) =
      program :: (before.map canonical ++
        canonical option :: canonical value :: canonicalWords after) := by
  have hoption' : option ≠ separator := Reading.option_ne_separator hoption
  have hvalue' : value ≠ separator := by
    rintro rfl
    exact hvalue rfl
  rw [List.cons_append, canonicalLine, canonicalWords_append hopen]
  simp only [canonicalWords, hoption', hvalue', ↓reduceIte]

/-- A line on which an include directory is the word behind an option gives no options. -/
theorem ofLine_mark (hopen : separator ∉ before) (hoption : (option, s) ∈ valueOptions)
    (var? : String → Option Text) (dir : Text) (words : List Text) :
    ∃ stop, Options.ofLine var? (program :: (before.map canonical ++
      canonical option :: ("-I".toList ++ dir) :: words)) = .error stop := by
  unfold Options.ofLine
  rw [List.tail_cons, Reading.words_append (separator_not_mem_map hopen)]
  cases hbefore : Reading.words {} (before.map canonical) with
  | error stop => exact ⟨stop, rfl⟩
  | ok r =>
    obtain ⟨stop, hstop⟩ := Reading.words_mark (r := r) hoption dir words
    refine ⟨stop, ?_⟩
    simp only [bind, Except.bind, hstop]

/-- A value that begins like an include directory is lost. -/
theorem slash_value_lost : "/Inc/m.d".toList ∉
    canonicalLine (["ktransw", "-MF", "/Inc/m.d", "m.kl"].map String.toList) := by
  decide

/-- **Values of options.** Behind an option that takes a value, a word that is no option is kept
exactly when it does not begin like an include directory. When it is kept, it is the value that the
option gets; when it is not, the line gives no options. -/
theorem value_kept_iff (hopen : separator ∉ before) (hoption : (option, s) ∈ valueOptions)
    (hvalue : value.head? ≠ some '-') :
    ((canonicalLine (program :: before ++ option :: value :: after))[before.length + 2]? =
        some value ↔ ¬ includeMark <+: value) ∧
      (¬ includeMark <+: value →
        Reading.words {} (canonicalLine (program :: before ++ option :: value :: after)).tail =
          Reading.words {} (before.map canonical) >>= fun r => r.settle >>= fun o =>
            Reading.words ⟨o, some (s, some value)⟩ (canonicalWords after)) ∧
      (includeMark <+: value → ∀ var?, ∃ stop,
        Options.ofLine var? (canonicalLine (program :: before ++ option :: value :: after)) =
          .error stop) := by
  rw [canonicalLine_value hopen hoption hvalue]
  have hword : (program :: (before.map canonical ++
      canonical option :: canonical value :: canonicalWords after))[before.length + 2]? =
        some (canonical value) := by
    rw [List.getElem?_cons_succ, List.getElem?_append_right (by simp), List.length_map]
    simp
  rw [hword]
  refine ⟨⟨?_, ?_⟩, ?_, ?_⟩
  · rintro hkept ⟨dir, rfl⟩
    rw [canonical_mark] at hkept
    simp [includeMark] at hkept
  · intro hmark
    rw [canonical_of_plain hvalue hmark]
  · intro hmark
    rw [canonical_of_plain hvalue hmark, List.tail_cons,
      Reading.words_append (separator_not_mem_map hopen)]
    simp only [Reading.words_kept hoption hvalue]
  · rintro ⟨dir, rfl⟩ var?
    rw [canonical_mark]
    exact ofLine_mark hopen hoption var? dir _

/-- The same option with a value that begins otherwise. -/
theorem relative_value_kept :
    separator ∉ ["-v".toList] ∧ ("-MF".toList, Setting.dependencyFile) ∈ valueOptions ∧
      "Inc/m.d".toList.head? ≠ some '-' ∧ ¬ includeMark <+: "Inc/m.d".toList ∧
      (canonicalLine (["ktransw", "-v", "-MF", "Inc/m.d", "m.kl"].map String.toList))[3]? =
        some "Inc/m.d".toList := by
  have hopen : separator ∉ ["-v".toList] := by decide
  have hoption : ("-MF".toList, Setting.dependencyFile) ∈ valueOptions := by decide
  have hvalue : "Inc/m.d".toList.head? ≠ some '-' := by decide
  have hmark : ¬ includeMark <+: "Inc/m.d".toList := by decide
  obtain ⟨hkept, -, -⟩ :=
    @value_kept_iff "ktransw".toList _ _ _ ["m.kl".toList] _ hopen hoption hvalue
  exact ⟨hopen, hoption, hvalue, hmark, hkept.mpr hmark⟩

end Spelling

end KarelBuild
