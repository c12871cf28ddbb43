import KarelBuild.Proofs.Spelling

/-!
# Command lines in the common spelling

Each word behind the program's name and before the separator is respelled by itself, and all others
stay (`canonicalLine_getElem?`). What comes out of that is in no older spelling, so respelling a line
again changes nothing (`canonicalLine_respelled`).
-/

namespace KarelBuild

namespace Spelling

variable {word option value : Text} {args : List Text} {i : Nat}

/-! ## One word -/

theorem canonical_family (h : word ∈ familyWords) : canonical word = '-' :: word := by
  have hall : ∀ w ∈ familyWords, canonical w = '-' :: w := by decide
  exact hall word h

theorem canonical_attached (hoption : option ∈ valuedWords) (hvalue : value ≠ []) :
    canonical (option ++ value) = '-' :: option ++ '=' :: value := by
  obtain ⟨c, v, rfl⟩ := List.exists_cons_of_ne_nil hvalue
  have hoptions : option = "-MT".toList ∨ option = "-MF".toList := by
    simpa [valuedWords] using hoption
  rcases hoptions with rfl | rfl <;>
    simp [canonical, includeMark, familyWords, attached?, valuedWords, List.isPrefixOf?]

/-- All options of the family begin alike. -/
theorem not_older_of_dash {c : Char} (h : c ≠ 'M') (t : Text) : ¬ Older ('-' :: c :: t) := by
  rintro (⟨dir, hdir⟩ | hfamily | ⟨option, hoption, v, hv⟩)
  · simp [includeMark] at hdir
  · have hall : ∀ w ∈ familyWords, w[1]? = some 'M' := by decide
    have hsecond : some c = some 'M' := hall _ hfamily
    exact h (Option.some.inj hsecond)
  · have hall : ∀ w ∈ valuedWords, ∀ v : Text, (w ++ v)[1]? = some 'M' := by
      simp [valuedWords]
    have hsecond := hall option hoption v
    rw [hv] at hsecond
    exact h (Option.some.inj hsecond)

/-- Whatever a word becomes is in the common spelling. -/
theorem not_older_canonical (word : Text) : ¬ Older (canonical word) := by
  by_cases h : Older word
  · rcases h with ⟨dir, rfl⟩ | hfamily | ⟨option, hoption, value, rfl⟩
    · rw [canonical_mark]
      exact not_older_of_dash (by decide) dir
    · rw [canonical_family hfamily]
      have hall : ∀ w ∈ familyWords, ∃ t, w = '-' :: t := by simp [familyWords]
      obtain ⟨t, rfl⟩ := hall word hfamily
      exact not_older_of_dash (by decide) t
    · have hall : ∀ w ∈ valuedWords, w ∈ familyWords ∧ ∃ t, w = '-' :: t := by
        simp [valuedWords, familyWords]
      obtain ⟨hfamily, t, ht⟩ := hall option hoption
      by_cases hvalue : value = []
      · rw [hvalue, List.append_nil, canonical_family hfamily, ht]
        exact not_older_of_dash (by decide) t
      · rw [canonical_attached hoption hvalue, ht]
        exact not_older_of_dash (by decide) _
  · rwa [canonical_of_not_older h]

theorem canonical_canonical (word : Text) : canonical (canonical word) = canonical word :=
  canonical_of_not_older (not_older_canonical word)

theorem canonical_separator : canonical separator = separator := by decide

theorem canonical_eq_separator_iff : canonical word = separator ↔ word = separator := by
  constructor
  · intro h
    by_contra hne
    exact canonical_ne_separator hne h
  · rintro rfl
    exact canonical_separator

/-! ## All words -/

theorem canonicalWords_length (words : List Text) :
    (canonicalWords words).length = words.length := by
  induction words with
  | nil => rfl
  | cons w words ih =>
    by_cases hw : w = separator
    · simp [canonicalWords, hw]
    · simp [canonicalWords, hw, ih]

theorem canonicalWords_getElem? (words : List Text) (i : Nat) :
    (canonicalWords words)[i]? =
      if separator ∈ words.take i then words[i]? else words[i]?.map canonical := by
  induction words generalizing i with
  | nil => simp [canonicalWords]
  | cons w words ih =>
    by_cases hw : w = separator
    · cases i with
      | zero => simp [canonicalWords, hw, canonical_separator]
      | succ i => simp [canonicalWords, hw]
    · cases i with
      | zero => simp [canonicalWords, hw]
      | succ i => simp [canonicalWords, hw, ih, Ne.symm hw]

theorem canonicalWords_canonicalWords (words : List Text) :
    canonicalWords (canonicalWords words) = canonicalWords words := by
  induction words with
  | nil => rfl
  | cons w words ih =>
    by_cases hw : w = separator
    · simp [canonicalWords, hw]
    · simp [canonicalWords, hw, canonical_ne_separator hw, canonical_canonical, ih]

/-! ## Whole lines -/

/-- The words that are respelled: those behind the program's name with no separator before them. -/
def Respelled (args : List Text) (i : Nat) : Prop := 0 < i ∧ separator ∉ (args.take i).tail

instance : Decidable (Respelled args i) := inferInstanceAs (Decidable (_ ∧ _))

theorem canonicalLine_getElem? (args : List Text) (i : Nat) :
    (canonicalLine args)[i]? = if Respelled args i then args[i]?.map canonical else args[i]? := by
  cases args with
  | nil => simp [canonicalLine]
  | cons program words =>
    cases i with
    | zero => simp [canonicalLine, Respelled]
    | succ i =>
      simp only [canonicalLine, List.getElem?_cons_succ, canonicalWords_getElem?, Respelled,
        List.take_succ_cons, List.tail_cons, Nat.zero_lt_succ, true_and]
      split <;> simp_all

/-- Behind a separator nothing is respelled. -/
theorem not_respelled_of_separator {n : Nat} (hn : 0 < n) (hword : args[n]? = some separator)
    (hi : n < i) : ¬ Respelled args i := by
  rintro ⟨-, hno⟩
  refine hno ?_
  obtain ⟨hlength, hget⟩ := List.getElem?_eq_some_iff.mp hword
  rw [List.mem_iff_getElem?]
  refine ⟨n - 1, ?_⟩
  rw [List.getElem?_tail, List.getElem?_take, Nat.sub_add_cancel hn, if_pos hi, hword]

/-- What a command line becomes. The words that count are those behind the program's name and before
the separator. -/
structure Respelling (args args' : List Text) : Prop where
  length : args'.length = args.length
  program : args'[0]? = args[0]?
  rest : ∀ n : Nat, 0 < n → args[n]? = some separator → args'.drop n = args.drop n
  separators : ∀ i : Nat, args'[i]? = some separator ↔ args[i]? = some separator
  common : ∀ (i : Nat) (word : Text), Respelled args i → args'[i]? = some word → ¬ Older word
  attached : ∀ i : Nat, Respelled args i → ∀ option ∈ valuedWords, ∀ value, value ≠ [] →
    args[i]? = some (option ++ value) → args'[i]? = some ('-' :: option ++ '=' :: value)
  kept : ∀ (i : Nat) (word : Text), args[i]? = some word → ¬ Older word → args'[i]? = some word
  again : canonicalLine args' = args'

/-- **The common spelling of a command line.** The length, the program's name and all from the
separator on are kept, and no word becomes the separator. Of the words that count none is in an older
spelling any more, attached values are unchanged, and respelling the line again changes nothing. -/
theorem canonicalLine_respelled (args : List Text) : Respelling args (canonicalLine args) := by
  constructor
  case length =>
    cases args with
    | nil => rfl
    | cons program words => simp [canonicalLine, canonicalWords_length]
  case program => simp [canonicalLine_getElem?, Respelled]
  case rest =>
    intro n hn hword
    refine List.ext_getElem? fun i => ?_
    rw [List.getElem?_drop, List.getElem?_drop, canonicalLine_getElem?]
    cases i with
    | zero => simp [hword, canonical_separator]
    | succ i => rw [if_neg (not_respelled_of_separator hn hword (by omega))]
  case separators =>
    intro i
    rw [canonicalLine_getElem?]
    split
    next => simp [canonical_eq_separator_iff]
    next => exact Iff.rfl
  case common =>
    intro i word hcounts hword
    rw [canonicalLine_getElem?, if_pos hcounts] at hword
    obtain ⟨word, -, rfl⟩ := Option.map_eq_some_iff.mp hword
    exact not_older_canonical word
  case attached =>
    intro i hcounts option hoption value hvalue hword
    rw [canonicalLine_getElem?, if_pos hcounts, hword, Option.map_some,
      canonical_attached hoption hvalue]
  case kept =>
    intro i word hword holder
    rw [canonicalLine_getElem?, hword, Option.map_some, canonical_of_not_older holder, ite_self]
  case again =>
    cases args with
    | nil => rfl
    | cons program words => simp [canonicalLine, canonicalWords_canonicalWords]

/-- A name of a program and a word behind the separator may look like options. -/
example : canonicalLine (["-M", "/Ia", "-MF--", "--", "-MT"].map String.toList) =
    ["-M", "-Ia", "--MF=--", "--", "-MT"].map String.toList := by
  decide

end Spelling

end KarelBuild
