import KarelBuild.Proofs.Path.Absolute
import Mathlib.Data.List.Chain

/-!
# Normal paths

A path is normal if it starts with a slash, has no `.` among its names and no slash too many. Absolute
forms are normal (`normal_absoluteFrom`), and a normal path is its own absolute form, whatever directory
relative paths count from (`absoluteFrom_of_normal`). The last name of an absolute form is the last one
of the path that is not `.` (`baseName_absoluteFrom`).
-/

namespace KarelBuild

namespace Path

/-- Not both characters are slashes. -/
def Apart (c d : Char) : Prop := ¬ (c = '/' ∧ d = '/')

instance (c d : Char) : Decidable (Apart c d) := inferInstanceAs (Decidable (¬ _))

/-- A path that starts with a slash and has no name `.`; no slash follows another one, but the second
of the path may follow the first. -/
structure Normal (p : Path) : Prop where
  absolute : isAbsolute p = true
  noDot : ['.'] ∉ pieces p
  single : p.tail.IsChain Apart

theorem ne_nil_of_isAbsolute {p : Path} (h : isAbsolute p = true) : p ≠ [] := by
  rintro rfl
  simp [isAbsolute] at h

theorem isChain_of_noSlash {t : Text} (h : '/' ∉ t) : t.IsChain Apart := by
  refine List.Pairwise.isChain ?_
  rw [List.pairwise_iff_forall_sublist]
  rintro c d hcd ⟨rfl, -⟩
  exact h (hcd.subset (List.mem_cons_self ..))

theorem apart_of_not_slash {c d : Char} (h : c ≠ '/' ∨ d ≠ '/') : Apart c d := by
  rintro ⟨rfl, rfl⟩
  simp at h

/-! ## Absolute forms are normal -/

namespace Normal

variable {p : Path} {n : Text}

/-- What may be put behind a path. -/
theorem isChain_append (h : Normal p) {t : Text} (ht : t.IsChain Apart)
    (hmeet : endsInSlash p = false ∨ t.head? ≠ some '/') : (p ++ t).tail.IsChain Apart := by
  rw [List.tail_append_of_ne_nil (ne_nil_of_isAbsolute h.absolute), List.isChain_append]
  refine ⟨h.single, ht, ?_⟩
  intro c hc d hd
  refine apart_of_not_slash (hmeet.imp ?_ ?_)
  · rintro hend rfl
    obtain ⟨first, rest, rfl⟩ := List.exists_cons_of_ne_nil (ne_nil_of_isAbsolute h.absolute)
    have hrest : rest.getLast? = some '/' := hc
    simp [endsInSlash, List.getLast?_cons, hrest] at hend
  · rintro hhead rfl
    exact hhead hd

theorem slash (h : Normal p) (hend : endsInSlash p = false) : Normal (p ++ ['/']) where
  absolute := isAbsolute_append h.absolute _
  noDot := by
    rw [pieces_of_slash]
    exact h.noDot
  single := h.isChain_append (List.isChain_singleton _) (.inl hend)

theorem join (h : Normal p) (hn : Plain n) : Normal (join p n) where
  absolute := isAbsolute_join h.absolute n
  noDot := by
    rw [pieces_join (ne_nil_of_isAbsolute h.absolute) hn.nonempty hn.noSlash]
    simp [h.noDot, hn.notDot.symm]
  single := by
    have hhead : n.head? ≠ some '/' := fun hc => hn.noSlash (List.mem_of_head? hc)
    have hchain := isChain_of_noSlash hn.noSlash
    unfold Path.join
    rw [isAbsolute_of_slash_not_mem hn.noSlash, if_neg (by simp)]
    split
    next => exact h.isChain_append hchain (.inr hhead)
    next hopen =>
      refine h.isChain_append (hchain.cons ?_) (.inl ?_)
      · intro c hc
        refine apart_of_not_slash (.inr ?_)
        rintro rfl
        exact hhead hc
      · simpa using (not_or.mp hopen).2

theorem foldl_join {names : List Text} (h : Normal p) (hnames : ∀ n ∈ names, Plain n) :
    Normal (names.foldl Path.join p) := by
  induction names generalizing p with
  | nil => exact h
  | cons n names ih =>
    exact ih (h.join (hnames n (List.mem_cons_self ..)))
      fun m hm => hnames m (List.mem_cons_of_mem n hm)

end Normal

theorem normal_start {workDir p : Path} (h : isAbsolute p = true ∨ Normal workDir) :
    Normal (start workDir p) := by
  unfold start
  split
  next hp => exact h.resolve_left (by simpa using hp)
  next =>
    split
    · exact ⟨rfl, by decide, by decide⟩
    · exact ⟨rfl, by decide, by decide⟩

theorem normal_absoluteFrom {workDir p : Path} (h : isAbsolute p = true ∨ Normal workDir) :
    Normal (absoluteFrom workDir p) := by
  have hjoined : Normal (extend (start workDir p) p) :=
    (normal_start h).foldl_join fun _ => plain_of_mem_names
  unfold absoluteFrom
  simp only
  split
  next hslash => exact hjoined.slash (by simpa using (Bool.and_eq_true_iff.mp hslash).2)
  next => exact hjoined

/-! ## Normal paths are their own absolute forms -/

theorem pieces_split (u t : Path) : pieces (u ++ '/' :: t) = pieces u ++ pieces t := by
  simp [pieces, Text.split_append]

theorem names_split (u t : Path) : names (u ++ '/' :: t) = names u ++ names t := by
  simp [names, pieces_split]

theorem names_of_plain {n : Text} (h : Plain n) : names n = [n] := by
  simp [names, pieces, Text.split_of_not_mem h.noSlash, h.nonempty, h.notDot]

theorem extend_split (dir u t : Path) : extend dir (u ++ '/' :: t) = extend (extend dir u) t := by
  simp [extend, pieces_split]

theorem extend_of_plain {n : Text} (h : Plain n) (dir : Path) : extend dir n = join dir n := by
  have hnames : extend dir n = (names n).foldl join dir := rfl
  rw [hnames, names_of_plain h]
  rfl

theorem join_of_slash {dir n : Path} (hend : endsInSlash dir = true) (hn : '/' ∉ n) :
    join dir n = dir ++ n := by
  simp [join, isAbsolute_of_slash_not_mem hn, hend]

theorem exists_last_slash {p : Path} (h : '/' ∈ p) :
    ∃ u n, p = u ++ '/' :: n ∧ '/' ∉ n := by
  obtain ⟨back, front, hp, hback⟩ := List.eq_append_cons_of_mem (List.mem_reverse.mpr h)
  refine ⟨front.reverse, back.reverse, ?_, by simpa using hback⟩
  simpa using congrArg List.reverse hp

/-- What stands before a slash of a normal path, if that slash is not the first or second character. -/
theorem Normal.before {u t : Path} (h : Normal (u ++ '/' :: t)) :
    u = [] ∨ u = ['/'] ∨ Normal u ∧ endsInSlash u = false := by
  cases u with
  | nil => exact .inl rfl
  | cons c r =>
    obtain rfl : c = '/' := by simpa [isAbsolute] using h.absolute
    have hchain : (r ++ '/' :: t).IsChain Apart := h.single
    obtain ⟨hr, -, hmeet⟩ := List.isChain_append.mp hchain
    have hdot : ['.'] ∉ pieces ('/' :: r) := by
      have hall := h.noDot
      rw [pieces_split] at hall
      exact fun hc => hall (List.mem_append_left _ hc)
    cases r using List.reverseRecOn with
    | nil => exact .inr (.inl rfl)
    | append_singleton r d =>
      have hd : d ≠ '/' := by
        rintro rfl
        exact hmeet '/' (by simp) '/' (by simp) ⟨rfl, rfl⟩
      exact .inr (.inr ⟨⟨rfl, hdot, hr⟩, by simp [endsInSlash, List.getLast?_cons, hd]⟩)

/-- Whether a path begins with two slashes shows before its last name. -/
theorem start_append {u : Path} (h : isAbsolute u = true) (hend : endsInSlash u = false)
    (workDir t : Path) : start workDir (u ++ t) = start workDir u := by
  match u with
  | [] => simp [isAbsolute] at h
  | [c] =>
    obtain rfl : c = '/' := by simpa [isAbsolute] using h
    simp [endsInSlash] at hend
  | [c, d] =>
    obtain rfl : c = '/' := by simpa [isAbsolute] using h
    have hd : d ≠ '/' := by simpa [endsInSlash] using hend
    simp [start, isAbsolute, hd.symm]
  | c :: d :: e :: r =>
    obtain rfl : c = '/' := by simpa [isAbsolute] using h
    simp [start, isAbsolute, List.isPrefixOf]

theorem Normal.plain_last {u n : Path} (h : Normal (u ++ '/' :: n)) (hne : n ≠ []) (hn : '/' ∉ n) :
    Plain n := by
  refine ⟨hne, hn, ?_⟩
  rintro rfl
  exact h.noDot (by simp [pieces_append hne hn])

theorem start_of_head {t : Path} (h : t.head? ≠ some '/') (workDir : Path) :
    start workDir ('/' :: t) = ['/'] ∧ start workDir ('/' :: '/' :: t) = ['/', '/'] := by
  cases t with
  | nil => exact ⟨rfl, rfl⟩
  | cons c t =>
    have hc : '/' ≠ c := by simpa using Ne.symm h
    simp [start, isAbsolute, List.isPrefixOf, hc]

/-- The names of a normal path, put behind the slashes that it begins with, give the path again. -/
theorem Normal.extend_start {p : Path} (h : Normal p) (hend : endsInSlash p = false)
    (workDir : Path) : extend (start workDir p) p = p := by
  -- On the last slash: what stands before it is one of the slashes in front, or normal and shorter.
  induction hlength : p.length using Nat.strong_induction_on generalizing p with
  | _ k ih =>
    obtain ⟨u, n, rfl, hslash⟩ := exists_last_slash (List.mem_of_head? (beq_iff_eq.mp h.absolute))
    have hne : n ≠ [] := by
      rintro rfl
      simp [endsInSlash] at hend
    have hn : Plain n := h.plain_last hne hslash
    have hhead : n.head? ≠ some '/' := fun hc => hslash (List.mem_of_head? hc)
    obtain ⟨hone, htwo⟩ := start_of_head hhead workDir
    rw [extend_split, extend_of_plain hn]
    rcases h.before with rfl | rfl | ⟨hu, huend⟩
    · rw [List.nil_append, hone]
      exact join_of_slash rfl hslash
    · rw [List.singleton_append, htwo]
      exact join_of_slash rfl hslash
    · rw [start_append hu.absolute huend, ih u.length (by simp [← hlength]) hu huend rfl,
        join_of_dir (ne_nil_of_isAbsolute hu.absolute) huend hslash]

/-- A normal path is its own absolute form, whatever directory relative paths count from. -/
theorem absoluteFrom_of_normal {p : Path} (h : Normal p) (workDir : Path) :
    absoluteFrom workDir p = p := by
  cases hend : endsInSlash p with
  | false => simp [absoluteFrom, hend, h.extend_start hend]
  | true =>
    obtain ⟨u, rfl⟩ := List.getLast?_eq_some_iff.mp (beq_iff_eq.mp hend)
    rcases h.before with rfl | rfl | ⟨hu, huend⟩
    · rfl
    · rfl
    · have hjoined : extend (start workDir (u ++ ['/'])) (u ++ ['/']) = u := by
        rw [extend_split, start_append hu.absolute huend, hu.extend_start huend]
        rfl
      simp [absoluteFrom, hjoined, hend, huend]

/-! ## The end of an absolute form -/

theorem baseName_of_noSlash {p : Path} (h : '/' ∉ p) : baseName p = p := baseName_append h []

theorem baseName_suffix (p : Path) : baseName p <:+ p := by
  have hpart : p.reverse.takeWhile (!isSlash ·) <+: p.reverse := List.takeWhile_prefix _
  simpa [baseName] using List.reverse_suffix.mpr hpart

theorem baseName_eq_nil_iff {p : Path} : baseName p = [] ↔ p = [] ∨ endsInSlash p = true := by
  cases p using List.reverseRecOn with
  | nil => exact ⟨fun _ => .inl rfl, fun _ => rfl⟩
  | append_singleton p c =>
    by_cases hc : c = '/'
    · simp [hc, endsInSlash, baseName, isSlash]
    · simp [hc, endsInSlash, baseName, isSlash]

theorem baseName_join {n : Text} (hn : '/' ∉ n) (dir : Path) : baseName (join dir n) = n := by
  unfold join
  rw [isAbsolute_of_slash_not_mem hn, if_neg (by simp)]
  split
  next hdir =>
    rcases hdir with rfl | hend
    · exact baseName_of_noSlash hn
    · obtain ⟨dir, rfl⟩ := List.getLast?_eq_some_iff.mp (beq_iff_eq.mp hend)
      rw [List.append_assoc]
      exact baseName_of_slash hn
  next => exact baseName_of_slash hn

/-- The last name of a path, if it stays, is the last one that stays. -/
theorem names_getLast? {p : Path} (h : Plain (baseName p)) : (names p).getLast? = some (baseName p) := by
  by_cases hp : '/' ∈ p
  · obtain ⟨u, n, rfl, hn⟩ := exists_last_slash hp
    rw [baseName_of_slash hn] at h ⊢
    simp [names_split, names_of_plain h]
  · rw [baseName_of_noSlash hp] at h ⊢
    simp [names_of_plain h]

/-- The absolute form of a path ends like the path's last name that is not `.`. -/
theorem baseName_absoluteFrom (workDir p : Path) : baseName (absoluteFrom workDir p) =
    if endsInSlash p then [] else (names p).getLast?.getD (baseName (start workDir p)) := by
  cases hend : endsInSlash p with
  | true =>
    rw [if_pos rfl, baseName_eq_nil_iff]
    refine .inr ?_
    unfold absoluteFrom
    simp only [hend, Bool.true_and]
    split
    next => simp [endsInSlash]
    next hjoined => simpa using hjoined
  | false =>
    have hopen : absoluteFrom workDir p = (names p).foldl join (start workDir p) := by
      simp [absoluteFrom, hend, extend, names]
    rw [hopen, if_neg (by simp)]
    cases hnames : names p using List.reverseRecOn with
    | nil => rfl
    | append_singleton init n =>
      have hmem : n ∈ names p := by simp [hnames]
      simp [List.foldl_append, baseName_join (plain_of_mem_names hmem).noSlash]

end Path

end KarelBuild
