import KarelBuild.Path
import Mathlib.Data.List.TakeWhile

/-!
# Names in a path

`baseName` is what stands behind the last slash. A path that ends in neither a slash nor a dot has
it as its file name (`fileName?_of_last`). Names that are joined to a path are its last pieces
(`foldl_join`), and what is joined to an absolute path is absolute.
-/

namespace KarelBuild

namespace Text

/-! ## Pieces of a text -/

theorem split_ne_nil (d : Char) (t : Text) : split d t ≠ [] := by
  cases t with
  | nil => simp [split]
  | cons c t =>
    unfold split
    split
    · simp
    · cases split d t <;> simp [consHead]

theorem split_append (d : Char) (t u : Text) : split d (t ++ d :: u) = split d t ++ split d u := by
  induction t with
  | nil => simp [split]
  | cons c t ih =>
    by_cases hc : c = d
    · simp [split, hc, ih]
    · obtain ⟨p, ps, hp⟩ := List.exists_cons_of_ne_nil (split_ne_nil d t)
      simp [split, hc, ih, hp, consHead]

theorem split_of_not_mem {d : Char} {t : Text} (h : d ∉ t) : split d t = [t] := by
  induction t with
  | nil => rfl
  | cons c t ih =>
    obtain ⟨hc, ht⟩ : d ≠ c ∧ d ∉ t := by simpa using h
    simp [split, hc.symm, ih ht, consHead]

theorem cut_append {d : Char} {t : Text} (ht : d ∉ t) (u : Text) :
    cut d (t ++ d :: u) = (t, some u) := by
  induction t with
  | nil => simp [cut]
  | cons c t ih =>
    obtain ⟨hc, ht⟩ : d ≠ c ∧ d ∉ t := by simpa using ht
    simp [cut, hc.symm, ih ht]

end Text

namespace Path

/-! ## The last name -/

/-- The text behind the last slash. -/
def baseName (p : Path) : Text := (p.reverse.takeWhile (!isSlash ·)).reverse

theorem slash_not_mem_baseName (p : Path) : '/' ∉ baseName p := by
  intro h
  have hslash := List.mem_takeWhile_imp (List.mem_reverse.mp h)
  simp [isSlash] at hslash

/-- A text without a slash only makes the last name longer. -/
theorem baseName_append {t : Text} (ht : '/' ∉ t) (p : Path) :
    baseName (p ++ t) = baseName p ++ t := by
  have hpass : ∀ c ∈ t.reverse, (!isSlash c) = true := by
    intro c hc
    have hne : c ≠ '/' := by
      rintro rfl
      exact ht (List.mem_reverse.mp hc)
    simp [isSlash, hne]
  unfold baseName
  rw [List.reverse_append, List.takeWhile_append_of_pos hpass, List.reverse_append,
    List.reverse_reverse]

theorem trimBackwards_cons {c : Char} (hslash : c ≠ '/') (hdot : c ≠ '.') (r : Text) :
    trimBackwards (c :: r) = c :: r := by
  simp [trimBackwards, hslash, hdot]

theorem fileName?_of_last {p : Path} {c : Char} (hlast : p.getLast? = some c) (hslash : c ≠ '/')
    (hdot : c ≠ '.') : fileName? p = some (baseName p) := by
  obtain ⟨r, rfl⟩ := List.getLast?_eq_some_iff.mp hlast
  have htrim : trimBackwards (r ++ [c]).reverse = (r ++ [c]).reverse := by
    rw [List.reverse_append]
    exact trimBackwards_cons hslash hdot r.reverse
  have hname : baseName (r ++ [c]) = baseName r ++ [c] :=
    baseName_append (by simpa using hslash.symm) r
  have hend (t : Text) (d : Char) (hd : d ≠ c) : baseName r ++ [c] ≠ t ++ [d] := by
    intro h
    exact hd (by simpa using congrArg List.getLast? h.symm)
  have hgood : ¬ (baseName (r ++ [c]) = [] ∨ baseName (r ++ [c]) = ['.'] ∨
      baseName (r ++ [c]) = ['.', '.']) := by
    rw [hname]
    rintro (h | h | h)
    · simp at h
    · exact hend [] '.' hdot.symm h
    · exact hend ['.'] '.' hdot.symm h
  unfold fileName?
  rw [htrim]
  exact if_neg hgood

/-- A path that is left when last names are taken away, one at least. -/
inductive Above (a : Path) : Path → Prop
  | parent {p} : parent? p = some a → Above a p
  | further {p b} : parent? p = some b → Above a b → Above a p

/-! ## Joining -/

theorem isAbsolute_of_slash_not_mem {name : Text} (h : '/' ∉ name) : isAbsolute name = false := by
  cases name with
  | nil => rfl
  | cons c r =>
    have hc : c ≠ '/' := by
      rintro rfl
      simp at h
    simp [isAbsolute, hc]

theorem join_of_dir {dir name : Path} (hne : dir ≠ []) (hend : endsInSlash dir = false)
    (hname : '/' ∉ name) : join dir name = dir ++ '/' :: name := by
  simp [join, isAbsolute_of_slash_not_mem hname, hne, hend]

theorem join_getLast? {name : Path} (hne : name ≠ []) (dir : Path) :
    (join dir name).getLast? = name.getLast? := by
  obtain ⟨r, c, rfl⟩ := List.eq_nil_or_concat name |>.resolve_left hne
  unfold join
  split
  · rfl
  · split <;> simp [List.getLast?_append, List.getLast?_cons]

theorem pieces_append {name : Text} (hne : name ≠ []) (hname : '/' ∉ name) (p : Path) :
    pieces (p ++ '/' :: name) = pieces p ++ [name] := by
  simp [pieces, Text.split_append, Text.split_of_not_mem hname, hne]

theorem ne_nil_of_mem_pieces {p name : Path} (h : name ∈ pieces p) : name ≠ [] := by
  simpa [pieces] using (List.mem_filter.mp h).2

theorem pieces_of_slash (p : Path) : pieces (p ++ ['/']) = pieces p := by
  simp [pieces, Text.split_append, Text.split]

theorem pieces_join {dir name : Path} (hne : dir ≠ []) (hname : name ≠ []) (hslash : '/' ∉ name) :
    pieces (join dir name) = pieces dir ++ [name] := by
  cases hend : endsInSlash dir with
  | false => rw [join_of_dir hne hend hslash, pieces_append hname hslash]
  | true =>
    obtain ⟨p, rfl⟩ := List.getLast?_eq_some_iff.mp (beq_iff_eq.mp hend)
    have hjoin : join (p ++ ['/']) name = p ++ '/' :: name := by
      simp [join, isAbsolute_of_slash_not_mem hslash, hend]
    rw [hjoin, pieces_append hname hslash, pieces_of_slash]

theorem join_ne_nil {dir name : Path} (hname : name ≠ []) : join dir name ≠ [] := by
  unfold join
  split
  · exact hname
  · split <;> simp [hname]

/-- Names put behind a path one by one are its last pieces. -/
theorem foldl_join {dir : Path} (hne : dir ≠ []) {names : List Text}
    (hnames : ∀ n ∈ names, n ≠ [] ∧ '/' ∉ n) :
    pieces (names.foldl join dir) = pieces dir ++ names := by
  induction names generalizing dir with
  | nil => simp
  | cons n names ih =>
    obtain ⟨hn, hslash⟩ := hnames n (List.mem_cons_self ..)
    rw [List.foldl_cons, ih (join_ne_nil hn) fun m hm => hnames m (List.mem_cons_of_mem _ hm),
      pieces_join hne hn hslash, List.append_assoc, List.singleton_append]

theorem endsInSlash_join {name : Path} (hname : name ≠ []) (hslash : '/' ∉ name) (dir : Path) :
    endsInSlash (join dir name) = false := by
  rw [endsInSlash, join_getLast? hname, beq_eq_false_iff_ne]
  exact fun h => hslash (List.mem_of_getLast? h)

/-! ## Absolute paths -/

theorem isAbsolute_append {p : Path} (h : isAbsolute p = true) (t : Text) :
    isAbsolute (p ++ t) = true := by
  cases p with
  | nil => simp [isAbsolute] at h
  | cons c p => simpa [isAbsolute] using h

theorem isAbsolute_join {dir : Path} (h : isAbsolute dir = true) (name : Path) :
    isAbsolute (join dir name) = true := by
  unfold join
  split
  next hname => exact hname
  next =>
    split
    · exact isAbsolute_append h name
    · exact isAbsolute_append h ('/' :: name)

theorem isAbsolute_extended {dir : Path} (h : isAbsolute dir = true) (names : List Path) :
    isAbsolute (names.foldl join dir) = true := by
  induction names generalizing dir with
  | nil => exact h
  | cons name names ih => exact ih (isAbsolute_join h name)

/-- A name put behind a path leaves where the path starts. -/
theorem isAbsolute_join_of_name {dir name : Path} (hne : dir ≠ []) (hslash : '/' ∉ name) :
    isAbsolute (join dir name) = isAbsolute dir := by
  obtain ⟨c, dir, rfl⟩ := List.exists_cons_of_ne_nil hne
  unfold join
  rw [isAbsolute_of_slash_not_mem hslash, if_neg (by simp)]
  split <;> rfl

theorem isAbsolute_foldl_join {dir : Path} (hne : dir ≠ []) {names : List Path}
    (hnames : ∀ n ∈ names, n ≠ [] ∧ '/' ∉ n) :
    isAbsolute (names.foldl join dir) = isAbsolute dir := by
  induction names generalizing dir with
  | nil => rfl
  | cons n names ih =>
    obtain ⟨hn, hslash⟩ := hnames n (List.mem_cons_self ..)
    rw [List.foldl_cons, ih (join_ne_nil hn) fun m hm => hnames m (List.mem_cons_of_mem _ hm),
      isAbsolute_join_of_name hne hslash]

/-- The absolute form of a path is absolute if relative paths count from an absolute one. -/
theorem isAbsolute_absoluteFrom {workDir p : Path}
    (h : isAbsolute p = true ∨ isAbsolute workDir = true) :
    isAbsolute (absoluteFrom workDir p) = true := by
  have hstart : isAbsolute (start workDir p) = true := by
    unfold start
    split
    next hp =>
      rcases h with h | h
      · simp [h] at hp
      · exact h
    next => split <;> rfl
  have hjoined : isAbsolute (extend (start workDir p) p) = true := isAbsolute_extended hstart _
  unfold absoluteFrom
  simp only
  split
  · exact isAbsolute_append hjoined ['/']
  · exact hjoined

end Path

end KarelBuild
