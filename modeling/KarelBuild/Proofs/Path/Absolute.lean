import KarelBuild.Proofs.Path
import Mathlib.Data.List.Induction

/-!
# Absolute forms

An absolute form is a list of names behind the root, or behind two slashes, and perhaps a slash at the
end (`absoluteFrom_eq`). So the path of an entry in a directory is made of the directory's path and the
entry's name again, but for what stands right under the root (`parent?_rooted`).
-/

namespace KarelBuild

namespace Text

theorem join_concat (separator : Text) {ts : List Text} (hne : ts ≠ []) (t : Text) :
    join separator (ts ++ [t]) = join separator ts ++ separator ++ t := by
  induction ts with
  | nil => exact absurd rfl hne
  | cons u ts ih =>
    cases ts with
    | nil => simp [join]
    | cons v ts =>
      have hrest := ih (by simp)
      simp only [List.cons_append] at hrest
      simp only [List.cons_append, join, hrest, List.append_assoc]

end Text

namespace Path

/-- A name that stays in an absolute form. -/
structure Plain (n : Text) : Prop where
  nonempty : n ≠ []
  noSlash : '/' ∉ n
  notDot : n ≠ ['.']

/-- A path of names behind the root; a second slash may stand in front. -/
structure Rooted (p lead : Path) (names : List Text) : Prop where
  eq : p = lead ++ ofNames names
  lead : lead = [] ∨ lead = ['/']
  plain : ∀ n ∈ names, Plain n

/-- The path of a directory by names from the root. -/
def IsCanonical (p : Path) : Prop := ∃ names, Rooted p [] names

theorem ofNames_concat (names : List Text) (n : Text) :
    ofNames (names ++ [n]) = (if names = [] then [] else ofNames names) ++ '/' :: n := by
  split
  next hnames => simp [ofNames, hnames, Text.join]
  next hnames => simp [ofNames, Text.join_concat _ hnames]

theorem Plain.getLast? {n : Text} (h : Plain n) : ∃ c, n.getLast? = some c ∧ c ≠ '/' := by
  obtain ⟨r, c, rfl⟩ := List.eq_nil_or_concat n |>.resolve_left h.nonempty
  refine ⟨c, by simp, ?_⟩
  rintro rfl
  exact h.noSlash (by simp)

namespace Rooted

variable {p lead : Path} {names : List Text} {n : Text}

theorem concat (h : Rooted p lead names) (hn : Plain n) :
    Rooted (join p n) lead (names ++ [n]) where
  lead := h.lead
  plain m hm := by
    rcases List.mem_append.mp hm with hm | hm
    · exact h.plain m hm
    · obtain rfl := List.mem_singleton.mp hm
      exact hn
  eq := by
    rw [h.eq]
    cases hnames : names using List.reverseRecOn with
    | nil =>
      rcases h.lead with rfl | rfl <;>
        simp [join, isAbsolute_of_slash_not_mem hn.noSlash, ofNames, Text.join, endsInSlash]
    | append_singleton init m =>
      obtain ⟨c, hc, hslash⟩ := (h.plain m (by simp [hnames])).getLast?
      have hend : endsInSlash (lead ++ ofNames (init ++ [m])) = false := by
        simp [ofNames_concat init, endsInSlash, List.getLast?_append, List.getLast?_cons, hc, hslash]
      rw [join_of_dir (by simp [ofNames]) hend hn.noSlash, ofNames_concat (init ++ [m]),
        if_neg (by simp), List.append_assoc]

theorem foldl_join {more : List Text} (h : Rooted p lead names) (hmore : ∀ n ∈ more, Plain n) :
    Rooted (more.foldl join p) lead (names ++ more) := by
  induction more generalizing p names with
  | nil => simpa using h
  | cons n more ih =>
    have hnext := ih (h.concat (hmore n (List.mem_cons_self ..)))
      fun m hm => hmore m (List.mem_cons_of_mem _ hm)
    simpa using hnext

end Rooted

theorem slash_not_mem_pieces {p : Path} {n : Text} (h : n ∈ pieces p) : '/' ∉ n := by
  have hsplit (p : Text) : ∀ n ∈ Text.split '/' p, '/' ∉ n := by
    induction p with
    | nil => simp [Text.split]
    | cons c p ih =>
      obtain ⟨q, qs, hq⟩ := List.exists_cons_of_ne_nil (Text.split_ne_nil '/' p)
      rw [hq] at ih
      by_cases hc : c = '/'
      · simpa [Text.split, hc, hq] using ih
      · simp only [Text.split, hc, ↓reduceIte, hq, Text.consHead]
        intro n hn
        rcases List.mem_cons.mp hn with rfl | hn
        · have hhead := ih q (List.mem_cons_self ..)
          simp [hhead, Ne.symm hc]
        · exact ih n (List.mem_cons_of_mem _ hn)
  exact hsplit p n (List.mem_filter.mp h).1

/-- The names of a path that stay in its absolute form. -/
def names (p : Path) : List Text := (pieces p).filter (· != ['.'])

theorem plain_of_mem_names {p : Path} {n : Text} (h : n ∈ names p) : Plain n := by
  obtain ⟨hpiece, hdot⟩ := List.mem_filter.mp h
  exact ⟨ne_nil_of_mem_pieces hpiece, slash_not_mem_pieces hpiece, by simpa using hdot⟩

/-- An absolute form is rooted, but for a slash that may end it. -/
theorem absoluteFrom_eq {workDir p : Path} (h : isAbsolute p = true ∨ IsCanonical workDir) :
    ∃ q lead names, Rooted q lead names ∧
      (absoluteFrom workDir p = q ∨ absoluteFrom workDir p = q ++ ['/']) := by
  have hnames : ∀ n ∈ names p, Plain n := fun _ => plain_of_mem_names
  have hstart : ∃ lead names, Rooted (start workDir p) lead names := by
    unfold start
    split
    next hp => exact ⟨[], h.resolve_left (by simpa using hp)⟩
    next =>
      split
      · exact ⟨['/'], [], rfl, .inr rfl, by simp⟩
      · exact ⟨[], [], rfl, .inl rfl, by simp⟩
  obtain ⟨lead, names, hrooted⟩ := hstart
  refine ⟨_, _, _, hrooted.foldl_join hnames, ?_⟩
  unfold absoluteFrom
  simp only
  split
  · exact .inr rfl
  · exact .inl rfl

/-! ## The directory of a path -/

theorem baseName_of_slash {dir : Path} {n : Text} (hn : '/' ∉ n) : baseName (dir ++ '/' :: n) = n := by
  have hdir : baseName (dir ++ ['/']) = [] := by simp [baseName, isSlash]
  rw [List.append_cons, baseName_append hn, hdir, List.nil_append]

theorem parent?_of_last {dir : Path} {n : Text} {c : Char} (hn : '/' ∉ n) (hlast : n.getLast? = some c)
    (hdot : c ≠ '.') :
    parent? (dir ++ '/' :: n) = some (trimBackwards ('/' :: dir.reverse)).reverse := by
  obtain ⟨r, rfl⟩ := List.getLast?_eq_some_iff.mp hlast
  have hslash : c ≠ '/' := by
    rintro rfl
    simp at hn
  have hpass : ∀ d ∈ (r ++ [c]).reverse, (!isSlash d) = true := by
    intro d hd
    have hne : d ≠ '/' := by
      rintro rfl
      exact hn (List.mem_reverse.mp hd)
    simp [isSlash, hne]
  have hback : (dir ++ '/' :: (r ++ [c])).reverse = (r ++ [c]).reverse ++ '/' :: dir.reverse := by
    simp
  have htrim : trimBackwards ((r ++ [c]).reverse ++ '/' :: dir.reverse) =
      (r ++ [c]).reverse ++ '/' :: dir.reverse := by
    rw [List.reverse_append]
    exact trimBackwards_cons hslash hdot _
  have hdrop : ((r ++ [c]).reverse ++ '/' :: dir.reverse).dropWhile (!isSlash ·) =
      '/' :: dir.reverse := by
    rw [List.dropWhile_append_of_pos hpass, List.dropWhile_cons_of_neg (by simp [isSlash])]
  unfold parent?
  simp only [hback, htrim, hdrop]
  simp

theorem trimBackwards_plain {n : Text} (h : Plain n) (r : Text) :
    trimBackwards (n.reverse ++ r) = n.reverse ++ r := by
  obtain ⟨c, hlast, hslash⟩ := h.getLast?
  obtain ⟨init, rfl⟩ := List.getLast?_eq_some_iff.mp hlast
  by_cases hdot : c = '.'
  · subst hdot
    cases hinit : init using List.reverseRecOn with
    | nil => exact absurd (by simp [hinit]) h.notDot
    | append_singleton init' d =>
      have hd : d ≠ '/' := by
        rintro rfl
        exact h.noSlash (by simp [hinit])
      simp [trimBackwards, hd]
  · simpa using trimBackwards_cons hslash hdot (init.reverse ++ r)

namespace Rooted

variable {p lead : Path} {init : List Text} {n : Text} {c : Char}

theorem eq_concat (h : Rooted p lead (init ++ [n])) :
    p = lead ++ (if init = [] then [] else ofNames init) ++ '/' :: n := by
  rw [h.eq, ofNames_concat, List.append_assoc]

theorem plain_last (h : Rooted p lead (init ++ [n])) : Plain n := h.plain n (by simp)

theorem baseName_eq (h : Rooted p lead (init ++ [n])) : baseName p = n := by
  rw [h.eq_concat]
  exact baseName_of_slash h.plain_last.noSlash

/-- The directory of a path by names is that of all its names but the last. -/
theorem parent?_eq (h : Rooted p lead (init ++ [n])) (hlast : n.getLast? = some c) (hdot : c ≠ '.') :
    parent? p = some (if init = [] then ['/'] else lead ++ ofNames init) := by
  rw [h.eq_concat, parent?_of_last h.plain_last.noSlash hlast hdot]
  cases hinit : init using List.reverseRecOn with
  | nil => rcases h.lead with rfl | rfl <;> simp [trimBackwards]
  | append_singleton above m =>
    have hm : Plain m := h.plain m (by simp [hinit])
    have hback : (lead ++ ofNames (above ++ [m])).reverse =
        m.reverse ++ '/' :: (lead ++ (if above = [] then [] else ofNames above)).reverse := by
      rw [ofNames_concat, ← List.append_assoc, List.reverse_append, List.reverse_cons,
        List.append_assoc]
      rfl
    have htrim : trimBackwards ('/' :: (lead ++ ofNames (above ++ [m])).reverse) =
        (lead ++ ofNames (above ++ [m])).reverse := by
      rw [hback, trimBackwards, if_pos rfl, if_neg (by simp), trimBackwards_plain hm]
    simp only [List.append_eq_nil_iff, List.cons_ne_self, and_false, ↓reduceIte, htrim,
      List.reverse_reverse]

/-- A path by names is made again of its directory, a slash and its last name. Only under the root
there is one slash too many. -/
theorem recompose {names : List Text} (h : Rooted p lead names) (hlast : p.getLast? = some c)
    (hslash : c ≠ '/') (hdot : c ≠ '.') :
    (parent? p).getD [] ++ '/' :: baseName p = if p = '/' :: baseName p then '/' :: p else p := by
  cases names using List.reverseRecOn with
  | nil =>
    rw [h.eq] at hlast
    simp [ofNames, Text.join, hslash.symm] at hlast
  | append_singleton init n =>
    have hnlast : n.getLast? = some c := by
      obtain ⟨d, hd, -⟩ := h.plain_last.getLast?
      rw [h.eq_concat] at hlast
      simpa [List.getLast?_append, List.getLast?_cons, hd] using hlast
    have hp := h.eq_concat
    rw [h.parent?_eq hnlast hdot, h.baseName_eq, Option.getD_some]
    by_cases hinit : init = []
    · rcases h.lead with rfl | rfl <;> simp [hp, hinit]
    · have hdeep : p ≠ '/' :: n := by
        intro heq
        have hlength := congrArg List.length (hp.symm.trans heq)
        simp [hinit, ofNames] at hlength
        omega
      rw [if_neg hinit, if_neg hdeep, hp, if_neg hinit]

end Rooted

end Path

end KarelBuild
