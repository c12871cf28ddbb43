import KarelBuild.Proofs.Text.Lines
import Mathlib.Data.List.Basic

/-!
# Texts with a replacement

Replacing copies a text up to the first occurrence, puts the new text there and goes on behind it. So
a text is split into pieces at the occurrences, and the same pieces are joined by the new text
(`LeftmostSplit`). A text without an occurrence is left as it is.

A character that the old text does not have keeps what stands on its two sides apart
(`replaceAll_break`), so lines are replaced in one by one (`split_replaceAll`).
-/

namespace KarelBuild.Text

variable {old new before : Text}

theorem replaceFrom_skip (t r : Text) :
    replaceFrom old new t.length (t ++ r) = replaceAll old new r := by
  induction t with
  | nil => rfl
  | cons c t ih => exact ih

theorem replaceAll_occurrence (hold : old ≠ []) (r : Text) :
    replaceAll old new (old ++ r) = new ++ replaceAll old new r := by
  obtain ⟨c, t, rfl⟩ := List.exists_cons_of_ne_nil hold
  have hhere : (c :: t).isPrefixOf (c :: (t ++ r)) = true :=
    List.isPrefixOf_iff_prefix.mpr (List.prefix_append (c :: t) r)
  rw [List.cons_append, replaceAll, replaceFrom, if_pos hhere]
  exact congrArg (new ++ ·) (replaceFrom_skip t r)

theorem replaceAll_cons {c : Char} {r : Text} (h : ¬ old <+: c :: r) :
    replaceAll old new (c :: r) = c :: replaceAll old new r := by
  rw [replaceAll, replaceFrom, if_neg (by rwa [List.isPrefixOf_iff_prefix])]
  rfl

/-- What stands before the first occurrence stays. -/
theorem replaceAll_before {rest : Text}
    (h : ∀ u v, before ++ rest = u ++ old ++ v → before.length ≤ u.length) :
    replaceAll old new (before ++ rest) = before ++ replaceAll old new rest := by
  induction before with
  | nil => rfl
  | cons c before ih =>
    have hhere : ¬ old <+: c :: (before ++ rest) := by
      rintro ⟨v, hv⟩
      simpa using h [] v hv.symm
    have hlater (u v : Text) (huv : before ++ rest = u ++ old ++ v) :
        before.length ≤ u.length := by
      have hmore := h (c :: u) v (by simp [huv])
      simpa using hmore
    rw [List.cons_append, replaceAll_cons hhere, ih hlater, List.cons_append]

theorem replaceAll_of_absent {t : Text} (h : ¬ old <:+: t) : replaceAll old new t = t := by
  have hbefore : replaceAll old new (t ++ []) = t ++ replaceAll old new [] :=
    replaceAll_before fun u v huv => absurd ⟨u, v, by simpa using huv.symm⟩ h
  simpa [replaceAll, replaceFrom] using hbefore

/-! ## First occurrences -/

/-- The first occurrence of a text behind another one is the one at the end. -/
def FirstBehind (old before : Text) : Prop := ∀ u v, before ++ old = u ++ old ++ v → u = before

/-- What follows the first occurrence makes no earlier one. -/
theorem FirstBehind.length_le (h : FirstBehind old before) {rest u v : Text}
    (huv : before ++ (old ++ rest) = u ++ old ++ v) : before.length ≤ u.length := by
  by_contra hshort
  have hthis : u ++ old <+: before ++ (old ++ rest) := ⟨v, huv.symm⟩
  have hfirst : before ++ old <+: before ++ (old ++ rest) := ⟨rest, by simp⟩
  have hlength : (u ++ old).length ≤ (before ++ old).length := by
    simp only [List.length_append]
    omega
  obtain ⟨v', hv'⟩ := List.prefix_of_prefix_length_le hthis hfirst hlength
  obtain rfl := h u v' hv'.symm
  exact hshort (Nat.le_refl _)

theorem replaceAll_first (hold : old ≠ []) (h : FirstBehind old before) (rest : Text) :
    replaceAll old new (before ++ old ++ rest) = before ++ new ++ replaceAll old new rest := by
  rw [List.append_assoc, replaceAll_before fun u v => h.length_le, replaceAll_occurrence hold,
    List.append_assoc]

/-- A text that occurs has a first occurrence. -/
theorem exists_firstBehind {t : Text} (hold : old ≠ []) (h : old <:+: t) :
    ∃ before rest, t = before ++ old ++ rest ∧ FirstBehind old before := by
  induction t with
  | nil => exact absurd (List.infix_nil.mp h) hold
  | cons c t ih =>
    by_cases hhere : old <+: c :: t
    · obtain ⟨rest, hrest⟩ := hhere
      refine ⟨[], rest, hrest.symm, fun u v huv => ?_⟩
      have hlength := congrArg List.length huv
      simp only [List.nil_append, List.length_append] at hlength
      exact List.length_eq_zero_iff.mp (by omega)
    · have hlater : old <:+: t := (List.infix_cons_iff.mp h).resolve_left hhere
      obtain ⟨before, rest, rfl, hfirst⟩ := ih hlater
      refine ⟨c :: before, rest, rfl, fun u v huv => ?_⟩
      cases u with
      | nil => exact absurd ⟨v ++ rest, by simpa using congrArg (· ++ rest) huv.symm⟩ hhere
      | cons d u =>
        obtain ⟨rfl, htail⟩ : c = d ∧ before ++ old = u ++ old ++ v := by simpa using huv
        rw [hfirst u v htail]

/-- A text is one in which another does not occur, or one of these follows it behind its first
occurrence. -/
@[elab_as_elim]
theorem leftmost_induction (hold : old ≠ []) {motive : Text → Prop}
    (absent : ∀ t, ¬ old <:+: t → motive t)
    (occurs : ∀ before rest, FirstBehind old before → motive rest →
      motive (before ++ old ++ rest)) (t : Text) : motive t := by
  induction hn : t.length using Nat.strongRecOn generalizing t with
  | _ n ih =>
    by_cases h : old <:+: t
    · obtain ⟨before, rest, rfl, hfirst⟩ := exists_firstBehind hold h
      have hpos : 0 < old.length := List.length_pos_iff.mpr hold
      have hshort : rest.length < n := by
        simp only [List.length_append] at hn
        omega
      exact occurs before rest hfirst (ih rest.length hshort rest rfl)
    · exact absent t h

/-- A text that occurs once is exchanged there. -/
theorem replaceAll_once {after : Text} (hold : old ≠ [])
    (h : ∀ u v, before ++ old ++ after = u ++ old ++ v → u = before) :
    replaceAll old new (before ++ old ++ after) = before ++ new ++ after := by
  have hfirst : FirstBehind old before := by
    intro u v huv
    exact h u (v ++ after) (by simp [huv])
  have habsent : ¬ old <:+: after := by
    rintro ⟨u, v, rfl⟩
    have hback := h (before ++ old ++ u) v (by simp)
    simp [hold] at hback
  rw [replaceAll_first hold hfirst, replaceAll_of_absent habsent]

/-- Where a text occurs is seen from the ends of the whole. -/
theorem eq_of_occurrence {t : Text} (h : ∀ n ≤ t.length, old <+: t.drop n → t.take n = before)
    {u v : Text} (huv : t = u ++ old ++ v) : u = before := by
  have hlength : u.length ≤ t.length := by
    rw [huv]
    simp only [List.length_append]
    omega
  have hoccurs : old <+: t.drop u.length := ⟨v, by simp [huv]⟩
  rw [← h u.length hlength hoccurs, huv, List.append_assoc, List.take_left]

/-! ## Pieces -/

/-- The pieces of a text between the occurrences of another, taken from the left. In the last piece
it does not occur, and behind each other piece it occurs first at the end. -/
inductive LeftmostSplit (old : Text) : Text → List Text → Prop
  | last {t : Text} : ¬ old <:+: t → LeftmostSplit old t [t]
  | piece {before rest : Text} {pieces : List Text} : FirstBehind old before →
      LeftmostSplit old rest pieces → LeftmostSplit old (before ++ old ++ rest) (before :: pieces)

theorem exists_leftmostSplit (hold : old ≠ []) (t : Text) : ∃ pieces, LeftmostSplit old t pieces := by
  induction t using leftmost_induction hold with
  | absent t h => exact ⟨[t], .last h⟩
  | occurs before rest hfirst ih =>
    obtain ⟨pieces, hpieces⟩ := ih
    exact ⟨before :: pieces, .piece hfirst hpieces⟩

theorem join_cons (separator t : Text) {ts : List Text} (hne : ts ≠ []) :
    join separator (t :: ts) = t ++ separator ++ join separator ts := by
  obtain ⟨u, us, rfl⟩ := List.exists_cons_of_ne_nil hne
  rfl

namespace LeftmostSplit

variable {t : Text} {pieces other : List Text}

theorem ne_nil (h : LeftmostSplit old t pieces) : pieces ≠ [] := by
  cases h <;> simp

theorem joined (h : LeftmostSplit old t pieces) : join old pieces = t := by
  induction h with
  | last => rfl
  | piece _ hrest ih => rw [join_cons _ _ hrest.ne_nil, ih]

theorem replaced (h : LeftmostSplit old t pieces) (hold : old ≠ []) :
    replaceAll old new t = join new pieces := by
  induction h with
  | last habsent => exact replaceAll_of_absent habsent
  | piece hfirst hrest ih => rw [replaceAll_first hold hfirst, ih, join_cons _ _ hrest.ne_nil]

/-- There is one way to split a text. -/
theorem unique (h : LeftmostSplit old t pieces) (h' : LeftmostSplit old t other) :
    pieces = other := by
  induction h generalizing other with
  | last habsent =>
    cases h' with
    | last => rfl
    | piece => exact absurd ⟨_, _, rfl⟩ habsent
  | @piece before rest pieces hfirst hrest ih =>
    generalize hwhole : before ++ old ++ rest = whole at h'
    cases h' with
    | last habsent => exact absurd ⟨_, _, hwhole⟩ habsent
    | @piece before' rest' pieces' hfirst' hrest' =>
      have hlength : before.length = before'.length :=
        Nat.le_antisymm (hfirst.length_le (by simpa using hwhole))
          (hfirst'.length_le (by simpa using hwhole.symm))
      obtain ⟨rfl, hrests⟩ := List.append_inj (by simpa using hwhole) hlength
      obtain rfl : rest = rest' := List.append_cancel_left hrests
      rw [ih hrest']

end LeftmostSplit

/-! ## Characters that are not replaced -/

/-- An occurrence does not reach over a character that it does not have. -/
theorem length_lt_of_break {c : Char} {a b u v : Text} (hc : c ∉ old) (ha : ¬ old <:+: a)
    (h : a ++ c :: b = u ++ old ++ v) : a.length < u.length := by
  by_contra hshort
  have hthis : u <+: a ++ c :: b := ⟨old ++ v, by simp [h]⟩
  obtain ⟨rest, rfl⟩ :=
    List.prefix_of_prefix_length_le hthis (List.prefix_append a _) (by omega)
  rw [List.append_assoc, List.append_assoc] at h
  rcases List.append_eq_append_iff.mp (List.append_cancel_left h) with
    ⟨more, hmore, hend⟩ | ⟨more, hmore, -⟩
  · cases more with
    | nil => exact ha ⟨u, [], by simp [hmore]⟩
    | cons d more =>
      obtain rfl : c = d := (List.cons.inj hend).1
      exact hc (by simp [hmore])
  · exact ha ⟨u, more, by simp [hmore]⟩

/-- What stands on the two sides of such a character is replaced apart. -/
theorem replaceAll_break {c : Char} (hold : old ≠ []) (hc : c ∉ old) (a b : Text) :
    replaceAll old new (a ++ c :: b) = replaceAll old new a ++ c :: replaceAll old new b := by
  induction a using leftmost_induction hold with
  | absent a ha =>
    have hpast (u v : Text) (huv : (a ++ [c]) ++ b = u ++ old ++ v) :
        (a ++ [c]).length ≤ u.length := by
      rw [List.length_append, List.length_singleton]
      exact length_lt_of_break hc ha (by simpa using huv)
    rw [List.append_cons, replaceAll_before hpast, replaceAll_of_absent ha, List.append_assoc,
      List.singleton_append]
  | occurs before rest hfirst ih =>
    rw [List.append_assoc, replaceAll_first hold hfirst, ih, replaceAll_first hold hfirst,
      ← List.append_assoc]

theorem not_mem_replaceAll {c : Char} {t : Text} (hold : old ≠ []) (hnew : c ∉ new) (ht : c ∉ t) :
    c ∉ replaceAll old new t := by
  induction t using leftmost_induction hold with
  | absent t h => rwa [replaceAll_of_absent h]
  | occurs before rest hfirst ih =>
    rw [replaceAll_first hold hfirst]
    simp_all

theorem replaceAll_eq_nil_iff {t : Text} (hold : old ≠ []) (hnew : new ≠ []) :
    replaceAll old new t = [] ↔ t = [] := by
  induction t using leftmost_induction hold with
  | absent t h => rw [replaceAll_of_absent h]
  | occurs before rest hfirst _ =>
    rw [replaceAll_first hold hfirst]
    simp [hold, hnew]

/-- Pieces between characters that neither text has are replaced in one by one. -/
theorem split_replaceAll {c : Char} (hold : old ≠ []) (hc : c ∉ old) (hnew : c ∉ new) (t : Text) :
    split c (replaceAll old new t) = (split c t).map (replaceAll old new) := by
  induction t using break_induction c with
  | last t ht =>
    rw [split_of_not_mem (not_mem_replaceAll hold hnew ht), split_of_not_mem ht, List.map_singleton]
  | piece t rest ht ih =>
    rw [replaceAll_break hold hc, split_append, ih, split_append, List.map_append,
      split_of_not_mem (not_mem_replaceAll hold hnew ht), split_of_not_mem ht, List.map_singleton]

theorem length_lines_replaceAll (hold : old ≠ []) (hfeed : '\n' ∉ old) (hnew : '\n' ∉ new)
    (hne : new ≠ []) (t : Text) : (lines (replaceAll old new t)).length = (lines t).length := by
  have hlast : ((split '\n' t).map (replaceAll old new)).getLastD [] = [] ↔
      (split '\n' t).getLastD [] = [] := by
    rw [List.getLastD_eq_getLast?, List.getLastD_eq_getLast?, List.getLast?_map]
    cases (split '\n' t).getLast? with
    | none => simp
    | some last => exact replaceAll_eq_nil_iff hold hne
  simp only [lines, split_replaceAll hold hfeed hnew, hlast, List.length_append, List.length_map,
    List.length_dropLast]
  split <;> rfl

end KarelBuild.Text
