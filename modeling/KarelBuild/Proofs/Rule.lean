import KarelBuild.Rule
import Mathlib.Data.List.Basic

/-!
# What a rule lists

The dependencies of a rule are the paths it was made from, the target left out, each once and in
the order in which they first occur (`Rule.Lists`).
-/

namespace KarelBuild

namespace Text

theorem mem_distinct {t : Text} {ts : List Text} : t ∈ distinct ts ↔ t ∈ ts := by
  induction ts with
  | nil => simp [distinct]
  | cons u ts ih =>
    by_cases h : t = u
    · simp [distinct, h]
    · simp [distinct, h, ih]

/-- Keeping some texts of a list keeps which of two of them comes first. -/
theorem idxOf_lt_of_filter (p : Text → Bool) {x y : Text} (ts : List Text)
    (hx : p x = true) (hy : p y = true) (h : (ts.filter p).idxOf x < (ts.filter p).idxOf y) :
    ts.idxOf x < ts.idxOf y := by
  induction ts with
  | nil => simp at h
  | cons t ts ih =>
    by_cases htx : t = x
    · subst htx
      by_cases hty : t = y
      · subst hty
        omega
      · simp [List.idxOf_cons_ne _ hty]
    · by_cases hty : t = y
      · subst hty
        simp [hy] at h
      · rw [List.idxOf_cons_ne _ htx, List.idxOf_cons_ne _ hty]
        cases ht : p t with
        | false =>
          rw [List.filter_cons_of_neg (by simp [ht])] at h
          exact Nat.succ_lt_succ (ih h)
        | true =>
          rw [List.filter_cons_of_pos ht, List.idxOf_cons_ne _ htx, List.idxOf_cons_ne _ hty] at h
          exact Nat.succ_lt_succ (ih (Nat.lt_of_succ_lt_succ h))

/-- The texts come in the order of their first occurrences, none of them twice. -/
theorem distinct_pairwise (ts : List Text) :
    (distinct ts).Pairwise fun x y => ts.idxOf x < ts.idxOf y := by
  induction ts with
  | nil => exact .nil
  | cons t ts ih =>
    have other {x : Text} (hx : x ∈ (distinct ts).filter (· != t)) : t ≠ x := by
      rintro rfl
      simp at hx
    refine List.Pairwise.cons ?_ ?_
    · intro x hx
      simp [List.idxOf_cons_ne _ (other hx)]
    · refine (ih.filter _).imp_of_mem ?_
      intro x y hx hy hxy
      rw [List.idxOf_cons_ne _ (other hx), List.idxOf_cons_ne _ (other hy)]
      exact Nat.succ_lt_succ hxy

end Text

namespace Rule

/-- A rule lists paths: each of them once, in the order of first occurrence, the target left out. -/
structure Lists (r : Rule) (paths : List Path) : Prop where
  mem_iff : ∀ x, x ∈ r.dependencies ↔ x ∈ paths ∧ x ≠ r.target
  order : r.dependencies.Pairwise fun x y => paths.idxOf x < paths.idxOf y

theorem Lists.nodup {r : Rule} {paths : List Path} (h : r.Lists paths) : r.dependencies.Nodup := by
  refine h.order.imp ?_
  rintro x y hlt rfl
  exact Nat.lt_irrefl _ hlt

/-- There is one such list for each target. -/
theorem Lists.unique {r r' : Rule} {paths : List Path} (h : r.Lists paths) (h' : r'.Lists paths)
    (htarget : r.target = r'.target) : r.dependencies = r'.dependencies := by
  have hperm : r.dependencies.Perm r'.dependencies := by
    rw [List.perm_ext_iff_of_nodup h.nodup h'.nodup]
    intro x
    rw [h.mem_iff, h'.mem_iff, htarget]
  refine hperm.eq_of_pairwise ?_ h.order h'.order
  intro x y _ _ hxy hyx
  omega

theorem ofPaths?_eq_none_iff (target : Text) (paths : List Path) :
    ofPaths? target paths = none ↔ target = [] := by
  simp [ofPaths?]

theorem ofPaths?_spec {target : Text} {paths : List Path} {r : Rule}
    (h : ofPaths? target paths = some r) :
    r.target = target ∧ target ≠ [] ∧ r.phony = false ∧ r.Lists paths := by
  simp only [ofPaths?, Option.ite_none_left_eq_some, Option.some.injEq] at h
  obtain ⟨hne, rfl⟩ := h
  refine ⟨rfl, hne, rfl, ?_, ?_⟩
  · intro x
    simp [Text.mem_distinct]
  · refine (Text.distinct_pairwise _).imp_of_mem ?_
    intro x y hx hy hxy
    have kept {z : Text} (hz : z ∈ Text.distinct (paths.filter (· != target))) :
        (z != target) = true := (List.mem_filter.mp (Text.mem_distinct.mp hz)).2
    exact Text.idxOf_lt_of_filter _ paths (kept hx) (kept hy) hxy

end Rule

end KarelBuild
