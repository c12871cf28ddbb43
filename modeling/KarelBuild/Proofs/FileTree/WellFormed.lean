import KarelBuild.FileTree.Lookup
import KarelBuild.Proofs.FileTree
import Mathlib.Data.List.Induction

/-!
# Trees of a file system

The entries of a well-formed tree were added one after another, each under a proper name in a
directory that was there before. So everything above an entry is a directory (`WellFormed.above`).
-/

namespace KarelBuild

namespace FileTree

/-- A name that an entry can have. -/
structure IsName (n : Name) : Prop where
  nonempty : n ≠ []
  noSlash : '/' ∉ n
  notDot : n ≠ ['.']
  notUp : n ≠ ['.', '.']
  size : Utf8.size n ≤ maxNameSize

/-- The tree with one more entry. -/
def add (t : FileTree) (p : Place) (e : Entry) : FileTree := ⟨t.entries ++ [(p, e)]⟩

inductive WellFormed : FileTree → Prop
  | empty : WellFormed empty
  | add {t : FileTree} {dir : Place} {n : Name} (e : Entry) : WellFormed t →
      t.entry? dir = some .dir → IsName n → t.entry? (dir ++ [n]) = none →
      WellFormed (t.add (dir ++ [n]) e)

/-! ## Entries of a changed tree -/

theorem entry_of_mem {t : FileTree} {p : Place} {e : Entry} (h : (p, e) ∈ t.entries) :
    t.entry? p ≠ none := by
  unfold entry?
  split
  next => simp
  next =>
    intro hnone
    simpa using List.lookup_eq_none_iff.mp hnone _ h

theorem mem_of_entry {t : FileTree} {p : Place} {e : Entry} (hp : p ≠ [])
    (h : t.entry? p = some e) : (p, e) ∈ t.entries := by
  rw [ entry?, if_neg hp] at h
  obtain ⟨before, after, heq, -⟩ := List.lookup_eq_some_iff.mp h
  simp [heq]

theorem add_entry {t : FileTree} {p : Place} (hp : p ≠ []) (hnew : t.entry? p = none) (e : Entry)
    (q : Place) : entry? (t.add p e) q = if q = p then some e else t.entry? q := by
  by_cases hq : q = []
  · subst hq
    simp [hp.symm]
  · unfold entry? at hnew ⊢
    simp only [hp, hq, ↓reduceIte, add, List.lookup_append] at hnew ⊢
    by_cases hqp : q = p
    · simp [hqp, hnew]
    · simp [hqp, lookup_cons_ne hqp]

/-- A tree without the entries of some places. -/
theorem filter_entry (t : FileTree) (keep : Place → Bool) {q : Place} (hq : q ≠ []) :
    entry? ⟨t.entries.filter fun a => keep a.1⟩ q = if keep q then t.entry? q else none := by
  have hlookup (l : List (Place × Entry)) :
      (l.filter fun a => keep a.1).lookup q = if keep q then l.lookup q else none := by
    induction l with
    | nil => simp
    | cons a l ih =>
      obtain ⟨r, e⟩ := a
      by_cases hqr : q = r
      · subst hqr
        cases hkeep : keep q <;> simp [hkeep, ih]
      · cases hkeep : keep r <;> simp [hkeep, lookup_cons_ne hqr, ih]
  simp only [ entry?, hq, ↓reduceIte, hlookup]

theorem erase_entry (t : FileTree) {p : Place} (hp : p ≠ []) (q : Place) :
    entry? (t.erase p) q = if q = p then none else t.entry? q := by
  by_cases hq : q = []
  · subst hq
    simp [hp.symm]
  · rw [erase, filter_entry t (· != p) hq]
    by_cases hqp : q = p <;> simp [hqp]

/-! ## Above and below -/

namespace WellFormed

variable {t : FileTree}

theorem parent (h : t.WellFormed) {dir : Place} {n : Name} {e : Entry}
    (he : t.entry? (dir ++ [n]) = some e) : t.entry? dir = some .dir ∧ IsName n := by
  induction h generalizing e with
  | empty => simp [FileTree.empty, entry?] at he
  | @add t dir' n' e' _ hdir' hn' hnew ih =>
    have hold {p : Place} (hp : t.entry? p = some .dir) :
        entry? (t.add (dir' ++ [n']) e') p = some .dir := by
      rw [add_entry (by simp) hnew, if_neg, hp]
      rintro rfl
      simp [hnew] at hp
    rw [add_entry (by simp) hnew] at he
    split at he
    next heq =>
      obtain ⟨rfl, rfl⟩ : dir = dir' ∧ n = n' := by simpa using heq
      exact ⟨hold hdir', hn'⟩
    next =>
      obtain ⟨hdir, hn⟩ := ih he
      exact ⟨hold hdir, hn⟩

/-- What is above an entry is a directory. -/
theorem above (h : t.WellFormed) {p : Place} {names : List Name} {e : Entry} (hne : names ≠ [])
    (he : t.entry? (p ++ names) = some e) : t.entry? p = some .dir := by
  induction names using List.reverseRecOn generalizing e with
  | nil => exact absurd rfl hne
  | append_singleton init n ih =>
    rw [← List.append_assoc] at he
    obtain ⟨hdir, -⟩ := h.parent he
    by_cases hinit : init = []
    · simpa [hinit] using hdir
    · exact ih hinit hdir

/-- Nothing is below what is not a directory. -/
theorem nothing_below (h : t.WellFormed) {p : Place} (hp : t.entry? p ≠ some .dir)
    {names : List Name} (hne : names ≠ []) : t.entry? (p ++ names) = none := by
  cases he : t.entry? (p ++ names) with
  | none => rfl
  | some e => exact absurd (h.above hne he) hp

theorem isName (h : t.WellFormed) {p : Place} {names : List Name} {e : Entry}
    (he : t.entry? (p ++ names) = some e) : ∀ n ∈ names, IsName n := by
  induction names using List.reverseRecOn generalizing e with
  | nil => simp
  | append_singleton init n ih =>
    rw [← List.append_assoc] at he
    obtain ⟨hdir, hn⟩ := h.parent he
    intro m hm
    rcases List.mem_append.mp hm with hm | hm
    · exact ih hdir m hm
    · obtain rfl := List.mem_singleton.mp hm
      exact hn

end WellFormed

/-! ## Checking a tree -/

instance (n : Name) : Decidable (IsName n) :=
  decidable_of_iff
    (n ≠ [] ∧ '/' ∉ n ∧ n ≠ ['.'] ∧ n ≠ ['.', '.'] ∧ Utf8.size n ≤ maxNameSize)
    ⟨fun ⟨h1, h2, h3, h4, h5⟩ => ⟨h1, h2, h3, h4, h5⟩,
      fun ⟨h1, h2, h3, h4, h5⟩ => ⟨h1, h2, h3, h4, h5⟩⟩

/-- Each entry of a list, the last one first, has its directory behind it and no other entry of its
place. -/
def stacked : List (Place × Entry) → Bool
  | [] => true
  | (p, _) :: older =>
    let t : FileTree := ⟨older.reverse⟩
    stacked older && p ≠ [] && t.entry? p.dropLast == some .dir && decide (IsName (p.getLastD [])) &&
      t.entry? p == none

theorem wellFormed_of_stacked {t : FileTree} (h : stacked t.entries.reverse = true) :
    t.WellFormed := by
  have hall {l : List (Place × Entry)} (h : stacked l = true) : WellFormed ⟨l.reverse⟩ := by
    induction l with
    | nil => exact .empty
    | cons a older ih =>
      obtain ⟨p, e⟩ := a
      simp only [stacked, Bool.and_eq_true, decide_eq_true_eq, beq_iff_eq] at h
      obtain ⟨⟨⟨⟨hold, hp⟩, hdir⟩, hn⟩, hnew⟩ := h
      obtain ⟨dir, n, rfl⟩ := List.eq_nil_or_concat p |>.resolve_left hp
      simp only [List.concat_eq_append, List.dropLast_concat, List.getLastD_concat] at hdir hn hnew
      rw [List.reverse_cons, List.concat_eq_append]
      exact .add e (ih hold) hdir hn hnew
  simpa using hall h

end FileTree

end KarelBuild
