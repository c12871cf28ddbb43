import KarelBuild.FileTree
import Mathlib.Data.List.Basic

/-!
# Trees after a change

What a tree holds after an entry was put, and `Grown`, which relates a tree to one that has the same
entries and perhaps more directories.
-/

namespace KarelBuild

/-- Neither a directory nor a link: names lead to such an entry, never through it. -/
def Entry.IsLeaf (e : Entry) : Prop := e.isDir = false ∧ e.isLink = false

def Entry.IsFile (e : Entry) : Prop := ∃ contents executable, e = .file contents executable

namespace FileTree

/-! ## Entries -/

@[simp] theorem root_entry (t : FileTree) : t.entry? [] = some .dir := rfl

theorem lookup_cons_ne {p q : Place} (h : q ≠ p) (e : Entry) (l : List (Place × Entry)) :
    List.lookup q ((p, e) :: l) = l.lookup q := by
  simp [List.lookup_cons, beq_false_of_ne h]

theorem lookup_putIn (p q : Place) (e : Entry) (l : List (Place × Entry)) :
    (putIn p e l).lookup q = if q = p then some e else l.lookup q := by
  induction l with
  | nil =>
    by_cases h : q = p
    · simp [putIn, h]
    · simp [putIn, lookup_cons_ne h, h]
  | cons a l ih =>
    obtain ⟨r, old⟩ := a
    by_cases hr : r = p
    · subst hr
      by_cases h : q = r
      · simp [putIn, h]
      · simp [putIn, lookup_cons_ne h, h]
    · by_cases h : q = r
      · subst h
        simp [putIn, hr]
      · simp [putIn, hr, lookup_cons_ne h, ih]

theorem put_entry (t : FileTree) {p : Place} (hp : p ≠ []) (e : Entry) (q : Place) :
    entry? (t.put p e) q = if q = p then some e else t.entry? q := by
  by_cases hq : q = []
  · subst hq
    simp [hp.symm]
  · unfold entry? put
    simp [hq, lookup_putIn]

/-! ## Trees with more directories -/

/-- All entries are kept, and what is new is a directory. -/
structure Grown (t t' : FileTree) : Prop where
  keeps : ∀ {q e}, t.entry? q = some e → t'.entry? q = some e
  adds : ∀ {q e}, t'.entry? q = some e → t.entry? q = some e ∨ e = .dir

theorem Grown.refl (t : FileTree) : Grown t t := ⟨id, .inl⟩

theorem Grown.trans {t t' t'' : FileTree} (h : Grown t t') (h' : Grown t' t'') : Grown t t'' where
  keeps he := h'.keeps (h.keeps he)
  adds he := by
    rcases h'.adds he with he | rfl
    · exact h.adds he
    · exact .inr rfl

theorem grown_put_dir {t : FileTree} {p : Place} (hp : p ≠ []) (h : t.entry? p = none) :
    Grown t (t.put p .dir) where
  keeps {q e} he := by
    rw [put_entry t hp]
    split
    next hq => simp [hq, h] at he
    next => exact he
  adds {q e} he := by
    rw [put_entry t hp] at he
    split at he
    · exact .inr (Option.some.inj he).symm
    · exact .inl he

end FileTree

end KarelBuild
