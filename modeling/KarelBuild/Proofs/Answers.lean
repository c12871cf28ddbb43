import Mathlib.Data.List.Basic

/-!
# Answers

Questions may fail. Where they are asked one after another, up to the first that fails, a list of
answers answers the questions in their order (`mem_of_mapM`, `map_of_mapM`), and there is one when
every question has an answer (`exists_mapM_ok_iff`).
-/

namespace KarelBuild

theorem ok_of_toOption {ε α : Type} {r : Except ε α} {a : α} (h : r.toOption = some a) :
    r = .ok a := by
  cases r with
  | error e => simp [Except.toOption] at h
  | ok b => rw [Option.some.inj h]

variable {α β ε : Type} {f : α → Except ε β}

theorem mapM_cons_ok {x : α} {xs : List α} {y : β} (h : f x = .ok y) :
    (x :: xs).mapM f = (xs.mapM f).map (y :: ·) := by
  simp only [List.mapM_cons, h, bind, Except.bind, pure, Except.pure]
  cases xs.mapM f <;> rfl

theorem mapM_cons_error {x : α} {xs : List α} {e : ε} (h : f x = .error e) :
    (x :: xs).mapM f = .error e := by
  simp only [List.mapM_cons, h, bind, Except.bind]

theorem mapM_ok_cons {x : α} {xs : List α} {zs : List β} (h : (x :: xs).mapM f = .ok zs) :
    ∃ y ys, f x = .ok y ∧ xs.mapM f = .ok ys ∧ zs = y :: ys := by
  cases hx : f x with
  | error e => simp [mapM_cons_error hx] at h
  | ok y =>
    rw [mapM_cons_ok hx] at h
    cases hxs : xs.mapM f with
    | error e => simp [hxs, Except.map] at h
    | ok ys => exact ⟨y, ys, rfl, rfl, by simpa [hxs, Except.map] using h.symm⟩

/-- Every answer answers a question of the list. -/
theorem mem_of_mapM {xs : List α} {ys : List β} {y : β} (h : xs.mapM f = .ok ys) (hy : y ∈ ys) :
    ∃ x ∈ xs, f x = .ok y := by
  induction xs generalizing ys with
  | nil =>
    obtain rfl : [] = ys := by simpa [pure, Except.pure] using h
    simp at hy
  | cons x xs ih =>
    obtain ⟨z, zs, hx, hxs, rfl⟩ := mapM_ok_cons h
    rcases List.mem_cons.mp hy with rfl | hy
    · exact ⟨x, List.mem_cons_self .., hx⟩
    · obtain ⟨x', hmem, hx'⟩ := ih hxs hy
      exact ⟨x', List.mem_cons_of_mem _ hmem, hx'⟩

/-- What can be read off an answer is read off the questions. -/
theorem map_of_mapM {g : β → α} (hg : ∀ {x y}, f x = .ok y → g y = x) {xs : List α}
    {ys : List β} (h : xs.mapM f = .ok ys) : ys.map g = xs := by
  induction xs generalizing ys with
  | nil =>
    obtain rfl : [] = ys := by simpa [pure, Except.pure] using h
    rfl
  | cons x xs ih =>
    obtain ⟨y, ys, hx, hxs, rfl⟩ := mapM_ok_cons h
    rw [List.map_cons, hg hx, ih hxs]

/-- Questions that are left out take their answers with them. -/
theorem mapM_filter {p : α → Bool} {q : β → Bool} (hpq : ∀ {x y}, f x = .ok y → q y = p x)
    {xs : List α} {ys : List β} (h : xs.mapM f = .ok ys) :
    (xs.filter p).mapM f = .ok (ys.filter q) := by
  induction xs generalizing ys with
  | nil =>
    obtain rfl : [] = ys := by simpa [pure, Except.pure] using h
    rfl
  | cons x xs ih =>
    obtain ⟨y, ys, hx, hxs, rfl⟩ := mapM_ok_cons h
    cases hp : p x with
    | false => rw [List.filter_cons_of_neg (by simp [hp]),
        List.filter_cons_of_neg (by simp [hpq hx, hp]), ih hxs]
    | true =>
      rw [List.filter_cons_of_pos hp, List.filter_cons_of_pos ((hpq hx).trans hp),
        mapM_cons_ok hx, ih hxs]
      rfl

/-- A question of the list is the one that fails. -/
theorem mem_of_mapM_error {xs : List α} {e : ε} (h : xs.mapM f = .error e) :
    ∃ x ∈ xs, f x = .error e := by
  induction xs with
  | nil => simp [pure, Except.pure] at h
  | cons x xs ih =>
    cases hx : f x with
    | error e' =>
      obtain rfl := Except.error.inj ((mapM_cons_error hx).symm.trans h)
      exact ⟨x, List.mem_cons_self .., hx⟩
    | ok y =>
      rw [mapM_cons_ok hx] at h
      cases hxs : xs.mapM f with
      | ok ys => simp [hxs, Except.map] at h
      | error e' =>
        obtain rfl : e' = e := by simpa [hxs, Except.map] using h
        obtain ⟨x', hmem, hx'⟩ := ih hxs
        exact ⟨x', List.mem_cons_of_mem _ hmem, hx'⟩

/-- There is a list of answers when every question has an answer. -/
theorem exists_mapM_ok_iff {xs : List α} :
    (∃ ys, xs.mapM f = .ok ys) ↔ ∀ x ∈ xs, ∃ y, f x = .ok y := by
  induction xs with
  | nil => simp [pure, Except.pure]
  | cons x xs ih =>
    cases hx : f x with
    | error e => simp [mapM_cons_error hx, hx]
    | ok y =>
      rw [mapM_cons_ok hx, List.forall_mem_cons, ← ih]
      cases xs.mapM f <;> simp [Except.map, hx]

end KarelBuild
