import KarelBuild.Proofs.Include

/-!
# Reading names one by one

A scanner holds the text that it has not read, and the names of that text are those still to come
(`yields_includes`): a call for the next name takes the first of them, however many lines without a
name it has to pass (`next?_includes`). So a scanner agrees with reading the whole source at once
wherever it is stopped (`take_agrees`).
-/

namespace KarelBuild.Scanner

open Text

/-! ## Calls -/

/-- One call for the next name. If there is none, everything has been read. -/
def call (s : Scanner) : Option Text × Scanner :=
  match s.next? with
  | some (name, s') => (some name, s')
  | none => (none, ⟨[]⟩)

/-- What each of `n` calls gives, and the scanner after them. -/
def calls : Nat → Scanner → List (Option Text) × Scanner
  | 0, s => ([], s)
  | n + 1, s => (s.call.1 :: (calls n s.call.2).1, (calls n s.call.2).2)

/-- One by one the scanner gives these names, and then there is none. -/
inductive Yields : Scanner → List Text → Prop
  | none {s : Scanner} : s.next? = Option.none → Yields s []
  | name {s s' : Scanner} {name : Text} {names : List Text} : s.next? = some (name, s') →
      Yields s' names → Yields s (name :: names)

theorem Yields.unique {s : Scanner} {names names' : List Text} (h : s.Yields names)
    (h' : s.Yields names') : names = names' := by
  induction h generalizing names' with
  | none hnext =>
    cases h' with
    | none => rfl
    | name hnext' => simp [hnext] at hnext'
  | name hnext _ ih =>
    cases h' with
    | none hnext' => simp [hnext] at hnext'
    | name hnext' hrest =>
      obtain ⟨rfl, rfl⟩ := Prod.mk.inj (Option.some.inj (hnext.symm.trans hnext'))
      rw [ih hrest]

/-! ## The names that are still to come -/

/-- The next name is the first that the unread text includes, and the text behind its line includes
the others. -/
theorem next?_includes (s : Scanner) :
    match s.next? with
    | none => includes s.unread = []
    | some (name, s') =>
      includes s.unread = name :: includes s'.unread ∧ s'.unread.length < s.unread.length := by
  -- Along the lines that are passed without a name.
  fun_induction next? s with
  | case1 s hline => simp [includes, lines_eq_nextLine? s.unread, hline]
  | case2 s line rest hline hshort name hname =>
    refine ⟨?_, hshort⟩
    rw [includes, lines_eq_nextLine? s.unread]
    simp [hline, hname, includes]
  | case3 s line rest hline hshort hname ih =>
    have hpassed : includes s.unread = includes rest := by
      rw [includes, lines_eq_nextLine? s.unread]
      simp [hline, hname, includes]
    revert ih
    rcases next? ⟨rest⟩ with _ | ⟨name, s'⟩
    · exact fun ih => hpassed.trans ih
    · exact fun ih => ⟨hpassed.trans ih.1, ih.2.trans hshort⟩

theorem next?_eq_none {s : Scanner} (h : s.next? = none) : includes s.unread = [] := by
  simpa [h] using s.next?_includes

theorem next?_eq_some {s s' : Scanner} {name : Text} (h : s.next? = some (name, s')) :
    includes s.unread = name :: includes s'.unread ∧ s'.unread.length < s.unread.length := by
  simpa [h] using s.next?_includes

/-- **What is still to come** are the names of the unread text. -/
theorem yields_includes (s : Scanner) : s.Yields (includes s.unread) := by
  induction hn : s.unread.length using Nat.strongRecOn generalizing s with
  | _ n ih =>
    cases h : s.next? with
    | none =>
      rw [next?_eq_none h]
      exact .none h
    | some found =>
      obtain ⟨name, s'⟩ := found
      obtain ⟨hnames, hshort⟩ := next?_eq_some h
      rw [hnames]
      exact .name h (ih _ (hn ▸ hshort) s' rfl)

/-- No text includes more names than it has characters. -/
theorem Yields.length_le {s : Scanner} {names : List Text} (h : s.Yields names) :
    names.length ≤ s.unread.length := by
  induction h with
  | none => exact Nat.zero_le _
  | name hnext _ ih => exact Nat.lt_of_le_of_lt ih (next?_eq_some hnext).2

theorem next?_nil : next? ⟨[]⟩ = none := by
  simp [next?, nextLine?]

theorem yields_nil : Yields ⟨[]⟩ [] := .none next?_nil

theorem take_nil (n : Nat) : take ⟨[]⟩ n = ([], ⟨[]⟩) := by
  cases n with
  | zero => rfl
  | succ n => rw [take, next?_nil]

/-! ## Taking some of them -/

section

variable {s : Scanner} {names : List Text} (h : s.Yields names) (n : Nat)

include h

/-- A scanner from which some names were taken yields the others. -/
theorem Yields.take : (s.take n).1 = names.take n ∧ (s.take n).2.Yields (names.drop n) := by
  induction n generalizing s names with
  | zero => exact ⟨by simp [Scanner.take], by simpa [Scanner.take] using h⟩
  | succ n ih =>
    cases h with
    | none hnext =>
      simp only [Scanner.take, hnext, List.take_nil, List.drop_nil, true_and]
      exact yields_nil
    | name hnext hrest =>
      obtain ⟨hfirst, hothers⟩ := ih hrest
      simp only [Scanner.take, hnext, hfirst, List.take_succ_cons, List.drop_succ_cons, true_and]
      exact hothers

theorem Yields.rest : s.rest = names := by
  rw [Scanner.rest, (h.take s.unread.length).1, List.take_of_length_le h.length_le]

/-- Calls give the names in their order, and nothing once there are no more. -/
theorem Yields.calls : (s.calls n).1 = (List.range n).map (names[·]?) ∧
    (s.calls n).2 = (s.take n).2 := by
  induction n generalizing s names with
  | zero => exact ⟨rfl, rfl⟩
  | succ n ih =>
    rw [List.range_succ_eq_map, List.map_cons, List.map_map]
    cases h with
    | none hnext =>
      have hcall : s.call = (Option.none, ⟨[]⟩) := by simp [call, hnext]
      obtain ⟨hcalls, hafter⟩ := ih yields_nil
      rw [take_nil] at hafter
      simp [Scanner.calls, Scanner.take, hcall, hnext, hcalls, hafter, Function.comp_def]
    | @name _ s' name names hnext hrest =>
      have hcall : s.call = (some name, s') := by simp [call, hnext]
      obtain ⟨hcalls, hafter⟩ := ih hrest
      simp [Scanner.calls, Scanner.take, hcall, hnext, hcalls, hafter, Function.comp_def]

end

/-! ## Agreement -/

/-- A scanner that was stopped after a number of names agrees with the whole source. -/
structure Agrees (source : Text) (n : Nat) (taken : List Text × Scanner) : Prop where
  whole : taken.1 ++ taken.2.rest = includes source
  rest : taken.2.Yields taken.2.rest
  early : taken.1.length < n → (includes source).length < n
  called : ((ofSource source).calls n).1 = (List.range n).map ((includes source)[·]?) ∧
    ((ofSource source).calls n).2 = taken.2
  clone : ∀ m, (taken.2.take m).1 ++ (taken.2.take m).2.rest = taken.2.rest
  again : (ofSource source).rest = includes source
  exhausted : taken.2.next? = none → ∀ m, (taken.2.calls m).1 = List.replicate m none

/-- **Reading name by name agrees with reading at once.** Wherever a scanner is stopped, the names
taken from it and those that it still yields are the names of the source, and it only stops early if
there are fewer. From that point on a clone yields the same however far the scanner has gone on, a
scanner that has no more names never has one again, and a new one yields them all. -/
theorem take_agrees (source : Text) (n : Nat) :
    Agrees source n ((ofSource source).take n) := by
  have hall : (ofSource source).Yields (includes source) := yields_includes _
  obtain ⟨hfirst, hothers⟩ := hall.take n
  have hrest := hothers.rest
  constructor
  case whole => rw [hfirst, hrest, List.take_append_drop]
  case rest => rwa [hrest]
  case early =>
    intro hearly
    rw [hfirst, List.length_take] at hearly
    omega
  case called => exact hall.calls n
  case clone =>
    intro m
    obtain ⟨htaken, hleft⟩ := hothers.take m
    rw [htaken, hleft.rest, List.take_append_drop, hrest]
  case again => exact hall.rest
  case exhausted =>
    intro hnone m
    have hnil : (includes source).drop n = [] := hothers.unique (.none hnone)
    rw [hnil] at hothers
    rw [(hothers.calls m).1]
    simp [List.map_const']

end KarelBuild.Scanner
