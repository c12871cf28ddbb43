import KarelBuild.FileTree.Lookup
import KarelBuild.Proofs.FileTree
import KarelBuild.Proofs.Path
import Mathlib.Data.List.Induction

/-!
# Where names lead

`Leads` describes a lookup that succeeds, one constructor for each thing that a name can do; it is
what `follow` computes (`follow_eq_ok_iff`). What a lookup keeps is proved by induction on it.
-/

namespace KarelBuild

namespace FileTree

/-- A name of an entry, short enough, that may stand before the names in `rest`. -/
structure PlainName (made : Bool) (n : Name) (rest : List Name) : Prop where
  notDot : ¬ (n = [] ∨ n = ['.'])
  notUp : n ≠ ['.', '.']
  notMade : ¬ (made = true ∧ rest = [[]])
  size : ¬ maxNameSize < Utf8.size n

/-- From a directory, names lead to a place with at most `links` links on the way. -/
inductive Leads (t : FileTree) (made : Bool) : (links : Nat) → Place → List Name → Place → Prop
  | done {links here} : Leads t made links here [] here
  | stay {links here n rest p} : t.entry? here = some .dir → n = [] ∨ n = ['.'] →
      Leads t made links here rest p → Leads t made links here (n :: rest) p
  | up {links here rest p} : t.entry? here = some .dir →
      Leads t made links here.dropLast rest p → Leads t made links here (['.', '.'] :: rest) p
  | link {links here n rest target p} : t.entry? here = some .dir → PlainName made n rest →
      t.entry? (here ++ [n]) = some (.link target) →
      Leads t made links (if Path.isAbsolute target then [] else here)
        (Path.steps target ++ rest) p →
      Leads t made (links + 1) here (n :: rest) p
  | enter {links here n rest e p} : t.entry? here = some .dir → PlainName made n rest →
      t.entry? (here ++ [n]) = some e → e.isLink = false →
      Leads t made links (here ++ [n]) rest p → Leads t made links here (n :: rest) p
  | missing {links here n} : t.entry? here = some .dir → PlainName made n [] →
      t.entry? (here ++ [n]) = none → Leads t made links here [n] (here ++ [n])

variable {t t' : FileTree} {made : Bool}

/-- What is done at a link when so many may still be followed. -/
def onLink (t : FileTree) (made : Bool) : Nat → Place → List Name → Except OsError Place
  | 0 => fun _ _ => .error .tooManyLinks
  | links + 1 => t.follow made links

theorem follow_eq (links : Nat) :
    t.follow made links = t.followNames made (t.onLink made links) := by
  cases links <;> rfl

theorem follow_stay {links : Nat} {here : Place} {n : Name} {rest : List Name}
    (hdir : t.entry? here = some .dir) (hn : n = [] ∨ n = ['.']) :
    t.follow made links here (n :: rest) = t.follow made links here rest := by
  simp only [follow_eq, followNames, hdir, hn, ↓reduceIte]

theorem follow_up {links : Nat} {here : Place} {rest : List Name}
    (hdir : t.entry? here = some .dir) :
    t.follow made links here (['.', '.'] :: rest) = t.follow made links here.dropLast rest := by
  simp [follow_eq, followNames, hdir]

section

variable {links : Nat} {here : Place} {n : Name} {rest : List Name}
  (hdir : t.entry? here = some .dir) (hn : PlainName made n rest)

include hdir hn

theorem follow_link {target : Path} (he : t.entry? (here ++ [n]) = some (.link target)) :
    t.follow made links here (n :: rest) =
      t.onLink made links (if Path.isAbsolute target then [] else here)
        (Path.steps target ++ rest) := by
  simp only [follow_eq, followNames, hdir, hn.notDot, hn.notUp, hn.notMade, hn.size, he,
    ↓reduceIte]

theorem follow_enter {e : Entry} (he : t.entry? (here ++ [n]) = some e) (hl : e.isLink = false) :
    t.follow made links here (n :: rest) = t.follow made links (here ++ [n]) rest := by
  simp only [follow_eq]
  rw [followNames]
  cases e with
  | link target => simp [Entry.isLink] at hl
  | _ => simp only [hdir, hn.notDot, hn.notUp, hn.notMade, hn.size, he, ↓reduceIte]

theorem follow_missing (he : t.entry? (here ++ [n]) = none) :
    t.follow made links here (n :: rest) =
      if rest = [] then .ok (here ++ [n]) else .error .noEntry := by
  simp only [follow_eq, followNames, hdir, hn.notDot, hn.notUp, hn.notMade, hn.size, he,
    ↓reduceIte]

end

/-- A lookup that gets past its first name is in a directory, and does one of three things. -/
theorem follow_cons_ok {links : Nat} {here p : Place} {n : Name} {rest : List Name}
    (h : t.follow made links here (n :: rest) = .ok p) :
    t.entry? here = some .dir ∧
      ((n = [] ∨ n = ['.']) ∨ n = ['.', '.'] ∨ PlainName made n rest) := by
  rw [follow_eq, followNames] at h
  split at h
  next hdir =>
    refine ⟨hdir, ?_⟩
    by_cases hdot : n = [] ∨ n = ['.']
    · exact .inl hdot
    by_cases hup : n = ['.', '.']
    · exact .inr (.inl hup)
    by_cases hmade : made = true ∧ rest = [[]]
    · simp [hdot, hup, hmade] at h
    by_cases hsize : maxNameSize < Utf8.size n
    · simp [hdot, hup, hmade, hsize] at h
    exact .inr (.inr ⟨hdot, hup, hmade, hsize⟩)
  next => simp at h
  next => simp at h

/-- The names up to the next link, from which the lookup goes on with one link less. -/
theorem leads_of_onLink {links : Nat} {here p : Place} {names : List Name}
    (hlink : ∀ {here names}, t.onLink made links here names = .ok p →
      ∃ k, links = k + 1 ∧ Leads t made k here names p)
    (h : t.follow made links here names = .ok p) : Leads t made links here names p := by
  induction names generalizing here with
  | nil =>
    obtain rfl : here = p := by simpa [follow_eq, followNames] using h
    exact .done
  | cons n rest ih =>
    obtain ⟨hdir, hdot | rfl | hn⟩ := follow_cons_ok h
    · rw [follow_stay hdir hdot] at h
      exact .stay hdir hdot (ih h)
    · rw [follow_up hdir] at h
      exact .up hdir (ih h)
    · cases he : t.entry? (here ++ [n]) with
      | none =>
        rw [follow_missing hdir hn he] at h
        split at h
        next hrest =>
          subst hrest
          obtain rfl := Except.ok.inj h
          exact .missing hdir hn he
        next => simp at h
      | some e =>
        cases hl : e.isLink with
        | false =>
          rw [follow_enter hdir hn he hl] at h
          exact .enter hdir hn he hl (ih h)
        | true =>
          obtain ⟨target, rfl⟩ : ∃ target, e = .link target := by
            cases e <;> simp_all [Entry.isLink]
          rw [follow_link hdir hn he] at h
          obtain ⟨k, rfl, hk⟩ := hlink h
          exact .link hdir hn he hk

theorem Leads.follow {links : Nat} {here p : Place} {names : List Name}
    (h : Leads t made links here names p) : t.follow made links here names = .ok p := by
  induction h with
  | done => simp [follow_eq, followNames]
  | stay hdir hn _ ih => rw [follow_stay hdir hn, ih]
  | up hdir _ ih => rw [follow_up hdir, ih]
  | link hdir hn he _ ih => rw [follow_link hdir hn he]; exact ih
  | enter hdir hn he hl _ ih => rw [follow_enter hdir hn he hl, ih]
  | missing hdir hn he => rw [follow_missing hdir hn he, if_pos rfl]

theorem leads_of_follow {links : Nat} {here p : Place} {names : List Name}
    (h : t.follow made links here names = .ok p) : Leads t made links here names p := by
  induction links generalizing here names with
  | zero => exact leads_of_onLink (by simp [onLink]) h
  | succ links ih => exact leads_of_onLink (fun h => ⟨links, rfl, ih h⟩) h

theorem follow_eq_ok_iff {links : Nat} {here p : Place} {names : List Name} :
    t.follow made links here names = .ok p ↔ Leads t made links here names p :=
  ⟨leads_of_follow, Leads.follow⟩

/-! ## Lookups in a changed tree -/

theorem PlainName.weaken {n : Name} {rest : List Name} (h : PlainName made n rest) :
    PlainName false n rest := { h with notMade := by simp }

/-- Two trees that differ at most in one place, where both have leaves only and the second has
one. -/
structure Written (place : Place) (t t' : FileTree) : Prop where
  same : ∀ {q}, q ≠ place → t'.entry? q = t.entry? q
  before : ∀ {e}, t.entry? place = some e → e.IsLeaf
  after : ∃ e, t'.entry? place = some e ∧ e.IsLeaf

namespace Written

variable {place q : Place} (hw : Written place t t')

include hw

theorem dir (h : t.entry? q = some .dir) : t'.entry? q = some .dir := by
  by_cases hq : q = place
  · subst hq
    simpa [Entry.isDir] using (hw.before h).1
  · rw [hw.same hq, h]

theorem link {target : Path} (h : t.entry? q = some (.link target)) :
    t'.entry? q = some (.link target) := by
  by_cases hq : q = place
  · subst hq
    simpa [Entry.isLink] using (hw.before h).2
  · rw [hw.same hq, h]

theorem notLink {e : Entry} (h : t.entry? q = some e) (hl : e.isLink = false) :
    ∃ e', t'.entry? q = some e' ∧ e'.isLink = false := by
  by_cases hq : q = place
  · subst hq
    obtain ⟨e', he', hleaf⟩ := hw.after
    exact ⟨e', he', hleaf.2⟩
  · exact ⟨e, by rw [hw.same hq, h], hl⟩

end Written

/-- Names that lead to a place still lead there when something was written to it. -/
theorem Leads.written {place here : Place} {links : Nat} {names : List Name}
    (h : Leads t made links here names place) (hw : Written place t t') :
    Leads t' false links here names place := by
  induction h with
  | done => exact .done
  | stay hdir hn _ ih => exact .stay (hw.dir hdir) hn (ih hw)
  | up hdir _ ih => exact .up (hw.dir hdir) (ih hw)
  | link hdir hn he _ ih => exact .link (hw.dir hdir) hn.weaken (hw.link he) (ih hw)
  | enter hdir hn he hl _ ih =>
    obtain ⟨e', he', hl'⟩ := hw.notLink he hl
    exact .enter (hw.dir hdir) hn.weaken he' hl' (ih hw)
  | missing hdir hn he =>
    obtain ⟨e', he', hleaf⟩ := hw.after
    exact .enter (hw.dir hdir) hn.weaken he' hleaf.2 .done

theorem followFrom_written {place : Place} {w : WorkDir} {names : List Name}
    (hw : Written place t t') (h : t.followFrom made w names = .ok place) :
    t'.followFrom false w names = .ok place := by
  unfold followFrom at h ⊢
  split at h
  next => exact ((leads_of_follow h).written hw).follow
  next => simp at h

/-! ## Lookups that end in a directory -/

/-- Names are only followed from directories. -/
theorem Leads.done_or_dir {links : Nat} {here p : Place} {names : List Name}
    (h : Leads t made links here names p) : here = p ∨ t.entry? here = some .dir := by
  cases h with
  | done => exact .inl rfl
  | stay hdir | up hdir | link hdir | enter hdir | missing hdir => exact .inr hdir

/-- Names that lead to a directory still do so in a tree that keeps all directories and links. -/
theorem Leads.kept {links : Nat} {here p : Place} {names : List Name}
    (h : Leads t made links here names p) (hp : t.entry? p = some .dir)
    (hkeep : ∀ {q e}, t.entry? q = some e → ¬ e.IsLeaf → t'.entry? q = some e) :
    Leads t' made links here names p := by
  have dir {q : Place} (hq : t.entry? q = some .dir) : t'.entry? q = some .dir :=
    hkeep hq (by simp [Entry.IsLeaf, Entry.isDir])
  induction h with
  | done => exact .done
  | stay hdir hn _ ih => exact .stay (dir hdir) hn (ih hp)
  | up hdir _ ih => exact .up (dir hdir) (ih hp)
  | link hdir hn he _ ih =>
    exact .link (dir hdir) hn (hkeep he (by simp [Entry.IsLeaf, Entry.isLink])) (ih hp)
  | @enter links here n rest e p hdir hn he hl hrest ih =>
    -- The entry is a directory: either the lookup ends there or it goes on from there.
    have hnext : t.entry? (here ++ [n]) = some .dir := by
      rcases hrest.done_or_dir with rfl | hnext
      · exact hp
      · exact hnext
    exact .enter (dir hdir) hn (dir hnext) rfl (ih hp)
  | missing hdir hn he => simp [he] at hp

/-- After names that lead to a directory come the names that are followed from there. -/
theorem Leads.append {links : Nat} {here mid p : Place} {names names' : List Name}
    (h : Leads t false links here names mid) (hmid : t.entry? mid = some .dir)
    (hrest : ∀ k, Leads t false k mid names' p) : Leads t false links here (names ++ names') p := by
  have plain {n : Name} {rest rest' : List Name} (hn : PlainName false n rest) :
      PlainName false n rest' := { hn with notMade := by simp }
  induction h with
  | done => exact hrest _
  | stay hdir hn _ ih => exact .stay hdir hn (ih hmid hrest)
  | up hdir _ ih => exact .up hdir (ih hmid hrest)
  | link hdir hn he _ ih =>
    rw [List.cons_append]
    refine .link hdir (plain hn) he ?_
    rw [← List.append_assoc]
    exact ih hmid hrest
  | enter hdir hn he hl _ ih => exact .enter hdir (plain hn) he hl (ih hmid hrest)
  | missing hdir hn he => simp [he] at hmid

/-- Before the last names that are followed there is a directory. -/
theorem Leads.split {links : Nat} {here p : Place} {names names' : List Name} (hne : names' ≠ [])
    (h : Leads t false links here (names ++ names') p) :
    ∃ mid k, t.entry? mid = some .dir ∧ Leads t false links here names mid ∧
      Leads t false k mid names' p := by
  have plain {n : Name} {rest rest' : List Name} (hn : PlainName false n rest) :
      PlainName false n rest' := { hn with notMade := by simp }
  generalize hall : names ++ names' = all at h
  induction h generalizing names with
  | done => simp [hne] at hall
  | stay hdir hn hrest ih =>
    rcases List.append_eq_cons_iff.mp hall with ⟨rfl, rfl⟩ | ⟨names, rfl, rfl⟩
    · exact ⟨_, _, hdir, .done, .stay hdir hn hrest⟩
    · obtain ⟨mid, k, hmid, hfirst, hlast⟩ := ih rfl
      exact ⟨mid, k, hmid, .stay hdir hn hfirst, hlast⟩
  | up hdir hrest ih =>
    rcases List.append_eq_cons_iff.mp hall with ⟨rfl, rfl⟩ | ⟨names, rfl, rfl⟩
    · exact ⟨_, _, hdir, .done, .up hdir hrest⟩
    · obtain ⟨mid, k, hmid, hfirst, hlast⟩ := ih rfl
      exact ⟨mid, k, hmid, .up hdir hfirst, hlast⟩
  | link hdir hn he hrest ih =>
    rcases List.append_eq_cons_iff.mp hall with ⟨rfl, rfl⟩ | ⟨names, rfl, rfl⟩
    · exact ⟨_, _, hdir, .done, .link hdir hn he hrest⟩
    · obtain ⟨mid, k, hmid, hfirst, hlast⟩ := ih (List.append_assoc ..)
      exact ⟨mid, k, hmid, .link hdir (plain hn) he hfirst, hlast⟩
  | enter hdir hn he hl hrest ih =>
    rcases List.append_eq_cons_iff.mp hall with ⟨rfl, rfl⟩ | ⟨names, rfl, rfl⟩
    · exact ⟨_, _, hdir, .done, .enter hdir hn he hl hrest⟩
    · obtain ⟨mid, k, hmid, hfirst, hlast⟩ := ih rfl
      exact ⟨mid, k, hmid, .enter hdir (plain hn) he hl hfirst, hlast⟩
  | missing hdir hn he =>
    rcases List.append_eq_cons_iff.mp hall with ⟨rfl, rfl⟩ | ⟨names, rfl, hnil⟩
    · exact ⟨_, 0, hdir, .done, .missing hdir hn he⟩
    · exact absurd (List.append_eq_nil_iff.mp hnil.symm).2 hne

/-! ## Lookups from a working directory -/

/-- A name other than `.` and `..`. -/
structure IsProper (n : Name) : Prop where
  nonempty : n ≠ []
  notDot : n ≠ ['.']
  notUp : n ≠ ['.', '.']

theorem PlainName.proper {made : Bool} {n : Name} {rest : List Name} (h : PlainName made n rest) :
    IsProper n :=
  ⟨fun hn => h.notDot (.inl hn), fun hn => h.notDot (.inr hn), h.notUp⟩

theorem leave_held {w : WorkDir} (hw : w.lost = 0) (names : List Name) :
    w.leave names = (w, names) := by
  cases names <;> simp [WorkDir.leave, hw]

/-- Names behind others are followed out of what is gone if all of those were. -/
theorem leave_append_eq (w : WorkDir) (names more : List Name) :
    w.leave (names ++ more) =
      if (w.leave names).2 = [] then (w.leave names).1.leave more
      else ((w.leave names).1, (w.leave names).2 ++ more) := by
  fun_induction WorkDir.leave w names with
  | case1 w => simp
  | case2 w n names hw => simp [leave_held hw]
  | case3 w n names hw hn ih => simpa [WorkDir.leave, hw, hn] using ih
  | case4 w names hw hn ih => simpa [WorkDir.leave, hw, hn] using ih
  | case5 w n names hw hn hup => simp [WorkDir.leave, hw, hn, hup]

/-- One is not lost any more where names are followed that come later. -/
theorem leave_append {w : WorkDir} {names rest : List Name} {start : Place}
    (h : w.leave names = (⟨start, 0⟩, rest)) (more : List Name) :
    w.leave (names ++ more) = (⟨start, 0⟩, rest ++ more) := by
  rw [leave_append_eq, h]
  split
  next hrest => rw [leave_held rfl, show rest = [] from hrest, List.nil_append]
  next => rfl

/-- Names that do not lead out of what is gone. -/
def StaysLost (names : List Name) : Prop := ∀ w : WorkDir, w.lost ≠ 0 → (w.leave names).1.lost ≠ 0

theorem staysLost_proper {n : Name} (hn : IsProper n) (more : List Name) :
    StaysLost (n :: more) := by
  intro w hw
  simp [WorkDir.leave, hw, hn.nonempty, hn.notDot, hn.notUp]

theorem staysLost_slash : StaysLost [[]] := by
  intro w hw
  simp [WorkDir.leave, hw]

theorem leave_split {w : WorkDir} {names more rest : List Name} {start : Place}
    (hmore : StaysLost more) (h : w.leave (names ++ more) = (⟨start, 0⟩, rest)) :
    ∃ rest', w.leave names = (⟨start, 0⟩, rest') ∧ rest = rest' ++ more := by
  rw [leave_append_eq] at h
  rcases hleave : w.leave names with ⟨w', rest'⟩
  rw [hleave] at h
  dsimp only at h
  split at h
  next hrest =>
    have hheld : w'.lost = 0 := by
      by_contra hlost
      exact hmore w' hlost (by rw [h])
    rw [leave_held hheld] at h
    obtain ⟨rfl, rfl⟩ := Prod.mk.inj h
    exact ⟨[], by rw [hrest], rfl⟩
  next =>
    obtain ⟨rfl, rfl⟩ := Prod.mk.inj h
    exact ⟨rest', rfl, rfl⟩

/-- Names that go through a proper one do not all stay in what is gone. -/
theorem leave_ne_lost {w : WorkDir} {names : List Name} {n : Name} (hn : IsProper n)
    (hmem : n ∈ names) (place : Place) (k : Nat) : w.leave names ≠ (⟨place, k + 1⟩, []) := by
  fun_induction WorkDir.leave w names with
  | case1 w => simp at hmem
  | case2 w m names hw => simp
  | case3 w m names hw hm ih =>
    refine ih ((List.mem_cons.mp hmem).resolve_left ?_)
    rintro rfl
    exact hm.elim hn.nonempty hn.notDot
  | case4 w names hw hm ih => exact ih ((List.mem_cons.mp hmem).resolve_left hn.notUp)
  | case5 w m names hw hm hup => simp

theorem followFrom_eq_ok_iff {w : WorkDir} {names : List Name} {p : Place} :
    t.followFrom made w names = .ok p ↔
      ∃ start rest, w.leave names = (⟨start, 0⟩, rest) ∧ Leads t made maxLinks start rest p := by
  unfold followFrom
  split
  next start rest hleave => simp [hleave, follow_eq_ok_iff]
  next hleave =>
    constructor
    · simp
    · rintro ⟨start, rest, h, -⟩
      exact absurd h (hleave start rest)

/-- Names that lead to a directory still do so in a tree that keeps all directories and links. -/
theorem followFrom_kept {w : WorkDir} {names : List Name} {p : Place}
    (h : t.followFrom false w names = .ok p) (hp : t.entry? p = some .dir)
    (hkeep : ∀ {q e}, t.entry? q = some e → ¬ e.IsLeaf → t'.entry? q = some e) :
    t'.followFrom false w names = .ok p := by
  obtain ⟨start, rest, hleave, hleads⟩ := followFrom_eq_ok_iff.mp h
  exact followFrom_eq_ok_iff.mpr ⟨start, rest, hleave, hleads.kept hp hkeep⟩

theorem followFrom_append {w : WorkDir} {names names' : List Name} {mid p : Place}
    (h : t.followFrom false w names = .ok mid) (hmid : t.entry? mid = some .dir)
    (hrest : ∀ k, Leads t false k mid names' p) :
    t.followFrom false w (names ++ names') = .ok p := by
  obtain ⟨start, rest, hleave, hleads⟩ := followFrom_eq_ok_iff.mp h
  exact followFrom_eq_ok_iff.mpr
    ⟨start, rest ++ names', leave_append hleave names', hleads.append hmid hrest⟩

/-- Before names that do not lead out of what is gone there is a directory, from which they lead
on. -/
theorem followFrom_split {w : WorkDir} {names more : List Name} {p : Place} (hne : more ≠ [])
    (hmore : StaysLost more) (h : t.followFrom false w (names ++ more) = .ok p) :
    ∃ mid k, t.entry? mid = some .dir ∧ t.followFrom false w names = .ok mid ∧
      Leads t false k mid more p := by
  obtain ⟨start, rest, hleave, hleads⟩ := followFrom_eq_ok_iff.mp h
  obtain ⟨rest', hleave', rfl⟩ := leave_split hmore hleave
  obtain ⟨mid, k, hmid, hfirst, hlast⟩ := hleads.split hne
  exact ⟨mid, k, hmid, followFrom_eq_ok_iff.mpr ⟨start, rest', hleave', hfirst⟩, hlast⟩

/-- A path is located at its last name, which has to be a proper one, in the directory that the
other names lead to. -/
theorem locateIn_some_iff {workDir : WorkDir} {p : Path} {dir : Place} {n : Name} :
    t.locateIn workDir p = .ok (dir, some n) ↔
      refusePath p = none ∧ lostDir? workDir p = none ∧
        (∃ init, Path.pieces p = init ++ [n] ∧
          t.followFrom false (startOf workDir p) init = .ok dir) ∧
        t.entry? dir = some .dir ∧ PlainName false n [] := by
  unfold locateIn
  constructor
  · intro h
    split at h
    next => simp at h
    next haccepted =>
      dsimp only at h
      split at h
      next => simp at h
      next hheld =>
        cases hf : t.followFrom false (startOf workDir p) (Path.pieces p).dropLast with
        | error e => simp [hf, Except.bind] at h
        | ok place =>
          simp only [hf, Except.bind] at h
          split at h
          next => simp at h
          next hdir =>
            split at h
            next => simp at h
            next hproper =>
              split at h
              next => simp at h
              next hsize =>
                obtain ⟨rfl, hlast⟩ : place = dir ∧ (Path.pieces p).getLastD ['.'] = n := by
                  simpa using h
                have hdot : n ≠ ['.'] := fun hn => hproper (.inl (hlast.trans hn))
                obtain ⟨init, hinit⟩ : ∃ init, Path.pieces p = init ++ [n] := by
                  cases hp : Path.pieces p using List.reverseRecOn with
                  | nil => simp [hp, hdot.symm] at hlast
                  | append_singleton init m =>
                    obtain rfl : m = n := by simpa [hp] using hlast
                    exact ⟨init, rfl⟩
                have hne : n ≠ [] := Path.ne_nil_of_mem_pieces (p := p) (by simp [hinit])
                refine ⟨haccepted, hheld, ⟨init, hinit, by simpa [hinit] using hf⟩, hdir, ?_⟩
                exact ⟨by simp [hne, hdot], fun hn => hproper (.inr (hlast.trans hn)), by simp,
                  hlast ▸ hsize⟩
          next => simp at h
  · rintro ⟨haccepted, hheld, ⟨init, hinit, hf⟩, hdir, hn⟩
    have hdot : n ≠ ['.'] := fun h => hn.notDot (.inr h)
    simp only [haccepted, hheld, hinit, List.dropLast_concat, List.getLastD_concat, hf, Except.bind,
      hdir, hdot, hn.notUp, hn.size, or_self, ↓reduceIte]

/-! ## The last name of an absolute path -/

/-- An absolute path leads to a directory, and to a name in it that need not be that of an entry. -/
structure Designates (t : FileTree) (p : Path) (dir : Place) (name : Name) : Prop where
  accepted : refusePath p = none
  last : (Path.pieces p).getLastD ['.'] = name
  leads : Leads t false maxLinks [] (Path.pieces p).dropLast dir
  isDir : t.entry? dir = some .dir
  notDot : name ≠ ['.']
  notUp : name ≠ ['.', '.']
  size : ¬ maxNameSize < Utf8.size name

/-- The name that a path designates is its last piece. -/
theorem Designates.pieces_eq {p : Path} {dir : Place} {name : Name}
    (h : t.Designates p dir name) : Path.pieces p = (Path.pieces p).dropLast ++ [name] := by
  have hlast := h.last
  cases hp : Path.pieces p using List.reverseRecOn with
  | nil => simp [hp, h.notDot.symm] at hlast
  | append_singleton init n =>
    obtain rfl : n = name := by simpa [hp] using hlast
    simp

theorem leave_root (names : List Name) : WorkDir.root.leave names = (.root, names) :=
  leave_held rfl names

theorem followFrom_root (names : List Name) :
    t.followFrom made .root names = t.follow made maxLinks [] names := by
  rw [followFrom, leave_root]
  rfl

theorem lostDir?_absolute {workDir : WorkDir} {p : Path} (hp : Path.isAbsolute p = true) :
    lostDir? workDir p = none := by
  rw [lostDir?, startOf, if_pos hp, leave_root]
  rfl

theorem locateIn_eq_ok_iff (workDir : WorkDir) {p : Path} (hp : Path.isAbsolute p = true)
    {dir : Place} {name : Name} :
    t.locateIn workDir p = .ok (dir, some name) ↔ t.Designates p dir name := by
  rw [locateIn_some_iff]
  simp only [lostDir?_absolute hp, startOf, hp, ↓reduceIte, followFrom_root, follow_eq_ok_iff,
    true_and]
  constructor
  · rintro ⟨haccepted, ⟨init, hinit, hleads⟩, hdir, hn⟩
    exact ⟨haccepted, by simp [hinit], by simpa [hinit] using hleads, hdir,
      fun h => hn.notDot (.inr h), hn.notUp, hn.size⟩
  · intro h
    have hpieces := h.pieces_eq
    have hne : name ≠ [] := Path.ne_nil_of_mem_pieces (p := p) (by rw [hpieces]; simp)
    exact ⟨h.accepted, ⟨_, hpieces, h.leads⟩, h.isDir, by simp [hne, h.notDot], h.notUp, by simp,
      h.size⟩

/-- A path designates the same as long as all directories and links are kept. -/
theorem Designates.kept {p : Path} {dir : Place} {name : Name} (h : t.Designates p dir name)
    (hkeep : ∀ {q e}, t.entry? q = some e → ¬ e.IsLeaf → t'.entry? q = some e) :
    t'.Designates p dir name :=
  { h with
    leads := h.leads.kept h.isDir hkeep
    isDir := hkeep h.isDir (by simp [Entry.IsLeaf, Entry.isDir]) }

end FileTree

end KarelBuild
