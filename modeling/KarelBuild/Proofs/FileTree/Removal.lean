import KarelBuild.FileTree.Removal
import KarelBuild.Proofs.FileTree.Lookup
import KarelBuild.Proofs.FileTree.WellFormed
import KarelBuild.Proofs.Path
import Mathlib.Data.List.Forall2

/-!
# What a removal pass leaves

A pass goes over the entries below a directory in the opposite order to that in which they were
added. So it comes to each entry when everything below that has been tried and nothing above it has
been, and only what is refused can keep an entry (`Stuck`). `Tried` is what each attempt preserves,
and `Attempted` is what each attempt tells; `removeDirTree_spec` is for the whole pass.
-/

namespace KarelBuild

/-- A remover that leaves what it refuses. -/
def Remover.Firm (r : Remover) : Prop := ∀ kind p reason, r kind p ≠ .refuseAfter reason

theorem Remover.system_firm : Remover.system.Firm := fun _ _ _ => by simp [Remover.system]

namespace FileTree

/-! ## Places below a place -/

/-- A place strictly below another one. -/
def Below (p q : Place) : Prop := ∃ names, names ≠ [] ∧ q = p ++ names

/-- The path of a place at or below the place of a root. -/
def pathBelow (root : Path) (place q : Place) : Path :=
  (q.drop place.length).foldl Path.join root

theorem pathBelow_append (root : Path) (place : Place) (names : List Name) :
    pathBelow root place (place ++ names) = names.foldl Path.join root := by
  simp [pathBelow]

theorem pathBelow_self (root : Path) (place : Place) : pathBelow root place place = root := by
  simp [pathBelow]

theorem below_iff {p q : Place} : Below p q ↔ p <+: q ∧ q ≠ p := by
  constructor
  · rintro ⟨names, hne, rfl⟩
    exact ⟨List.prefix_append .., by simpa using hne⟩
  · rintro ⟨⟨names, rfl⟩, hne⟩
    exact ⟨names, by simpa using hne, rfl⟩

instance (p q : Place) : Decidable (Below p q) := decidable_of_iff _ below_iff.symm

theorem not_below_self (p : Place) : ¬ Below p p := fun h => (below_iff.mp h).2 rfl

theorem below_append {p : Place} {names : List Name} (hne : names ≠ []) : Below p (p ++ names) :=
  ⟨names, hne, rfl⟩

/-- The tree with nothing below a place. -/
def bare (t : FileTree) (place : Place) : FileTree :=
  ⟨t.entries.filter fun a => ¬ Below place a.1⟩

/-- The trees differ below a place only. -/
def SameBut (place : Place) (t t' : FileTree) : Prop :=
  ∀ {q}, ¬ Below place q → t'.entry? q = t.entry? q

theorem bare_entry {t : FileTree} {place q : Place} {e : Entry}
    (h : entry? (t.bare place) q = some e) : ¬ Below place q ∧ t.entry? q = some e := by
  by_cases hq : q = []
  · subst hq
    refine ⟨?_, by simpa using h⟩
    rintro ⟨names, hne, heq⟩
    exact hne (List.append_eq_nil_iff.mp heq.symm).2
  · rw [bare, filter_entry t (fun q => ¬ Below place q) hq] at h
    by_cases hbelow : Below place q
    · simp [hbelow] at h
    · exact ⟨hbelow, by simpa [hbelow] using h⟩

theorem SameBut.bare_kept {place q : Place} {t t' : FileTree} {e : Entry} (h : SameBut place t t')
    (he : entry? (t.bare place) q = some e) : t'.entry? q = some e := by
  obtain ⟨hbelow, he⟩ := bare_entry he
  rw [h hbelow, he]

theorem sameBut_bare {place : Place} (t : FileTree) : SameBut place t (t.bare place) := by
  intro q hbelow
  by_cases hq : q = []
  · simp [hq]
  · rw [bare, filter_entry t (fun q => ¬ Below place q) hq]
    simp [hbelow]

/-! ## Paths of entries -/

theorem IsName.plain {n : Name} (h : IsName n) : PlainName false n [] where
  notDot := by simp [h.nonempty, h.notDot]
  notUp := h.notUp
  notMade := by simp
  size := Nat.not_lt.mpr h.size

/-- Names lead through the directories that they name. -/
theorem leads_through {t : FileTree} {here : Place} {names : List Name}
    (hnames : ∀ n ∈ names, PlainName false n [])
    (hdirs : ∀ above, above <+: names → t.entry? (here ++ above) = some .dir) (k : Nat) :
    Leads t false k here names (here ++ names) := by
  induction names generalizing here with
  | nil => simpa using Leads.done
  | cons n names ih =>
    have hn := hnames n (List.mem_cons_self ..)
    have hdir : t.entry? here = some .dir := by simpa using hdirs [] (List.nil_prefix ..)
    have hnext : t.entry? (here ++ [n]) = some .dir := hdirs [n] (by simp)
    have hrest : Leads t false k (here ++ [n]) names (here ++ [n] ++ names) :=
      ih (fun m hm => hnames m (List.mem_cons_of_mem _ hm))
        fun above habove => by simpa using hdirs (n :: above) (by simpa using habove)
    rw [List.append_assoc, List.singleton_append] at hrest
    exact .enter hdir { hn with notMade := by simp } hnext rfl hrest

/-- The path names a place in the directory that the place is in. -/
def Names (t : FileTree) (workDir : WorkDir) (p : Path) (q : Place) : Prop :=
  ∃ dir name, q = dir ++ [name] ∧ t.locateIn workDir p = .ok (dir, some name)

theorem Names.ne_nil {t : FileTree} {workDir : WorkDir} {p : Path} {q : Place}
    (h : t.Names workDir p q) : q ≠ [] := by
  obtain ⟨dir, name, rfl, -⟩ := h
  simp

/-- A path leads to the entry that it names unless that is a link. -/
theorem Names.follow {t : FileTree} {workDir : WorkDir} {p : Path} {q : Place} {e : Entry}
    (h : t.Names workDir p q) (he : t.entry? q = some e) (hl : e.isLink = false) :
    t.followFrom false (startOf workDir p) (Path.pieces p) = .ok q := by
  obtain ⟨dir, name, rfl, hlocate⟩ := h
  obtain ⟨-, -, ⟨init, hpieces, hinit⟩, hdir, hname⟩ := locateIn_some_iff.mp hlocate
  rw [hpieces]
  exact followFrom_append hinit hdir fun k => .enter hdir hname he hl .done

/-- What stands at a place is found under a path that names it and has no slash at its end. -/
theorem Names.statLink {t : FileTree} {workDir : WorkDir} {p : Path} {q : Place}
    (h : t.Names workDir p q) (hend : Path.endsInSlash p = false) :
    t.statLink workDir p = match t.entry? q with
      | some e => .ok (q, e)
      | none => .error .noEntry := by
  obtain ⟨dir, name, rfl, hlocate⟩ := h
  unfold FileTree.statLink
  rw [if_neg (by simp [hend]), hlocate]
  rfl

/-- A file is removed at the place that its path names. -/
theorem removeFile_ok {t t' : FileTree} {workDir : WorkDir} {p : Path}
    (h : t.removeFile workDir p = .ok t') : ∃ q e, t.Names workDir p q ∧ t.entry? q = some e ∧
      e ≠ .dir ∧ Path.endsInSlash p = false ∧ t' = t.erase q := by
  unfold removeFile at h
  cases hlocate : t.locateIn workDir p with
  | error err => simp [hlocate, Except.bind] at h
  | ok found =>
    obtain ⟨dir, _ | name⟩ := found
    · simp [hlocate, Except.bind] at h
    · simp only [hlocate, Except.bind] at h
      split at h
      next => simp at h
      next => simp at h
      next e hne he =>
        split at h
        next => simp at h
        next hend =>
          refine ⟨_, e, ⟨dir, name, rfl, hlocate⟩, he, ?_, by simpa using hend,
            (Except.ok.inj h).symm⟩
          rintro rfl
          exact hne rfl

theorem removeDir_ok {t t' : FileTree} {workDir : WorkDir} {p : Path}
    (h : t.removeDir workDir p = .ok t') :
    ∃ q, t.Names workDir p q ∧ t.entry? q = some .dir ∧ t' = t.erase q := by
  unfold removeDir at h
  cases hlocate : t.locateIn workDir p with
  | error err => simp [hlocate, Except.bind] at h
  | ok found =>
    obtain ⟨dir, _ | name⟩ := found
    · simp only [hlocate, Except.bind] at h
      split at h <;> simp at h
    · simp only [hlocate, Except.bind] at h
      split at h
      next => simp at h
      next he =>
        split at h
        next => exact ⟨_, ⟨dir, name, rfl, hlocate⟩, he, (Except.ok.inj h).symm⟩
        next => simp at h
      next => simp at h

/-! ## Names behind a path -/

section Behind

variable {root : Path} {names : List Name} (hroot : root ≠ []) (hnames : ∀ m ∈ names, IsName m)

include hroot hnames

theorem pieces_behind : Path.pieces (names.foldl Path.join root) = Path.pieces root ++ names :=
  Path.foldl_join hroot fun m hm => ⟨(hnames m hm).nonempty, (hnames m hm).noSlash⟩

theorem startOf_behind (workDir : WorkDir) :
    startOf workDir (names.foldl Path.join root) = startOf workDir root := by
  unfold startOf
  rw [Path.isAbsolute_foldl_join hroot fun m hm => ⟨(hnames m hm).nonempty, (hnames m hm).noSlash⟩]

end Behind

/-! ## Directories that are reached -/

/-- A path that leads to a directory, and does so without what is below. -/
structure Reaches (t : FileTree) (workDir : WorkDir) (root : Path) (place : Place) : Prop where
  nonempty : root ≠ []
  isDir : t.entry? place = some .dir
  leads : (t.bare place).followFrom false (startOf workDir root) (Path.pieces root) = .ok place

section Reaches

variable {full t t' : FileTree} {workDir : WorkDir} {root : Path} {place : Place}
  (hreach : full.Reaches workDir root place)

include hreach

theorem Reaches.bare_isDir : entry? (full.bare place) place = some .dir :=
  (sameBut_bare full (not_below_self place)).trans hreach.isDir

theorem Reaches.follow (ht : SameBut place full t) :
    t.followFrom false (startOf workDir root) (Path.pieces root) = .ok place :=
  followFrom_kept hreach.leads hreach.bare_isDir fun he _ => ht.bare_kept he

/-- What is below does not matter to whether the path of the directory names it. -/
theorem Reaches.names (ht : SameBut place full t) (ht' : SameBut place full t')
    (hnames : t.Names workDir root place) : t'.Names workDir root place := by
  obtain ⟨dir, name, hplace, hlocate⟩ := hnames
  obtain ⟨haccepted, hheld, ⟨init, hpieces, hinit⟩, hdir, hname⟩ := locateIn_some_iff.mp hlocate
  have hleads := hreach.leads
  rw [hpieces] at hleads
  obtain ⟨mid, -, hmid, hfirst, -⟩ := followFrom_split (by simp)
    (staysLost_proper hname.proper []) hleads
  -- The directory of the last name is one that stays without what is below.
  obtain rfl : mid = dir := Except.ok.inj
    ((followFrom_kept hfirst hmid fun he _ => ht.bare_kept he).symm.trans hinit)
  refine ⟨mid, name, hplace, locateIn_some_iff.mpr ⟨haccepted, hheld, ⟨init, hpieces, ?_⟩,
    ht'.bare_kept hmid, hname⟩⟩
  exact followFrom_kept hfirst hmid fun he _ => ht'.bare_kept he

/-- A directory that its path does not name is never removed under that path. -/
theorem Reaches.removeDir_error (ht : SameBut place full t)
    (hnames : ¬ full.Names workDir root place) : ∃ e, t.removeDir workDir root = .error e := by
  cases hremoved : t.removeDir workDir root with
  | error e => exact ⟨e, rfl⟩
  | ok t' =>
    refine absurd ?_ hnames
    obtain ⟨q, hq, hentry, -⟩ := removeDir_ok hremoved
    have hplace : q = place :=
      Except.ok.inj ((hq.follow hentry rfl).symm.trans (hreach.follow ht))
    exact hreach.names ht (fun _ => rfl) (hplace ▸ hq)

/-- Names put behind the path of a directory name what is below it. -/
theorem Reaches.locateIn_below (ht : SameBut place full t) {init : List Name} {n : Name}
    (hnames : ∀ m ∈ init ++ [n], IsName m)
    (hdirs : ∀ above, above <+: init → t.entry? (place ++ above) = some .dir)
    (haccepted : refusePath ((init ++ [n]).foldl Path.join root) = none) :
    t.locateIn workDir ((init ++ [n]).foldl Path.join root) = .ok (place ++ init, some n) := by
  have hn : IsName n := hnames n (by simp)
  have hpieces : Path.pieces ((init ++ [n]).foldl Path.join root) =
      Path.pieces root ++ init ++ [n] := by
    rw [pieces_behind hreach.nonempty hnames, List.append_assoc]
  refine locateIn_some_iff.mpr ⟨haccepted, ?_, ⟨_, hpieces, ?_⟩, hdirs init (List.prefix_refl _),
    hn.plain⟩
  · have hmem : n ∈ Path.pieces ((init ++ [n]).foldl Path.join root) := by
      rw [hpieces]
      simp
    have hstep : n ∈ Path.steps ((init ++ [n]).foldl Path.join root) := by
      unfold Path.steps
      split
      · exact List.mem_append_left _ hmem
      · exact hmem
    unfold lostDir?
    split
    next place' k hleave => exact absurd hleave (leave_ne_lost hn.plain.proper hstep place' k)
    next => rfl
  · rw [startOf_behind hreach.nonempty hnames]
    have hplace : t.entry? place = some .dir := by simpa using hdirs [] (List.nil_prefix ..)
    exact followFrom_append (hreach.follow ht) hplace
      (leads_through (fun m hm => (hnames m (List.mem_append_left _ hm)).plain) hdirs)

/-- An entry below a directory is named by its path unless the system refuses that. -/
theorem Reaches.names_below_iff (hfull : full.WellFormed) {init : List Name} {n : Name} {e : Entry}
    (he : full.entry? (place ++ (init ++ [n])) = some e) :
    full.Names workDir ((init ++ [n]).foldl Path.join root) (place ++ (init ++ [n])) ↔
      refusePath ((init ++ [n]).foldl Path.join root) = none := by
  constructor
  · rintro ⟨dir, name, -, hlocate⟩
    exact (locateIn_some_iff.mp hlocate).1
  · intro haccepted
    refine ⟨place ++ init, n, (List.append_assoc ..).symm, ?_⟩
    refine hreach.locateIn_below (fun _ => rfl) (hfull.isName he) ?_ haccepted
    rintro above ⟨more, rfl⟩
    have hunder : full.entry? (place ++ above ++ (more ++ [n])) = some e := by simpa using he
    exact hfull.above (by simp) hunder

end Reaches

/-- The system takes the path of every entry below a place. -/
def Addressable (t : FileTree) (root : Path) (place : Place) : Prop :=
  ∀ {q e}, Below place q → t.entry? q = some e → refusePath (pathBelow root place q) = none

/-- All entries are named by their paths if the root is and the system takes the paths. -/
theorem names_of_addressable {full : FileTree} {workDir : WorkDir} {root : Path} {place q : Place}
    {e : Entry} (hfull : full.WellFormed) (hroot : full.Names workDir root place)
    (hreach : full.entry? place = some .dir → full.Reaches workDir root place)
    (haddressable : full.Addressable root place) (hq : place <+: q)
    (he : full.entry? q = some e) : full.Names workDir (pathBelow root place q) q := by
  obtain ⟨names, rfl⟩ := hq
  rcases List.eq_nil_or_concat names with rfl | ⟨init, n, rfl⟩
  · rwa [List.append_nil, pathBelow_self]
  · rw [List.concat_eq_append] at he ⊢
    have hdir : full.entry? place = some .dir := hfull.above (by simp) he
    rw [pathBelow_append, (hreach hdir).names_below_iff hfull he, ← pathBelow_append root place]
    exact haddressable (below_append (by simp)) he

/-! ## One attempt -/

section Attempt

variable {t : FileTree} {workDir : WorkDir} {p : Path} {q : Place} {e : Entry}

theorem below_isEmpty_iff {q : Place} :
    (t.below q).isEmpty = true ↔ ∀ names, names ≠ [] → t.entry? (q ++ names) = none := by
  rw [List.isEmpty_iff, below, List.filterMap_eq_nil_iff]
  constructor
  · intro h names hne
    cases he : t.entry? (q ++ names) with
    | none => rfl
    | some e =>
      obtain ⟨n, names, rfl⟩ := List.exists_cons_of_ne_nil hne
      have hmem := mem_of_entry (by simp) he
      have hunder : q.isPrefixOf? (q ++ n :: names) = some (n :: names) :=
        List.isPrefixOf?_eq_some_iff_append_eq.mpr rfl
      simpa [hunder] using h _ hmem
  · rintro h ⟨p, e⟩ hmem
    simp only
    split
    next n names hunder =>
      obtain rfl := List.isPrefixOf?_eq_some_iff_append_eq.mp hunder
      exact absurd (h _ (by simp)) (entry_of_mem hmem)
    next => rfl

theorem removeEntry_ok (hend : e ≠ .dir → Path.endsInSlash p = false) (h : t.Names workDir p q)
    (he : t.entry? q = some e)
    (hbelow : ∀ names, names ≠ [] → t.entry? (q ++ names) = none) :
    t.removeEntry workDir e.kind p = .ok (t.erase q) := by
  obtain ⟨dir, name, rfl, hlocate⟩ := h
  cases e with
  | dir =>
    have hempty := below_isEmpty_iff.mpr hbelow
    simp [removeEntry, Entry.kind, removeDir, hlocate, Except.bind, he, hempty]
  | file | link | device =>
    simp [removeEntry, Entry.kind, removeFile, hlocate, Except.bind, he, hend]

theorem removeEntry_notEmpty (h : t.Names workDir p q) (he : t.entry? q = some .dir)
    {names : List Name} (hne : names ≠ []) (hbelow : t.entry? (q ++ names) ≠ none) :
    t.removeEntry workDir .dir p = .error .notEmpty := by
  obtain ⟨dir, name, rfl, hlocate⟩ := h
  have hempty : ¬ (t.below (dir ++ [name])).isEmpty = true := by
    intro hempty
    exact hbelow (below_isEmpty_iff.mp hempty names hne)
  simp [removeEntry, removeDir, hlocate, Except.bind, he, hempty]

theorem removeEntry_refused {err : OsError} (h : refusePath p = some err) (kind : EntryKind) :
    t.removeEntry workDir kind p = .error err := by
  have hlocate : t.locateIn workDir p = .error err := by simp [locateIn, h]
  cases kind <;> simp [removeEntry, removeFile, removeDir, hlocate, Except.bind]

theorem attempt_removed {r : Remover} {kind : EntryKind} {t' : FileTree}
    (hpermit : r kind p = .permit) (hok : t.removeEntry workDir kind p = .ok t') :
    attempt r workDir kind p t = (t', .removed kind p) := by
  simp only [attempt, hpermit, hok]

theorem attempt_failed {r : Remover} (hr : r.Firm) {kind : EntryKind}
    (h : r kind p ≠ .permit ∨ ∃ err, t.removeEntry workDir kind p = .error err) :
    ∃ reason, attempt r workDir kind p t = (t, .failed kind p reason) := by
  unfold attempt
  cases hv : r kind p with
  | permit =>
    obtain ⟨err, herr⟩ := h.resolve_left (by simp [hv])
    exact ⟨err.message, by simp only [herr]⟩
  | refuse reason => exact ⟨reason, rfl⟩
  | refuseAfter reason => exact absurd hv (hr kind p reason)

end Attempt

/-! ## A whole pass -/

section Pass

variable (r : Remover) (workDir : WorkDir) (root : Path) (place : Place) (full : FileTree)

/-- The remover refuses an entry, or the system does, to which the path does not name it. -/
def Refused (q : Place) : Prop :=
  ∃ e, full.entry? q = some e ∧
    (r e.kind (pathBelow root place q) ≠ .permit ∨
      ¬ full.Names workDir (pathBelow root place q) q)

/-- An entry at or below this place is refused. -/
def Stuck (q : Place) : Prop := ∃ names, Refused r workDir root place full (q ++ names)

/-- What an attempt tells: an entry is removed unless it is stuck. -/
inductive Attempted (q : Place) : RemovalStep → Prop
  | removed {e : Entry} : full.entry? q = some e → ¬ Stuck r workDir root place full q →
      Attempted q (.removed e.kind (pathBelow root place q))
  | failed {e : Entry} {reason : Text} : full.entry? q = some e →
      Stuck r workDir root place full q →
      Attempted q (.failed e.kind (pathBelow root place q) reason)

/-- What is left of a full tree when all entries below a place have been tried except those that
are in `todo` as well. -/
structure Tried (todo t : FileTree) : Prop where
  gone : ∀ {q}, Below place q → todo.entry? q = none → ¬ Stuck r workDir root place full q →
    t.entry? q = none
  kept : ∀ {q}, ¬ Below place q ∨ todo.entry? q ≠ none ∨ Stuck r workDir root place full q →
    t.entry? q = full.entry? q

variable {r workDir root place full}

theorem Stuck.above {q : Place} {names : List Name}
    (h : Stuck r workDir root place full (q ++ names)) : Stuck r workDir root place full q := by
  obtain ⟨more, hrefused⟩ := h
  exact ⟨names ++ more, by rwa [← List.append_assoc]⟩

theorem Refused.stuck {q : Place} (h : Refused r workDir root place full q) :
    Stuck r workDir root place full q := ⟨[], by simpa using h⟩

variable {t todo : FileTree}

theorem Tried.sameBut (ht : Tried r workDir root place full todo t) : SameBut place full t :=
  fun hbelow => ht.kept (.inl hbelow)

/-- An attempt at an entry, when everything below it has been tried, removes it unless it is
stuck. -/
theorem attempt_tried (hr : r.Firm) (hfull : full.WellFormed) {q : Place} {e : Entry} {p : Path}
    (hp : p = pathBelow root place q) (he : full.entry? q = some e) (ht : t.entry? q = some e)
    (hend : e ≠ .dir → Path.endsInSlash p = false)
    (hnamed : full.Names workDir p q → t.Names workDir p q)
    (hlost : ¬ full.Names workDir p q → ∃ err, t.removeEntry workDir e.kind p = .error err)
    (hgone : ∀ names, names ≠ [] → ¬ Stuck r workDir root place full (q ++ names) →
      t.entry? (q ++ names) = none)
    (hkept : ∀ names, Stuck r workDir root place full (q ++ names) →
      t.entry? (q ++ names) = full.entry? (q ++ names)) :
    Attempted r workDir root place full q (attempt r workDir e.kind p t).2 ∧
      (Stuck r workDir root place full q → (attempt r workDir e.kind p t).1 = t) ∧
      (¬ Stuck r workDir root place full q →
        q ≠ [] ∧ (attempt r workDir e.kind p t).1 = t.erase q) := by
  subst hp
  by_cases hstuck : Stuck r workDir root place full q
  · have hfails : r e.kind (pathBelow root place q) ≠ .permit ∨
        ∃ err, t.removeEntry workDir e.kind (pathBelow root place q) = .error err := by
      by_cases hnames : full.Names workDir (pathBelow root place q) q
      · obtain ⟨names, e', he', hrefused⟩ := hstuck
        by_cases hne : names = []
        · subst hne
          rw [List.append_nil] at he' hrefused
          obtain rfl := Option.some.inj (he.symm.trans he')
          exact .inl (hrefused.resolve_right fun h => h hnames)
        · obtain rfl : e = .dir := Option.some.inj (he.symm.trans (hfull.above hne he'))
          have hleft : t.entry? (q ++ names) ≠ none := by
            rw [hkept names (Refused.stuck ⟨e', he', hrefused⟩), he']
            simp
          exact .inr ⟨_, removeEntry_notEmpty (hnamed hnames) ht hne hleft⟩
      · exact .inr (hlost hnames)
    obtain ⟨reason, hattempt⟩ := attempt_failed hr hfails
    rw [hattempt]
    exact ⟨.failed he hstuck, fun _ => rfl, fun hfree => absurd hstuck hfree⟩
  · have hpermit : r e.kind (pathBelow root place q) = .permit := by
      by_contra hrefused
      exact hstuck (Refused.stuck ⟨e, he, .inl hrefused⟩)
    have hnames : full.Names workDir (pathBelow root place q) q := by
      by_contra hnot
      exact hstuck (Refused.stuck ⟨e, he, .inr hnot⟩)
    have hok := removeEntry_ok hend (hnamed hnames) ht fun names hne =>
      hgone names hne fun hbelow => hstuck hbelow.above
    rw [attempt_removed hpermit hok]
    exact ⟨.removed he hstuck, fun h => absurd h hstuck, fun _ => ⟨hnames.ne_nil, rfl⟩⟩

theorem contentsFirst_add_below (t : FileTree) (p : Place) {names : List Name} (hne : names ≠ [])
    (e : Entry) :
    (t.add (p ++ names) e).contentsFirst p = (names, e) :: t.contentsFirst p := by
  obtain ⟨n, names, rfl⟩ := List.exists_cons_of_ne_nil hne
  have hunder : p.isPrefixOf? (p ++ n :: names) = some (n :: names) :=
    List.isPrefixOf?_eq_some_iff_append_eq.mpr rfl
  simp [contentsFirst, below, add, hunder]

theorem contentsFirst_add_other (t : FileTree) {p q : Place} (h : ¬ Below p q) (e : Entry) :
    (t.add q e).contentsFirst p = t.contentsFirst p := by
  unfold contentsFirst below add
  rw [List.filterMap_append, List.filterMap_cons_none, List.filterMap_nil, List.append_nil]
  dsimp only
  split
  next n names hunder =>
    obtain rfl := List.isPrefixOf?_eq_some_iff_append_eq.mp hunder
    exact absurd ⟨n :: names, by simp, rfl⟩ h
  next => rfl

/-- The places below a directory, each before its directory. -/
def inside (t : FileTree) (place : Place) : List Place :=
  (t.contentsFirst place).map (place ++ ·.1)

theorem inside_add (t : FileTree) (place p : Place) (e : Entry) :
    (t.add p e).inside place = if Below place p then p :: t.inside place else t.inside place := by
  unfold inside
  split
  next hbelow =>
    obtain ⟨names, hne, rfl⟩ := hbelow
    rw [contentsFirst_add_below t place hne, List.map_cons]
  next hother => rw [contentsFirst_add_other t hother]

/-- An entry that is not tried, or is stuck, need not be done any more. -/
theorem Tried.drop {p : Place} {e : Entry} (hp : p ≠ []) (hnew : todo.entry? p = none)
    (ht : Tried r workDir root place full (todo.add p e) t)
    (h : ¬ Below place p ∨ Stuck r workDir root place full p) :
    Tried r workDir root place full todo t where
  gone {q} hq hnone hfree := by
    refine ht.gone hq ?_ hfree
    rw [add_entry hp hnew, if_neg, hnone]
    rintro rfl
    exact h.elim (· hq) hfree
  kept {q} hq := by
    refine ht.kept (hq.imp_right (.imp_left fun hsome => ?_))
    rw [add_entry hp hnew]
    split
    · simp
    · exact hsome

/-- An entry that is erased is done. -/
theorem Tried.erased {p : Place} {e : Entry} (hp : p ≠ []) (hnew : todo.entry? p = none)
    (ht : Tried r workDir root place full (todo.add p e) t) (hbelow : Below place p)
    (hfree : ¬ Stuck r workDir root place full p) :
    Tried r workDir root place full todo (t.erase p) where
  gone {q} hq hnone hnot := by
    rw [erase_entry t hp]
    split
    next => rfl
    next hne => exact ht.gone hq (by rw [add_entry hp hnew, if_neg hne, hnone]) hnot
  kept {q} hq := by
    have hne : q ≠ p := by
      rintro rfl
      rcases hq with hq | hq | hq
      · exact hq hbelow
      · exact hq hnew
      · exact hfree hq
    rw [erase_entry t hp, if_neg hne]
    refine ht.kept ?_
    rwa [add_entry hp hnew, if_neg hne]

/-- What is above the last entry to do is to be done as well, so it is still there. -/
theorem Tried.above {init : List Name} {n : Name} {e : Entry} (htodo : todo.WellFormed)
    (hdir : todo.entry? (place ++ init) = some .dir)
    (hnew : todo.entry? (place ++ init ++ [n]) = none)
    (hsub : ∀ {q e'}, entry? (todo.add (place ++ init ++ [n]) e) q = some e' →
      full.entry? q = some e')
    (ht : Tried r workDir root place full (todo.add (place ++ init ++ [n]) e) t)
    {above : List Name} (h : above <+: init) : t.entry? (place ++ above) = some .dir := by
  have hentry := add_entry (t := todo) (p := place ++ init ++ [n]) (by simp) hnew e
  have hdir' : todo.entry? (place ++ above) = some .dir := by
    obtain ⟨rest, rfl⟩ := h
    by_cases hrest : rest = []
    · simpa [hrest] using hdir
    · exact htodo.above hrest (by simpa using hdir)
  have hadded : entry? (todo.add (place ++ init ++ [n]) e) (place ++ above) = some .dir := by
    rw [hentry, if_neg, hdir']
    intro heq
    rw [heq, hnew] at hdir'
    simp at hdir'
  rw [ht.kept (.inr (.inl (by rw [hadded]; simp))), hsub hadded]

/-- The last entry of what is to do is tried when all below it has been and nothing above it. -/
theorem Tried.step (hr : r.Firm) (hfull : full.WellFormed)
    (hreach : full.Reaches workDir root place) {init : List Name} {n : Name} {e : Entry}
    (htodo : todo.WellFormed) (hdir : todo.entry? (place ++ init) = some .dir)
    (hnew : todo.entry? (place ++ init ++ [n]) = none)
    (hsub : ∀ {q e'}, entry? (todo.add (place ++ init ++ [n]) e) q = some e' →
      full.entry? q = some e')
    (ht : Tried r workDir root place full (todo.add (place ++ init ++ [n]) e) t) :
    Attempted r workDir root place full (place ++ (init ++ [n]))
        (attempt r workDir e.kind ((init ++ [n]).foldl Path.join root) t).2 ∧
      Tried r workDir root place full todo
        (attempt r workDir e.kind ((init ++ [n]).foldl Path.join root) t).1 := by
  have habove {above : List Name} (h : above <+: init) : t.entry? (place ++ above) = some .dir :=
    ht.above htodo hdir hnew hsub h
  rw [List.append_assoc] at hnew hsub ht
  have hentry := add_entry (t := todo) (p := place ++ (init ++ [n])) (by simp) hnew e
  have he : full.entry? (place ++ (init ++ [n])) = some e := hsub (by rw [hentry, if_pos rfl])
  have hnames : ∀ m ∈ init ++ [n], IsName m := hfull.isName he
  have hn : IsName n := hnames n (by simp)
  have hkept : t.entry? (place ++ (init ++ [n])) = some e := by
    rw [ht.kept (.inr (.inl (by rw [hentry, if_pos rfl]; simp))), he]
  have hbelow {names : List Name} (hne : names ≠ []) :
      entry? (todo.add (place ++ (init ++ [n])) e) (place ++ (init ++ [n]) ++ names) = none := by
    rw [hentry, if_neg (by simpa using hne)]
    exact htodo.nothing_below (by rw [hnew]; simp) hne
  have hnamed := hreach.names_below_iff hfull he
  obtain ⟨htold, hstuck, hfree⟩ := attempt_tried hr hfull (pathBelow_append root place _).symm he
    hkept
    (fun _ => by
      rw [List.foldl_append]
      exact Path.endsInSlash_join hn.nonempty hn.noSlash _)
    (fun h => ⟨place ++ init, n, (List.append_assoc ..).symm,
      hreach.locateIn_below ht.sameBut hnames (fun _ => habove) (hnamed.mp h)⟩)
    (fun h => by
      obtain ⟨err, herr⟩ := Option.ne_none_iff_exists'.mp (mt hnamed.mpr h)
      exact ⟨err, removeEntry_refused herr _⟩)
    (fun names hne => ht.gone ⟨init ++ [n] ++ names, by simp, by simp⟩ (hbelow hne))
    (fun names h => ht.kept (.inr (.inr h)))
  refine ⟨htold, ?_⟩
  by_cases hcase : Stuck r workDir root place full (place ++ (init ++ [n]))
  · rw [hstuck hcase]
    exact ht.drop (by simp) hnew (.inr hcase)
  · rw [(hfree hcase).2]
    exact ht.erased (by simp) hnew (below_append (by simp)) hcase

theorem attemptAll_tried (hr : r.Firm) (hfull : full.WellFormed)
    (hreach : full.Reaches workDir root place) (htodo : todo.WellFormed)
    (hsub : ∀ {q e}, todo.entry? q = some e → full.entry? q = some e)
    (ht : Tried r workDir root place full todo t) :
    List.Forall₂ (Attempted r workDir root place full)
        (todo.inside place)
        (attemptAll r workDir root (todo.contentsFirst place) t).2 ∧
      Tried r workDir root place full .empty
        (attemptAll r workDir root (todo.contentsFirst place) t).1 := by
  induction htodo generalizing t with
  | empty => exact ⟨.nil, ht⟩
  | @add todo dir n e htodo hdir hn hnew ih =>
    have hsub' {q : Place} {e' : Entry} (h : todo.entry? q = some e') : full.entry? q = some e' := by
      refine hsub ?_
      rw [add_entry (by simp) hnew, if_neg, h]
      rintro rfl
      simp [hnew] at h
    by_cases hbelow : Below place (dir ++ [n])
    · obtain ⟨names, hne, heq⟩ := hbelow
      obtain ⟨init, rfl, rfl⟩ : ∃ init, dir = place ++ init ∧ names = init ++ [n] := by
        obtain ⟨init, m, rfl⟩ := List.eq_nil_or_concat names |>.resolve_left hne
        rw [List.concat_eq_append, ← List.append_assoc] at heq
        obtain ⟨hdir', hm⟩ := List.append_inj' heq rfl
        exact ⟨init, hdir', by simpa using hm.symm⟩
      obtain ⟨htold, hstep⟩ := ht.step hr hfull hreach htodo hdir hnew hsub
      obtain ⟨hsteps, hrest⟩ := ih hsub' hstep
      rw [List.append_assoc, contentsFirst_add_below _ _ hne, inside_add,
        if_pos (below_append hne)]
      exact ⟨.cons htold hsteps, hrest⟩
    · rw [contentsFirst_add_other _ hbelow, inside_add, if_neg hbelow]
      exact ih hsub' (ht.drop (by simp) hnew (.inl hbelow))

/-- What a pass over the whole tree at a place leaves. -/
structure Cleared (r : Remover) (workDir : WorkDir) (root : Path) (place : Place)
    (full t : FileTree) : Prop where
  gone : ∀ {q}, place <+: q → ¬ Stuck r workDir root place full q → t.entry? q = none
  kept : ∀ {q}, ¬ place <+: q ∨ Stuck r workDir root place full q → t.entry? q = full.entry? q

theorem empty_entry {q : Place} (hq : Below place q) : empty.entry? q = none := by
  obtain ⟨names, hne, rfl⟩ := hq
  simp [empty, entry?, hne]

/-- The attempt at the root itself, when everything below it has been tried, ends the pass. -/
theorem Tried.cleared (hr : r.Firm) (hfull : full.WellFormed) {e : Entry}
    (he : full.entry? place = some e) (ht : Tried r workDir root place full .empty t)
    (hend : e ≠ .dir → Path.endsInSlash root = false)
    (hnamed : full.Names workDir root place → t.Names workDir root place)
    (hlost : ¬ full.Names workDir root place →
      ∃ err, t.removeEntry workDir e.kind root = .error err) :
    Attempted r workDir root place full place (attempt r workDir e.kind root t).2 ∧
      Cleared r workDir root place full (attempt r workDir e.kind root t).1 := by
  have hself := ht.sameBut (not_below_self place)
  obtain ⟨htold, hstuck, hfree⟩ := attempt_tried hr hfull (pathBelow_self root place).symm he
    (hself.trans he) hend hnamed hlost
    (fun names hne => ht.gone (below_append hne) (empty_entry (below_append hne)))
    (fun names h => ht.kept (.inr (.inr h)))
  have hgone {q : Place} (hne : q ≠ place) (hunder : place <+: q)
      (hfree : ¬ Stuck r workDir root place full q) : t.entry? q = none :=
    have hbelow := below_iff.mpr ⟨hunder, hne⟩
    ht.gone hbelow (empty_entry hbelow) hfree
  have hkept {q : Place} (h : ¬ place <+: q ∨ Stuck r workDir root place full q) :
      t.entry? q = full.entry? q :=
    ht.kept (h.imp (fun hout hbelow => hout (below_iff.mp hbelow).1) .inr)
  refine ⟨htold, ?_⟩
  by_cases hcase : Stuck r workDir root place full place
  · rw [hstuck hcase]
    refine ⟨fun hunder hnot => hgone ?_ hunder hnot, hkept⟩
    rintro rfl
    exact hnot hcase
  · obtain ⟨hplace, htree⟩ := hfree hcase
    rw [htree]
    have herased := erase_entry t hplace
    constructor
    · intro q hunder hnot
      rw [herased]
      split
      next => rfl
      next hne => exact hgone hne hunder hnot
    · intro q hq
      have hne : q ≠ place := by
        rintro rfl
        exact hq.elim (· (List.prefix_refl _)) hcase
      rw [herased, if_neg hne]
      exact hkept hq

/-- **A removal pass over a directory.** What is stuck at or below the directory is left, and what is
not is removed; nothing changes elsewhere. -/
theorem removeDirTree_spec (hr : r.Firm) (hfull : full.WellFormed)
    (hreach : full.Reaches workDir root place) :
    List.Forall₂ (Attempted r workDir root place full)
        (full.inside place ++ [place])
        (removeDirTree r workDir root place full).2 ∧
      Cleared r workDir root place full (removeDirTree r workDir root place full).1 := by
  have hall : Tried r workDir root place full full full :=
    ⟨fun _ hnone _ => hnone, fun _ => rfl⟩
  obtain ⟨hsteps, ht⟩ := attemptAll_tried hr hfull hreach hfull id hall
  obtain ⟨hlast, hcleared⟩ := ht.cleared hr hfull hreach.isDir (fun h => absurd rfl h)
    (hreach.names (fun _ => rfl) ht.sameBut) (hreach.removeDir_error ht.sameBut)
  exact ⟨List.rel_append hsteps (.cons hlast .nil), hcleared⟩

end Pass

end FileTree

end KarelBuild
