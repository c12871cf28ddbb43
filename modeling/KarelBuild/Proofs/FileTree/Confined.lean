import KarelBuild.Proofs.Answers
import KarelBuild.Proofs.FileTree.Files
import KarelBuild.Proofs.FileTree.Removal

/-!
# What a removal pass can reach

An attempt erases at most the entry that its path names (`removeEntry_erases`), so a pass loses no
entries but those that its paths name in the full tree (`attemptAll_loses`). Below a directory they
name what is below it (`Names.below`), and behind a link that was removed they name nothing
(`not_names_behind`). But a link that is refused stays, and the pass goes through it: then entries
that are not below the root are removed under its path (`removeTree_confined`).
-/

namespace KarelBuild

namespace FileTree

/-! ## What attempts lose -/

/-- The entries of a part are entries of the full tree. -/
def PartOf (t full : FileTree) : Prop := ∀ {q e}, t.entry? q = some e → full.entry? q = some e

/-- Entries of some places are lost, and nothing else changes. -/
structure Loses (places : Place → Prop) (t t' : FileTree) : Prop where
  part : PartOf t' t
  lost : ∀ {q}, t'.entry? q ≠ t.entry? q → places q

/-- To remove an entry of a kind under a path is to erase the entry of a place. -/
structure Erases (t : FileTree) (workDir : WorkDir) (kind : EntryKind) (p : Path) (q : Place) :
    Prop where
  names : t.Names workDir p q
  entry : ∃ e, t.entry? q = some e ∧ e.kind = kind
  openEnd : kind = .file → Path.endsInSlash p = false

section Attempts

variable {places : Place → Prop} {full t t' t'' : FileTree} {workDir : WorkDir} {p root : Path}
  {r : Remover} {kind : EntryKind} {q : Place}

theorem Loses.refl (places : Place → Prop) (t : FileTree) : Loses places t t :=
  ⟨id, fun h => absurd rfl h⟩

theorem Loses.trans (h : Loses places t t') (h' : Loses places t' t'') : Loses places t t'' where
  part he := h.part (h'.part he)
  lost {q} hq := by
    by_cases hsame : t''.entry? q = t'.entry? q
    · exact h.lost (hsame ▸ hq)
    · exact h'.lost hsame

theorem Loses.mono {places' : Place → Prop} (h : Loses places t t')
    (himp : ∀ {q}, places q → places' q) : Loses places' t t' :=
  ⟨h.part, fun hq => himp (h.lost hq)⟩

theorem Loses.entry (h : Loses places t t') (hq : t'.entry? q ≠ t.entry? q) :
    t.entry? q ≠ none := by
  intro hnone
  cases he : t'.entry? q with
  | none => exact hq (he.trans hnone.symm)
  | some e => simpa [hnone] using h.part he

theorem erase_loses (hq : q ≠ []) (hplace : places q) : Loses places t (t.erase q) where
  part {p e} he := by
    rw [erase_entry t hq] at he
    split at he
    next => simp at he
    next => exact he
  lost {p} hp := by
    rw [erase_entry t hq] at hp
    split at hp
    next heq => exact heq ▸ hplace
    next => exact absurd rfl hp

/-- What a path names in a part of a tree it names in the full tree. -/
theorem PartOf.names (h : PartOf t full) (hnames : t.Names workDir p q) :
    full.Names workDir p q := by
  obtain ⟨dir, name, rfl, hlocate⟩ := hnames
  obtain ⟨haccepted, hheld, ⟨init, hpieces, hinit⟩, hdir, hname⟩ := locateIn_some_iff.mp hlocate
  exact ⟨dir, name, rfl, locateIn_some_iff.mpr ⟨haccepted, hheld,
    ⟨init, hpieces, followFrom_kept hinit hdir fun he _ => h he⟩, h hdir, hname⟩⟩

theorem PartOf.erases (h : PartOf t full) (herases : t.Erases workDir kind p q) :
    full.Erases workDir kind p q := by
  obtain ⟨e, he, hkind⟩ := herases.entry
  exact ⟨h.names herases.names, ⟨e, h he, hkind⟩, herases.openEnd⟩

theorem removeEntry_erases (h : t.removeEntry workDir kind p = .ok t') :
    ∃ q, t.Erases workDir kind p q ∧ t' = t.erase q := by
  cases kind with
  | file =>
    obtain ⟨q, e, hnames, he, hdir, hend, rfl⟩ := removeFile_ok h
    refine ⟨q, ⟨hnames, ⟨e, he, ?_⟩, fun _ => hend⟩, rfl⟩
    cases e with
    | dir => exact absurd rfl hdir
    | file | link | device => rfl
  | dir =>
    obtain ⟨q, hnames, he, rfl⟩ := removeDir_ok h
    exact ⟨q, ⟨hnames, ⟨.dir, he, rfl⟩, by simp⟩, rfl⟩

theorem attempt_loses (hat : ∀ {q}, t.Erases workDir kind p q → places q) :
    Loses places t (attempt r workDir kind p t).1 := by
  have erased {t' : FileTree} (hok : t.removeEntry workDir kind p = .ok t') :
      Loses places t t' := by
    obtain ⟨q, hq, rfl⟩ := removeEntry_erases hok
    exact erase_loses hq.names.ne_nil (hat hq)
  unfold attempt
  split
  next hok => exact erased hok
  next => exact .refl places t
  next => exact .refl places t
  next hok => exact erased hok
  next => exact .refl places t

theorem attemptAll_loses {todo : List (List Name × Entry)}
    (hat : ∀ a ∈ todo, ∀ {q}, full.Names workDir (a.1.foldl Path.join root) q → places q)
    (hpart : PartOf t full) : Loses places t (attemptAll r workDir root todo t).1 := by
  induction todo generalizing t with
  | nil => exact .refl places t
  | cons a todo ih =>
    have hfirst : Loses places t
        (attempt r workDir a.2.kind (a.1.foldl Path.join root) t).1 :=
      attempt_loses fun hq => hat a (List.mem_cons_self ..) (hpart.names hq.names)
    exact hfirst.trans (ih (fun b hb => hat b (List.mem_cons_of_mem _ hb))
      fun he => hpart (hfirst.part he))

theorem attemptUnreachable_loses {todo : List (Name × Entry)}
    (hat : ∀ a ∈ todo, ∀ {q}, full.Names workDir (Path.join root a.1) q → places q)
    (hpart : PartOf t full) : Loses places t (attemptUnreachable r workDir root todo t).1 := by
  induction todo generalizing t with
  | nil => exact .refl places t
  | cons a todo ih =>
    have hfirst : Loses places t (attempt r workDir a.2.kind (Path.join root a.1) t).1 :=
      attempt_loses fun hq => hat a (List.mem_cons_self ..) (hpart.names hq.names)
    exact hfirst.trans (ih (fun b hb => hat b (List.mem_cons_of_mem _ hb))
      fun he => hpart (hfirst.part he))

end Attempts

/-! ## Paths behind the root -/

section Behind

variable {t full : FileTree} {workDir : WorkDir} {root : Path} {place q : Place}
  {names : List Name}

theorem mem_contentsFirst {e : Entry} (h : (names, e) ∈ t.contentsFirst place) :
    names ≠ [] ∧ t.entry? (place ++ names) ≠ none := by
  obtain ⟨⟨p, e'⟩, hmem, hbelow⟩ := List.mem_filterMap.mp (List.mem_reverse.mp h)
  dsimp only at hbelow
  split at hbelow
  next n rest hunder =>
    obtain rfl := List.isPrefixOf?_eq_some_iff_append_eq.mp hunder
    obtain ⟨rfl, rfl⟩ : n :: rest = names ∧ e' = e := by simpa using hbelow
    exact ⟨by simp, entry_of_mem hmem⟩
  next => simp at hbelow

theorem mem_children {n : Name} {e : Entry} (h : (n, e) ∈ t.children place) :
    t.entry? (place ++ [n]) ≠ none := by
  obtain ⟨⟨names, e'⟩, hmem, hname⟩ := List.mem_filterMap.mp h
  dsimp only at hname
  split at hname
  next m =>
    obtain ⟨rfl, rfl⟩ : m = n ∧ e' = e := by simpa using hname
    exact (mem_contentsFirst (List.mem_reverse.mpr hmem)).2
  next => simp at hname

/-- Names behind a path are followed after it, up to the directory of the last one. -/
theorem Names.behind (hroot : root ≠ []) (hne : names ≠ []) (hnames : ∀ n ∈ names, IsName n)
    (h : t.Names workDir (names.foldl Path.join root) q) :
    ∃ init n dir, names = init ++ [n] ∧ q = dir ++ [n] ∧ t.entry? dir = some .dir ∧
      t.followFrom false (startOf workDir root) (Path.pieces root ++ init) = .ok dir := by
  obtain ⟨init, n, rfl⟩ := List.eq_nil_or_concat names |>.resolve_left hne
  rw [List.concat_eq_append] at *
  obtain ⟨dir, name, rfl, hlocate⟩ := h
  obtain ⟨-, -, ⟨init', hpieces, hinit⟩, hdir, -⟩ := locateIn_some_iff.mp hlocate
  rw [pieces_behind hroot hnames, ← List.append_assoc] at hpieces
  obtain ⟨rfl, hn⟩ := List.append_inj' hpieces rfl
  obtain rfl : n = name := by simpa using hn
  exact ⟨init, n, dir, rfl, rfl, hdir, startOf_behind hroot hnames workDir ▸ hinit⟩

/-- Nothing is named behind a path that does not lead to a directory. -/
theorem Names.behind_dir (hroot : root ≠ []) (hne : names ≠ []) (hnames : ∀ n ∈ names, IsName n)
    (h : t.Names workDir (names.foldl Path.join root) q) : ∃ mid, t.entry? mid = some .dir ∧
      t.followFrom false (startOf workDir root) (Path.pieces root) = .ok mid := by
  obtain ⟨init, n, dir, rfl, -, hdir, hfollow⟩ := h.behind hroot hne hnames
  cases init with
  | nil => exact ⟨dir, hdir, by simpa using hfollow⟩
  | cons m init =>
    have hm : IsName m := hnames m (by simp)
    obtain ⟨mid, -, hmid, hfirst, -⟩ :=
      followFrom_split (by simp) (staysLost_proper hm.plain.proper init) hfollow
    exact ⟨mid, hmid, hfirst⟩

/-- Nothing is named behind a path in a tree that does not have the entry that the path names. -/
theorem not_names_behind (hroot : full.Names workDir root place) (hne : root ≠ [])
    (hpart : PartOf t full) (hgone : t.entry? place = none) (hnonempty : names ≠ [])
    (hnames : ∀ n ∈ names, IsName n) : ¬ t.Names workDir (names.foldl Path.join root) q := by
  intro h
  obtain ⟨mid, hmid, hfollow⟩ := h.behind_dir hne hnonempty hnames
  obtain ⟨dir, name, rfl, hlocate⟩ := hroot
  obtain ⟨-, -, ⟨init, hpieces, hinit⟩, -, hname⟩ := locateIn_some_iff.mp hlocate
  rw [hpieces] at hfollow
  obtain ⟨dir', k, hdir', hfirst, hlast⟩ :=
    followFrom_split (by simp) (staysLost_proper hname.proper []) hfollow
  obtain rfl : dir' = dir := Except.ok.inj
    ((followFrom_kept hfirst hdir' fun he _ => hpart he).symm.trans hinit)
  cases hlast with
  | stay _ hdot _ => exact hname.notDot hdot
  | up _ _ => exact hname.notUp rfl
  | link _ _ he _ => simp [hgone] at he
  | enter _ _ he _ _ => simp [hgone] at he
  | missing _ _ _ => simp [hgone] at hmid

/-- A path leads to a directory, if not to one that is gone. -/
structure Opens (t : FileTree) (workDir : WorkDir) (root : Path) (place : Place) : Prop where
  nonempty : root ≠ []
  isDir : lostDir? workDir root = none → t.entry? place = some .dir
  leads : lostDir? workDir root = none →
    t.followFrom false (startOf workDir root) (Path.pieces root) = .ok place

theorem ne_nil_of_refusePath {p : Path} (h : refusePath p = none) : p ≠ [] := by
  rintro rfl
  simp [refusePath] at h

/-- A slash behind a path leads nowhere else. -/
theorem followFrom_pieces {w : WorkDir} {p : Path}
    (h : t.followFrom false w (Path.steps p) = .ok q) :
    t.followFrom false w (Path.pieces p) = .ok q := by
  unfold Path.steps at h
  split at h
  next =>
    obtain ⟨mid, k, -, hfirst, hlast⟩ := followFrom_split (by simp) staysLost_slash h
    cases hlast with
    | stay _ _ hrest =>
      cases hrest
      exact hfirst
    | link _ hn _ _ => exact absurd (.inl rfl) hn.notDot
    | enter _ hn _ _ _ => exact absurd (.inl rfl) hn.notDot
    | missing _ hn _ => exact absurd (.inl rfl) hn.notDot
  next => exact h

/-- What is gone is left for good by a path that leads to a place of the tree. -/
theorem lostDir?_of_follow (h : t.followFrom false (startOf workDir root) (Path.pieces root) = .ok q) :
    lostDir? workDir root = none := by
  obtain ⟨start, rest, hleave, -⟩ := followFrom_eq_ok_iff.mp h
  have hsteps : ∃ rest', (startOf workDir root).leave (Path.steps root) = (⟨start, 0⟩, rest') := by
    unfold Path.steps
    split
    next => exact ⟨_, leave_append hleave [[]]⟩
    next => exact ⟨rest, hleave⟩
  obtain ⟨rest', hsteps⟩ := hsteps
  unfold lostDir?
  rw [hsteps]

theorem opens_of_stat (h : t.stat workDir root = .ok (place, .dir)) :
    t.Opens workDir root place := by
  obtain ⟨hlost, -⟩ | ⟨-, hlocate, he⟩ := stat_eq_ok_iff.mp h
  · refine ⟨?_, by simp [hlost], by simp [hlost]⟩
    rintro rfl
    unfold lostDir? at hlost
    split at hlost <;> simp at hlost
  · unfold locate at hlocate
    split at hlocate
    next => simp at hlocate
    next haccepted =>
      exact ⟨ne_nil_of_refusePath haccepted, fun _ => he, fun _ => followFrom_pieces hlocate⟩

/-- An entry is found as it is with links followed, or it is the one that the path names. -/
theorem statLink_cases {e : Entry} (h : t.statLink workDir root = .ok (place, e)) :
    t.stat workDir root = .ok (place, e) ∨
      root ≠ [] ∧ Path.endsInSlash root = false ∧ t.Names workDir root place ∧
        t.entry? place = some e := by
  unfold statLink at h
  split at h
  next => exact .inl h
  next hend =>
    cases hlocate : t.locateIn workDir root with
    | error err => simp [hlocate, Except.bind] at h
    | ok found =>
      obtain ⟨dir, _ | name⟩ := found
      · exact .inl (by simpa [hlocate, Except.bind] using h)
      · simp only [hlocate, Except.bind] at h
        split at h
        next e' he =>
          obtain ⟨rfl, rfl⟩ : dir ++ [name] = place ∧ e' = e := by simpa using h
          have hroot := ne_nil_of_refusePath (locateIn_some_iff.mp hlocate).1
          exact .inr ⟨hroot, by simpa using hend, ⟨dir, name, rfl, hlocate⟩, he⟩
        next => simp at h

theorem opens_of_statLink (h : t.statLink workDir root = .ok (place, .dir)) :
    t.Opens workDir root place := by
  obtain hstat | ⟨hroot, -, hnames, he⟩ := statLink_cases h
  · exact opens_of_stat hstat
  · exact ⟨hroot, fun _ => he, fun _ => hnames.follow he rfl⟩

/-- Behind a path that leads to a directory, names are those of what is below it. -/
theorem Names.below (hfull : full.WellFormed) (hopens : full.Opens workDir root place)
    (hne : names ≠ []) (hentry : full.entry? (place ++ names) ≠ none)
    (h : full.Names workDir (names.foldl Path.join root) q) : q = place ++ names := by
  obtain ⟨e, he⟩ := Option.ne_none_iff_exists'.mp hentry
  have hnames := hfull.isName he
  obtain ⟨mid, -, hmid⟩ := h.behind_dir hopens.nonempty hne hnames
  have hheld := lostDir?_of_follow hmid
  obtain ⟨init, n, dir, rfl, rfl, -, hfollow⟩ := h.behind hopens.nonempty hne hnames
  -- The full tree has directories all the way down, so the names lead through them.
  have hdirs (above : List Name) (habove : above <+: init) :
      full.entry? (place ++ above) = some .dir := by
    obtain ⟨more, rfl⟩ := habove
    have hunder : full.entry? (place ++ above ++ (more ++ [n])) = some e := by simpa using he
    exact hfull.above (by simp) hunder
  have hplain : ∀ m ∈ init, PlainName false m [] :=
    fun m hm => (hnames m (List.mem_append_left _ hm)).plain
  rw [followFrom_append (hopens.leads hheld) (hopens.isDir hheld) (leads_through hplain hdirs)]
    at hfollow
  rw [← Except.ok.inj hfollow, List.append_assoc]

end Behind

/-! ## Passes -/

section Confined

variable (r : Remover) (workDir : WorkDir) (root : Path) (full : FileTree)

/-- A place that is reached from another one through directories only. -/
structure Within (t : FileTree) (place q : Place) : Prop where
  under : place <+: q
  through : ∀ {above}, place <+: above → Below above q → t.entry? above = some .dir

/-- Every entry that a pass removes is its root or is reached from there through directories. -/
def Contained : Prop :=
  ∀ {q}, entry? (removeTree r workDir root full).1 q ≠ full.entry? q →
    ∃ place e, full.statLink workDir root = .ok (place, e) ∧ full.Within place q

/-- The root of a pass is a link to a directory, and its own removal is refused. -/
structure LinkLeft (link target : Place) : Prop where
  isLink : ∃ names, full.statLink workDir root = .ok (link, .link names)
  leads : full.stat workDir root = .ok (target, .dir)
  refused : ∃ reason, r .file root = .refuse reason

variable {r workDir root full} {place link target q : Place}

theorem within_of_entry (hfull : full.WellFormed) (h : place <+: q)
    (hentry : full.entry? q ≠ none) : full.Within place q where
  under := h
  through := by
    rintro above - ⟨names, hne, rfl⟩
    obtain ⟨e, he⟩ := Option.ne_none_iff_exists'.mp hentry
    exact hfull.above hne he

theorem removeDirTree_loses (hfull : full.WellFormed)
    (hroot : full.statLink workDir root = .ok (place, .dir)) :
    Loses (place <+: ·) full (removeDirTree r workDir root place full).1 := by
  have hopens := opens_of_statLink hroot
  have hbelow : Loses (place <+: ·) full
      (attemptAll r workDir root (full.contentsFirst place) full).1 := by
    refine attemptAll_loses (fun a ha q hq => ?_) id
    obtain ⟨hne, hentry⟩ := mem_contentsFirst ha
    exact hq.below hfull hopens hne hentry ▸ List.prefix_append ..
  refine hbelow.trans (attempt_loses fun {q} hq => ?_)
  -- The path of the root names the directory itself or no directory.
  have herases : full.Erases workDir .dir root q := PartOf.erases (fun he => hbelow.part he) hq
  obtain ⟨dir, name, -, hlocate⟩ := herases.names
  have hheld := (locateIn_some_iff.mp hlocate).2.1
  obtain ⟨e, he, hkind⟩ := herases.entry
  obtain rfl : e = .dir := by
    cases e <;> simp_all [Entry.kind]
  have hsame := (herases.names.follow he rfl).symm.trans (hopens.leads hheld)
  exact Except.ok.inj hsame ▸ List.prefix_refl _

theorem attempt_root_loses {e : Entry} (hroot : full.statLink workDir root = .ok (place, e)) :
    Loses (· = place) full (attempt r workDir .file root full).1 := by
  refine attempt_loses fun {q} hq => ?_
  obtain ⟨e', he, -⟩ := hq.entry
  rw [hq.names.statLink (hq.openEnd rfl), he] at hroot
  exact (Prod.mk.inj (Except.ok.inj hroot)).1

/-- A link to a directory is named by its path, and the path leads to the directory. -/
theorem names_of_link {names : Path} (hlink : full.statLink workDir root = .ok (link, .link names))
    (hstat : full.stat workDir root = .ok (target, .dir)) :
    root ≠ [] ∧ Path.endsInSlash root = false ∧ full.Names workDir root link ∧
      full.entry? link = some (.link names) := by
  obtain hsame | h := statLink_cases hlink
  · simp [hstat] at hsame
  · exact h

theorem removeLinkTree_loses (hfull : full.WellFormed) {names : Path}
    (hlink : full.statLink workDir root = .ok (link, .link names))
    (hstat : full.stat workDir root = .ok (target, .dir))
    (htaken : ∀ reason, r .file root ≠ .refuse reason) :
    Loses (· = link) full (removeLinkTree r workDir root target full).1 := by
  obtain ⟨hroot, hend, hnames, he⟩ := names_of_link hlink hstat
  have hlinkne := hnames.ne_nil
  have hremoved : full.removeEntry workDir .file root = .ok (full.erase link) := by
    refine removeEntry_ok (fun _ => hend) hnames he fun more hne => ?_
    exact hfull.nothing_below (by simp [he]) hne
  have hfirst : (attempt r workDir .file root full).1 = full.erase link := by
    unfold attempt
    rw [hremoved]
    cases hv : r .file root with
    | permit => rfl
    | refuse reason => exact absurd hv (htaken reason)
    | refuseAfter reason => rfl
  have herased : Loses (· = link) full (full.erase link) := erase_loses hlinkne rfl
  have hgone : entry? (full.erase link) link = none := by
    rw [erase_entry full hlinkne, if_pos rfl]
  -- With the link gone, nothing has a path behind it.
  have hnone {names : List Name} (hne : names ≠ [])
      (hentry : entry? (full.erase link) (target ++ names) ≠ none) {q : Place} :
      ¬ (full.erase link).Names workDir (names.foldl Path.join root) q := by
    obtain ⟨e, he⟩ := Option.ne_none_iff_exists'.mp hentry
    exact not_names_behind hnames hroot (fun he => herased.part he) hgone hne
      (hfull.isName (herased.part he))
  unfold removeLinkTree
  dsimp only
  rw [hfirst]
  refine herased.trans ?_
  split
  next =>
    refine attemptAll_loses (fun a ha q hq => ?_) id
    obtain ⟨hne, hentry⟩ := mem_contentsFirst ha
    exact absurd hq (hnone hne hentry)
  next =>
    refine attemptUnreachable_loses (fun a ha q hq => ?_) id
    exact absurd hq (hnone (List.cons_ne_nil a.1 []) (mem_children ha))

/-- The link stays, and everything in the other directory is tried under its path. -/
theorem LinkLeft.pass (h : LinkLeft r workDir root full link target) :
    (removeTree r workDir root full).1 =
      (attemptAll r workDir root (full.contentsFirst target) full).1 := by
  obtain ⟨names, hlink⟩ := h.isLink
  obtain ⟨reason, hrefused⟩ := h.refused
  have hfirst : (attempt r workDir .file root full).1 = full := by
    simp only [attempt, hrefused]
  have hdir : full.isDir workDir root = true := by
    simp only [isDir, h.leads]
  unfold removeTree removeLinkTree
  simp only [hlink, h.leads, hfirst, hdir, ↓reduceIte]

theorem LinkLeft.loses (h : LinkLeft r workDir root full link target) (hfull : full.WellFormed) :
    Loses (Below target) full (removeTree r workDir root full).1 := by
  rw [h.pass]
  refine attemptAll_loses (fun a ha q hq => ?_) id
  obtain ⟨hne, hentry⟩ := mem_contentsFirst ha
  rw [hq.below hfull (opens_of_stat h.leads) hne hentry]
  exact below_append hne

theorem LinkLeft.tried (h : LinkLeft r workDir root full link target) (hr : r.Firm)
    (hfull : full.WellFormed) (hreach : full.Reaches workDir root target) :
    Tried r workDir root target full .empty (removeTree r workDir root full).1 := by
  rw [h.pass]
  exact (attemptAll_tried hr hfull hreach hfull id ⟨fun _ hnone _ => hnone, fun _ => rfl⟩).2

/-- A pass that leaves no link to a directory loses only what is at its root or below. -/
theorem removeTree_loses (hfull : full.WellFormed) {e : Entry}
    (hroot : full.statLink workDir root = .ok (place, e))
    (hleft : ∀ link target, ¬ LinkLeft r workDir root full link target) :
    Loses (place <+: ·) full (removeTree r workDir root full).1 := by
  have hself {t : FileTree} (h : Loses (· = place) full t) : Loses (place <+: ·) full t :=
    h.mono fun hq => hq ▸ List.prefix_refl _
  cases e with
  | dir =>
    simp only [removeTree, hroot]
    exact removeDirTree_loses hfull hroot
  | file | device =>
    simp only [removeTree, hroot]
    exact hself (attempt_root_loses hroot)
  | link names =>
    rcases hstat : full.stat workDir root with err | ⟨target, e⟩
    · simp only [removeTree, hroot, hstat]
      exact .refl ..
    · cases e with
      | dir =>
        simp only [removeTree, hroot, hstat]
        refine hself (removeLinkTree_loses hfull hroot hstat fun reason hrefused => ?_)
        exact hleft place target ⟨⟨names, hroot⟩, hstat, ⟨reason, hrefused⟩⟩
      | file | link | device =>
        simp only [removeTree, hroot, hstat]
        exact hself (attempt_root_loses hroot)

theorem contained_of_not_linkLeft (hfull : full.WellFormed)
    (hleft : ∀ link target, ¬ LinkLeft r workDir root full link target) :
    Contained r workDir root full := by
  intro q hq
  cases hroot : full.statLink workDir root with
  | error err =>
    simp only [removeTree, hroot] at hq
    exact absurd rfl hq
  | ok found =>
    obtain ⟨place, e⟩ := found
    have hloses := removeTree_loses hfull hroot hleft
    exact ⟨place, e, rfl, within_of_entry hfull (hloses.lost hq) (hloses.entry hq)⟩

/-- Behind a link that is left only what is stuck is left. -/
theorem LinkLeft.left_iff (h : LinkLeft r workDir root full link target) (hr : r.Firm)
    (hfull : full.WellFormed) (hreach : full.Reaches workDir root target)
    (hbelow : Below target q) (hentry : full.entry? q ≠ none) :
    Stuck r workDir root target full q ↔ entry? (removeTree r workDir root full).1 q ≠ none := by
  have htried := h.tried hr hfull hreach
  constructor
  · intro hstuck
    rwa [htried.kept (.inr (.inr hstuck))]
  · intro hleft
    by_contra hfree
    exact hleft (htried.gone hbelow (empty_entry hbelow) hfree)

/-- What is removed through a link that is left is not below the root. -/
theorem LinkLeft.contained_iff (h : LinkLeft r workDir root full link target) (hr : r.Firm)
    (hfull : full.WellFormed) (hreach : full.Reaches workDir root target) :
    Contained r workDir root full ↔
      ∀ {q}, Below target q → q ≠ link → full.entry? q ≠ none →
        Stuck r workDir root target full q := by
  obtain ⟨names, hlink⟩ := h.isLink
  obtain ⟨-, -, -, he⟩ := names_of_link hlink h.leads
  constructor
  · intro hcontained q hbelow hne hentry
    rw [h.left_iff hr hfull hreach hbelow hentry]
    intro hgone
    obtain ⟨place, e, hroot, hwithin⟩ := hcontained (q := q) (by rw [hgone]; exact hentry.symm)
    obtain ⟨rfl, -⟩ : link = place ∧ Entry.link names = e := by simpa [hlink] using hroot
    -- A link has nothing below it.
    have hdir := hwithin.through (List.prefix_refl link) (below_iff.mpr ⟨hwithin.under, hne⟩)
    simp [he] at hdir
  · intro hstuck q hq
    refine ⟨link, .link names, hlink, ?_⟩
    have hloses := h.loses hfull
    obtain rfl : q = link := by
      by_contra hne
      have hleft := hstuck (hloses.lost hq) hne (hloses.entry hq)
      exact hq ((h.tried hr hfull hreach).kept (.inr (.inr hleft)))
    exact within_of_entry hfull (List.prefix_refl _) (hloses.entry hq)

theorem removeTree_part (hfull : full.WellFormed) :
    PartOf (removeTree r workDir root full).1 full := by
  by_cases hleft : ∃ link target, LinkLeft r workDir root full link target
  · obtain ⟨link, target, h⟩ := hleft
    exact (h.loses hfull).part
  · cases hroot : full.statLink workDir root with
    | error err =>
      simp only [removeTree, hroot]
      exact id
    | ok found =>
      exact (removeTree_loses hfull hroot fun link target h => hleft ⟨link, target, h⟩).part

/-- What a pass removes: its root and what is reached from there through directories, unless its
root is a link to a directory and is left. Then it is what is below that directory, and there all
that is not stuck. -/
structure Confined (r : Remover) (workDir : WorkDir) (root : Path) (full : FileTree) : Prop where
  part : PartOf (removeTree r workDir root full).1 full
  contained : (∀ link target, ¬ LinkLeft r workDir root full link target) →
    Contained r workDir root full
  through : ∀ {link target q}, LinkLeft r workDir root full link target →
    entry? (removeTree r workDir root full).1 q ≠ full.entry? q →
    Below target q ∧ full.Within target q
  left_iff : ∀ {link target q}, LinkLeft r workDir root full link target →
    full.Reaches workDir root target → Below target q → full.entry? q ≠ none →
    (Stuck r workDir root target full q ↔ entry? (removeTree r workDir root full).1 q ≠ none)
  contained_iff : ∀ {link target}, LinkLeft r workDir root full link target →
    full.Reaches workDir root target →
    (Contained r workDir root full ↔
      ∀ {q}, Below target q → q ≠ link → full.entry? q ≠ none →
        Stuck r workDir root target full q)

end Confined

/-! A file in a directory, and a link to the directory that is locked. -/

def linkedTree : FileTree :=
  ⟨[(["d".toList], .dir), (["d".toList, "f".toList], .file [] false),
    (["l".toList], .link "d".toList)]⟩

def lockedLink : Remover := fun _ p => if p = "/l".toList then .refuse "locked".toList else .permit

theorem lockedLink_firm : lockedLink.Firm := by
  intro kind p reason
  unfold lockedLink
  split <;> simp

theorem linkedTree_wellFormed : linkedTree.WellFormed := wellFormed_of_stacked (by decide +kernel)

theorem linkedTree_root :
    linkedTree.statLink .root "/l".toList = .ok (["l".toList], .link "d".toList) :=
  ok_of_toOption (by decide +kernel)

/-- The link is left, and the file that is not below it is gone. -/
theorem link_target_emptied : lockedLink.Firm ∧ linkedTree.WellFormed ∧
    ¬ Contained lockedLink .root "/l".toList linkedTree := by
  refine ⟨lockedLink_firm, linkedTree_wellFormed, fun hcontained => ?_⟩
  obtain ⟨place, e, hroot, hwithin⟩ :=
    hcontained (q := ["d".toList, "f".toList]) (by decide +kernel)
  obtain ⟨rfl, -⟩ : ["l".toList] = place ∧ Entry.link "d".toList = e := by
    simpa using linkedTree_root.symm.trans hroot
  exact absurd hwithin.under (by decide)

/-- **What a removal pass can reach.** A pass removes its root and entries that are reached from
there through directories, whichever attempts fail, unless its root is a link to a directory and
that link is refused. Then the link is left, and what is removed is below the other directory: all
that has nothing refused at or below it, as long as the path does not go through what is removed. -/
theorem removeTree_confined {r : Remover} {workDir : WorkDir} {root : Path} {full : FileTree}
    (hr : r.Firm) (hfull : full.WellFormed) : Confined r workDir root full where
  part := removeTree_part hfull
  contained := contained_of_not_linkLeft hfull
  through h hq :=
    have hbelow := (h.loses hfull).lost hq
    ⟨hbelow, within_of_entry hfull (below_iff.mp hbelow).1 ((h.loses hfull).entry hq)⟩
  left_iff h hreach hbelow hentry := h.left_iff hr hfull hreach hbelow hentry
  contained_iff h hreach := h.contained_iff hr hfull hreach

theorem linked_confined :
    (∃ link target, LinkLeft lockedLink .root "/l".toList linkedTree link target ∧
      linkedTree.Reaches .root "/l".toList target ∧
      Confined lockedLink .root "/l".toList linkedTree) ∧
    Contained Remover.system .root "/l".toList linkedTree := by
  constructor
  · refine ⟨["l".toList], ["d".toList], ?_, ?_, removeTree_confined lockedLink_firm
      linkedTree_wellFormed⟩
    · exact ⟨⟨_, linkedTree_root⟩, ok_of_toOption (by decide +kernel), _, rfl⟩
    · exact ⟨by decide, by decide +kernel, ok_of_toOption (by decide +kernel)⟩
  · refine (removeTree_confined Remover.system_firm linkedTree_wellFormed).contained ?_
    rintro link target ⟨-, -, reason, hrefused⟩
    simp [Remover.system] at hrefused

end FileTree

end KarelBuild
