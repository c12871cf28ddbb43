import KarelBuild.Proofs.Dependencies
import KarelBuild.Proofs.Include

/-!
# How Make reads a rule

Make goes on in the next line where a line ends in a backslash, takes what stands before the first
colon for targets, and tells names apart by blanks. A rule is written without any quoting, so what
Make reads is what the rule lists exactly when every dependency is one word and the last one does
not join its line with the next (`Rule.readable_iff`). Names from a source never have blanks in them,
but directories may.
-/

namespace KarelBuild

namespace Make

/-! ## Reading -/

def isBlank (c : Char) : Bool := c == ' ' || c == '\t'

/-- The text up to the first line end that has no backslash before it. One that has counts as a
blank, and so does its backslash. -/
def logicalLine : Text → Text
  | [] => []
  | '\\' :: '\n' :: rest => ' ' :: logicalLine rest
  | '\n' :: _ => []
  | c :: rest => c :: logicalLine rest

def words (t : Text) : List Text := (t.splitOnP isBlank).filter (· ≠ [])

/-- The targets and the prerequisites of the rule that a text begins with. -/
def read? (t : Text) : Option (List Text × List Text) :=
  match Text.cut ':' (logicalLine t) with
  | (targets, some prerequisites) => some (words targets, words prerequisites)
  | (_, none) => none

/-- No blank and no line end is in the text, which may be empty. -/
def Unbroken (t : Text) : Prop := ∀ c ∈ t, isBlank c = false ∧ c ≠ '\n'

instance (t : Text) : Decidable (Unbroken t) :=
  decidable_of_iff (t.all fun c => !isBlank c && c != '\n') (by simp [Unbroken])

/-- A text that is read as one word. -/
structure IsWord (t : Text) : Prop where
  nonempty : t ≠ []
  unbroken : Unbroken t

theorem IsWord.noBlank {t : Text} (h : IsWord t) : ∀ c ∈ t, isBlank c = false :=
  fun c hc => (h.unbroken c hc).1

theorem IsWord.noLineEnd {t : Text} (h : IsWord t) : '\n' ∉ t := fun hc => (h.unbroken _ hc).2 rfl

theorem unbroken_append {t u : Text} (ht : Unbroken t) (hu : Unbroken u) : Unbroken (t ++ u) := by
  intro c hc
  rcases List.mem_append.mp hc with hc | hc
  · exact ht c hc
  · exact hu c hc

/-! ## Words -/

theorem words_append {c : Char} (hc : isBlank c = true) (t u : Text) :
    words (t ++ c :: u) = words t ++ words u := by
  unfold words
  rw [List.splitOnP_append_cons t u hc, List.filter_append]

theorem words_nil : words [] = [] := rfl

theorem words_cons {c : Char} (hc : isBlank c = true) (t : Text) : words (c :: t) = words t :=
  words_append hc [] t

theorem words_of_noBlank {t : Text} (hne : t ≠ []) (h : ∀ c ∈ t, isBlank c = false) :
    words t = [t] := by
  rw [words, List.splitOnP_eq_singleton h]
  simp [hne]

/-- The pieces between blanks have no blanks in them, and no other characters than the text. -/
theorem mem_splitOnP {p : Char → Bool} {t w : Text} (h : w ∈ t.splitOnP p) :
    ∀ c ∈ w, p c = false ∧ c ∈ t := by
  induction t generalizing w with
  | nil => simp_all
  | cons d t ih =>
    rw [List.splitOnP_cons_eq_if_modifyHead] at h
    split at h
    next =>
      rcases List.mem_cons.mp h with rfl | h
      · simp
      · intro c hc
        exact ⟨(ih h c hc).1, List.mem_cons_of_mem d (ih h c hc).2⟩
    next hd =>
      obtain ⟨w', ws, hws⟩ := List.exists_cons_of_ne_nil (List.splitOnP_ne_nil p t)
      rw [hws, List.modifyHead_cons] at h
      intro c hc
      rcases List.mem_cons.mp h with rfl | h
      · rcases List.mem_cons.mp hc with rfl | hc
        · exact ⟨by simpa using hd, List.mem_cons_self ..⟩
        · have hfirst := ih (w := w') (by simp [hws]) c hc
          exact ⟨hfirst.1, List.mem_cons_of_mem d hfirst.2⟩
      · have hlater := ih (w := w) (by simp [hws, h]) c hc
        exact ⟨hlater.1, List.mem_cons_of_mem d hlater.2⟩

/-! ## Lines -/

/-- A text without line ends is a part of its line, unless its last backslash is followed by one. -/
theorem logicalLine_append {t u : Text} (ht : '\n' ∉ t)
    (hjoin : t.getLast? ≠ some '\\' ∨ u.head? ≠ some '\n') :
    logicalLine (t ++ u) = t ++ logicalLine u := by
  induction t with
  | nil => rfl
  | cons c t ih =>
    obtain ⟨hc, ht'⟩ : '\n' ≠ c ∧ '\n' ∉ t := by simpa using ht
    have hrest : logicalLine (t ++ u) = t ++ logicalLine u := by
      cases t with
      | nil => rfl
      | cons d t => exact ih ht' (by simpa using hjoin)
    -- No line end can come right after a backslash here.
    have hstep (h : ∀ v, c = '\\' → t ++ u = '\n' :: v → False) :
        logicalLine (c :: (t ++ u)) = c :: logicalLine (t ++ u) := by
      rw [logicalLine]
      · exact h
      · exact fun h => hc h.symm
    rw [List.cons_append, hstep, hrest, List.cons_append]
    rintro v rfl hv
    cases t with
    | nil => simp_all
    | cons d t =>
      obtain rfl : d = '\n' := by simpa using congrArg List.head? hv
      simp at ht'

theorem logicalLine_noLineEnd (t : Text) : '\n' ∉ logicalLine t := by
  fun_induction logicalLine t with
  | case1 => simp
  | case2 rest ih => simpa using ih
  | case3 => simp
  | case4 c rest _ hc ih => simpa [ih] using fun h => hc h.symm

theorem isWord_of_mem_words {t w : Text} (h : w ∈ words (logicalLine t)) : IsWord w := by
  obtain ⟨hpiece, hne⟩ := List.mem_filter.mp h
  have hchars := mem_splitOnP hpiece
  refine ⟨by simpa using hne, fun c hc => ⟨(hchars c hc).1, ?_⟩⟩
  rintro rfl
  exact logicalLine_noLineEnd t (hchars _ hc).2

/-- A word whose line ends behind it, where the line does not go on, is read as it is. -/
theorem words_closed {d : Text} (hd : IsWord d) (hlast : d.getLast? ≠ some '\\') (rest : Text) :
    words (logicalLine (d ++ '\n' :: rest)) = [d] := by
  rw [logicalLine_append hd.noLineEnd (.inl hlast)]
  have hend : logicalLine ('\n' :: rest) = [] := by simp [logicalLine]
  rw [hend, List.append_nil, words_of_noBlank hd.nonempty hd.noBlank]

/-- A backslash before the end of its line is no part of the word, and the next line is read too. -/
theorem words_joined {d : Text} (hd : '\n' ∉ d) (rest : Text) :
    words (logicalLine (d ++ '\\' :: '\n' :: rest)) = words d ++ words (logicalLine rest) := by
  rw [logicalLine_append hd (.inr (by simp))]
  have hgoes : logicalLine ('\\' :: '\n' :: rest) = ' ' :: logicalLine rest := by
    simp [logicalLine]
  rw [hgoes, words_append (by decide)]

theorem words_continuation {d : Text} (hd : IsWord d) (rest : Text) :
    words (logicalLine (d ++ Rule.continuation ++ rest)) = d :: words (logicalLine rest) := by
  have hgoes : logicalLine (Rule.continuation ++ rest) = ' ' :: ' ' :: '\t' :: logicalLine rest := by
    simp [Rule.continuation, logicalLine]
  rw [List.append_assoc, logicalLine_append hd.noLineEnd (.inr (by simp [Rule.continuation])), hgoes,
    words_append (by decide), words_cons (by decide), words_cons (by decide),
    words_of_noBlank hd.nonempty hd.noBlank, List.singleton_append]

theorem words_join {ds : List Text} (hds : ∀ d ∈ ds, IsWord d) (last rest : Text) :
    words (logicalLine (Text.join Rule.continuation (ds ++ [last]) ++ rest)) =
      ds ++ words (logicalLine (last ++ rest)) := by
  induction ds with
  | nil => rfl
  | cons d ds ih =>
    have hjoin : Text.join Rule.continuation (d :: (ds ++ [last])) =
        d ++ Rule.continuation ++ Text.join Rule.continuation (ds ++ [last]) := by
      cases ds <;> rfl
    rw [List.cons_append, hjoin, List.append_assoc, words_continuation (hds d (List.mem_cons_self ..)),
      ih fun e he => hds e (List.mem_cons_of_mem d he), List.cons_append]

end Make

/-! ## Reading a rule -/

namespace Rule

open Make

variable {r : Rule}

/-- What is written behind the first rule. -/
def emptyRules (r : Rule) : Text := if r.phony then r.dependencies.flatMap phonyLine else []

/-- What is written behind the colon. -/
def body (r : Rule) : Text := Text.join continuation r.dependencies ++ '\n' :: r.emptyRules

/-- Every dependency is one word, and the last one does not end in a backslash. -/
structure Readable (r : Rule) : Prop where
  words : ∀ d ∈ r.dependencies, IsWord d
  closed : ∀ d, r.dependencies.getLast? = some d → d.getLast? ≠ some '\\'

theorem render_eq (r : Rule) : r.render = r.target ++ " : ".toList ++ r.body := by
  simp [render, body, emptyRules]

/-- A target of one word is read as it is, and then come the words of the body. -/
theorem read?_render (ht : IsWord r.target) (hcolon : ':' ∉ r.target) :
    read? r.render = some ([r.target], Make.words (logicalLine r.body)) := by
  have hline : logicalLine r.render =
      (r.target ++ [' ']) ++ ':' :: ' ' :: logicalLine r.body := by
    rw [render_eq, logicalLine_append (by simp [ht.noLineEnd]) (.inl (by simp))]
    simp
  have htarget : Make.words (r.target ++ [' ']) = [r.target] := by
    rw [words_append (by decide), words_nil, List.append_nil,
      words_of_noBlank ht.nonempty ht.noBlank]
  have hcut := Text.cut_append (d := ':') (t := r.target ++ [' ']) (by simpa using hcolon)
    (' ' :: logicalLine r.body)
  simp only [read?, hline, hcut, htarget, words_cons (c := ' ') (by decide)]

theorem Readable.read (h : r.Readable) : Make.words (logicalLine r.body) = r.dependencies := by
  unfold body
  cases hds : r.dependencies using List.reverseRecOn with
  | nil => rfl
  | append_singleton ds last =>
    have hwords := h.words
    have hclosed := h.closed
    rw [hds] at hwords hclosed
    rw [words_join fun d hd => hwords d (List.mem_append_left _ hd),
      words_closed (hwords last (by simp)) (hclosed last (by simp))]

/-- What follows a rule that goes on in the next line does not begin with a backslash alone. -/
theorem words_emptyRules (h : ∀ d ∈ r.dependencies, IsWord d) :
    Make.words (logicalLine r.emptyRules) ≠ [['\\']] := by
  unfold emptyRules
  split
  next =>
    cases hds : r.dependencies with
    | nil => simp [logicalLine, words_nil]
    | cons d ds =>
      have hd := h d (by simp [hds])
      have hline : (d :: ds).flatMap phonyLine =
          (d ++ [':']) ++ '\n' :: ds.flatMap phonyLine := by simp [phonyLine]
      have hword : IsWord (d ++ [':']) :=
        ⟨by simp, unbroken_append hd.unbroken (by decide +kernel)⟩
      rw [hline, words_closed hword (by simp)]
      intro heq
      simpa using congrArg List.getLast? (List.singleton_inj.mp heq)
  next => simp [logicalLine, words_nil]

/-- **What Make reads.** The prerequisites are the dependencies exactly when the rule is readable. -/
theorem readable_iff : Make.words (logicalLine r.body) = r.dependencies ↔ r.Readable := by
  refine ⟨fun h => ?_, Readable.read⟩
  have hwords : ∀ d ∈ r.dependencies, IsWord d := fun d hd => isWord_of_mem_words (h ▸ hd)
  refine ⟨hwords, fun last hlast hjoins => ?_⟩
  obtain ⟨ds, hds⟩ := List.getLast?_eq_some_iff.mp hlast
  obtain ⟨d, rfl⟩ := List.getLast?_eq_some_iff.mp hjoins
  have hlastWord := hwords _ (List.mem_of_getLast? hlast)
  have hd : '\n' ∉ d := fun hc => hlastWord.noLineEnd (List.mem_append_left _ hc)
  -- The line goes on: the backslash is lost, and words of the next line come instead.
  have hread : Make.words d ++ Make.words (logicalLine r.emptyRules) = [d ++ ['\\']] := by
    unfold body at h
    rw [hds, words_join fun e he => hwords e (by rw [hds]; exact List.mem_append_left _ he),
      List.append_assoc, List.singleton_append, words_joined hd] at h
    exact List.append_cancel_left h
  by_cases hne : d = []
  · subst hne
    exact words_emptyRules hwords (by simpa [words_nil] using hread)
  · rw [words_of_noBlank hne fun c hc => hlastWord.noBlank c (List.mem_append_left _ hc)] at hread
    simp at hread

end Rule

/-! ## Names of a source -/

/-- What has no white space in it has no blank of Make either. -/
theorem Make.unbroken_of_not_isBlank {t : Text} (h : ∀ c ∈ t, Text.isBlank c = false) :
    Make.Unbroken t := by
  intro c hc
  have hne (d : Char) (hd : Text.isBlank d = true) : c ≠ d := by
    rintro rfl
    simp [h c hc] at hd
  exact ⟨by simp [Make.isBlank, hne ' ' (by decide), hne '\t' (by decide)], hne '\n' (by decide)⟩

/-- The names that a source includes are words. -/
theorem includes_isWord {source name : Text} (h : name ∈ includes source) : Make.IsWord name :=
  have htoken := isToken_of_mem_includes h
  ⟨htoken.nonempty, Make.unbroken_of_not_isBlank htoken.noBlank⟩

theorem Make.IsWord.join {dir name : Text} (hname : Make.IsWord name) (hdir : Make.Unbroken dir) :
    Make.IsWord (Path.join dir name) := by
  have hslash : Make.Unbroken ['/'] := by decide +kernel
  unfold Path.join
  split
  next => exact hname
  next =>
    split
    · exact ⟨by simp [hname.nonempty], unbroken_append hdir hname.unbroken⟩
    · exact ⟨by simp, unbroken_append hdir (unbroken_append hslash hname.unbroken)⟩

/-- In directories without blanks a name stands for one word, which ends as the name does. -/
theorem SearchPath.StandsFor.isWord {s : SearchPath} {files : Files} {policy : Policy} {name : Text}
    {p : Path} (h : s.StandsFor files policy name p) (hname : Make.IsWord name)
    (hdirs : ∀ dir ∈ s.dirs, Make.Unbroken dir) :
    Make.IsWord p ∧ p.getLast? = name.getLast? := by
  cases h with
  | absolute => exact ⟨hname, rfl⟩
  | found _ hsplit =>
    exact ⟨hname.join (hdirs _ (by simp [hsplit])), Path.join_getLast? hname.nonempty _⟩
  | generated => exact ⟨hname, rfl⟩

/-! ## Rules that are written -/

theorem exists_mem_of_forall₂ {α β : Type} {R : α → β → Prop} {xs : List α} {ys : List β}
    (h : List.Forall₂ R xs ys) {y : β} (hy : y ∈ ys) : ∃ x ∈ xs, R x y := by
  induction h with
  | nil => simp at hy
  | cons hxy _ ih =>
    rcases List.mem_cons.mp hy with rfl | hy
    · exact ⟨_, List.mem_cons_self .., hxy⟩
    · obtain ⟨x, hx, hR⟩ := ih hy
      exact ⟨x, List.mem_cons_of_mem _ hx, hR⟩

namespace Build

open BuildM

variable {σ : Type} (b : Build σ)

/-- From directories without blanks and names that do not end in a backslash comes a readable
rule. -/
theorem readable_ruleFor {files : Files} {text : Text} {r : Rule}
    (hr : b.request.RuleFor b.headers files (includes text) r)
    (hdirs : ∀ dir ∈ b.request.searchPath.dirs, Make.Unbroken dir)
    (hnames : ∀ name ∈ includes text, name.getLast? ≠ some '\\') : r.Readable := by
  obtain ⟨paths, hlists, hpaths⟩ := hr.lists
  have stands {d : Text} (hd : d ∈ r.dependencies) : ∃ name ∈ includes text,
      b.request.searchPath.StandsFor files b.request.policy name d := by
    obtain ⟨hmem, -⟩ := (hlists.mem_iff d).mp hd
    obtain ⟨name, hname, hstands⟩ := exists_mem_of_forall₂ hpaths hmem
    exact ⟨name, (List.mem_filter.mp hname).1, hstands⟩
  constructor
  · intro d hd
    obtain ⟨name, hname, hstands⟩ := stands hd
    exact (hstands.isWord (includes_isWord hname) hdirs).1
  · intro d hd
    obtain ⟨name, hname, hstands⟩ := stands (List.mem_of_getLast? hd)
    rw [(hstands.isWord (includes_isWord hname) hdirs).2]
    exact hnames name hname

/-! A directory with a blank in its name, and a header in it. -/

def spacedHost : Host where
  tree := ⟨[(["s".toList], .dir),
    (["s".toList, "m.kl".toList], .file (Utf8.encode "%INCLUDE foo.kl\n".toList) false),
    (["my inc".toList], .dir), (["my inc".toList, "foo.kl".toList], .file [] false)]⟩
  workDir := .root
  env := []
  serial := 0

def spacedBuild : Build Unit where
  request := {
    translatorArgs := ["/s/m.kl".toList]
    source? := some "/s/m.kl".toList
    searchPath := ⟨["/my inc".toList]⟩
    mode := .dependencyOnly }
  toolchain := ⟨"ktrans".toList, "gpp".toList⟩
  headers := .ofNames [] []
  runner := .idle

def spacedSession : Session Unit := ⟨spacedHost, (), {}, {}, .idle, []⟩

/-- A path with a blank is read as two. -/
theorem spaced_misread : ¬ ∀ (b : Build Unit) (dirs : List Path) (source : Path)
    (s s' : Session Unit) (o : Outcome),
    SearchPath.ofDirs s.host.workPath dirs = .ok b.request.searchPath →
    b.request.source? = some source → b.request.mode = .dependencyOnly →
    Make.Unbroken (b.request.target?.getD []) → ':' ∉ b.request.target?.getD [] →
    BuildM.run b.run s = (.ok o, s') → o.state = .done →
    ∃ text r, s.host.readText source = .ok text ∧
      b.request.RuleFor b.headers s.host.files (includes text) r ∧
      s.Sent s' (b.request.outlet s.host) r.render ∧
      ∃ targets, Make.read? r.render = some (targets, r.dependencies) := by
  intro h
  obtain ⟨s', hrun⟩ : ∃ s',
      BuildM.run spacedBuild.run spacedSession = (.ok ⟨.done, 0⟩, s') :=
    exists_run (by decide +kernel)
  obtain ⟨text, r, -, hr, hsent, targets, hread⟩ := h spacedBuild ["my inc".toList] "/s/m.kl".toList
    spacedSession s' ⟨.done, 0⟩ (ok_of_toOption (by decide +kernel)) rfl rfl
    (by decide +kernel) (by decide +kernel) hrun rfl
  have hwritten : s'.out.written = "m.pc : /my inc/foo.kl\n".toList := by
    have hout : (BuildM.run spacedBuild.run spacedSession).2.out.written =
        "m.pc : /my inc/foo.kl\n".toList := by decide +kernel
    rwa [hrun] at hout
  have hrender : r.render = "m.pc : /my inc/foo.kl\n".toList := by
    rw [← hwritten, hsent.1]
    rfl
  obtain rfl : r = ⟨"m.pc".toList, ["/my".toList, "inc/foo.kl".toList], false⟩ := by
    have htwo : Make.read? "m.pc : /my inc/foo.kl\n".toList =
        some (["m.pc".toList], ["/my".toList, "inc/foo.kl".toList]) := by decide +kernel
    rw [hrender, htwo] at hread
    obtain ⟨-, hdeps⟩ := Prod.mk.inj (Option.some.inj hread)
    have htarget : r.target = "m.pc".toList := hr.target.trans (by decide +kernel)
    have hphony : r.phony = false := hr.phony
    cases r
    simp_all
  exact absurd hrender (by decide +kernel)

/-- **What Make reads.** A dependency run that ends done has written a rule of which Make reads the
dependencies, one word each, exactly when all of them are words and the last does not end in a
backslash. So it does when the directories have no blanks in their names, and no name of the source
ends in a backslash. -/
theorem rule_read {source : Path} (hsource : b.request.source? = some source)
    (hmode : b.request.mode = .dependencyOnly) (hunbroken : Make.Unbroken (b.request.target?.getD []))
    (hcolon : ':' ∉ b.request.target?.getD []) {s s' : Session σ} {o : Outcome}
    (hrun : BuildM.run b.run s = (.ok o, s')) (hdone : o.state = .done) :
    ∃ text r, s.host.readText source = .ok text ∧
      b.request.RuleFor b.headers s.host.files (includes text) r ∧
      s.Sent s' (b.request.outlet s.host) r.render ∧
      ∃ prerequisites, Make.read? r.render = some ([r.target], prerequisites) ∧
        (prerequisites = r.dependencies ↔ r.Readable) ∧
        ((∀ dir ∈ b.request.searchPath.dirs, Make.Unbroken dir) →
          (∀ name ∈ includes text, name.getLast? ≠ some '\\') → prerequisites = r.dependencies) := by
  rw [b.run_dependencyOnly hsource hmode] at hrun
  obtain ⟨text, hread⟩ := b.readText_of_writeDependencies hrun
  rw [b.run_writeDependencies (includesOf_ok hread)] at hrun
  obtain ⟨m, -, rfl⟩ | ⟨-, -, r, hr, hne, hsent⟩ := b.conclude_ok hrun
  · simp at hdone
  · refine ⟨text, r, hread, hr, b.sent_of_scanned hsent, _, ?_, Rule.readable_iff, ?_⟩
    · rw [← hr.target] at hunbroken hcolon
      exact Rule.read?_render ⟨hne, hunbroken⟩ hcolon
    · exact fun hdirs hnames => (b.readable_ruleFor hr hdirs hnames).read

theorem sample_read : ∃ (s' : Session Unit) (r : Rule),
    BuildM.run (sampleBuild true none).run (sampleSession ()) = (.ok ⟨.done, 0⟩, s') ∧
      s'.out.written = r.render ∧ Make.read? r.render = some ([r.target], r.dependencies) := by
  obtain ⟨s', hrun⟩ : ∃ s',
      BuildM.run (sampleBuild true none).run (sampleSession ()) = (.ok ⟨.done, 0⟩, s') :=
    exists_run (by decide +kernel)
  obtain ⟨text, r, htext, -, hsent, prerequisites, hread, -, hall⟩ :=
    (sampleBuild true none).rule_read rfl rfl (by decide +kernel) (by decide +kernel) hrun rfl
  have hsample : sampleHost.readText sampleSource = .ok sampleText :=
    ok_of_toOption (by decide +kernel)
  obtain rfl : sampleText = text := Except.ok.inj (hsample.symm.trans htext)
  obtain rfl := hall (by decide +kernel) (by decide +kernel)
  refine ⟨s', r, hrun, ?_, hread⟩
  rw [hsent.1]
  rfl

end Build

end KarelBuild
