import KarelBuild.CommandLine
import KarelBuild.Proofs.Answers
import KarelBuild.Proofs.Path.Normal
import Mathlib.Data.List.Find
import Mathlib.Data.List.Forall2

/-!
# Arguments of a request and its source

A request made from arguments has the first of its translator arguments that ends in `.kl` as its
source, in the form it has among these arguments, which is a path by names from the root. Each
argument stays as it is or becomes a normal path, and then never changes again (`ofArgs_normal`). In
the arguments as they were written the source is the first one that ends in `.kl`, or that ends in a
dot and stands for something that does (`MadeOf.source_as_written`).
-/

namespace KarelBuild

namespace Request

/-- A request made from arguments. What is set later leaves the arguments and the source alone. -/
def MadeOf (q : Request) (workDir : Except OsError Path) (args : List Text) : Prop :=
  ∃ r, ofArgs workDir args q.searchPath = .ok r ∧ q.translatorArgs = r.translatorArgs ∧
    q.source? = r.source?

variable {q : Request} {workDir : Except OsError Path} {args : List Text}

theorem ofArgs_ok {searchPath : SearchPath} {r : Request}
    (h : ofArgs workDir args searchPath = .ok r) :
    r.source? = r.translatorArgs.find? isSource ∧ r.searchPath = searchPath := by
  unfold ofArgs at h
  rcases hm : args.mapM (absoluteArg workDir) with _ | made
  · simp [hm, Except.map] at h
  · rw [hm] at h
    obtain rfl := Except.ok.inj h
    exact ⟨rfl, rfl⟩

theorem MadeOf.source_eq (h : q.MadeOf workDir args) :
    q.source? = q.translatorArgs.find? isSource := by
  obtain ⟨r, hr, hargs, hsource⟩ := h
  rw [hsource, hargs]
  exact (ofArgs_ok hr).1

/-- Every request of the command line is made from its arguments. -/
theorem madeOf_requestOf {o : Options} {h : Host} (hq : CommandLine.requestOf o h = .ok q) :
    q.MadeOf h.workPath o.args := by
  unfold CommandLine.requestOf at hq
  rcases hs : SearchPath.ofDirs h.workPath o.includeDirs with _ | searchPath
  · simp [hs, bind, Except.bind] at hq
  · rcases hr : ofArgs h.workPath o.args searchPath with _ | r
    · simp [hs, hr, bind, Except.bind] at hq
    · simp only [hs, hr, bind, Except.bind, pure, Except.pure] at hq
      obtain rfl := Except.ok.inj hq
      obtain ⟨-, hsearch⟩ := ofArgs_ok hr
      exact ⟨r, hsearch ▸ hr, rfl, rfl⟩

/-! ## The name of a source -/

theorem slash_not_mem_sourceSuffix : '/' ∉ sourceSuffix := by decide

theorem isSource_iff {t : Text} : isSource t = true ↔ ∃ r, t = r ++ sourceSuffix := by
  rw [isSource, List.isSuffixOf_iff_suffix]
  constructor
  · rintro ⟨r, rfl⟩
    exact ⟨r, rfl⟩
  · rintro ⟨r, rfl⟩
    exact ⟨r, rfl⟩

theorem isSource_append {t : Text} (ht : isSource t = true) (r : Text) :
    isSource (r ++ t) = true := by
  obtain ⟨u, rfl⟩ := isSource_iff.mp ht
  exact isSource_iff.mpr ⟨r ++ u, (List.append_assoc r u sourceSuffix).symm⟩

/-- The file name of a source is its last name, which is a source too. -/
theorem fileName?_of_isSource {p : Path} (hp : isSource p = true) :
    Path.fileName? p = some (Path.baseName p) ∧ isSource (Path.baseName p) = true := by
  obtain ⟨r, rfl⟩ := isSource_iff.mp hp
  have hlast : (r ++ sourceSuffix).getLast? = some 'l' := by
    simp [sourceSuffix, List.getLast?_append]
  refine ⟨Path.fileName?_of_last hlast (by decide) (by decide), ?_⟩
  rw [Path.baseName_append slash_not_mem_sourceSuffix]
  exact isSource_iff.mpr ⟨_, rfl⟩

/-! ## The form of a source -/

theorem absolutePath_ok {p made : Path} (h : absolutePath workDir p = .ok made) :
    ∃ dir, made = Path.absoluteFrom dir p ∧ (Path.isAbsolute p = true ∨ workDir = .ok dir) := by
  unfold absolutePath at h
  split at h
  · simp at h
  · split at h
    next hp => exact ⟨[], (Except.ok.inj h).symm, .inl hp⟩
    next =>
      split at h
      next dir => exact ⟨dir, (Except.ok.inj h).symm, .inr rfl⟩
      next => simp at h

theorem absoluteArg_of_isSource {arg made : Text} (h : absoluteArg workDir arg = .ok made)
    (hmade : isSource made = true) : absolutePath workDir arg = .ok made := by
  unfold absoluteArg at h
  split at h
  next =>
    cases hp : absolutePath workDir arg with
    | error f => simp [hp, Except.mapError] at h
    | ok made' => simpa [hp, Except.mapError] using h
  next hpath =>
    obtain rfl := Except.ok.inj h
    simp [isPathArg, hmade] at hpath

/-- A source is the absolute form of an argument. -/
theorem MadeOf.exists_absolutePath {source : Path} (h : q.MadeOf workDir args)
    (hsource : q.source? = some source) : ∃ arg ∈ args, absolutePath workDir arg = .ok source := by
  have hfind : q.translatorArgs.find? isSource = some source := h.source_eq.symm.trans hsource
  obtain ⟨r, hr, hargs, -⟩ := h
  rw [hargs] at hfind
  unfold ofArgs at hr
  cases hm : args.mapM (absoluteArg workDir) with
  | error f => simp [hm, Except.map] at hr
  | ok made =>
    rw [hm] at hr
    obtain rfl := Except.ok.inj hr
    obtain ⟨arg, hmem, harg⟩ := mem_of_mapM hm (List.mem_of_find?_eq_some hfind)
    exact ⟨arg, hmem, absoluteArg_of_isSource harg (List.find?_some hfind)⟩

theorem MadeOf.isSource_source {source : Path} (h : q.MadeOf workDir args)
    (hsource : q.source? = some source) : isSource source = true :=
  List.find?_some (h.source_eq.symm.trans hsource)

/-- A source is a path by names if relative paths count from one. -/
theorem MadeOf.rooted_source {source : Path} (h : q.MadeOf workDir args)
    (hsource : q.source? = some source)
    (hdir : ∀ dir, workDir = .ok dir → Path.IsCanonical dir) :
    ∃ lead names, Path.Rooted source lead names := by
  have hsuffix := h.isSource_source hsource
  obtain ⟨arg, -, harg⟩ := h.exists_absolutePath hsource
  obtain ⟨dir, rfl, hcounts⟩ := absolutePath_ok harg
  obtain ⟨p, lead, names, hp, heq | heq⟩ := Path.absoluteFrom_eq (hcounts.imp_right (hdir dir))
  · exact ⟨lead, names, heq ▸ hp⟩
  · obtain ⟨u, hu⟩ := isSource_iff.mp hsuffix
    have hlast := congrArg List.getLast? (heq.symm.trans hu)
    simp [sourceSuffix, List.getLast?_append] at hlast

/-! ## What arguments become -/

/-- What an argument becomes if relative paths count from a directory. -/
def settle (dir : Path) (arg : Text) : Text :=
  if isPathArg arg then Path.absoluteFrom dir arg else arg

/-- Nothing, an option or a core version, and no source. -/
def Untouched (arg : Text) : Prop :=
  isSource arg = false ∧ arg.head? ∈ [none, some '/', some 'V', some 'v']

theorem isPathArg_eq_false_iff {arg : Text} : isPathArg arg = false ↔ Untouched arg := by
  unfold isPathArg Untouched
  cases arg with
  | nil => simp
  | cons c r => simp [or_iff_not_imp_left]

theorem absolutePath_of_isAbsolute {p : Path} (h : Path.isAbsolute p = true) (dir : Path) :
    absolutePath workDir p = .ok (Path.absoluteFrom dir p) := by
  have hstart : Path.start [] p = Path.start dir p := by simp [Path.start, h]
  simp [absolutePath, Path.ne_nil_of_isAbsolute h, h, Path.absoluteFrom, hstart]

/-- With a working directory every argument becomes something. -/
theorem absoluteArg_ok (dir : Path) (arg : Text) :
    absoluteArg (.ok dir) arg = .ok (settle dir arg) := by
  unfold absoluteArg settle
  split
  next hpath =>
    cases habsolute : Path.isAbsolute arg with
    | true => rw [absolutePath_of_isAbsolute habsolute dir, Except.mapError]
    | false =>
      have hne : arg ≠ [] := by
        rintro rfl
        exact absurd hpath (by decide)
      simp [absolutePath, hne, habsolute, Except.mapError]
  next => rfl

theorem ofArgs_of_mapM {made : List Text} (h : args.mapM (absoluteArg workDir) = .ok made)
    (searchPath : SearchPath) : ofArgs workDir args searchPath =
      .ok { translatorArgs := made, source? := made.find? isSource, searchPath } := by
  rw [ofArgs, h]
  rfl

theorem mapM_absoluteArg (dir : Path) (args : List Text) :
    args.mapM (absoluteArg (.ok dir)) = .ok (args.map (settle dir)) := by
  have hpure : absoluteArg (.ok dir) = fun arg => pure (settle dir arg) :=
    funext (absoluteArg_ok dir)
  rw [hpure, List.mapM_pure]
  rfl

/-- What has become of an argument: nothing for one that stays as it is, else its absolute form,
which is normal. -/
structure Settled (dir : Path) (arg made : Text) : Prop where
  untouched : Untouched arg → made = arg
  path : ¬ Untouched arg → made = Path.absoluteFrom dir arg ∧ Path.Normal made

theorem settled {dir : Path} (hdir : Path.Normal dir) (arg : Text) :
    Settled dir arg (settle dir arg) := by
  constructor
  case untouched =>
    intro h
    rw [settle, isPathArg_eq_false_iff.mpr h]
    rfl
  case path =>
    intro h
    have hpath : isPathArg arg = true := by
      rw [← isPathArg_eq_false_iff] at h
      simpa using h
    rw [settle, if_pos hpath]
    exact ⟨rfl, Path.normal_absoluteFrom (.inr hdir)⟩

/-- What is settled stays, whatever directory relative paths count from. -/
theorem absoluteArg_of_settled {dir : Path} {arg made : Text} (h : Settled dir arg made) :
    absoluteArg workDir made = .ok made := by
  by_cases hkept : Untouched arg
  · obtain rfl := h.untouched hkept
    rw [absoluteArg, isPathArg_eq_false_iff.mpr hkept]
    rfl
  · obtain ⟨-, hnormal⟩ := h.path hkept
    unfold absoluteArg
    split
    · rw [absolutePath_of_isAbsolute hnormal.absolute [], Path.absoluteFrom_of_normal hnormal,
        Except.mapError]
    · rfl

/-- **The arguments of a request are a normal form.** If relative paths count from a normal path,
every list of arguments gives a request. It has one argument for each, in their order: an option, a
core version and nothing stay, and all else becomes a normal path. A request made of its arguments,
whatever directory relative paths count from, has the same arguments and the same source. -/
theorem ofArgs_normal {dir : Path} (hdir : Path.Normal dir) (args : List Text)
    (searchPath : SearchPath) :
    ∃ r, ofArgs (.ok dir) args searchPath = .ok r ∧
      List.Forall₂ (Settled dir) args r.translatorArgs ∧
      ∀ workDir searchPath', ∃ r', ofArgs workDir r.translatorArgs searchPath' = .ok r' ∧
        r'.translatorArgs = r.translatorArgs ∧ r'.source? = r.source? := by
  refine ⟨_, ofArgs_of_mapM (mapM_absoluteArg dir args) searchPath, ?_, ?_⟩
  · exact List.forall₂_map_right_iff.mpr (List.forall₂_same.mpr fun arg _ => settled hdir arg)
  · intro workDir searchPath'
    have hagain : (args.map (settle dir)).mapM (absoluteArg workDir) =
        .ok (args.map (settle dir)) := by
      have hpure : absoluteArg workDir ∘ settle dir = fun arg => pure (settle dir arg) :=
        funext fun arg => absoluteArg_of_settled (settled hdir arg)
      rw [List.mapM_map, hpure, List.mapM_pure]
      rfl
    exact ⟨_, ofArgs_of_mapM hagain searchPath', rfl, rfl⟩

/-! Arguments of every kind. -/

def mixedArgs : List Text :=
  ["", "/config", "V7.70-1", "./lib//sub/.", "V.kl", "//a/./b.kl", "///c.kl", "d/../e/"].map
    String.toList

theorem mixed_normal : Path.Normal "/s".toList ∧
    ∃ r, ofArgs (.ok "/s".toList) mixedArgs ⟨[]⟩ = .ok r ∧
      List.Forall₂ (Settled "/s".toList) mixedArgs r.translatorArgs ∧
      r.translatorArgs = (["", "/config", "V7.70-1", "/s/lib/sub", "/s/V.kl", "//a/b.kl", "/c.kl",
        "/s/d/../e/"].map String.toList) := by
  have hdir : Path.Normal "/s".toList := ⟨rfl, by decide, by decide⟩
  obtain ⟨r, hr, hsettled, -⟩ := ofArgs_normal hdir mixedArgs ⟨[]⟩
  refine ⟨hdir, r, hr, hsettled, ?_⟩
  obtain rfl := Except.ok.inj ((ofArgs_of_mapM (mapM_absoluteArg _ _) _).symm.trans hr)
  decide +kernel

/-! ## The source as it was written -/

theorem isSource_baseName (p : Path) : isSource (Path.baseName p) = isSource p := by
  rw [Bool.eq_iff_iff]
  constructor
  · intro h
    obtain ⟨r, hr⟩ := Path.baseName_suffix p
    rw [← hr]
    exact isSource_append h r
  · exact fun h => (fileName?_of_isSource h).2

theorem isSource_absoluteFrom (dir p : Path) : isSource (Path.absoluteFrom dir p) =
    (!Path.endsInSlash p && isSource ((Path.names p).getLast?.getD (Path.start dir p))) := by
  rw [← isSource_baseName, Path.baseName_absoluteFrom]
  cases Path.endsInSlash p with
  | true => rfl
  | false =>
    rw [if_neg (by simp), Bool.not_false, Bool.true_and]
    cases (Path.names p).getLast? with
    | some n => rfl
    | none => exact isSource_baseName (Path.start dir p)

/-- A path whose last name is a dot, where the dot stands for a name or a directory that ends in
`.kl`. -/
def disguised (dir : Path) (arg : Text) : Bool :=
  isPathArg arg && Path.baseName arg == ['.'] && isSource ((Path.names arg).getLast?.getD dir)

/-- Only a source is a path though it begins with a slash. -/
theorem isAbsolute_of_isPathArg {arg : Text} (hpath : isPathArg arg = true)
    (hsource : isSource arg = false) : Path.isAbsolute arg = false := by
  cases arg with
  | nil => rfl
  | cons c r =>
    rw [isPathArg, hsource] at hpath
    have hc : c ≠ '/' := by
      rintro rfl
      simp at hpath
    simpa [Path.isAbsolute] using hc

theorem isSource_settle (dir : Path) (arg : Text) :
    isSource (settle dir arg) = (isSource arg || disguised dir arg) := by
  unfold settle disguised
  cases hpath : isPathArg arg with
  | false =>
    have hsource := (isPathArg_eq_false_iff.mp hpath).1
    simp [hsource]
  | true =>
    rw [if_pos rfl, Bool.true_and, isSource_absoluteFrom, ← isSource_baseName arg]
    by_cases hnil : Path.baseName arg = []
    · have hend : Path.endsInSlash arg = true := by
        refine (Path.baseName_eq_nil_iff.mp hnil).resolve_left ?_
        rintro rfl
        exact absurd hpath (by decide)
      rw [hnil, hend]
      rfl
    · have hend : Path.endsInSlash arg = false := by
        rw [Path.baseName_eq_nil_iff] at hnil
        simpa using (not_or.mp hnil).2
      rw [hend, Bool.not_false, Bool.true_and]
      by_cases hdot : Path.baseName arg = ['.']
      · have hsource : isSource arg = false := by
          rw [← isSource_baseName, hdot]
          rfl
        have hstart : Path.start dir arg = dir := by
          simp [Path.start, isAbsolute_of_isPathArg hpath hsource]
        have hdotted : isSource ['.'] = false := rfl
        rw [hdot, hstart, hdotted, beq_self_eq_true, Bool.true_and, Bool.false_or]
      · have hplain : Path.Plain (Path.baseName arg) :=
          ⟨hnil, Path.slash_not_mem_baseName arg, hdot⟩
        simp [Path.names_getLast? hplain, hdot]

theorem isPathArg_of_isSource_settle {dir : Path} {arg : Text}
    (h : isSource (settle dir arg) = true) : isPathArg arg = true := by
  by_contra hpath
  rw [settle, if_neg hpath] at h
  simp [isPathArg, h] at hpath

theorem MadeOf.translatorArgs_eq {dir : Path} (h : q.MadeOf (.ok dir) args) :
    q.translatorArgs = args.map (settle dir) := by
  obtain ⟨r, hr, hargs, -⟩ := h
  obtain rfl := Except.ok.inj (hr.symm.trans (ofArgs_of_mapM (mapM_absoluteArg dir args) _))
  exact hargs

theorem MadeOf.source?_eq {dir : Path} (h : q.MadeOf (.ok dir) args) : q.source? =
    (args.find? fun arg => isSource arg || disguised dir arg).map (Path.absoluteFrom dir) := by
  have hkind : isSource ∘ settle dir = fun arg => isSource arg || disguised dir arg :=
    funext (isSource_settle dir)
  rw [h.source_eq, h.translatorArgs_eq, List.find?_map, hkind]
  refine Option.map_congr fun arg harg => ?_
  have hsettled : isSource (settle dir arg) = true := by
    simpa [isSource_settle] using List.find?_some harg
  rw [settle, if_pos (isPathArg_of_isSource_settle hsettled)]

/-- **Which argument is the source.** The source is the absolute form of the first argument that ends
in `.kl` or is disguised. So where no argument is disguised the arguments decide as they were
written, and without one of either kind the arguments are passed through. -/
theorem MadeOf.source_as_written {dir : Path} (h : q.MadeOf (.ok dir) args) :
    q.source? =
      (args.find? fun arg => isSource arg || disguised dir arg).map (Path.absoluteFrom dir) ∧
    ((∀ arg ∈ args, disguised dir arg = false) →
      q.source? = (args.find? isSource).map (Path.absoluteFrom dir)) ∧
    ∀ {σ : Type} (b : Build σ), b.request = q →
      (∀ arg ∈ args, isSource arg = false ∧ disguised dir arg = false) →
      b.run = (do
        BuildM.note .noBuildNeeded
        b.passThrough) := by
  refine ⟨h.source?_eq, ?_, ?_⟩
  · intro hnone
    have hfind : (args.find? fun arg => isSource arg || disguised dir arg) = args.find? isSource :=
      List.find?_congr fun arg harg => by simp [hnone arg harg]
    rw [h.source?_eq, hfind]
  · rintro σ b rfl hnone
    have hpass : b.request.source? = none := by
      rw [h.source?_eq, Option.map_eq_none_iff, List.find?_eq_none]
      intro arg harg
      simp [hnone arg harg]
    unfold Build.run
    rw [hpass]

theorem madeOf_ofArgs {searchPath : SearchPath} {r : Request}
    (h : ofArgs workDir args searchPath = .ok r) : r.MadeOf workDir args := by
  obtain ⟨-, rfl⟩ := ofArgs_ok h
  exact ⟨r, h, rfl, rfl⟩

/-! A source behind an option, a core version and a path that ends in a dot, what stands before it,
and a dot that is taken for a source. -/

def dottedArgs : List Text := ["/config", "V7.70-1", "lib/."].map String.toList

theorem dotted_source :
    (∃ q : Request, q.MadeOf (.ok "/w".toList) (dottedArgs ++ ["./sub//main.kl".toList]) ∧
      q.source? = some "/w/sub/main.kl".toList) ∧
    ∃ q : Request, q.MadeOf (.ok "/w".toList) dottedArgs ∧
      ∀ b : Build Unit, b.request = q → b.run = (do
        BuildM.note .noBuildNeeded
        b.passThrough) := by
  constructor
  · have h := madeOf_ofArgs (ofArgs_of_mapM
      (mapM_absoluteArg "/w".toList (dottedArgs ++ ["./sub//main.kl".toList])) ⟨[]⟩)
    refine ⟨_, h, ?_⟩
    rw [h.source_as_written.2.1 (by decide +kernel)]
    decide +kernel
  · have h := madeOf_ofArgs (ofArgs_of_mapM (mapM_absoluteArg "/w".toList dottedArgs) ⟨[]⟩)
    exact ⟨_, h, fun b hb => h.source_as_written.2.2 b hb (by decide +kernel)⟩

theorem dot_taken_for_source : ¬ ∀ (args : List Text) (dir : Path) (q : Request), Path.Normal dir →
    q.MadeOf (.ok dir) args → (q.source?.isSome = true ↔ ∃ arg ∈ args, isSource arg = true) := by
  intro hall
  have hmade := madeOf_ofArgs (ofArgs_of_mapM (mapM_absoluteArg "/p.kl".toList [['.']]) ⟨[]⟩)
  have hsource := hall [['.']] "/p.kl".toList _ ⟨rfl, by decide, by decide⟩ hmade
  obtain ⟨arg, harg, hkind⟩ := hsource.mp (by decide +kernel)
  obtain rfl := List.mem_singleton.mp harg
  exact absurd hkind (by decide)

end Request

end KarelBuild
