import KarelBuild.Proofs.Pipeline
import KarelBuild.Proofs.Text.Replace

/-!
# Reports that name the user's file

The translator has seen the intermediate file and names it in what it reports. When the workspace is
exchanged for the directory of the source, what was the intermediate file's path is the source's again
(`remap_filePath_iff`), unless the source is right under the root, whose path ends in the slash that
follows. All else in a report stays, and so do its lines (`remap_pieces`).
-/

namespace KarelBuild

/-- Between two texts stands the path of a file, and nowhere else is the workspace named. -/
def Workspace.NamedOnce (w : Workspace) (file : Path) (before after : Text) : Prop :=
  ∀ u v, before ++ file ++ after = u ++ w.path ++ v → u = before

namespace Build

variable {q : Request} {workDir : Except OsError Path} {args : List Text} {source : Path}
  {w : Workspace} {before after : Text}

/-- The one mention of a file of the workspace becomes one of a file in the other directory. -/
theorem remap_once {dir : Path} {name : Text} (hw : w.Extensible)
    (honce : w.NamedOnce (w.path ++ '/' :: name) before after) :
    remap w.path dir (before ++ (w.path ++ '/' :: name) ++ after) =
      before ++ (dir ++ '/' :: name) ++ after := by
  have hsplit (p : Path) : before ++ (p ++ '/' :: name) ++ after =
      before ++ p ++ ('/' :: name ++ after) := by simp
  rw [remap, if_neg hw.nonempty, hsplit, hsplit]
  exact Text.replaceAll_once hw.nonempty fun u v huv => honce u v (by rw [hsplit, huv])

/-! A source right under the root, in a report of the translator. -/

def rootSource : Path := "/m.kl".toList

def rootRequest : Request where
  translatorArgs := [rootSource]
  source? := some rootSource
  searchPath := ⟨[]⟩

def lineMark : Text := "(3): unknown identifier\n".toList

/-- Such a source is named with two slashes. -/
theorem root_source_misnamed : ¬ ∀ (q : Request) (workDir : Except OsError Path) (args : List Text)
    (source : Path) (w : Workspace) (before after : Text),
    (∀ dir, workDir = .ok dir → Path.IsCanonical dir) → q.MadeOf workDir args →
    q.source? = some source → Path.isAbsolute w.path = true → Path.endsInSlash w.path = false →
    w.NamedOnce (w.filePath source) before after →
    remap w.path ((Path.parent? source).getD []) (before ++ w.filePath source ++ after) =
      before ++ source ++ after := by
  intro h
  have hdir (dir : Path) (hd : Except.ok "/".toList = (.ok dir : Except OsError Path)) :
      Path.IsCanonical dir := by
    obtain rfl := Except.ok.inj hd
    exact ⟨[], rfl, .inl rfl, by simp⟩
  have honce : twiceWorkspace.NamedOnce (twiceWorkspace.filePath rootSource) [] lineMark :=
    fun _ _ => Text.eq_of_occurrence (by decide +kernel)
  have hreport := h rootRequest (.ok "/".toList) [rootSource] rootSource twiceWorkspace [] lineMark
    hdir ⟨rootRequest, ok_of_toOption (by decide +kernel), rfl, rfl⟩ rfl rfl rfl honce
  exact absurd hreport (by decide +kernel)

/-- **Reports name the user's file.** What names the intermediate file once comes out with the path of
the source in its place, exactly when the source is not right under the root; there it comes out with
one slash more. -/
theorem remap_filePath_iff (hdir : ∀ dir, workDir = .ok dir → Path.IsCanonical dir)
    (hmade : q.MadeOf workDir args) (hsource : q.source? = some source)
    (habs : Path.isAbsolute w.path = true) (hopen : Path.endsInSlash w.path = false)
    (honce : w.NamedOnce (w.filePath source) before after) :
    let report := remap w.path ((Path.parent? source).getD []) (before ++ w.filePath source ++ after)
    (report = before ++ source ++ after ↔ source ≠ '/' :: Path.baseName source) ∧
      (source = '/' :: Path.baseName source → report = before ++ '/' :: source ++ after) := by
  intro report
  have hsuffix : Request.isSource source = true :=
    List.find?_some (hmade.source_eq.symm.trans hsource)
  obtain ⟨hname, -⟩ := Request.fileName?_of_isSource hsuffix
  have hw : w.Extensible := by
    refine ⟨?_, hopen⟩
    intro h
    simp [h, Path.isAbsolute] at habs
  have hfile : w.filePath source = w.path ++ '/' :: Path.baseName source :=
    hw.filePath_eq hname (Path.slash_not_mem_baseName source)
  obtain ⟨lead, names, hrooted⟩ := hmade.rooted_source hsource hdir
  obtain ⟨c, hlast, hslash, hdot⟩ : ∃ c, source.getLast? = some c ∧ c ≠ '/' ∧ c ≠ '.' := by
    obtain ⟨r, rfl⟩ := Request.isSource_iff.mp hsuffix
    exact ⟨'l', by simp [Request.sourceSuffix, List.getLast?_append], by decide, by decide⟩
  have hreport : report = before ++
      (if source = '/' :: Path.baseName source then '/' :: source else source) ++ after := by
    rw [← hrooted.recompose hlast hslash hdot]
    simp only [report, hfile] at honce ⊢
    exact remap_once hw honce
  rw [hreport]
  by_cases hroot : source = '/' :: Path.baseName source
  · rw [if_pos hroot]
    refine ⟨iff_of_false ?_ (fun h => h hroot), fun _ => rfl⟩
    intro h
    have hlength := congrArg List.length h
    simp at hlength
  · rw [if_neg hroot]
    exact ⟨iff_of_true rfl hroot, fun h => absurd h hroot⟩

theorem twice_report :
    twiceWorkspace.filePath "/s/m.kl".toList = "/tmp/ktransw-000000-buildd/m.kl".toList ∧
      remap twiceWorkspace.path ((Path.parent? "/s/m.kl".toList).getD [])
        ("E: ".toList ++ twiceWorkspace.filePath "/s/m.kl".toList ++ lineMark) =
        "E: /s/m.kl(3): unknown identifier\n".toList := by
  have hdir (dir : Path) (hd : Except.ok "/s".toList = (.ok dir : Except OsError Path)) :
      Path.IsCanonical dir := by
    obtain rfl := Except.ok.inj hd
    exact ⟨["s".toList], rfl, .inl rfl,
      List.forall_mem_singleton.mpr ⟨by decide, by decide, by decide⟩⟩
  have hmade : twiceBuild.request.MadeOf (.ok "/s".toList) twiceArgs :=
    ⟨twiceBuild.request, ok_of_toOption (by decide +kernel), rfl, rfl⟩
  have honce : twiceWorkspace.NamedOnce (twiceWorkspace.filePath "/s/m.kl".toList) "E: ".toList
      lineMark := fun _ _ => Text.eq_of_occurrence (by decide +kernel)
  exact ⟨by decide +kernel, (remap_filePath_iff hdir hmade rfl rfl rfl honce).1.mpr (by decide)⟩

/-! ## The rest of a report -/

/-- **Reports are rewritten in pieces.** A report is split from the left at the mentions of the
workspace, and the pieces stay when the mentions are exchanged. Lines are rewritten one by one if the
workspace's path has no line feed, and their number stays if the directory's path has none either.
Where a last line without a line feed counts only if it is not empty, so must the directory's path
be: that line may be nothing but a mention. -/
theorem remap_pieces {w : Path} (hw : w ≠ []) (dir : Path) (report : Text) :
    (∃ pieces, Text.LeftmostSplit w report pieces ∧
        (∀ other, Text.LeftmostSplit w report other → other = pieces) ∧
        report = Text.join w pieces ∧ remap w dir report = Text.join dir pieces) ∧
      (¬ w <:+: report ∨ w = dir → remap w dir report = report) ∧
      ('\n' ∉ w →
        (∀ a b, remap w dir (a ++ '\n' :: b) = remap w dir a ++ '\n' :: remap w dir b) ∧
        ('\n' ∉ dir →
          (Text.split '\n' (remap w dir report)).length = (Text.split '\n' report).length ∧
          (dir ≠ [] → (Text.lines (remap w dir report)).length = (Text.lines report).length))) := by
  have hremap (t : Text) : remap w dir t = Text.replaceAll w dir t := by rw [remap, if_neg hw]
  obtain ⟨pieces, hpieces⟩ := Text.exists_leftmostSplit hw report
  simp only [hremap]
  refine ⟨⟨pieces, hpieces, fun other h => h.unique hpieces, hpieces.joined.symm,
    hpieces.replaced hw⟩, ?_, fun hfeed => ⟨Text.replaceAll_break hw hfeed, fun hdir => ⟨?_, ?_⟩⟩⟩
  · rintro (habsent | rfl)
    · exact Text.replaceAll_of_absent habsent
    · rw [hpieces.replaced hw, hpieces.joined]
  · rw [Text.split_replaceAll hw hfeed hdir, List.length_map]
  · exact fun hne => Text.length_lines_replaceAll hw hfeed hdir hne report

/-- Mentions that overlap each other: the first one counts. -/
theorem overlapping_pieces :
    Text.LeftmostSplit "a/a".toList "a/a/a\na/b".toList [[], "/a\na/b".toList] ∧
      remap "a/a".toList "b".toList "a/a/a\na/b".toList = "b/a\na/b".toList ∧
      (Text.lines (remap "a/a".toList "b".toList "a/a/a\na/b".toList)).length = 2 := by
  obtain ⟨⟨pieces, hpieces, honly, -, hremap⟩, -, hlines⟩ :=
    remap_pieces (w := "a/a".toList) (by decide) "b".toList "a/a/a\na/b".toList
  have hsplit : Text.LeftmostSplit "a/a".toList "a/a/a\na/b".toList [[], "/a\na/b".toList] := by
    have hfirst : Text.FirstBehind "a/a".toList [] := by
      intro u v huv
      have hlength := congrArg List.length huv
      simp only [List.nil_append, List.length_append] at hlength
      exact List.length_eq_zero_iff.mp (by omega)
    have hwhole : "a/a/a\na/b".toList = [] ++ "a/a".toList ++ "/a\na/b".toList := by decide +kernel
    rw [hwhole]
    exact .piece hfirst (.last (by decide +kernel))
  obtain rfl := honly _ hsplit
  obtain ⟨-, hcount⟩ := (hlines (by decide +kernel)).2 (by decide +kernel)
  exact ⟨hsplit, hremap.trans (by decide +kernel),
    (hcount (by decide +kernel)).trans (by decide +kernel)⟩

end Build

end KarelBuild
