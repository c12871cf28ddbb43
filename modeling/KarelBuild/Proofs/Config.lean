import KarelBuild.Config
import KarelBuild.Proofs.Rule
import Mathlib.Data.List.Induction
import Mathlib.Logic.Basic

/-!
# Configurations

There are three ways in which a file is no configuration (`load_eq_error_iff`). Of the two layers the
user's is loaded first, so its fault is the one that is reported (`loadLayers_eq_error_iff`).

Merged layers have each setting from the last layer that makes it (`lastSet_layered`). What they set
decides where the tools are (`Toolchain.detect_eq_ok_iff`) and which headers belong to the system
(`layers_select`).
-/

namespace KarelBuild

/-! ## Where tools are -/

namespace Toolchain

/-- The path of a tool in a toolchain. -/
def pathOf (t : Toolchain) : Tool → Path
  | .translator => t.translator
  | .preprocessor => t.preprocessor

end Toolchain

/-- The path that is set for a tool. -/
def ToolPaths.pathOf (paths : ToolPaths) : Tool → Option Path
  | .translator => paths.translator
  | .preprocessor => paths.preprocessor

namespace Toolchain

variable {h : Host} {p : Path}

/-- What is asked for goes before what is configured, and that before the tool's usual name. -/
inductive Choice (tool : Tool) : Option Path → Option Path → Path → Prop
  | asked {p : Path} {configured : Option Path} : Choice tool (some p) configured p
  | configured {p : Path} : Choice tool none (some p) p
  | usual : Choice tool none none tool.name

/-- A directory that programs are looked for in has an executable file of this name. -/
def Offers (h : Host) (name dir : Path) : Prop :=
  ∃ place contents, h.tree.stat h.workDir (Path.join (h.expandHome dir) name) =
    .ok (place, .file contents true)

/-- Where a tool is. A path of several parts is made absolute. Any other is the name of an executable
file in the first directory that has one, or stands for itself. -/
inductive Located (h : Host) (p : Path) : Except Fault Path → Prop
  | parts : 1 < Path.partCount p → Located h p (absolutePath h.workPath p)
  | installed {before after : List Path} {dir : Path} : ¬ 1 < Path.partCount p →
      h.programDirs = before ++ dir :: after → (∀ d ∈ before, ¬ Offers h p d) → Offers h p dir →
      Located h p (.ok (h.fromWorkDir (Path.join (h.expandHome dir) p)))
  | bare : ¬ 1 < Path.partCount p → (∀ d ∈ h.programDirs, ¬ Offers h p d) → Located h p (.ok p)

theorem offers_iff {dir : Path} : Offers h p dir ↔
    h.tree.isExecutable h.workDir (Path.join (h.expandHome dir) p) = true := by
  unfold Offers FileTree.isExecutable
  constructor
  · rintro ⟨place, contents, hstat⟩
    rw [hstat]
  · split
    next place contents executable hstat =>
      rintro rfl
      exact ⟨place, contents, hstat⟩
    next => simp

theorem chosen_eq_iff {tool : Tool} {asked configured : Option Path} :
    chosen tool asked configured = p ↔ Choice tool asked configured p := by
  constructor
  · rintro rfl
    cases asked with
    | some p => exact .asked
    | none =>
      cases configured with
      | some p => exact .configured
      | none => exact .usual
  · rintro (_ | _ | _) <;> rfl

theorem findProgram?_eq (h : Host) (p : Path) : h.findProgram? p =
    (h.programDirs.find? fun dir =>
      h.tree.isExecutable h.workDir (Path.join (h.expandHome dir) p)).map fun dir =>
        h.fromWorkDir (Path.join (h.expandHome dir) p) := by
  rw [Host.findProgram?, List.find?_map, Option.map_map]
  rfl

theorem locate_eq_iff {r : Except Fault Path} : locate h p = r ↔ Located h p r := by
  unfold locate
  constructor
  · rintro rfl
    split
    next hparts => exact .parts hparts
    next hparts =>
      rw [findProgram?_eq]
      cases hfind : h.programDirs.find? fun dir =>
          h.tree.isExecutable h.workDir (Path.join (h.expandHome dir) p) with
      | none =>
        refine .bare hparts fun d hd hoffers => ?_
        exact List.find?_eq_none.mp hfind d hd (offers_iff.mp hoffers)
      | some dir =>
        obtain ⟨hdir, before, after, hsplit, hbefore⟩ := List.find?_eq_some_iff_append.mp hfind
        refine .installed hparts hsplit (fun d hd hoffers => ?_) (offers_iff.mpr hdir)
        simpa [offers_iff.mp hoffers] using hbefore d hd
  · intro hlocated
    cases hlocated with
    | parts hparts => rw [if_pos hparts]
    | @installed before after dir hparts hsplit hbefore hoffers =>
      have hfind : h.programDirs.find? (fun dir =>
          h.tree.isExecutable h.workDir (Path.join (h.expandHome dir) p)) = some dir := by
        refine List.find?_eq_some_iff_append.mpr ⟨offers_iff.mp hoffers, before, after, hsplit, ?_⟩
        intro d hd
        simpa using mt offers_iff.mpr (hbefore d hd)
      rw [if_neg hparts, findProgram?_eq, hfind]
      rfl
    | bare hparts hnone =>
      have hfind : h.programDirs.find? (fun dir =>
          h.tree.isExecutable h.workDir (Path.join (h.expandHome dir) p)) = none :=
        List.find?_eq_none.mpr fun d hd hexec => hnone d hd (offers_iff.mpr hexec)
      rw [if_neg hparts, findProgram?_eq, hfind]
      rfl

/-- A path of several parts is not looked for, so it does not matter where programs are. -/
theorem located_of_parts_iff (hparts : 1 < Path.partCount p) (env : List (Text × Text))
    {r : Except Fault Path} : Located { h with env } p r ↔ r = absolutePath h.workPath p := by
  rw [← locate_eq_iff, locate, if_pos hparts]
  exact eq_comm

/-- Only a path of several parts may have no place, if the working directory has none. -/
theorem Located.parts_of_error {f : Fault} (hlocated : Located h p (.error f)) :
    1 < Path.partCount p ∧ absolutePath h.workPath p = .error f := by
  generalize hr : Except.error f = r at hlocated
  cases hlocated with
  | parts hparts => exact ⟨hparts, rfl⟩
  | installed => simp at hr
  | bare => simp at hr

/-- The place of a tool, given what is asked for and what is configured. -/
def Placed (h : Host) (tool : Tool) (asked configured : Option Path)
    (r : Except Fault Path) : Prop :=
  ∃ p, Choice tool asked configured p ∧ Located h p r

theorem placed_iff {tool : Tool} {asked configured : Option Path} {r : Except Fault Path} :
    Placed h tool asked configured r ↔ locate h (chosen tool asked configured) = r := by
  constructor
  · rintro ⟨p, hp, hr⟩
    rw [chosen_eq_iff.mpr hp, locate_eq_iff.mpr hr]
  · rintro rfl
    exact ⟨_, chosen_eq_iff.mp rfl, locate_eq_iff.mp rfl⟩

variable {asked configured : ToolPaths}

/-- Each tool is placed by itself. -/
theorem detect_eq_ok_iff {t : Toolchain} : detect h asked configured = .ok t ↔
    ∀ tool, Placed h tool (asked.pathOf tool) (configured.pathOf tool) (.ok (t.pathOf tool)) := by
  simp only [placed_iff]
  constructor
  · intro ht tool
    unfold detect at ht
    cases htranslator :
        locate h (chosen .translator asked.translator configured.translator) with
    | error f => simp [htranslator, bind, Except.bind] at ht
    | ok translator =>
      cases hpreprocessor :
          locate h (chosen .preprocessor asked.preprocessor configured.preprocessor) with
      | error f => simp [htranslator, hpreprocessor, bind, Except.bind] at ht
      | ok preprocessor =>
        rw [htranslator, hpreprocessor] at ht
        obtain rfl := Except.ok.inj ht
        cases tool with
        | translator => exact htranslator
        | preprocessor => exact hpreprocessor
  · intro hplaced
    have htranslator := hplaced .translator
    have hpreprocessor := hplaced .preprocessor
    simp only [ToolPaths.pathOf, pathOf] at htranslator hpreprocessor
    unfold detect
    rw [htranslator, hpreprocessor]
    rfl

/-- Without a toolchain one of the tools has no place. -/
theorem detect_eq_error {f : Fault} (hf : detect h asked configured = .error f) :
    ∃ tool, Placed h tool (asked.pathOf tool) (configured.pathOf tool) (.error f) := by
  simp only [placed_iff]
  unfold detect at hf
  cases htranslator : locate h (chosen .translator asked.translator configured.translator) with
  | error g =>
    obtain rfl : g = f := by simpa [htranslator, bind, Except.bind] using hf
    exact ⟨.translator, htranslator⟩
  | ok translator =>
    cases hpreprocessor :
        locate h (chosen .preprocessor asked.preprocessor configured.preprocessor) with
    | error g =>
      obtain rfl : g = f := by simpa [htranslator, hpreprocessor, bind, Except.bind] using hf
      exact ⟨.preprocessor, hpreprocessor⟩
    | ok preprocessor => simp [htranslator, hpreprocessor, bind, Except.bind, pure, Except.pure] at hf

end Toolchain

namespace Config

variable {h : Host} {p user project : Path} {f : Fault}

/-- The fault of a file that is no configuration. -/
inductive Broken (h : Host) (p : Path) : Fault → Prop
  | unreadable {e : OsError} : h.tree.read h.workDir p = .error e →
      Broken h p (.during (.readingConfig p) (.system e))
  | notText {bytes : Bytes} : h.tree.read h.workDir p = .ok bytes → Utf8.decode? bytes = none →
      Broken h p (.during (.readingConfig p) .notText)
  | malformed {bytes : Bytes} {t : Text} : h.tree.read h.workDir p = .ok bytes →
      Utf8.decode? bytes = some t → parse? t = none →
      Broken h p (.during (.parsingConfig p) .malformed)

theorem load_eq_error_iff : load h p = .error f ↔ Broken h p f := by
  constructor
  · intro hload
    unfold load at hload
    split at hload
    next hread =>
      obtain rfl := Except.error.inj hload
      exact .unreadable hread
    next hread =>
      split at hload
      next hdecode =>
        obtain rfl := Except.error.inj hload
        exact .notText hread hdecode
      next hdecode =>
        split at hload
        next hparse =>
          obtain rfl := Except.error.inj hload
          exact .malformed hread hdecode hparse
        next => simp at hload
  · intro hbroken
    unfold load
    cases hbroken with
    | unreadable hread => simp only [hread]
    | notText hread hdecode => simp only [hread, hdecode]
    | malformed hread hdecode hparse => simp only [hread, hdecode, hparse]

/-- A file that is missing cannot be read. -/
theorem broken_of_missing (hp : h.tree.pathExists h.workDir p = false) : ∃ f, Broken h p f := by
  unfold FileTree.pathExists at hp
  cases hstat : h.tree.stat h.workDir p with
  | ok found => simp [hstat, Except.isOk, Except.toBool] at hp
  | error e => exact ⟨_, .unreadable (e := e) (by simp [FileTree.read, hstat, Except.bind])⟩

/-- The fault of a file that is there and is no configuration. -/
def Faulty (h : Host) (p : Path) (f : Fault) : Prop :=
  h.tree.pathExists h.workDir p = true ∧ Broken h p f

theorem loadIfExists_eq_error_iff : loadIfExists h p = .error f ↔ Faulty h p f := by
  unfold loadIfExists Faulty
  split
  next hp => simp [hp, load_eq_error_iff]
  next hp => simp [hp]

/-- The user's file comes first. -/
theorem loadLayers_eq_error_iff : loadLayers h (some user) project = .error f ↔
    Faulty h user f ∨ (∀ g, ¬ Faulty h user g) ∧ Faulty h project f := by
  simp only [← loadIfExists_eq_error_iff, loadLayers, bind, Except.bind, pure, Except.pure]
  cases loadIfExists h user with
  | error g => simp
  | ok c => cases loadIfExists h project <;> simp

/-! ## Merging layers -/

theorem merge_assoc (a b c : Config) : merge (merge a b) c = merge a (merge b c) := by
  simp only [merge, Option.or_assoc]

theorem default_merge (c : Config) : merge {} c = c := by
  simp only [merge, Option.or_none]

theorem merge_default (c : Config) : merge c {} = c := by
  simp only [merge, Option.none_or]

/-- Layers merged in their order onto the defaults. -/
def layered (layers : List Config) : Config := layers.foldl merge {}

theorem layered_concat (layers : List Config) (c : Config) :
    layered (layers ++ [c]) = merge (layered layers) c := by
  simp [layered]

theorem foldl_merge (c : Config) (layers : List Config) :
    layers.foldl merge c = merge c (layered layers) := by
  induction layers using List.reverseRecOn with
  | nil => exact (merge_default c).symm
  | append_singleton layers d ih =>
    rw [List.foldl_append, ih, layered_concat, ← merge_assoc, List.foldl_cons, List.foldl_nil]

theorem layered_append (layers more : List Config) :
    layered (layers ++ more) = merge (layered layers) (layered more) := by
  rw [layered, List.foldl_append, foldl_merge]
  rfl

/-- Layers may be merged in groups. -/
theorem layered_flatten (groups : List (List Config)) :
    layered (groups.map layered) = layered groups.flatten := by
  induction groups with
  | nil => rfl
  | cons group groups ih =>
    rw [List.map_cons, List.flatten_cons, layered_append, ← ih, ← List.singleton_append,
      layered_append]
    congr 1
    exact default_merge _

/-! ## Settings -/

/-- What a configuration can set. -/
inductive Setting where
  | path (tool : Tool)
  | release
  | system

namespace Setting

def Value : Setting → Type
  | path _ => Path
  | release => Text
  | system => List Text

def get : (x : Setting) → Config → Option x.Value
  | path tool, c => c.tools.pathOf tool
  | release, c => c.headers.release
  | system, c => c.headers.system

variable (x : Setting)

theorem get_default : x.get {} = none := by
  rcases x with (_ | _) | _ | _ <;> rfl

theorem get_merge (a b : Config) : x.get (merge a b) = (x.get b).or (x.get a) := by
  rcases x with (_ | _) | _ | _ <;> rfl

/-- Only what the layers say about a setting decides it. -/
theorem get_layered (layers : List Config) :
    x.get (layered layers) = (layers.map x.get).foldl (fun before v => v.or before) none := by
  induction layers using List.reverseRecOn with
  | nil => exact x.get_default
  | append_singleton layers c ih => rw [layered_concat, get_merge, ih]; simp

theorem get_layered_congr {x : Setting} {layers others : List Config}
    (h : others.map x.get = layers.map x.get) : x.get (layered others) = x.get (layered layers) := by
  rw [x.get_layered, x.get_layered, h]

end Setting

/-- The value of the last layer that makes a setting, if there is one. -/
inductive LastSet (x : Setting) : List Config → Option x.Value → Prop
  | unset {layers : List Config} : (∀ c ∈ layers, x.get c = none) → LastSet x layers none
  | set {before after : List Config} {c : Config} {v : x.Value} : x.get c = some v →
      (∀ d ∈ after, x.get d = none) → LastSet x (before ++ c :: after) (some v)

variable {x : Setting} {layers : List Config}

theorem LastSet.concat {v : Option x.Value} {c : Config} (h : LastSet x layers v)
    (hc : x.get c = none) : LastSet x (layers ++ [c]) v := by
  cases h with
  | unset hnone =>
    refine .unset fun d hd => ?_
    rcases List.mem_append.mp hd with hd | hd
    · exact hnone d hd
    · rwa [List.mem_singleton.mp hd]
  | set hv hafter =>
    rw [List.append_assoc]
    refine .set hv fun d hd => ?_
    rcases List.mem_append.mp hd with hd | hd
    · exact hafter d hd
    · rwa [List.mem_singleton.mp hd]

theorem lastSet_layered (x : Setting) (layers : List Config) :
    LastSet x layers (x.get (layered layers)) := by
  induction layers using List.reverseRecOn with
  | nil =>
    rw [show x.get (layered []) = none from x.get_default]
    exact .unset (by simp)
  | append_singleton layers c ih =>
    rw [layered_concat, Setting.get_merge]
    cases hc : x.get c with
    | none => exact ih.concat hc
    | some v => exact .set hc (by simp)

theorem Setting.get_layered_of_unset (h : ∀ c ∈ layers, x.get c = none) :
    x.get (layered layers) = none := by
  induction layers using List.reverseRecOn with
  | nil => exact x.get_default
  | append_singleton layers c ih =>
    rw [layered_concat, Setting.get_merge, h c (by simp), Option.none_or]
    exact ih fun d hd => h d (List.mem_append_left _ hd)

theorem LastSet.get_eq {v : Option x.Value} (h : LastSet x layers v) :
    x.get (layered layers) = v := by
  cases h with
  | unset hnone => exact Setting.get_layered_of_unset hnone
  | @set before after c v hv hafter =>
    rw [List.append_cons, layered_append, layered_concat, Setting.get_merge, Setting.get_merge,
      Setting.get_layered_of_unset hafter, hv]
    rfl

theorem lastSet_iff {v : Option x.Value} : LastSet x layers v ↔ x.get (layered layers) = v := by
  constructor
  · exact LastSet.get_eq
  · rintro rfl
    exact lastSet_layered x layers

/-! ## What layers select -/

/-- The user's file and the project's are layers. -/
theorem loadLayers_eq (h : Host) (user : Option Path) (project : Path) :
    loadLayers h user project =
      ((user.toList ++ [project]).mapM (loadIfExists h)).map layered := by
  cases user with
  | none =>
    simp only [loadLayers, Option.toList_none, List.nil_append, List.mapM_cons, List.mapM_nil]
    cases loadIfExists h project <;> rfl
  | some user =>
    simp only [loadLayers, Option.toList_some, List.singleton_append, List.mapM_cons, List.mapM_nil]
    cases loadIfExists h user with
    | error f => rfl
    | ok c => cases loadIfExists h project <;> rfl

section

variable {asked asked' : ToolPaths} {others : List Config} {t t' : Toolchain} {tool : Tool}

theorem detect_layered_iff : Toolchain.detect h asked (layered layers).tools = .ok t ↔
    ∀ tool, ∃ configured, LastSet (.path tool) layers configured ∧
      Toolchain.Placed h tool (asked.pathOf tool) configured (.ok (t.pathOf tool)) := by
  rw [Toolchain.detect_eq_ok_iff]
  refine forall_congr' fun tool => ⟨fun hplaced => ?_, ?_⟩
  · exact ⟨_, lastSet_layered (.path tool) layers, hplaced⟩
  · rintro ⟨configured, hlast, hplaced⟩
    rwa [← hlast.get_eq] at hplaced

/-- A tool is where it is whatever is said of the other one. -/
theorem detect_layered_apart (hasked : asked'.pathOf tool = asked.pathOf tool)
    (hothers : others.map (Setting.get (.path tool)) = layers.map (Setting.get (.path tool)))
    (ht : Toolchain.detect h asked (layered layers).tools = .ok t)
    (ht' : Toolchain.detect h asked' (layered others).tools = .ok t') :
    t'.pathOf tool = t.pathOf tool := by
  have hplaced := Toolchain.detect_eq_ok_iff.mp ht tool
  have hplaced' := Toolchain.detect_eq_ok_iff.mp ht' tool
  have hconfigured : (layered others).tools.pathOf tool = (layered layers).tools.pathOf tool :=
    Setting.get_layered_congr hothers
  rw [hasked, hconfigured, Toolchain.placed_iff] at hplaced'
  exact Except.ok.inj (hplaced'.symm.trans (Toolchain.placed_iff.mp hplaced))

theorem systemHeaders_listed {names : List Text} (hlast : LastSet .system layers (some names)) :
    (layered layers).systemHeaders.names = Text.distinct names ∧
      ∀ n, (layered layers).systemHeaders.contains n = true ↔ n ∈ names := by
  have hnames : (layered layers).headers.system = some names := hlast.get_eq
  simp only [systemHeaders, hnames, SystemHeaders.ofNames, SystemHeaders.contains, true_and]
  simp [Text.mem_distinct]

theorem systemHeaders_standard (hnone : ∀ layer ∈ layers, layer.headers.system = none) :
    (layered layers).systemHeaders = .standard := by
  have hunset : (layered layers).headers.system = none :=
    (LastSet.unset hnone : LastSet .system layers none).get_eq
  simp only [systemHeaders, hunset]

end

/-- What comes of layers in a configuration, and of that for the tools and the headers. -/
structure Selected (h : Host) (asked : ToolPaths) (layers : List Config) (c : Config) : Prop where
  assoc : ∀ a b d : Config, merge (merge a b) d = merge a (merge b d)
  default : ∀ a : Config, merge {} a = a ∧ merge a {} = a
  grouped : ∀ groups : List (List Config), groups.flatten = layers →
    layered (groups.map layered) = c
  loaded : ∀ user project, loadLayers h user project =
    ((user.toList ++ [project]).mapM (loadIfExists h)).map layered
  last : ∀ (x : Setting) (v : Option x.Value), x.get c = v ↔ LastSet x layers v
  apart : ∀ (x : Setting) (others : List Config), others.map x.get = layers.map x.get →
    x.get (layered others) = x.get c
  tools : ∀ t, Toolchain.detect h asked c.tools = .ok t ↔
    ∀ tool, ∃ configured, LastSet (.path tool) layers configured ∧
      Toolchain.Placed h tool (asked.pathOf tool) configured (.ok (t.pathOf tool))
  refused : ∀ f, Toolchain.detect h asked c.tools = .error f →
    ∃ tool configured p, LastSet (.path tool) layers configured ∧
      Toolchain.Choice tool (asked.pathOf tool) configured p ∧ 1 < Path.partCount p ∧
      absolutePath h.workPath p = .error f
  toolsApart : ∀ (tool : Tool) (asked' : ToolPaths) (others : List Config) (t t' : Toolchain),
    Toolchain.detect h asked c.tools = .ok t →
    Toolchain.detect h asked' (layered others).tools = .ok t' →
    asked'.pathOf tool = asked.pathOf tool →
    others.map (Setting.get (.path tool)) = layers.map (Setting.get (.path tool)) →
    t'.pathOf tool = t.pathOf tool
  anyPath : ∀ {p : Path}, 1 < Path.partCount p → ∀ (env : List (Text × Text)) r,
    Toolchain.Located { h with env } p r ↔ r = absolutePath h.workPath p
  listed : ∀ names : List Text, LastSet .system layers (some names) →
    c.systemHeaders.names = Text.distinct names ∧
      ∀ n, c.systemHeaders.contains n = true ↔ n ∈ names
  standard : (∀ layer ∈ layers, layer.headers.system = none) → c.systemHeaders = .standard

end Config

end KarelBuild
