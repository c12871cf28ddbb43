import KarelBuild.Request
import KarelBuild.Rule
import KarelBuild.Session
import KarelBuild.Toolchain
import KarelBuild.Workspace

/-!
# Builds

A build answers its request in one of four ways. Without a source the arguments go to the
translator as they are. For a dependency request the headers of the source are collected and a rule
for Make is written. A dry run ends at once. Otherwise the source is preprocessed into a workspace
and the translator runs on the result.

The two tools have unrelated exit codes, which are passed on unchanged: what failed is told by the
state of the outcome.
-/

namespace KarelBuild

open BuildM

structure Build (σ : Type) where
  request : Request
  toolchain : Toolchain
  headers : SystemHeaders
  runner : Runner σ
  workspaceRoot : Option Path := none

def version : Text := "0.2.0".toList

namespace Build

variable {σ : Type} (b : Build σ)

/-! ## No source -/

def banner : Text := "KTRANSW V".toList ++ version ++ ['\n']

/-- The state that a translator run ends in. -/
def translatorState (code : Int) : BuildState :=
  if code = 0 then .done else .failed (.translator code)

/-- Hand the arguments to the translator, which then writes where the build writes. -/
def passThrough : BuildM σ Outcome := do
  transition .noBuildNeeded
  if b.request.verbosity ≠ .quiet then
    writeOut banner
    flushOut
  let command := Command.passThrough b.toolchain.translator b.request.translatorArgs
  let result ← callTool b.runner .translator ⟨.passThrough, command⟩
  modify fun s => { s with out := s.out.relay result.stdout, err := s.err.relay result.stderr }
  finish (translatorState result.code) result.code

/-! ## Dependency rules -/

/-- Write a rule to the file asked for, or else to the output. -/
def writeRule (rule : Rule) : BuildM σ Unit :=
  match b.request.dependencyFile with
  | some path => writeHostFile path rule.render
  | none => during .writingRule do
    writeOut rule.render
    flushOut

def writeDependencies (source : Path) : BuildM σ Outcome := do
  transition .scanningDependencies
  note (.scanningSource source)
  let names ← orFault ((← host).includesOf source)
  note (.foundIncludes names.length)
  let files := (← host).files
  let (collected, notes) := b.request.searchPath.collect b.headers files b.request.policy names
  noteAll notes
  match collected with
  | .error missing =>
    writeErr (missing.message ++ ['\n'])
    finish (.failed (.missingHeader missing.name)) MissingHeader.exitCode
  | .ok deps =>
    match Rule.ofDependencies? (b.request.target?.getD []) deps with
    | none => throw .emptyTarget
    | some rule =>
      writeRule b (rule.withPhony b.request.phonyTargets)
      finish .done 0

/-! ## Compiling -/

/-- Name the source's directory wherever a report names the workspace. Line numbers stay: they are
those of the preprocessed file. -/
def remap (workspace sourceDir : Path) (report : Text) : Text :=
  if workspace = [] then report else Text.replaceAll workspace sourceDir report

/-- Write a report, and end its last line if it has no end. -/
def writeReport (report : Text) : BuildM σ Unit := do
  during .writingOutput (writeOut report)
  if report ≠ [] ∧ report.getLast? ≠ some '\n' then
    writeOut ['\n']
  flushOut

def preprocess (source intermediate : Path) : BuildM σ ToolResult := do
  transition .preprocessing
  let command :=
    Command.preprocess b.toolchain.preprocessor source intermediate b.request.searchPath.dirs
  callTool b.runner .preprocessor ⟨.capture, command⟩

def translate (source intermediate : Path) : BuildM σ ToolResult := do
  transition .translating
  let command :=
    Command.translate b.toolchain.translator b.request.translatorArgs source intermediate
  callTool b.runner .translator ⟨.captureMerged, command⟩

/-- Run both tools in a workspace. What a failed preprocessor had to say is always passed on, and
the translator's report when it failed or the user wants to see it. -/
def compile (source : Path) (w : Workspace) : BuildM σ Outcome := do
  let intermediate := w.filePath source
  note (.storing intermediate)
  let preprocessed ← preprocess b source intermediate
  if preprocessed.success then
    let translated ← translate b source intermediate
    let report := remap w.path ((Path.parent? source).getD []) translated.stdout
    if !translated.success || b.request.verbosity = .verbose then
      writeReport report
    finish (translatorState translated.code) translated.code
  else
    writeErr (preprocessed.stderr ++ "\nTranslation terminated\n".toList)
    flushErr
    finish (.failed (.preprocessor preprocessed.code)) preprocessed.code

/-! ## The workspace around a compile -/

def acquire (parent : Path) : BuildM σ Workspace := do
  let (w, h) ← orFault (Workspace.create parent (← host))
  modify fun s => { s with host := h }
  note (.acquired w.path)
  return w

/-- Remove a workspace that has not been released before, and note what was left. -/
def release (w : Workspace) (s : Session σ) : Session σ :=
  let (h, steps) := ({ workspace := w } : Workspace.Owned).drop Remover.system s.host
  { s with host := h, notes := s.notes ++ w.cleanupNotes steps }

/-- The workspace is released whatever comes out of the compile. -/
def compileIn (source : Path) (w : Workspace) : BuildM σ Outcome := fun s =>
  let (outcome, s') := (compile b source w).run s
  (outcome, release w s')

def workspaceParent (h : Host) : Path := b.workspaceRoot.getD h.tempDir

/-! ## Running a build -/

def run : BuildM σ Outcome :=
  match b.request.source? with
  | none => do
    note .noBuildNeeded
    passThrough b
  | some source =>
    match b.request.mode with
    | .dependencyOnly => writeDependencies b source
    | .compile => do
      note .buildNeeded
      if b.request.dryRun then
        note .dryRun
        finish .done 0
      else
        let w ← acquire (b.workspaceParent (← host))
        compileIn b source w

end Build

end KarelBuild
