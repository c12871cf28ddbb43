import KarelBuild.FileTree.Removal
import KarelBuild.Runner

/-!
# Rehearsed runners

A rehearsed runner starts no tool. It answers from a list of parts: the first part whose opening
begins the command's text is played. It also keeps the calls made to it, each with what the
workspace held at that moment.
-/

namespace KarelBuild

/-- What a tool does when the command's text begins with `opening`: it leaves entries in the
workspace and ends with a code and two texts, or it does not start. In the texts `{WS}` stands for
the workspace and `{ARG0}`, `{ARG1}` … for the arguments. -/
structure Part where
  opening : Text
  code : Int
  stdout : Text
  stderr : Text
  failure : Option Text
  leaves : List (Path × Entry)
  deriving DecidableEq, Repr

structure Rehearsal where
  workspace : Path
  calls : List (Call × List Text)
  deriving DecidableEq, Repr

namespace Rehearsal

def start : Rehearsal := ⟨[], []⟩

/-- The argument after the first `-o`. -/
def outputArg? : List Text → Option Text
  | a :: b :: rest => if a = "-o".toList then some b else outputArg? (b :: rest)
  | _ => none

/-- A command that names an output file tells where the workspace is. -/
def workspaceAt (r : Rehearsal) (c : Command) : Path :=
  match outputArg? c.args with
  | some output => (Path.parent? output).getD []
  | none => r.workspace

def placeholder (name : Text) : Text := ['\x7b'] ++ name ++ ['\x7d']

def fillArgs : Nat → List Text → Text → Text
  | _, [], t => t
  | n, a :: rest, t =>
    fillArgs (n + 1) rest (Text.replaceAll (placeholder ("ARG".toList ++ Text.ofNat n)) a t)

def fill (workspace : Path) (args : List Text) (t : Text) : Text :=
  fillArgs 0 args (Text.replaceAll (placeholder "WS".toList) workspace t)

/-- What is in the workspace; an unknown or missing one holds nothing. -/
def contents (workspace : Path) (h : Host) : List Text :=
  match h.tree.stat h.workDir workspace with
  | .ok (place, .dir) => h.tree.listing place
  | _ => []

def leave (workspace : Path) (leaves : List (Path × Entry)) (h : Host) : Host :=
  leaves.foldl (fun h (p, e) => h.setTree (h.tree.install h.workDir (Path.join workspace p) e)) h

def resultOf (manner : Manner) (code : Int) (stdout stderr : Text) : ToolResult :=
  match manner with
  | .capture => ⟨code, stdout, stderr⟩
  | .captureMerged => ⟨code, stdout ++ stderr, []⟩
  | .passThrough => ⟨code, [], []⟩

/-- Play a part: leave its entries and give its result. -/
def play (workspace : Path) (p : Part) (call : Call) (h : Host) :
    Except Fault ToolResult × Host :=
  match p.failure with
  | some m => (.error (.reported m), h)
  | none =>
    let text := fill workspace call.command.args
    (.ok (resultOf call.manner p.code (text p.stdout) (text p.stderr)), leave workspace p.leaves h)

end Rehearsal

def Runner.rehearsed (parts : List Part) : Runner Rehearsal where
  run call r h :=
    let workspace := r.workspaceAt call.command
    let r' : Rehearsal := ⟨workspace, r.calls ++ [(call, Rehearsal.contents workspace h)]⟩
    match parts.find? fun p => p.opening.isPrefixOf call.command.display with
    | some p =>
      let (result, h') := Rehearsal.play workspace p call h
      (result, r', h')
    | none => (.error (.reported ("unexpected command: ".toList ++ call.command.display)), r', h)

end KarelBuild
