import KarelBuild.Header
import KarelBuild.Toml
import KarelBuild.Toolchain

/-!
# Configurations

A configuration says where the tools are and which headers come with the translator. It is read
from a document with the tables `tools` and `headers`, either of which may also be given as an array
of its fields in order. Other keys do not matter, but a value of the wrong kind is refused.
-/

namespace KarelBuild

structure HeaderSettings where
  release : Option Text := none
  system : Option (List Text) := none
  deriving DecidableEq, Repr

structure Config where
  tools : ToolPaths := {}
  headers : HeaderSettings := {}
  deriving DecidableEq, Repr

namespace Config

def isDefault (c : Config) : Bool := c == {}

/-! ## Layers -/

/-- A setting of the later layer wins over one of the earlier. -/
def merge (earlier later : Config) : Config where
  tools :=
    { translator := later.tools.translator.or earlier.tools.translator
      preprocessor := later.tools.preprocessor.or earlier.tools.preprocessor }
  headers :=
    { release := later.headers.release.or earlier.headers.release
      system := later.headers.system.or earlier.headers.system }

/-- A list of names replaces the standard headers; a release alone does not. -/
def systemHeaders (c : Config) : SystemHeaders :=
  match c.headers.system with
  | some names => .ofNames (c.headers.release.getD "custom".toList) names
  | none => .standard

/-! ## From a document -/

open Toml (Value Fields)

def text? : Value → Option Text
  | .text t => some t
  | _ => none

def texts? : Value → Option (List Text)
  | .array items => items.mapM text?
  | _ => none

/-- The fields of a schema table, by name or by position. A date counts as a table of other keys. -/
def fields? (names : List Text) : Value → Option Fields
  | .table _ fields => some fields
  | .array items => some (names.zip items)
  | .tables members => some (names.zip (members.map fun fields => .table .header fields))
  | .moment _ => some []
  | _ => none

/-- A field that may be missing. -/
def field? {α : Type} (fields : Fields) (name : String) (read? : Value → Option α) :
    Option (Option α) :=
  match fields.lookup name.toList with
  | none => some none
  | some v => (read? v).map some

/-- A table that may be missing, with its fields in order. -/
def section? (document : Fields) (name : String) (names : List String) : Option Fields :=
  (field? document name (fields? (names.map String.toList))).map (·.getD [])

def tools? (document : Fields) : Option ToolPaths := do
  let fields ← section? document "tools" ["ktrans", "gpp"]
  return { translator := ← field? fields "ktrans" text?
           preprocessor := ← field? fields "gpp" text? }

def headers? (document : Fields) : Option HeaderSettings := do
  let fields ← section? document "headers" ["release", "system"]
  return { release := ← field? fields "release" text?
           system := ← field? fields "system" texts? }

def ofDocument? (document : Fields) : Option Config := do
  return { tools := ← tools? document, headers := ← headers? document }

def parse? (s : Text) : Option Config := (Toml.parse? s).bind ofDocument?

/-! ## From files -/

def load (h : Host) (p : Path) : Except Fault Config :=
  match h.tree.read h.workDir p with
  | .error e => .error (.during (.readingConfig p) (.system e))
  | .ok bytes =>
    match Utf8.decode? bytes with
    | none => .error (.during (.readingConfig p) .notText)
    | some s =>
      match parse? s with
      | none => .error (.during (.parsingConfig p) .malformed)
      | some c => .ok c

/-- A missing file is an empty configuration. -/
def loadIfExists (h : Host) (p : Path) : Except Fault Config :=
  if h.tree.pathExists h.workDir p then load h p else .ok {}

def fileName : Text := "ktransw.toml".toList

/-- The configuration file of a project. -/
def projectPath (dir : Path) : Path := Path.join dir fileName

/-- The user's configuration, with the project's over it. -/
def loadLayers (h : Host) (userFile : Option Path) (projectFile : Path) : Except Fault Config := do
  let user ← match userFile with
    | some p => loadIfExists h p
    | none => pure {}
  let project ← loadIfExists h projectFile
  return merge (merge {} user) project

/-! ## The user's file -/

/-- Where a user without a `HOME` is at home. -/
def fallbackHome : Path := "/root".toList

def homeDir (h : Host) : Path :=
  match h.var? "HOME" with
  | some home => if home = [] then fallbackHome else home
  | none => fallbackHome

/-- The directory of all the user's configuration files; a relative one does not count. -/
def baseDir (h : Host) : Path :=
  match (h.var? "XDG_CONFIG_HOME").filter Path.isAbsolute with
  | some dir => dir
  | none => Path.join (homeDir h) ".config".toList

def userPath (h : Host) : Path :=
  Path.join (Path.join (baseDir h) "ktransw".toList) "config.toml".toList

end Config

end KarelBuild
