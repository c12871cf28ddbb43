import KarelBuild.Host.Standard

/-!
# Descriptions of hosts

A host is described line by line, on top of the standard one. A line is a word, a name and a value
with tabs between them: `dir`, `file`, `program` and `link` put an entry at a path, `var` sets a
variable and `cd` enters a directory. In a value `\n`, `\t` and `\\` stand for a line feed, a tab and
a backslash.
-/

namespace KarelBuild.Host

def unescape : Text → Text
  | '\\' :: 'n' :: r => '\n' :: unescape r
  | '\\' :: 't' :: r => '\t' :: unescape r
  | '\\' :: '\\' :: r => '\\' :: unescape r
  | c :: r => c :: unescape r
  | [] => []

def put (h : Host) (path : Path) (e : Entry) : Host := h.setTree (h.tree.install h.workDir path e)

def setVar (h : Host) (name value : Text) : Host := { h with env := (name, value) :: h.env }

/-- Enter a directory; a path that leads to none changes nothing. -/
def enter (h : Host) (path : Path) : Host :=
  match h.tree.stat h.workDir path with
  | .ok (place, .dir) => { h with workDir := ⟨place, 0⟩ }
  | _ => h

def describe (h : Host) (kind : String) (name value : Text) : Host :=
  match kind with
  | "dir" => h.put name .dir
  | "file" => h.put name (.file (Utf8.encode value) false)
  | "program" => h.put name (.file (Utf8.encode value) true)
  | "link" => h.put name (.link value)
  | "var" => h.setVar name value
  | "cd" => h.enter name
  | _ => h

def addLine (h : Host) (line : Text) : Host :=
  let fields := Text.split '\t' line
  h.describe (String.ofList (fields.headD [])) ((fields.drop 1).headD [])
    (unescape ((fields.drop 2).headD []))

/-- The host before anything is described. -/
def standard : Host :=
  { tree := standardTree
    workDir := .root
    env := [("PATH".toList, standardPath), ("HOME".toList, "/root".toList)]
    serial := 0 }

def ofDescription (lines : List Text) : Host := lines.foldl addLine standard

end KarelBuild.Host
