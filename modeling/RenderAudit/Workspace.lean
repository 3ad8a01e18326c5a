import RenderAudit.Path
import RenderAudit.Sorted
import RenderAudit.Table
import RenderAudit.Text.Quoted
import RenderAudit.Text.Utf8
import RenderAudit.Tree

/-!
The files that a run can read, below one working folder. A path is followed part by part, so every
part before the last has to be a folder.
-/

namespace RenderAudit

/-- A file, with the tree that a parser makes of its text or the reason why there is none. -/
structure SourceFile where
  bytes : List UInt8
  tree : Except String Node

/-- Files and folders by their place below the working folder. The folders on the way to a file need
not be listed. -/
structure Workspace where
  files : Table (List String) SourceFile
  folders : List (List String)

inductive ReadFault where
  | missing
  | notFolder
  | isFolder
deriving DecidableEq, Repr

namespace ReadFault

def code : ReadFault → Nat
  | .missing => 2
  | .notFolder => 20
  | .isFolder => 21

def text : ReadFault → String
  | .missing => "No such file or directory"
  | .notFolder => "Not a directory"
  | .isFolder => "Is a directory"

def message (fault : ReadFault) (path : String) : String :=
  s!"Cannot read {path}: [Errno {fault.code}] {fault.text}: {Text.quoted (Path.parse path).text}"

end ReadFault

/-- Where a path leads. Nothing is known of what is above the working folder. -/
inductive Place where
  | file (content : SourceFile)
  | folder (parts : List String)
  | above

namespace Workspace

def empty : Workspace := ⟨Table.empty, []⟩

def addFile (workspace : Workspace) (path : Path) (file : SourceFile) : Workspace :=
  { workspace with files := workspace.files.insert path.parts file }

def addFolder (workspace : Workspace) (path : Path) : Workspace :=
  { workspace with folders := workspace.folders ++ [path.parts] }

def isFolder (workspace : Workspace) (parts : List String) : Bool :=
  parts.isEmpty || workspace.folders.any parts.isPrefixOf ||
    workspace.files.keys.any fun key => parts.isPrefixOf key && key != parts

def enter (workspace : Workspace) (folder : List String) (part : String) :
    Except ReadFault Place :=
  if part = ".." then .ok (if folder.isEmpty then .above else .folder folder.dropLast)
  else
    let parts := folder ++ [part]
    match workspace.files.get? parts with
    | some file => .ok (.file file)
    | none => if workspace.isFolder parts then .ok (.folder parts) else .error .missing

def follow (workspace : Workspace) : Place → List String → Except ReadFault Place
  | place, [] => .ok place
  | .file _, _ :: _ => .error .notFolder
  | .folder folder, part :: rest => do
      workspace.follow (← workspace.enter folder part) rest
  | .above, part :: rest =>
      if part = ".." then workspace.follow .above rest else .error .missing

def place (workspace : Workspace) (path : Path) : Except ReadFault Place :=
  workspace.follow (if path.root.isEmpty then .folder [] else .above) path.parts

def read (workspace : Workspace) (path : Path) : Except ReadFault SourceFile := do
  match ← workspace.place path with
  | .file file => return file
  | .folder _ | .above => throw .isFolder

/-- The paths of the files below a folder that is shown as `path`, in order. -/
def filesBelow (workspace : Workspace) (path : Path) (folder : List String) : List Path :=
  sortBy Path.order
    (workspace.files.keys.filterMap fun key =>
      if folder.isPrefixOf key then some (path.join (key.drop folder.length)) else none)

end Workspace

end RenderAudit
