import RenderAudit.Tree.Rows
import RenderAudit.Workspace

/-!
A workspace written as lines of fields between tabs. A file line is followed by the rows of its
tree, or by the reason why it has none.
-/

namespace RenderAudit

/-- A line of a listing. -/
inductive ListingLine where
  | folder (path : String)
  | file (path : String) (bytes : List UInt8)
  | fault (reason : String)
  | node (row : Row)

namespace ListingLine

def hexDigit? (c : Char) : Option Nat :=
  if '0' ≤ c ∧ c ≤ '9' then some (c.toNat - '0'.toNat)
  else if 'a' ≤ c ∧ c ≤ 'f' then some (c.toNat - 'a'.toNat + 10)
  else none

def bytes? : List Char → Option (List UInt8)
  | [] => some []
  | [_] => none
  | high :: low :: rest => do
      let high ← hexDigit? high
      let low ← hexDigit? low
      let rest ← bytes? rest
      return UInt8.ofNat (16 * high + low) :: rest

/-- A parent is written as its row, or as a dash if there is none. -/
def parent? (text : String) : Option (Option Nat) :=
  if text = "-" then some none else text.toNat?.map some

def parse? (line : String) : Option ListingLine :=
  match (line.toList.splitOn '\t').map String.ofList with
  | ["folder", path] => some (.folder path)
  | ["file", path, digits] => (bytes? digits.toList).map (.file path)
  | ["fault", reason] => some (.fault reason)
  | ["node", parent, kind, start, stop, field, named] => do
      let parent ← parent? parent
      let start ← start.toNat?
      let stop ← stop.toNat?
      return .node ⟨parent, kind, start, stop, if field.isEmpty then none else field, named = "1"⟩
  | _ => none

end ListingLine

/-- What was read behind a file line that is still to come, when a listing is read from its end. -/
structure ListingTail where
  rows : List Row
  fault : Option String
  workspace : Workspace

namespace ListingTail

def empty : ListingTail := ⟨[], none, Workspace.empty⟩

def tree (tail : ListingTail) : Except String Node :=
  match tail.fault, Node.ofRows? tail.rows with
  | some reason, _ => .error reason
  | none, some root => .ok root
  | none, none => .error "no syntax tree"

def add (line : ListingLine) (tail : ListingTail) : ListingTail :=
  match line with
  | .folder path => { tail with workspace := tail.workspace.addFolder (Path.parse path) }
  | .file path bytes =>
      ⟨[], none, tail.workspace.addFile (Path.parse path) ⟨bytes, tail.tree⟩⟩
  | .fault reason => { tail with fault := some reason }
  | .node row => { tail with rows := row :: tail.rows }

end ListingTail

namespace Workspace

/-- The workspace that a listing describes, unless one of its lines is none. -/
def ofListing? (lines : List String) : Option Workspace := do
  let lines ← lines.mapM ListingLine.parse?
  return (lines.foldr ListingTail.add ListingTail.empty).workspace

end Workspace

end RenderAudit
