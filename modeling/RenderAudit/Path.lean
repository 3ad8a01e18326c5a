import RenderAudit.Text.Casing

/-!
File paths: components between slashes, where empty components and single dots do not count.
-/

namespace RenderAudit

structure Path where
  root : String
  parts : List String
deriving DecidableEq, Repr

namespace Path

/-- Exactly two leading slashes are kept, any other number counts as one. -/
def rootOf : List Char → String
  | '/' :: '/' :: '/' :: _ => "/"
  | '/' :: '/' :: _ => "//"
  | '/' :: _ => "/"
  | _ => ""

def parse (text : String) : Path where
  root := rootOf text.toList
  parts := ((text.toList.splitOn '/').map String.ofList).filter fun part => part ≠ "" && part ≠ "."

def text (path : Path) : String :=
  if path.root.isEmpty && path.parts.isEmpty then "."
  else path.root ++ "/".intercalate path.parts

def join (path : Path) (parts : List String) : Path :=
  { path with parts := path.parts ++ parts }

/-- The suffix of a name: from its last dot on, unless that dot is its first or last character. -/
def suffixOf (name : List Char) : List Char :=
  let tail := name.reverse.takeWhile (· != '.')
  if tail.isEmpty || name.length ≤ tail.length + 1 then [] else '.' :: tail.reverse

/-- The lower-cased suffix of the last component. -/
def suffix (path : Path) : String :=
  Text.lower (String.ofList (suffixOf ((path.parts.getLast?.getD "").toList)))

def comparePartLists : List String → List String → Ordering
  | [], [] => .eq
  | [], _ :: _ => .lt
  | _ :: _, [] => .gt
  | a :: as, b :: bs => (compare a b).then (comparePartLists as bs)

/-- Paths are ordered component by component. -/
def order (a b : Path) : Ordering :=
  comparePartLists a.parts b.parts

end Path

end RenderAudit
