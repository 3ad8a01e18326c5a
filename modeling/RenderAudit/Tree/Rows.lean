import RenderAudit.Tree

/-!
Trees written as rows, one for each node, where a row names the row of its parent. Parents come
before their children.
-/

namespace RenderAudit

structure Row where
  parent : Option Nat
  kind : String
  start : Nat
  stop : Nat
  field : Option String
  named : Bool

/-- Puts the node of a row in front of the nodes that wait for their parents, and takes those of
them that are its children. -/
def Row.adopt (row : Row × Nat) (waiting : List (Option Nat × Node)) : List (Option Nat × Node) :=
  let (row, id) := row
  let (children, others) := waiting.partition fun entry => entry.1 == some id
  (row.parent, {
    id := id
    kind := row.kind
    start := row.start
    stop := row.stop
    field := row.field
    named := row.named
    children := children.map Prod.snd }) :: others

/-- The tree of the first row without a parent. -/
def Node.ofRows? (rows : List Row) : Option Node :=
  ((rows.zipIdx.foldr Row.adopt []).find? fun entry => entry.1.isNone).map Prod.snd

end RenderAudit
