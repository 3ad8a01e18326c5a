/-!
Syntax trees as a grammar gives them, and traversals of them.
-/

namespace RenderAudit

/-- A node of a syntax tree. `start` and `stop` are byte offsets into the source, `field` is the
role of the node in its parent, and nodes for punctuation and keywords are not `named`. -/
structure Node where
  id : Nat
  kind : String
  start : Nat
  stop : Nat
  field : Option String
  named : Bool
  children : List Node
deriving Inhabited

namespace Node

def withField? (node : Node) (field : String) : Option Node :=
  node.children.find? (·.field == some field)

def namedChildren (node : Node) : List Node :=
  node.children.filter (·.named)

def isOneOf (node : Node) (kinds : List String) : Bool :=
  kinds.contains node.kind

/-- The first named child of a kind. -/
def namedOfKind? (node : Node) (kind : String) : Option Node :=
  node.namedChildren.find? (·.kind == kind)

mutual

/-- The number of nodes of a tree. -/
def size : Node → Nat
  | ⟨_, _, _, _, _, _, children⟩ => sizeAll children + 1

def sizeAll : List Node → Nat
  | [] => 0
  | node :: nodes => size node + sizeAll nodes

end

end Node

/-- Visits what is pending from the front and puts what follows from it in front of the rest, at
most `limit` times. -/
def visit {α : Type} (next : α → List α) : Nat → List α → List α
  | 0, _ => []
  | _, [] => []
  | limit + 1, first :: pending => first :: visit next limit (next first ++ pending)

/-- A node in its place: the nodes above it, nearest first, and the siblings after it. -/
structure Located where
  node : Node
  above : List Node
  after : List Node

namespace Located

def spread (above : List Node) : List Node → List Located
  | [] => []
  | node :: after => ⟨node, above, after⟩ :: spread above after

def children (place : Located) : List Located :=
  spread (place.node :: place.above) place.node.children

end Located

namespace Node

/-- All nodes of a tree in their places, each before its children. -/
def places (root : Node) : List Located :=
  visit Located.children root.size [⟨root, [], []⟩]

/-- All nodes of a tree, each before its children. -/
def nodes (root : Node) : List Node :=
  visit Node.children root.size [root]

/-- The nodes that are reached through named children. -/
def namedNodes (root : Node) : List Node :=
  visit Node.namedChildren root.size [root]

end Node

/-- Walks that recurse into a tree give up beyond this many nested steps. -/
def nestingLimit : Nat := 1000

/-- A tree is nested deeper than a walk goes. -/
inductive Nesting where
  | tooDeep
deriving DecidableEq, Repr

end RenderAudit
