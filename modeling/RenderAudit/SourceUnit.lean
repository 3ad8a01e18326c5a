import RenderAudit.DocTag
import RenderAudit.Source
import RenderAudit.Span
import RenderAudit.Tree
import RenderAudit.TypeText

/-!
A parsed source: its text, its tree, and the documentation comments of its declarations.
-/

namespace RenderAudit

/-- `renderableTypes` are the names of the types that content can have. -/
structure SourceUnit where
  path : String
  source : Source
  root : Node
  renderableTypes : List String

structure DocComment where
  text : List Char
  span : Span

namespace SourceUnit

def chars (unit : SourceUnit) (node : Node) : List Char :=
  unit.source.slice node.start node.stop

def text (unit : SourceUnit) (node : Node) : String :=
  String.ofList (unit.chars node)

def span (unit : SourceUnit) (node : Node) : Span where
  file := unit.path
  line := unit.source.row node.start + 1
  column := unit.source.column node.start + 1
  endLine := unit.source.row node.stop + 1
  endColumn := unit.source.column node.stop + 1

def accepts (unit : SourceUnit) (typeText : Option String) : Bool :=
  TypeText.isRenderable unit.renderableTypes typeText

end SourceUnit

namespace Node

/-- The declaration inside of an export, and the first declarator of a variable declaration. -/
def unwrapDeclaration (node : Node) : Node :=
  let inner :=
    if node.kind == "export_statement" then
      ((node.withField? "declaration").or (node.withField? "value")).getD node
    else node
  if inner.isOneOf ["lexical_declaration", "variable_declaration"] then
    (inner.namedOfKind? "variable_declarator").getD inner
  else inner

end Node

namespace Located

/-- The declaration that a comment belongs to: the next sibling that is no comment. -/
def documented? (place : Located) : Option Node :=
  (place.after.find? fun node => node.named && node.kind != "comment").map Node.unwrapDeclaration

/-- The first property signature of a chain of nodes, and the nodes above it. -/
def firstProperty? : List Node → Option (Node × List Node)
  | [] => none
  | node :: above =>
      if node.kind == "property_signature" then some (node, above) else firstProperty? above

/-- The property signature that is or holds a node, and the nodes above it. -/
def enclosingProperty? (place : Located) : Option (Node × List Node) :=
  firstProperty? (place.node :: place.above)

end Located

namespace SourceUnit

/-- The documentation comments with the ids of the nodes they belong to, in order. -/
def docComments (unit : SourceUnit) : List (Nat × DocComment) :=
  unit.root.places.filterMap fun place =>
    if place.node.kind == "comment" && DocTag.isDocComment (unit.chars place.node) then
      place.documented?.map fun node => (node.id, ⟨unit.chars place.node, unit.span place.node⟩)
    else none

/-- The first interface or type alias of a name. -/
def typeDeclaration? (unit : SourceUnit) (name : String) : Option Node :=
  unit.root.nodes.find? fun node =>
    node.isOneOf ["interface_declaration", "type_alias_declaration"] &&
      ((node.withField? "name").map unit.text == some name)

end SourceUnit

end RenderAudit
